import Slipbox.Disk.Path

/-!
# Note files

A note lives in a file that is named by its path below the notes root. Listings
show the path, or its last component, without the extension of notes.
-/

namespace Slipbox

/-- How the files of notes end. -/
def noteExtension : Text := ".zettel".toList

/-- A note file, by its path relative to the notes root. -/
structure NoteFile where
  path : Text
deriving DecidableEq, Repr

namespace NoteFile

/-- A text without the extension of notes, if it has it. -/
def stem (t : Text) : Text := (Text.dropTail? noteExtension t).getD t

/-- The file that a note created for a tag lives in. -/
def forTag (tag : Text) : NoteFile := ⟨tag ++ noteExtension⟩

/-- The file name without the extension. -/
def name (file : NoteFile) : Text :=
  match Path.fileName? file.path with
  | some name => stem name
  | none => "Untitled".toList

/-- The path without the extension. -/
def shownPath (file : NoteFile) : Text := stem file.path

theorem stem_append (t : Text) : stem (t ++ noteExtension) = t := by
  have h : Text.dropTail? noteExtension (t ++ noteExtension) = some t :=
    Text.dropTail?_eq_some_iff.2 rfl
  simp [stem, h]

theorem shownPath_forTag (tag : Text) : (forTag tag).shownPath = tag := stem_append tag

end NoteFile
end Slipbox
