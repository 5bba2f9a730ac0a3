import Slipbox.Markup.Document
import Slipbox.Note.File

/-!
# Notes

A note is a file, its body and what the body parses to. A body that could not be
parsed would keep its text together with the error, so that it can still be
shown.
-/

namespace Slipbox

open Slipbox.Markup

/-- The visible text of a tag and its depth. -/
structure TagLabel where
  depth : Nat
  text : Text
deriving DecidableEq, Repr

structure Note where
  file : NoteFile
  body : Text
  nodes : List Node
  error : Option ParseError
deriving DecidableEq, Repr

namespace Note

/-- The note with the given body. -/
def ofBody (file : NoteFile) (body : Text) : Note :=
  match parseDocument body with
  | .ok nodes => ⟨file, body, nodes, none⟩
  | .error e => ⟨file, body, [], some e⟩

/-- A note whose body could not be parsed. -/
def unparsed (file : NoteFile) (body : Text) (e : ParseError) : Note := ⟨file, body, [], some e⟩

def isParsed (note : Note) : Bool := note.error.isNone

def tagLabel? : Node → Option TagLabel
  | .tag t => some ⟨t.depth, t.label.text⟩
  | _ => none

/-- The tags of the note, in order. -/
def tags (note : Note) : List TagLabel := note.nodes.filterMap tagLabel?

/-- The most characters of a preview. -/
def previewLength : Nat := 35

/-- The tags in one line, cut to the length of a preview. -/
def preview (note : Note) : Text :=
  (Text.join [' '] (note.tags.map (·.text))).take previewLength

end Note
end Slipbox
