import Slipbox.Disk.Tree
import Slipbox.Note.Basic
import Slipbox.Text.Blank
import Slipbox.Text.Quoted

/-!
# The store of notes

The notes of a slip-box are the files below one directory, the root, whose names
end in the extension of notes. Reading changes nothing, so it is a function of the
disk alone. Writing answers with the disk as it is afterwards, because a write that
fails may have made directories before; files are only changed by a write that
succeeds. A note is created from a tag and never replaces a file.
-/

namespace Slipbox

/-- Why the store refuses. -/
inductive StoreError where
  | notFound (path : Text)
  | alreadyExists (path : Text)
  | noRoot
  | notADirectory
  | invalidTag (tag : Text)
  | fault (cause : Fault)
deriving DecidableEq, Repr

/-- The wording of a refusal. -/
def StoreError.message : StoreError → Text
  | .notFound path => "File not found: ".toList ++ path
  | .alreadyExists path => "Zettel already exists: ".toList ++ path
  | .noRoot => "Invalid notes directory: notes directory not found".toList
  | .notADirectory => "Invalid notes directory: Directory does not exist".toList
  | .invalidTag tag => "Invalid tag for a new zettel: ".toList ++ Text.quoted tag
  | .fault cause => "IO error: ".toList ++ cause.message

namespace Store

/-! ### Reading -/

/-- The text of the file at a path below the root. -/
def read (d : Disk) (root relative : Text) : Except StoreError Text :=
  let path := Path.under root relative
  if d.exists? path then (d.readText path).mapError .fault else .error (.notFound path)

/-- The note in a file. -/
def readNote (d : Disk) (root : Text) (file : NoteFile) : Except StoreError Note :=
  (read d root file.path).map (Note.ofBody file)

/-- Whether the last of the names ends as notes do. -/
def endsAsNote (names : List Text) : Bool :=
  match names.getLast? with
  | some name => (Text.dropTail? noteExtension name).isSome
  | none => false

/-- The order of paths: component by component. -/
def namesLe (a b : List Text) : Bool := !decide (b < a)

/-- The files of all notes below the root, in the order of their paths. -/
def scan (d : Disk) (root : Text) : Except StoreError (List NoteFile) :=
  match d.locate root with
  | .error _ => .error .noRoot
  | .ok place =>
    if (d.entry? place).isNone then .error .noRoot
    else
      let names := (d.filesBelow place).filter endsAsNote
      .ok ((names.mergeSort namesLe).map fun n => ⟨Path.ofComponents n⟩)

/-- All notes that can be read, in the order of their paths. -/
def loadAll (d : Disk) (root : Text) : Except StoreError (List Note) :=
  (scan d root).map fun files => files.filterMap fun file => (readNote d root file).toOption

/-- Whether the path can serve as a root. -/
def validate (d : Disk) (path : Text) : Except StoreError Unit :=
  if d.isDirectory path then .ok () else .error .notADirectory

/-! ### Writing -/

/-- Writes the file at a path below the root, with the directories on the way. -/
def writeBytes (d : Disk) (root relative : Text) (bytes : ByteArray) :
    Disk × Except StoreError Unit :=
  match d.putFile (Path.under root relative) bytes with
  | (written, none) => (written, .ok ())
  | (made, some fault) => (made, .error (.fault fault))

/-- Writes a text to the file at a path below the root. -/
def write (d : Disk) (root relative content : Text) : Disk × Except StoreError Unit :=
  writeBytes d root relative (encodeText content)

/-- Whether a trimmed tag can name a note. -/
def isValidTag (tag : Text) : Bool := !tag.isEmpty && tag.all fun c => c ∉ ['/', '\\', '\n']

/-- Creates the note of a tag, with the tag as its only line. -/
def create (d : Disk) (root tag : Text) : Disk × Except StoreError NoteFile :=
  let tag := Text.trim tag
  let file := NoteFile.forTag tag
  let path := Path.under root file.path
  if !isValidTag tag then (d, .error (.invalidTag tag))
  else if d.exists? path then (d, .error (.alreadyExists path))
  else
    let (written, outcome) := write d root file.path ('@' :: tag ++ ['\n'])
    (written, outcome.map fun _ => file)

end Store
end Slipbox
