import Slipbox.Disk.Path

/-!
# The disk

A disk holds directories and files at locations, a location being the list of
names on the way down from the top. Paths are followed component by component:
whatever is passed through must be a directory, also when the next component goes
up again. Each operation fails for a cause, and changes nothing when it fails,
except that directories may have been made on the way.
-/

namespace Slipbox

/-- The names from the top down. -/
abbrev Location := List Text

inductive Entry where
  | directory
  | file (bytes : ByteArray)

/-- Why an operation on the disk failed. -/
inductive Fault where
  | noEntry
  | exists
  | notADirectory
  | isADirectory
  | nameTooLong
  | nullInName
  | notText
deriving DecidableEq, Repr

/-- The wording of a fault. -/
def Fault.message : Fault → Text
  | .noEntry => "No such file or directory (os error 2)".toList
  | .exists => "File exists (os error 17)".toList
  | .notADirectory => "Not a directory (os error 20)".toList
  | .isADirectory => "Is a directory (os error 21)".toList
  | .nameTooLong => "File name too long (os error 36)".toList
  | .nullInName => "file name contained an unexpected NUL byte".toList
  | .notText => "stream did not contain valid UTF-8".toList

/-- The text of bytes in UTF-8. -/
def decodeText? (bytes : ByteArray) : Option Text := bytes.utf8Decode?.map Array.toList

/-- The bytes of a text in UTF-8. -/
def encodeText (t : Text) : ByteArray := (String.ofList t).toByteArray

theorem decodeText?_encodeText (t : Text) : decodeText? (encodeText t) = some t := by
  simp [decodeText?, encodeText]

/-- What stands where on a disk. Relative paths start at `here`. -/
structure Disk where
  entries : List (Location × Entry)
  here : Location

namespace Disk

/-! ### Locations -/

/-- What stands at a location; the top is always a directory. -/
def entry? (d : Disk) : Location → Option Entry
  | [] => some .directory
  | place => (d.entries.find? (·.1 == place)).map (·.2)

/-- The disk without what stands at a location. -/
def erase (d : Disk) (place : Location) : Disk :=
  { d with entries := d.entries.filter (·.1 != place) }

/-- The disk with an entry at a location in place of what stood there. -/
def set (d : Disk) (place : Location) (e : Entry) : Disk :=
  { d with entries := (place, e) :: (d.erase place).entries }

/-- The longest name, in bytes. -/
def maxNameLength : Nat := 255

/-- Follows components from a location. The place that is reached need not hold anything. -/
def walk (d : Disk) (place : Location) : List Text → Except Fault Location
  | [] => .ok place
  | name :: names =>
    match d.entry? place with
    | none => .error .noEntry
    | some (.file _) => .error .notADirectory
    | some .directory =>
      if name = Path.up then d.walk place.dropLast names
      else if maxNameLength < name.byteLength then .error .nameTooLong
      else d.walk (place ++ [name]) names

/-- Where a path starts. -/
def origin (d : Disk) (path : Text) : Location := if Path.isAbsolute path then [] else d.here

/-- The location that a path leads to. -/
def locate (d : Disk) (path : Text) : Except Fault Location :=
  if '\x00' ∈ path then .error .nullInName
  else if path.isEmpty then .error .noEntry
  else do
    let place ← d.walk (d.origin path) (Path.components path)
    match d.entry? place with
    | some (.file _) => if Path.endsAsDirectory path then .error .notADirectory else .ok place
    | _ => .ok place

/-! ### Reading -/

/-- What a path leads to. -/
def look (d : Disk) (path : Text) : Except Fault Entry := do
  match d.entry? (← d.locate path) with
  | some e => .ok e
  | none => .error .noEntry

def exists? (d : Disk) (path : Text) : Bool :=
  match d.look path with
  | .ok _ => true
  | .error _ => false

def isDirectory (d : Disk) (path : Text) : Bool :=
  match d.look path with
  | .ok .directory => true
  | _ => false

def readBytes (d : Disk) (path : Text) : Except Fault ByteArray := do
  match ← d.look path with
  | .file bytes => .ok bytes
  | .directory => .error .isADirectory

def readText (d : Disk) (path : Text) : Except Fault Text := do
  match decodeText? (← d.readBytes path) with
  | some t => .ok t
  | none => .error .notText

/-- The files below a directory with their names from there on. -/
def filesBelow (d : Disk) (place : Location) : List (List Text) :=
  d.entries.filterMap fun (at_, e) =>
    match e with
    | .file _ => if place.isPrefixOf at_ then some (at_.drop place.length) else none
    | .directory => none

/-! ### Writing -/

/-- Makes the directories that are missing on the way, until that fails. -/
def makeWay (d : Disk) (place : Location) : List Text → Disk × Option Fault
  | [] => (d, none)
  | name :: names =>
    match d.entry? place with
    | none => (d, some .noEntry)
    | some (.file _) => (d, some .notADirectory)
    | some .directory =>
      if name = Path.up then d.makeWay place.dropLast names
      else if maxNameLength < name.byteLength then (d, some .nameTooLong)
      else
        match d.entry? (place ++ [name]) with
        | some .directory => d.makeWay (place ++ [name]) names
        | some (.file _) => (d, some (if names.isEmpty then .exists else .notADirectory))
        | none => (d.set (place ++ [name]) .directory).makeWay (place ++ [name]) names

/-- The disk with all directories of a path, or with those that could be made and the cause
that stopped there. -/
def makeDirectories (d : Disk) (path : Text) : Disk × Option Fault :=
  if '\x00' ∈ path then (d, some .nullInName)
  else d.makeWay (d.origin path) (Path.components path)

/-- Writes a file whose directory is there. -/
def writeFile (d : Disk) (path : Text) (bytes : ByteArray) : Except Fault Disk := do
  let place ← d.locate path
  match d.entry? place with
  | some .directory => .error .isADirectory
  | some (.file _) => .ok (d.set place (.file bytes))
  | none =>
    if Path.endsAsDirectory path then .error .isADirectory else .ok (d.set place (.file bytes))

/-- Writes a file after making the directories on the way, which stay if that fails. -/
def putFile (d : Disk) (path : Text) (bytes : ByteArray) : Disk × Option Fault :=
  match d.makeDirectories (Path.parent path) with
  | (made, some fault) => (made, some fault)
  | (made, none) =>
    match made.writeFile path bytes with
    | .ok written => (written, none)
    | .error fault => (made, some fault)

/-- Removes a file; anything else stays. -/
def removeFile (d : Disk) (path : Text) : Disk :=
  match d.locate path with
  | .ok place =>
    match d.entry? place with
    | some (.file _) => d.erase place
    | _ => d
  | .error _ => d

/-- Removes a path and all below it. -/
def removeAll (d : Disk) (path : Text) : Disk :=
  match d.locate path with
  | .ok place => { d with entries := d.entries.filter fun (at_, _) => !place.isPrefixOf at_ }
  | .error _ => d

end Disk
end Slipbox
