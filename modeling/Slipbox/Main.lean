import Slipbox.CommandLine
import Slipbox.Viewer.Screen

/-!
# The program

Reads the files that a command line is about into a disk, runs the command line on it
and writes what comes out. The viewer shows its screen, reads a line of keys, and writes the
files that the keys changed; an empty line is the enter key.
-/

namespace Slipbox.Main

/-! ### The surroundings -/

/-- The pieces of bytes between null bytes, as texts. -/
def nullSeparated (bytes : ByteArray) : List Text :=
  ((decodeText? bytes).map (Text.splitAtChar '\x00')).getD []

/-- The variables among definitions of the form `name=value`. -/
def environmentOf (definitions : List Text) : Environment := fun name =>
  definitions.findSome? (Text.dropLead? (name ++ ['=']))

def readEnvironment : IO Environment := do
  try
    return environmentOf (nullSeparated (← IO.FS.readBinFile "/proc/self/environ"))
  catch _ =>
    let home ← IO.getEnv "HOME"
    return fun name => if name = "HOME".toList then home.map String.toList else none

/-- What stands at a path and below it; what cannot be read is left out. -/
partial def readTree (path : String) (place : Location) : IO (List (Location × Entry)) := do
  try
    let real ← IO.FS.realPath path
    if ← real.isDir then
      let below ← (← real.readDir).toList.mapM fun e =>
        readTree (path ++ "/" ++ e.fileName) (place ++ [e.fileName.toList])
      return (place, .directory) :: below.flatten
    else return [(place, .file (← IO.FS.readBinFile path))]
  catch _ => return []

/-- The directories that a path leads through. -/
def readWay (d : Disk) (path : Text) : IO (List (Location × Entry)) := do
  let names := Path.components path
  let mut found := []
  for n in List.range names.length do
    let way := (names.take n).foldl Path.push (if Path.isAbsolute path then ['/'] else ['.'])
    if ← (← IO.FS.realPath (String.ofList way)).isDir then
      found := (Path.resolve (d.origin path) (names.take n), Entry.directory) :: found
  return found

/-- The disk with the files at and below a path. -/
def load (d : Disk) (path : Text) : IO Disk := do
  let place := Path.resolve (d.origin path) (Path.components path)
  let way ← try readWay d path catch _ => pure []
  let below ← readTree (String.ofList path) place
  return (way ++ below).foldl (fun d (place, entry) => d.set place entry) d

/-- A disk that holds nothing but the directories down to the current one. -/
def emptyDisk : IO Disk := do
  let here := Path.components (toString (← IO.currentDir)).toList
  let way := (List.range (here.length + 1)).map fun n => (here.take n, Entry.directory)
  return ⟨way, here⟩

/-- Whether a disk has a file with the given bytes at a location. -/
def holds (d : Disk) (place : Location) (bytes : ByteArray) : Bool :=
  match d.entry? place with
  | some (.file found) => found.data == bytes.data
  | _ => false

/-- Writes the files of a disk that differ from an older one. -/
def writeChanges (old new : Disk) : IO Unit := do
  for (place, entry) in new.entries do
    match entry with
    | .directory => pure ()
    | .file bytes =>
      if !holds old place bytes then
        let path (names : Location) := "/" ++ String.ofList (Path.ofComponents names)
        IO.FS.createDirAll (path place.dropLast)
        IO.FS.writeBinFile (path place) bytes

/-! ### The viewer -/

/-- The keys of a line of input. -/
def keysOf (line : Text) : List Viewer.Key :=
  match line.filter (· != '\n') with
  | [] => [.enter]
  | keys => keys.map fun c =>
    if c = '\x1b' then .escape else if c = '\x7f' ∨ c = '\x08' then .backspace else .char c

/-- Presses keys until one of them ends the session. -/
def press (d : Disk) (s : Viewer.Session) : List Viewer.Key → Disk × Option Viewer.Session
  | [] => (d, some s)
  | key :: keys =>
    if s.quits key then (d, none)
    else
      let (changed, next) := s.press d key
      press changed next keys

partial def view (d : Disk) (s : Viewer.Session) : IO Unit := do
  let (shown, rows) := s.draw
  let output ← IO.getStdout
  for row in rows do
    output.putStr (String.ofList (Viewer.rowText row) ++ "\n")
  output.flush
  let line ← (← IO.getStdin).getLine
  if line.isEmpty then return
  let current ← load (d.removeAll s.root) s.root
  let (changed, next) := press current shown (keysOf line.toList)
  writeChanges current changed
  match next with
  | some next => view changed next
  | none => return

/-! ### The command line -/

/-- Runs the command line and answers with the exit code. -/
def run (arguments : List Text) : IO UInt32 := do
  let env ← readEnvironment
  let around ← load (← emptyDisk) (Config.location env)
  let d ← (CommandLine.pathsOf env around arguments).foldlM load around
  match CommandLine.run "zettel".toList env d arguments with
  | .success output =>
    IO.print (String.ofList output)
    return 0
  | .failure errors =>
    IO.eprint (String.ofList errors)
    return 1
  | .view session =>
    view d session
    return 0

end Slipbox.Main

def main (arguments : List String) : IO UInt32 :=
  Slipbox.Main.run (arguments.map String.toList)
