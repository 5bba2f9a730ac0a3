import Slipbox.Config
import Slipbox.Search
import Slipbox.Store

/-!
# The viewer's session

The viewer keeps the notes as they were last loaded, the query and the list of the notes
that match it, and one note selected from the list. Keys either move the selection, load or
create notes, or edit the query.

The list is always the answer of the search to the query over the loaded notes, and the
selection is empty exactly when the list is. A key that fails says why in the status
and changes nothing else.
-/

namespace Slipbox.Viewer

/-- What keys do: browse the list, or edit the query. -/
inductive Mode where
  | browse
  | search
deriving DecidableEq, Repr

/-- The keys of the keyboard. -/
inductive Key where
  | char (c : Char)
  | enter
  | escape
  | backspace
  | down
  | up
  | other
deriving DecidableEq, Repr

/-- The state of the viewer. The list is shown from the note at place `top`. -/
structure Session where
  root : Text
  notes : List Note
  query : Text
  unique : Bool
  listed : List Nat
  selected : Option Nat
  top : Nat
  mode : Mode
  status : Option Text

namespace Session

/-! ### The list and the selection -/

/-- The session with another selection. Without one the list is shown from its start. -/
def select (s : Session) (place : Option Nat) : Session :=
  { s with selected := place, top := if place.isNone then 0 else s.top }

/-- A selection kept within a list of the given length; the first place if there was none. -/
def clampSelection (length : Nat) (selected : Option Nat) : Option Nat :=
  if length = 0 then none else some (min (selected.getD 0) (length - 1))

/-- Lists the notes that match the query. -/
def relist (s : Session) : Session :=
  let found := search s.query s.notes s.unique
  { s with listed := found }.select (clampSelection found.length s.selected)

/-- The note at a place in the list. -/
def noteAt? (s : Session) (place : Nat) : Option Note :=
  s.listed[place]?.bind fun index => s.notes[index]?

def selectedNote? (s : Session) : Option Note := s.selected.bind s.noteAt?

/-- Selects the next note, after the last the first. -/
def next (s : Session) : Session :=
  if s.listed.isEmpty then s
  else
    match s.selected with
    | some place => s.select (some ((place + 1) % s.listed.length))
    | none => s.select (some 0)

/-- Selects the previous note, before the first the last. -/
def previous (s : Session) : Session :=
  if s.listed.isEmpty then s
  else
    match s.selected with
    | some (place + 1) => s.select (some place)
    | _ => s.select (some (s.listed.length - 1))

/-! ### Loading and creating notes -/

/-- The session over the notes below a root. -/
def start (d : Disk) (root : Text) (config : Option Config) : Except StoreError Session :=
  (Store.loadAll d root).map fun notes =>
    let query := (config.map Config.defaultQuery).getD Config.standardQuery
    let unique := (config.map Config.unique).getD false
    relist ⟨root, notes, query, unique, [], none, 0, .browse, none⟩

def say (s : Session) (message : Text) : Session := { s with status := some message }

/-- Loads the notes again. -/
def reload (d : Disk) (s : Session) : Session :=
  match Store.loadAll d s.root with
  | .ok notes => { s with notes := notes }.relist
  | .error e => s.say e.message

/-- The tag that a new note gets from the query: the query without leading tag markers. -/
def newTag (query : Text) : Text := (Text.trim query).dropWhile (· == '@')

/-- Selects the note of a file, if it is listed. -/
def selectFile (s : Session) (file : NoteFile) : Session :=
  match s.listed.findIdx? fun index => s.notes[index]?.map (·.file) == some file with
  | some place => s.select (some place)
  | none => s

/-- Creates the note of the query's tag, and selects it. -/
def createNote (d : Disk) (s : Session) : Disk × Session :=
  match Store.create d s.root (newTag s.query) with
  | (changed, .error e) => (changed, s.say e.message)
  | (changed, .ok file) =>
    match Store.loadAll changed s.root with
    | .error e => (changed, s.say e.message)
    | .ok notes =>
      let loaded := { s with notes := notes }.say ("created ".toList ++ file.shownPath)
      (changed, loaded.relist.selectFile file)

/-! ### Keys -/

/-- What a key does while the query is edited. -/
def editQuery (s : Session) : Key → Session
  | .enter | .escape => { s with mode := .browse }
  | .backspace => { s with query := s.query.dropLast }.relist
  | .char c => { s with query := s.query ++ [c] }.relist
  | _ => s

/-- What a key does while browsing. -/
def browse (d : Disk) (s : Session) : Key → Disk × Session
  | .down | .char 'j' => (d, s.next)
  | .up | .char 'k' => (d, s.previous)
  | .char '/' => (d, { s with mode := .search })
  | .char 'u' => (d, { s with unique := !s.unique }.relist)
  | .char 'n' => createNote d s
  | .char 'r' => (d, reload d s)
  | _ => (d, s)

/-- What a key does. -/
def press (d : Disk) (s : Session) (key : Key) : Disk × Session :=
  match s.mode with
  | .search => (d, s.editQuery key)
  | .browse => browse d { s with status := none } key

/-- Whether a key ends the session. -/
def quits (s : Session) (key : Key) : Bool := s.mode == .browse && key == .char 'q'

end Session
end Slipbox.Viewer
