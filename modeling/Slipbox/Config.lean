import Slipbox.Disk.Tree
import Slipbox.Expansion
import Slipbox.Toml.Document

/-!
# The configuration

The configuration names the directory of the notes, the query that the viewer starts
with and whether it starts with notes of one tag only. It is kept as a configuration
file with one key for each; only the directory is required, and other keys are
ignored. The directory is expanded when it is read, unless it refers to a variable
that is not set.
-/

namespace Slipbox

structure Config where
  notesPath : Text
  defaultQuery : Text
  unique : Bool
deriving DecidableEq, Repr

namespace Config

/-! ### Defaults -/

/-- The query that lists every note with a tag. -/
def standardQuery : Text := ['@']

/-- The configuration that only names the directory of the notes. -/
def ofNotesPath (path : Text) : Config := ⟨path, standardQuery, false⟩

/-- Where the configuration is kept. -/
def location (env : Environment) : Text :=
  Path.push (Expansion.tilde env "~/.config/zettel".toList) "config.toml".toList

/-! ### Reading -/

def notesPathName : Text := "notes_path".toList
def defaultQueryName : Text := "default_query".toList
def uniqueName : Text := "unique".toList

/-- The text of a name; a name that is missing has the given text. -/
def textOf? (t : Toml.Table) (name : Text) (missing : Option Text) : Option Text :=
  match t.get? name with
  | some (.text value) => some value
  | some _ => none
  | none => missing

/-- The truth value of a name, or false if it is missing. -/
def flagOf? (t : Toml.Table) (name : Text) : Option Bool :=
  match t.get? name with
  | some (.boolean value) => some value
  | some _ => none
  | none => some false

/-- The configuration that a table holds. -/
def ofTable? (t : Toml.Table) : Option Config := do
  let path ← textOf? t notesPathName none
  let query ← textOf? t defaultQueryName (some standardQuery)
  let unique ← flagOf? t uniqueName
  return ⟨path, query, unique⟩

/-- The configuration with its directory expanded. -/
def expanded (env : Environment) (c : Config) : Config :=
  { c with notesPath := (Expansion.expand env c.notesPath).getD c.notesPath }

/-- The configuration that a file holds. -/
def read? (env : Environment) (file : Text) : Option Config :=
  ((Toml.read? file).bind ofTable?).map (expanded env)

/-! ### Writing -/

/-- A line that assigns a written value. -/
def line (name written : Text) : Text := name ++ " = ".toList ++ written ++ ['\n']

def writtenFlag (b : Bool) : Text := if b then "true".toList else "false".toList

/-- The file that holds the configuration. -/
def write (c : Config) : Text :=
  line notesPathName (Toml.Quoting.write c.notesPath) ++
    line defaultQueryName (Toml.Quoting.write c.defaultQuery) ++
    line uniqueName (writtenFlag c.unique)

/-! ### Configuration files -/

/-- Saves the configuration, in directories that are made if they are missing. -/
def save (c : Config) (d : Disk) (path : Text) : Disk × Option Fault :=
  d.putFile path (encodeText c.write)

end Config

/-- Why a configuration file cannot be used. -/
inductive ConfigError where
  | unreadable (fault : Fault)
  | invalid
deriving DecidableEq, Repr

/-- The configuration that is kept at a path, if anything is there. -/
def Config.load (env : Environment) (d : Disk) (path : Text) :
    Except ConfigError (Option Config) :=
  if !d.exists? path then .ok none
  else
    match d.readText path with
    | .error fault => .error (.unreadable fault)
    | .ok file =>
      match Config.read? env file with
      | some c => .ok (some c)
      | none => .error .invalid

end Slipbox
