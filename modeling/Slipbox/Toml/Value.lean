import Slipbox.Text.Basic

/-!
# Values of a configuration file

A file is a table of named values. Tables are opened by a header or implied by the
header of a table below them, made by a dotted key, or written inline; how a table
came to be decides who may add to it later:

* a header opens a table once, and a table that was only implied may still be opened;
* a dotted key adds only to tables that dotted keys made;
* nobody adds to an inline table or to an array that was written as a value.

`Table.assign`, `Table.openTable` and `Table.openItem` apply these rules and answer
`none` when one is broken.
-/

namespace Slipbox.Toml

/-- How a table came to be. -/
inductive Origin where
  | header
  | implied
  | dotted
  | inline
deriving DecidableEq, Repr

/-- A value. Numbers with a fraction and moments of time keep their spelling. An array
grows if headers add its items. -/
inductive Value where
  | text (t : Text)
  | boolean (b : Bool)
  | integer (n : Int)
  | float (spelling : Text)
  | moment (spelling : Text)
  | array (grows : Bool) (items : List Value)
  | table (origin : Origin) (entries : List (Text × Value))
deriving Repr

/-- A table in the order in which its keys came. -/
abbrev Table := List (Text × Value)

/-- The tables that a key leads through, and the last name. -/
structure Key where
  path : List Text
  name : Text
deriving DecidableEq, Repr

namespace Table

/-- The value of a name. -/
def get? (t : Table) (name : Text) : Option Value := t.lookup name

/-- The table with another value for a name, which is added at the end if it is new. -/
def alter (f : Option Value → Option Value) (name : Text) : Table → Option Table
  | [] => (f none).map fun v => [(name, v)]
  | (n, v) :: t =>
    if n = name then (f (some v)).map fun v => (n, v) :: t
    else (alter f name t).map ((n, v) :: ·)

/-- Adds a value under a new name. -/
def add (name : Text) (v : Value) : Table → Option Table :=
  alter (fun old => if old.isNone then some v else none) name

/-- Changes the table at the end of a path. A path through an array goes to its last item.
Tables that are missing on the way are made with the origin `made`. -/
def change (made : Origin) (f : Origin → Table → Option Table) :
    List Text → Origin → Table → Option Table
  | [], origin, t => f origin t
  | name :: path, _, t =>
    alter (fun
      | none => (change made f path made []).map (.table made)
      | some (.table origin inner) =>
        if origin = .inline ∨ (made = .dotted ∧ origin = .header) then none
        else (change made f path origin inner).map (.table origin)
      | some (.array true items) =>
        match items.getLast? with
        | some (.table origin inner) =>
          (change made f path origin inner).map fun inner =>
            .array true (items.dropLast ++ [.table origin inner])
        | _ => none
      | some _ => none) name t

/-- Gives a value to a key of the table. -/
def assign (key : Key) (v : Value) (origin : Origin) (t : Table) : Option Table :=
  change .dotted (fun parent inner =>
    if key.path ≠ [] ∧ parent ≠ .dotted then none else add key.name v inner) key.path origin t

/-- Opens the table of a header. -/
def openTable (key : Key) : Table → Option Table :=
  change .implied (fun _ => alter (fun
    | none => some (.table .header [])
    | some (.table .implied inner) => some (.table .header inner)
    | some _ => none) key.name) key.path .header

/-- Opens the next item of an array by its header. -/
def openItem (key : Key) : Table → Option Table :=
  change .implied (fun _ => alter (fun
    | none => some (.array true [.table .header []])
    | some (.array true items) => some (.array true (items ++ [.table .header []]))
    | some _ => none) key.name) key.path .header

end Table
end Slipbox.Toml
