import Slipbox.Text.Basic

/-!
# Paths

A path is a text whose components stand between slashes. Empty components and
single dots do not count; two dots go up and are resolved only on the way.
-/

namespace Slipbox.Path

/-- The component that goes up. -/
def up : Text := ['.', '.']

/-- The components that count. -/
def components (path : Text) : List Text :=
  (Text.splitAtChar '/' path).filter fun name => name ≠ [] ∧ name ≠ ['.']

def isAbsolute (path : Text) : Bool := Text.startsWith ['/'] path

/-- Whether the path can only lead to a directory because of the way it ends: with a slash, or
with a component that is no name. -/
def endsAsDirectory (path : Text) : Bool :=
  match (Text.splitAtChar '/' path).getLast? with
  | some last => last = [] || last = ['.'] || last = up
  | none => true

/-- The name that a path ends with; a path that ends by going up has none. -/
def fileName? (path : Text) : Option Text :=
  match (components path).getLast? with
  | some name => if name = up then none else some name
  | none => none

/-- The path one component further down. -/
def push (base name : Text) : Text := if base.isEmpty then name else base ++ '/' :: name

/-- The path one component further up. -/
def parent (path : Text) : Text :=
  let names := (components path).dropLast
  if isAbsolute path then '/' :: Text.join ['/'] names else Text.join ['/'] names

/-- Where names lead from a place if all of them are directories. -/
def resolve (place : List Text) (names : List Text) : List Text :=
  names.foldl (fun place name => if name = up then place.dropLast else place ++ [name]) place

/-- A relative path taken from a base. -/
def under (base relative : Text) : Text := (components relative).foldl push base

/-- The components written as a relative path. -/
def ofComponents (names : List Text) : Text := Text.join ['/'] names

end Slipbox.Path
