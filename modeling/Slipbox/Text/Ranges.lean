/-!
# Tables of characters

Properties of characters are data of the Unicode standard. They are stored as
ranges of code points; where a property alternates between neighbours, a range
has a stride. `Shifts` maps a strided range to another by the same distance.
-/

namespace Slipbox.Text

/-- Ranges of code points, both ends included. -/
abbrev Ranges := List (Nat × Nat)

def Ranges.contains (table : Ranges) (c : Char) : Bool :=
  table.any fun (first, last) => first ≤ c.toNat && c.toNat ≤ last

/-- Ranges of code points with a stride: first, last, and the distance of members. -/
abbrev Strides := List (Nat × Nat × Nat)

def Strides.contains (table : Strides) (c : Char) : Bool :=
  table.any fun (first, last, step) =>
    first ≤ c.toNat && c.toNat ≤ last && (c.toNat - first) % step == 0

/-- A strided range whose members are moved so that `first` becomes `target`. -/
structure Shift where
  first : Nat
  last : Nat
  step : Nat
  target : Nat
deriving DecidableEq, Repr

abbrev Shifts := List Shift

def Shift.covers (s : Shift) (c : Char) : Bool :=
  s.first ≤ c.toNat && c.toNat ≤ s.last && (c.toNat - s.first) % s.step == 0

/-- The image of a character; a character that no range covers is its own image. -/
def Shifts.apply (table : Shifts) (c : Char) : Char :=
  match table.find? (·.covers c) with
  | some s => Char.ofNat (s.target + (c.toNat - s.first))
  | none => c

end Slipbox.Text
