import Slipbox.Text.Basic

/-!
# Byte positions

A position names a byte of a text. It can move anywhere up to the end, also into
the middle of a character; reading the text from such a place is impossible, and
`rest?` and `sliceTo?` answer `none` there.
-/

namespace Slipbox

/-- A byte offset into a text. -/
structure Position where
  text : Text
  offset : Nat
deriving DecidableEq, Repr

namespace Position

/-- The first byte of the text. -/
def start (text : Text) : Position := ⟨text, 0⟩

/-- The position `n` bytes further on, but not beyond the end. -/
def advance (p : Position) (n : Nat) : Position :=
  ⟨p.text, min (p.offset + n) p.text.byteLength⟩

/-- Whether nothing remains. -/
def atEnd (p : Position) : Bool := decide (p.text.byteLength ≤ p.offset)

/-- The text from this position on. -/
def rest? (p : Position) : Option Text := Text.dropBytes? p.offset p.text

/-- The text between this position and a later one; empty when the other is earlier. -/
def sliceTo? (p later : Position) : Option Text := do
  let rest ← p.rest?
  Text.takeBytes? (later.offset - p.offset) rest

theorem advance_text (p : Position) (n : Nat) : (p.advance n).text = p.text := rfl

theorem advance_offset_le (p : Position) (n : Nat) :
    (p.advance n).offset ≤ p.text.byteLength := Nat.min_le_right _ _

theorem rest?_append (s t : Text) : rest? ⟨s ++ t, s.byteLength⟩ = some t :=
  Text.dropBytes?_byteLength_append s t

theorem sliceTo?_append (s t u : Text) :
    sliceTo? ⟨s ++ (t ++ u), s.byteLength⟩
      ⟨s ++ (t ++ u), s.byteLength + t.byteLength⟩ = some t := by
  simp [sliceTo?, rest?_append, Text.takeBytes?_byteLength_append]

end Position
end Slipbox
