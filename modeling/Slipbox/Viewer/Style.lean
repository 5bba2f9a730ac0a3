/-!
# Styles

A style may set the colours of text and its background and add emphasis. Patching
a style by another keeps what the other leaves open and unites the emphasis.
-/

namespace Slipbox.Viewer

inductive Colour where
  | black
  | red
  | green
  | yellow
  | blue
  | magenta
  | cyan
  | darkGray
deriving DecidableEq, Repr

inductive Emphasis where
  | bold
  | italic
  | underlined
  | crossedOut
deriving DecidableEq, Repr

structure Style where
  foreground : Option Colour
  background : Option Colour
  bold : Bool
  italic : Bool
  underlined : Bool
  crossedOut : Bool
deriving DecidableEq, Repr

namespace Style

/-- Changes nothing. -/
def plain : Style := ⟨none, none, false, false, false, false⟩

/-- Sets the colour of text. -/
def coloured (c : Colour) : Style := { plain with foreground := some c }

/-- Sets both colours. -/
def onGround (ink ground : Colour) : Style :=
  { plain with foreground := some ink, background := some ground }

def emphasised : Emphasis → Style
  | .bold => { plain with bold := true }
  | .italic => { plain with italic := true }
  | .underlined => { plain with underlined := true }
  | .crossedOut => { plain with crossedOut := true }

/-- Whether an emphasis is set. -/
def has (s : Style) : Emphasis → Bool
  | .bold => s.bold
  | .italic => s.italic
  | .underlined => s.underlined
  | .crossedOut => s.crossedOut

/-- The style `base` changed by `s`. -/
def patch (base s : Style) : Style where
  foreground := s.foreground.or base.foreground
  background := s.background.or base.background
  bold := base.bold || s.bold
  italic := base.italic || s.italic
  underlined := base.underlined || s.underlined
  crossedOut := base.crossedOut || s.crossedOut

/-- The emphases in the order in which they are listed. -/
def emphases (s : Style) : List Emphasis :=
  [.bold, .italic, .underlined, .crossedOut].filter s.has

@[simp] theorem patch_plain (s : Style) : s.patch plain = s := by
  simp [patch, plain]

@[simp] theorem plain_patch (s : Style) : plain.patch s = s := by
  simp [patch, plain]

/-- Patching twice patches by the patched style. -/
theorem patch_assoc (a b c : Style) : (a.patch b).patch c = a.patch (b.patch c) := by
  simp [patch, Option.or_assoc, Bool.or_assoc]

end Style
end Slipbox.Viewer
