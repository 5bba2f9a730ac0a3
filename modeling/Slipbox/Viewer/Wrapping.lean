import Slipbox.Viewer.Cell

/-!
# Wrapping

A line that is too long for its box is wrapped between words, and a word that is too long
for a line is cut. Space at the start of the line is kept. Where the line is wrapped, the
space that would still have fitted is left out, and so is one glyph of space right after
the break. A line of nothing but space stays one line.
-/

namespace Slipbox.Viewer

/-- A line that is being wrapped: finished lines, the open line, and after it the space
and the word that are not placed yet. -/
structure Wrapping where
  done : List (List Glyph)
  line : List Glyph
  space : List Glyph
  word : List Glyph
  afterWord : Bool

namespace Wrapping

/-- Nothing read yet. -/
def empty : Wrapping := ⟨[], [], [], [], false⟩

/-- Places the space and the word on the open line. -/
def place (w : Wrapping) : Wrapping :=
  { w with line := w.line ++ w.space ++ w.word, space := [], word := [] }

/-- Space without what fits into `room` cells. -/
def dropFitting (room : Nat) : List Glyph → List Glyph
  | [] => []
  | g :: glyphs => if g.width ≤ room then dropFitting (room - g.width) glyphs else g :: glyphs

/-- Adds a glyph to the space or to the word. -/
def keep (w : Wrapping) (g : Glyph) : Wrapping :=
  if g.isSpace then { w with space := w.space ++ [g], afterWord := false }
  else { w with word := w.word ++ [g], afterWord := true }

/-- Whether the space and the word have to be placed before a glyph: a word ends, or they
fill a line of their own. -/
def mustPlace (width : Nat) (w : Wrapping) (g : Glyph) : Bool :=
  (w.afterWord && g.isSpace) ||
    (w.line.isEmpty && width < widthOf w.word + widthOf w.space + g.width)

/-- Whether the open line ends before a glyph. -/
def mustBreak (width : Nat) (w : Wrapping) (g : Glyph) : Bool :=
  width ≤ widthOf w.line ||
    (0 < g.width && width ≤ widthOf w.line + widthOf w.space + widthOf w.word)

/-- Reads a glyph; one that is wider than the line is left out. -/
def step (width : Nat) (w : Wrapping) (g : Glyph) : Wrapping :=
  if width < g.width then w
  else
    let w := if w.mustPlace width g then w.place else w
    if w.mustBreak width g then
      let space := dropFitting (width - widthOf w.line) w.space
      let broken := { w with done := w.done ++ [w.line], line := [], space := space }
      if g.isSpace && space.isEmpty then broken else broken.keep g
    else w.keep g

/-- The lines once all glyphs are read. -/
def finish (w : Wrapping) : List (List Glyph) :=
  let last := w.place.line
  let lines := w.done ++ (if last.isEmpty then [] else [last])
  if lines.isEmpty then [[]] else lines

end Wrapping

/-- The lines that a line takes in a box. -/
def wrap (width : Nat) (glyphs : List Glyph) : List (List Glyph) :=
  (glyphs.foldl (Wrapping.step width) .empty).finish

end Slipbox.Viewer
