import Slipbox.Text.Blank
import Slipbox.Text.Grapheme
import Slipbox.Text.Width
import Slipbox.Viewer.Lines

/-!
# Cells

What is drawn is a sequence of glyphs: graphemes of a text, each in a style and as wide as the
terminal shows it. Graphemes with control characters are never drawn. A glyph fills as many cells
as it is wide and stands in the first of them.

There are two ways to draw a line. `drawLine` leaves out the glyphs without width. `write` adds
them to the cell before them, writes each span at the place where the width of those before it
ends, and leaves out spans without width.

At last the terminal does not touch the cells that a wide symbol covers (`uncover`).
-/

namespace Slipbox.Viewer

/-- A grapheme in a style, and the number of its cells. -/
structure Glyph where
  symbol : Text
  style : Style
  width : Nat
deriving DecidableEq, Repr

/-- One cell of the terminal. -/
structure Cell where
  symbol : Text
  style : Style
deriving DecidableEq, Repr

/-! ### Glyphs -/

/-- The glyphs of a text in a style, without control characters. -/
def glyphsOf (style : Style) (t : Text) : List Glyph :=
  ((Text.graphemes t).filter fun g => !g.any Text.isControl).map fun g =>
    ⟨g, style, Text.shownWidth g⟩

/-- The glyphs of a line of the terminal. -/
def Row.glyphs (r : Row) : List Glyph :=
  r.spans.flatMap fun s => glyphsOf (r.style.patch s.style) s.text

/-- The number of cells of glyphs. -/
def widthOf : List Glyph → Nat
  | [] => 0
  | g :: glyphs => g.width + widthOf glyphs

/-- A glyph that separates words. -/
def Glyph.isSpace (g : Glyph) : Bool :=
  g.symbol == ['\u200B'] || (g.symbol.all Text.isBlank && g.symbol != ['\u00A0'])

/-- The glyphs up to the first that does not fit into `room` cells. -/
def clip (room : Nat) : List Glyph → List Glyph
  | [] => []
  | g :: glyphs => if g.width ≤ room then g :: clip (room - g.width) glyphs else []

/-! ### Cells -/

/-- A cell without a character. -/
def Cell.blank (style : Style) : Cell := ⟨[' '], style⟩

/-- The cells of a glyph on a ground of style `base`. -/
def Glyph.cells (base : Style) (g : Glyph) : List Cell :=
  match g.width with
  | 0 => []
  | width + 1 => ⟨g.symbol, base.patch g.style⟩ :: List.replicate width (Cell.blank base)

/-- Cells filled up or cut to a width. -/
def fit (width : Nat) (base : Style) (cells : List Cell) : List Cell :=
  cells.take width ++ List.replicate (width - cells.length) (Cell.blank base)

/-- A line of `width` cells that shows the glyphs that fit. A glyph wider than the whole line is
passed over. -/
def drawLine (width : Nat) (base : Style) (glyphs : List Glyph) : List Cell :=
  fit width base ((clip width (glyphs.filter (·.width ≤ width))).flatMap (Glyph.cells base))

theorem length_fit (width : Nat) (base : Style) (cells : List Cell) :
    (fit width base cells).length = width := by
  simp only [fit, List.length_append, List.length_take, List.length_replicate]
  omega

theorem length_drawLine (width : Nat) (base : Style) (glyphs : List Glyph) :
    (drawLine width base glyphs).length = width := length_fit width base _

/-! ### Writing -/

/-- The cells that glyphs of one style were written to, and the glyphs without width that
came before the first cell. -/
structure Ink where
  loose : Text
  cells : List Cell

namespace Ink

/-- Writes one more glyph. -/
def add (style : Style) (i : Ink) (g : Glyph) : Ink :=
  match g.width, i.cells.getLast? with
  | 0, none => { i with loose := i.loose ++ g.symbol }
  | 0, some c => { i with cells := i.cells.dropLast ++ [⟨c.symbol ++ g.symbol, style⟩] }
  | width + 1, _ =>
    ⟨[], i.cells ++ ⟨i.loose ++ g.symbol, style⟩ :: List.replicate width (Cell.blank .plain)⟩

/-- The cells once all glyphs are written. -/
def toCells (style : Style) (i : Ink) : List Cell :=
  if i.cells.isEmpty && !i.loose.isEmpty then [⟨i.loose, style⟩] else i.cells

end Ink

/-- The cells of a text in a style, as far as it fits into `room` cells. -/
def written (style : Style) (room : Nat) (t : Text) : List Cell :=
  ((clip room (glyphsOf style t)).foldl (Ink.add style) ⟨[], []⟩).toCells style

/-- Cells laid over others from a place on. -/
def overlay (ground : List Cell) (place : Nat) (cells : List Cell) : List Cell :=
  ground.take place ++ cells ++ ground.drop (place + cells.length)

/-- Cells with spans written on them from a place on, up to the place `stop`. -/
def writeFrom (base : Style) (stop place : Nat) (ground : List Cell) :
    List StyledText → List Cell
  | [] => ground
  | s :: spans =>
    let width := Text.width s.text
    if width = 0 then writeFrom base stop place ground spans
    else if stop ≤ place then ground
    else
      writeFrom base stop (place + width)
        (overlay ground place (written (base.patch s.style) (stop - place) s.text)) spans

/-- The width of a line. -/
def Row.width (r : Row) : Nat := r.spans.foldr (fun s n => Text.width s.text + n) 0

/-- Cells with a line written on them, up to the place `stop`. -/
def write (base : Style) (stop : Nat) (ground : List Cell) (r : Row) : List Cell :=
  writeFrom (base.patch r.style) stop 0 ground r.spans

/-! ### The terminal -/

/-- What the terminal shows of cells after a symbol that covers the first `covered` of them: covered
cells stay blank, whatever is drawn there. -/
def uncover (covered : Nat) : List Cell → List Cell
  | [] => []
  | c :: cells =>
    match covered with
    | 0 => c :: uncover (Text.shownWidth c.symbol - 1) cells
    | covered + 1 => Cell.blank .plain :: uncover covered cells

@[simp] theorem length_uncover (covered : Nat) (cells : List Cell) :
    (uncover covered cells).length = cells.length := by
  induction cells generalizing covered with
  | nil => rfl
  | cons c cells ih => cases covered <;> simp [uncover, ih]

end Slipbox.Viewer
