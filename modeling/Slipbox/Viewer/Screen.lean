import Slipbox.Viewer.Session
import Slipbox.Viewer.Wrapping

/-!
# The screen

A terminal of 80 by 24 cells shows, within a margin of one cell, the query above the
list on the left and the selected note on the right, below its table of contents if it
has one. The line under that shows the status or, without one, the keys of the mode.

Parts are blocks of rows that all have the same length, put above and beside each other.
-/

namespace Slipbox.Viewer

/-! ### Blocks -/

/-- Rows of cells. -/
abbrev Block := List (List Cell)

/-- A block of blank cells. -/
def blankBlock (width height : Nat) : Block :=
  List.replicate height (List.replicate width (Cell.blank .plain))

/-- Two blocks of one height next to each other. -/
def beside (left right : Block) : Block := List.zipWith (· ++ ·) left right

/-- Exactly `height` rows: those of the block, then blank ones. -/
def fitRows (width height : Nat) (base : Style) (rows : Block) : Block :=
  rows.take height ++ List.replicate (height - rows.length) (fit width base [])

/-- Border characters between two corners. A title written on them does not reach beyond its
width. -/
def rule (width : Nat) (base : Style) (left right : Char) (title : Text) : List Cell :=
  let dashes := List.replicate (width - 2) ⟨['─'], base⟩
  let row := Row.ofText .plain title
  ⟨[left], base⟩ :: write base (min row.width (width - 2)) dashes row ++ [⟨[right], base⟩]

/-- A box of the given size around rows that are two cells narrower. A box without
room for its content is cut after its first rows. -/
def box (width height : Nat) (base : Style) (title : Text) (rows : Block) : Block :=
  let edge : Cell := ⟨['│'], base⟩
  let inner := (fitRows (width - 2) (height - 2) base rows).map fun row => edge :: row ++ [edge]
  (rule width base '┌' '┐' title :: inner ++
    [rule width base '└' '┘' []]).take height

/-- The rows of text lines that are cut at the edge. -/
def cutRows (width : Nat) (base : Style) (rows : List Row) : Block :=
  rows.map fun row => drawLine width base row.glyphs

/-- The rows of text lines that are wrapped at the edge. -/
def wrappedRows (width : Nat) (rows : List Row) : Block :=
  rows.flatMap fun row => (wrap width row.glyphs).map (drawLine width .plain)

/-! ### Sizes -/

def sideWidth : Nat := 23
def mainWidth : Nat := 55
def mainHeight : Nat := 19
def queryHeight : Nat := 3
def screenWidth : Nat := sideWidth + mainWidth + 2

def listHeight : Nat := mainHeight - queryHeight

/-- The notes that the list shows at a time. -/
def listedAtOnce : Nat := listHeight - 2

/-! ### Parts -/

def queryBox (s : Session) : Block :=
  let base : Style := if s.mode = .search then .coloured .yellow else .plain
  let title := if s.unique then "Search (unique)" else "Search"
  box sideWidth queryHeight base title.toList
    (cutRows (sideWidth - 2) base ((Text.lines s.query).map (Row.ofText .plain)))

/-- How a note is listed: by its preview, or by its path if it has no tags. -/
def listLabel (note : Note) : Text :=
  if note.preview.isEmpty then note.file.shownPath else note.preview

/-- The place from which the list is shown so that the selection is seen: the old one, or the
nearest to it. -/
def topFor (length : Nat) (selected : Option Nat) (top : Nat) : Nat :=
  let top := min top (length - 1)
  match selected with
  | none => top
  | some place =>
    if place < top then place
    else if top + listedAtOnce ≤ place then place + 1 - listedAtOnce
    else top

/-- The style of the selected row. -/
def selectionStyle : Style := .onGround .black .yellow

def listRow (s : Session) (place : Nat) : List Cell :=
  let label := ((s.noteAt? place).map listLabel).getD []
  let width := sideWidth - 2
  let row := write .plain width (fit width .plain []) (.ofText .plain label)
  if s.selected = some place then row.map fun c => { c with style := c.style.patch selectionStyle }
  else row

def listBox (s : Session) : Block :=
  let places := (List.range' s.top listedAtOnce).filter (· < s.listed.length)
  box sideWidth listHeight .plain
    ("Zettels (".toList ++ Text.decimal s.listed.length ++ [')']) (places.map (listRow s))

/-- The rows asked for by a table of contents, counted in sixteen bits. -/
def contentsHeight (entries : Nat) : UInt16 := UInt16.ofNat entries + 2

/-- The note with its table of contents. -/
def noteBoxes (note : Note) : Block :=
  let entries := contentsRows note
  let above := if entries.isEmpty then 0 else min (contentsHeight entries.length).toNat mainHeight
  box mainWidth above .plain "Contents".toList (cutRows (mainWidth - 2) .plain entries) ++
    box mainWidth (mainHeight - above) .plain note.file.shownPath
      (wrappedRows (mainWidth - 2) (rowsOfNote note))

def mainBoxes (s : Session) : Block :=
  match s.selectedNote? with
  | some note => noteBoxes note
  | none =>
    box mainWidth mainHeight .plain "Content".toList
      (cutRows (mainWidth - 2) .plain [.ofText .plain "No zettel matches the query".toList])

def helpText (s : Session) : Text :=
  match s.status, s.mode with
  | some status, _ => status
  | none, .search => "type to filter | !term: exclude | Enter/Esc: done".toList
  | none, .browse =>
    "q: Quit | ↑/k: Previous | ↓/j: Next | /: Search | u: Unique | n: New | r: Reload".toList

/-! ### The whole screen -/

/-- The session once its list is scrolled to the selection. -/
def Session.scrolled (s : Session) : Session :=
  if s.listed.isEmpty then s.select none
  else { s with top := topFor s.listed.length s.selected s.top }

/-- The rows that are drawn for a scrolled session. -/
def screenRows (s : Session) : Block :=
  let margin := blankBlock 1 mainHeight
  let middle := beside margin (beside (queryBox s ++ listBox s) (beside (mainBoxes s) margin))
  blankBlock screenWidth 1 ++ middle ++ blankBlock screenWidth 1 ++
    [drawLine screenWidth .plain (Row.ofText .plain (helpText s)).glyphs] ++
    blankBlock screenWidth 2

/-- The session after it is shown, and the rows of the screen as the terminal shows them. -/
def Session.draw (s : Session) : Session × Block :=
  (s.scrolled, (screenRows s.scrolled).map (uncover 0))

/-! ### Reading the screen -/

/-- The characters of a row, without the blanks at its end. -/
def rowText (row : List Cell) : Text :=
  ((row.flatMap Cell.symbol).reverse.dropWhile (· == ' ')).reverse

/-- A stretch of cells of one style, from a column up to another. -/
structure StyleRun where
  start : Nat
  stop : Nat
  style : Style
deriving DecidableEq, Repr

/-- The stretches of equal style from a column on. -/
def runsFrom (column : Nat) : List Cell → List StyleRun
  | [] => []
  | c :: row =>
    match runsFrom (column + 1) row with
    | run :: runs =>
      if run.style = c.style then ⟨column, run.stop, c.style⟩ :: runs
      else ⟨column, column + 1, c.style⟩ :: run :: runs
    | [] => [⟨column, column + 1, c.style⟩]

/-- The longest stretches of a row that have a style. -/
def styleRuns (row : List Cell) : List StyleRun := (runsFrom 0 row).filter (·.style ≠ .plain)

end Slipbox.Viewer
