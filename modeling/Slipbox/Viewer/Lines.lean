import Slipbox.Contents
import Slipbox.Note.Basic
import Slipbox.Viewer.Style

/-!
# Notes as lines of the terminal

A document is a sequence of styled texts. The newlines in them, which come from
blank runs and from code and mathematics that cross lines, cut the sequence into
lines; a last line without text is not shown.
-/

namespace Slipbox.Viewer

open Slipbox.Markup

/-- A text of one style. -/
structure StyledText where
  text : Text
  style : Style

/-- A line of the terminal. -/
structure Row where
  style : Style
  spans : List StyledText

/-! ### Cutting into lines -/

/-- A styled text unless it is empty. -/
def nonempty (t : Text) (style : Style) : List (Option StyledText) :=
  if t.isEmpty then [] else [some ⟨t, style⟩]

/-- The pieces of a styled text between its newlines; `none` is a line break. -/
def StyledText.pieces (s : StyledText) : List (Option StyledText) :=
  match Text.splitAtChar '\n' s.text with
  | [] => []
  | first :: others =>
    nonempty first s.style ++ others.flatMap fun t => none :: nonempty t s.style

/-- What stands between the breaks; the last line may be open and empty. -/
def cut : List (Option StyledText) → List (List StyledText)
  | [] => [[]]
  | none :: pieces => [] :: cut pieces
  | some s :: pieces =>
    match cut pieces with
    | [] => [[s]]
    | line :: lines => (s :: line) :: lines

/-- The lines without an empty last one. -/
def closeLast : List (List StyledText) → List (List StyledText)
  | [] => []
  | [line] => if line.isEmpty then [] else [line]
  | line :: next :: lines => line :: closeLast (next :: lines)

/-- The lines of a sequence of styled texts. -/
def layOut (texts : List StyledText) : List (List StyledText) :=
  closeLast (cut (texts.flatMap StyledText.pieces))

/-! ### Nodes -/

def spanStyle : SpanKind → Style
  | .plain => .plain
  | .quote => .emphasised .italic
  | .code => .coloured .green
  | .inlineMath => .coloured .magenta
  | .blockMath => .coloured .magenta
  | .bold => .emphasised .bold
  | .struck => .emphasised .crossedOut
  | .operator => .coloured .cyan

def linkStyle : Style := (Style.coloured .blue).patch (.emphasised .underlined)

def tagStyle : Style := (Style.coloured .yellow).patch (.emphasised .bold)

def commentStyle : Style := (Style.coloured .darkGray).patch (.emphasised .italic)

def markerStyle : Style := .coloured .cyan

/-- An operator shows the space that was read before it. -/
def ofSpan (base : Style) (s : Span) : List StyledText :=
  (if s.kind = .operator then [⟨[' '], base⟩] else []) ++ [⟨s.text, base.patch (spanStyle s.kind)⟩]

def ofRun (base : Style) (run : Run) : List StyledText := run.flatMap (ofSpan base)

def ofLink (base : Style) (l : Link) : List StyledText := [⟨l.display, base.patch linkStyle⟩]

def ofInline (base : Style) : Inline → List StyledText
  | .run spans => ofRun base spans
  | .link l => ofLink base l

def ofItem (item : ListItem) : List StyledText :=
  ⟨item.marker, markerStyle⟩ ::
    match item.content with
    | some content => ⟨[' '], .plain⟩ :: ofInline .plain content
    | none => []

def ofContent : LineContent → List StyledText
  | .link l => ofLink .plain l
  | .comment t => [⟨"> ".toList ++ t, commentStyle⟩]
  | .item i => ofItem i

def ofNode : Node → List StyledText
  | .tag t => ⟨List.replicate t.depth '@', tagStyle⟩ :: ofInline tagStyle t.label
  | .line l => ⟨List.replicate l.indent ' ', .plain⟩ :: ofContent l.content
  | .text run => ofRun .plain run
  | .blank count => [⟨List.replicate (count + 1) '\n', .plain⟩]

/-- The lines of a document. -/
def rowsOfNodes (nodes : List Node) : List Row :=
  (layOut (nodes.flatMap ofNode)).map fun spans => ⟨.plain, spans⟩

/-! ### Notes -/

/-- A line of plain text. Line ends inside it are left out. -/
def Row.ofText (style : Style) (t : Text) : Row :=
  ⟨style, (Text.lines t).map fun piece => ⟨piece, .plain⟩⟩

/-- The lines of a note; a body that could not be parsed follows its error as it is. -/
def rowsOfNote (note : Note) : List Row :=
  match note.error with
  | none => rowsOfNodes note.nodes
  | some e =>
    .ofText (.coloured .red) ("Could not parse: ".toList ++ e.message) :: ⟨.plain, []⟩ ::
      (Text.lines note.body).map (.ofText .plain)

/-- The table of contents, each title indented by half of its line's indent. -/
def contentsRows (note : Note) : List Row :=
  (contents note.nodes).map fun e =>
    .ofText .plain (List.replicate (e.indent / 2) ' ' ++ e.title)

end Slipbox.Viewer
