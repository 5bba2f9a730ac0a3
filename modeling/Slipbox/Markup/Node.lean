import Slipbox.Text.Basic

/-!
# Nodes of a document

A parsed note is one flat list of nodes in the order of the text. Nesting stops
at a single level: a node holds a run of spans or a link, and a span holds text.
The hierarchy of lists is kept in the indents of the lines.
-/

namespace Slipbox.Markup

inductive SpanKind where
  | plain
  | quote
  | code
  | inlineMath
  | blockMath
  | bold
  | struck
  | operator
deriving DecidableEq, Repr

/-- The smallest piece of running text. -/
structure Span where
  kind : SpanKind
  text : Text
deriving DecidableEq, Repr

/-- Spans one after another. -/
abbrev Run := List Span

/-- The text of every span, without delimiters. -/
def Run.text (run : Run) : Text := run.flatMap (·.text)

structure Link where
  display : Text
  target : Option Text
deriving DecidableEq, Repr

/-- Whether the link can be written as a bare address. -/
def Link.isBareUrl (link : Link) : Bool := Text.startsWith "http".toList link.display

/-- What may follow the marker of a tag or of a list item. -/
inductive Inline where
  | run (spans : Run)
  | link (link : Link)
deriving DecidableEq, Repr

/-- The visible text. -/
def Inline.text : Inline → Text
  | .run spans => spans.text
  | .link l => l.display

/-- An item: its glyph or dotted label, and what follows it. -/
structure ListItem where
  marker : Text
  content : Option Inline
deriving DecidableEq, Repr

inductive LineContent where
  | link (link : Link)
  | comment (text : Text)
  | item (item : ListItem)
deriving DecidableEq, Repr

/-- A structured line. The indent counts the spaces before it. -/
structure Line where
  indent : Nat
  content : LineContent
deriving DecidableEq, Repr

/-- A label line. The depth counts its markers. -/
structure Tag where
  depth : Nat
  label : Inline
deriving DecidableEq, Repr

inductive Node where
  | tag (tag : Tag)
  | line (line : Line)
  | text (run : Run)
  /-- One newline more than `count`. -/
  | blank (count : Nat)
deriving DecidableEq, Repr

end Slipbox.Markup
