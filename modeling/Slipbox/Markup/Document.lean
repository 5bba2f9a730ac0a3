import Slipbox.Markup.Inline

/-!
# Lines, tags and documents

A document is a list of nodes: structured lines, tags, blank runs and text runs,
tried in this order at every place. A rule stops before the newline that ends its
line; newlines belong to blank runs.
-/

namespace Slipbox.Markup

open Slipbox.Parsing

/-! ### Lines and tags -/

/-- The rest of a line after the comment marker, possibly nothing. -/
def comment : Parser Text := do
  let _ ← commentMarker
  restOfLine

def listMarker : Parser Text := alternation glyph [label]

/-- A marker, then perhaps a space and some content. -/
def listItem : Parser ListItem := do
  let marker ← listMarker
  let content ← optional (preceded space inline)
  pure ⟨marker, content⟩

def lineContent : Parser LineContent :=
  alternation (LineContent.link <$> link)
    [LineContent.comment <$> comment, LineContent.item <$> listItem]

/-- Spaces, then a link, a comment or a list item. -/
def line : Parser Line := do
  let blanks ← indent
  let content ← lineContent
  pure ⟨blanks.length, content⟩

/-- Tag markers, then a link or a run. -/
def tag : Parser Tag := do
  let markers ← tagMarkers
  let content ← inline
  pure ⟨markers.length, content⟩

/-- One newline or more; the count is one less. -/
def blankRun : Parser Nat := (fun run => run.length - 1) <$> newlines

/-! ### Documents -/

def node : Parser Node :=
  alternation (Node.line <$> line)
    [Node.tag <$> tag, Node.blank <$> blankRun, Node.text <$> textRun]

def document : Parser (List Node) := many node

/-- The nodes of a whole text. -/
def parseDocument (text : Text) : Except ParseError (List Node) :=
  (allConsuming document).parse text

end Slipbox.Markup
