import Slipbox.Note.Basic

/-!
# Notes as web pages

Nodes are first turned into a tree of elements and text, and the tree is then
written. Escaping happens in one place, when text or an attribute is written, so
no text of a note can open a tag. The element of a line carries the position of
the line as its identifier, which entries of the contents refer to.
-/

namespace Slipbox

open Slipbox.Markup

/-- A piece of a page. -/
inductive Html where
  | text (t : Text)
  | lineBreak
  | element (name : Text) (attributes : List (Text × Text)) (content : List Html)
deriving Repr

namespace Html

/-! ### Writing -/

def escapeChar (c : Char) : Text :=
  if c = '&' then "&amp;".toList
  else if c = '<' then "&lt;".toList
  else if c = '>' then "&gt;".toList
  else [c]

/-- Text between tags. -/
def escape (t : Text) : Text := t.flatMap escapeChar

def escapeAttributeChar (c : Char) : Text :=
  if c = '"' then "&quot;".toList else escapeChar c

/-- Text between the quotes of an attribute. -/
def escapeAttribute (t : Text) : Text := t.flatMap escapeAttributeChar

def writeAttribute (a : Text × Text) : Text :=
  ' ' :: a.1 ++ "=\"".toList ++ escapeAttribute a.2 ++ ['"']

def openTag (name : Text) (attributes : List (Text × Text)) : Text :=
  '<' :: name ++ attributes.flatMap writeAttribute ++ ['>']

def closeTag (name : Text) : Text := "</".toList ++ name ++ ['>']

mutual

def write : Html → Text
  | .text t => escape t
  | .lineBreak => "<br>".toList
  | .element name attributes content =>
    openTag name attributes ++ writeAll content ++ closeTag name

def writeAll : List Html → Text
  | [] => []
  | piece :: pieces => write piece ++ writeAll pieces

end

/-! ### Nodes -/

/-- An element of a class. -/
def ofClass (name cssClass : String) (content : List Html) : Html :=
  .element name.toList [("class".toList, cssClass.toList)] content

/-- Where a link leads. A display text that is an address wins over the target; a link with
neither leads to the page itself. -/
def destination (link : Link) : Text :=
  if link.isBareUrl then link.display else link.target.getD ['#']

/-- Places on the page open in the same window, all else in a new one. -/
def windowFor (href : Text) : Text :=
  if Text.startsWith ['#'] href then "_self".toList else "_blank".toList

def ofLink (link : Link) : Html :=
  let href := destination link
  .element ['a'] [("href".toList, href), ("target".toList, windowFor href),
    ("class".toList, "z-link".toList)] [.text link.display]

def ofSpan (s : Span) : Html :=
  match s.kind with
  | .plain => .text s.text
  | .operator => ofClass "span" "z-operator" [.text (' ' :: s.text ++ [' '])]
  | .quote => ofClass "q" "z-quote" [.text s.text]
  | .code => .element "code".toList [] [.text s.text]
  | .inlineMath => ofClass "span" "z-math" [.text s.text]
  | .blockMath => ofClass "div" "z-math-block" [.text s.text]
  | .bold => ofClass "span" "z-bold" [.text s.text]
  | .struck => ofClass "span" "z-striked" [.text s.text]

def ofRun (run : Run) : List Html := run.map ofSpan

def ofInline : Inline → List Html
  | .run spans => ofRun spans
  | .link l => [ofLink l]

def ofItem (item : ListItem) : Html :=
  ofClass "span" "z-list" <|
    ofClass "span" "z-listitem" [.text item.marker] ::
      match item.content with
      | some content => .text [' '] :: ofInline content
      | none => []

def ofContent : LineContent → Html
  | .link l => ofLink l
  | .comment t => ofClass "span" "z-comment" [.text ("> ".toList ++ t)]
  | .item i => ofItem i

/-- The pieces of the node at a position. -/
def ofNode (index : Nat) : Node → List Html
  | .tag t => [ofClass "div" "z-tag" (.text (List.replicate t.depth '@') :: ofInline t.label)]
  | .line l =>
    [.element "div".toList [("id".toList, Text.decimal index), ("class".toList, "z-line".toList)]
      [.text (List.replicate l.indent ' '), ofContent l.content]]
  | .text run => ofRun run
  | .blank count => List.replicate count .lineBreak

def ofNodesFrom (index : Nat) : List Node → List Html
  | [] => []
  | n :: nodes => ofNode index n ++ ofNodesFrom (index + 1) nodes

/-- The page of a document. -/
def render (nodes : List Node) : Text := writeAll (ofNodesFrom 0 nodes)

/-- The page of a note; a body that could not be parsed is shown as it is. -/
def renderNote (note : Note) : Text :=
  if note.isParsed then render note.nodes
  else write (ofClass "pre" "z-raw" [.text note.body])

end Html
end Slipbox
