import Slipbox.Markup.Document

/-!
# The rules by name

Every lexeme and every rule of the markup can be tried alone. `Lexeme` and `Rule`
name them, and `Rule.parser` gives the parser of each with its value wrapped in
`Fragment`.
-/

namespace Slipbox.Markup

open Slipbox.Parsing

/-- The lexemes. -/
inductive Lexeme where
  | space | spaces | newlines | restOfLine | indent | tagMarkers | commentMarker
  | alphanumeric | operator | glyph | label | plainText | stray | bareUrl
  | quoteBody | fencedBody | codeBody | blockMathBody | inlineMathBody
  | boldBody | struckBody | linkText | linkTarget
deriving DecidableEq, Repr

def Lexeme.parser : Lexeme → Parser Text
  | .space => Markup.space
  | .spaces => Markup.spaces
  | .newlines => Markup.newlines
  | .restOfLine => Markup.restOfLine
  | .indent => Markup.indent
  | .tagMarkers => Markup.tagMarkers
  | .commentMarker => Markup.commentMarker
  | .alphanumeric => Markup.alphanumeric
  | .operator => Markup.operator
  | .glyph => Markup.glyph
  | .label => Markup.label
  | .plainText => Markup.plainText
  | .stray => Markup.stray
  | .bareUrl => Markup.bareUrl
  | .quoteBody => Markup.quoteBody
  | .fencedBody => Markup.fencedBody
  | .codeBody => Markup.codeBody
  | .blockMathBody => Markup.blockMathBody
  | .inlineMathBody => Markup.inlineMathBody
  | .boldBody => Markup.boldBody
  | .struckBody => Markup.struckBody
  | .linkText => Markup.linkText
  | .linkTarget => Markup.linkTarget

/-- The rules of the grammar. -/
inductive Rule where
  | lexeme (l : Lexeme)
  | operator | bold | struck | code | quote | blockMath | inlineMath | plain | stray
  | styled | span | textRun | link
  | comment | inline | listItem | line | tag
  | blankRun | node | document
deriving DecidableEq, Repr

/-- What a rule can produce. -/
inductive Fragment where
  | text (text : Text)
  | span (span : Span)
  | run (run : Run)
  | link (link : Link)
  | comment (text : Text)
  | inline (content : Inline)
  | item (item : ListItem)
  | line (line : Line)
  | tag (tag : Tag)
  | blank (count : Nat)
  | node (node : Node)
  | document (nodes : List Node)
deriving DecidableEq, Repr

def Rule.parser : Rule → Parser Fragment
  | .lexeme l => Fragment.text <$> l.parser
  | .operator => Fragment.span <$> operatorSpan
  | .bold => Fragment.span <$> Markup.bold
  | .struck => Fragment.span <$> Markup.struck
  | .code => Fragment.span <$> Markup.code
  | .quote => Fragment.span <$> Markup.quote
  | .blockMath => Fragment.span <$> Markup.blockMath
  | .inlineMath => Fragment.span <$> Markup.inlineMath
  | .plain => Fragment.span <$> plainSpan
  | .stray => Fragment.span <$> straySpan
  | .styled => Fragment.span <$> Markup.styled
  | .span => Fragment.span <$> Markup.span
  | .textRun => Fragment.run <$> Markup.textRun
  | .link => Fragment.link <$> Markup.link
  | .comment => Fragment.comment <$> Markup.comment
  | .inline => Fragment.inline <$> Markup.inline
  | .listItem => Fragment.item <$> Markup.listItem
  | .line => Fragment.line <$> Markup.line
  | .tag => Fragment.tag <$> Markup.tag
  | .blankRun => Fragment.blank <$> Markup.blankRun
  | .node => Fragment.node <$> Markup.node
  | .document => Fragment.document <$> Markup.document

end Slipbox.Markup
