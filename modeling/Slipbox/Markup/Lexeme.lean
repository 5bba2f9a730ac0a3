import Slipbox.Parsing.Combinator
import Slipbox.Parsing.Recogniser
import Slipbox.Text.Blank

/-!
# Lexemes of the markup

There is no separate token stream: the grammar reads the text directly, and this
module holds the small parsers that it is made of. The body of a delimited span
is a run that excludes its own closing delimiter. Plain text stops at every
character that could open a span and at spaces, so that an operator gets its
chance at each space; whatever plain text refuses is a stray character, taken one
at a time. Together the two accept every character except the newline.
-/

namespace Slipbox.Markup

open Slipbox.Parsing

/-! ### Alphabets -/

/-- The operator symbols. -/
def operators : List Text :=
  [":", ":=", "<->", "<-", "->", "~>", "<=>", "=>", "!=", "==", "+", "vs."].map String.toList

/-- The glyphs that mark an item of an unordered list. -/
def listGlyphs : List Char := ['-', '+', '!', '*', '¿', '?', '✘', '★', '✓']

/-- The characters that may open a span, and the space. -/
def specials : List Char := ['$', '~', '\x60', '"', '*', ' ']

def isSpecial (c : Char) : Bool := specials.contains c

/-! ### Runs of one class -/

def space : Parser Text := literal [' ']

def spaces : Parser Text := pattern (.run "^ *".toList (· == ' '))

def newlines : Parser Text := pattern (.run1 "^\n+".toList (· == '\n'))

/-- What is left of the line, possibly nothing. -/
def restOfLine : Parser Text := pattern (.run "^[^\n]*".toList (· != '\n'))

/-- The spaces at the start of a line. -/
def indent : Parser Text := spaces

def tagMarkers : Parser Text := pattern (.run1 "^@+".toList (· == '@'))

def commentMarker : Parser Text := literal ['>', ' ']

def alphanumeric : Parser Text := pattern (.run1 "^[A-Za-z0-9]+".toList Char.isAlphanum)

def plainText : Parser Text :=
  pattern (.run1 "^[^\\$\\~`\"\\* \n]+".toList fun c => !isSpecial c && c != '\n')

/-- One special character that no span claims. -/
def stray : Parser Text := pattern (.one "^[\\$\\~`\"\\* ]".toList isSpecial)

/-- An address: `http` and all that follows up to white space. -/
def bareUrl : Parser Text := pattern (.led "^http\\S*".toList "http".toList (!Text.isBlank ·))

/-! ### Bodies of delimited spans and links -/

def quoteBody : Parser Text :=
  pattern (.run1 "^[^\"\n]+".toList fun c => c != '"' && c != '\n')

/-- The body of fenced code, which may cross lines. -/
def fencedBody : Parser Text := pattern (.run1 "^[^`]+".toList (· != '\x60'))

def codeBody : Parser Text :=
  pattern (.run1 "^[^`\n]+".toList fun c => c != '\x60' && c != '\n')

/-- The body of block math, which may cross lines. -/
def blockMathBody : Parser Text := pattern (.run1 "^[^$]+".toList (· != '$'))

def inlineMathBody : Parser Text :=
  pattern (.run1 "^[^$\n]+".toList fun c => c != '$' && c != '\n')

def boldBody : Parser Text := pattern (.run1 "^[^*\n]+".toList fun c => c != '*' && c != '\n')

def struckBody : Parser Text := pattern (.run1 "^[^~\n]+".toList fun c => c != '~' && c != '\n')

def linkText : Parser Text := pattern (.run "^[^\\]\n]*".toList fun c => c != ']' && c != '\n')

def linkTarget : Parser Text := pattern (.run "^[^)\n]*".toList fun c => c != ')' && c != '\n')

/-! ### Operators and list markers -/

/-- The operator symbol that the text begins with, if a space follows it. -/
def leadingOperator? (s : Text) : Option (Text × Text) :=
  operators.findSome? fun symbol =>
    (Text.dropLead? (symbol ++ [' ']) s).map fun rest => (symbol, ' ' :: rest)

/-- An operator symbol with a space on each side. The space before it is taken, the one after
it is left. -/
def operator : Parser Text
  | ' ' :: s =>
    match leadingOperator? s with
    | some found => .ok found
    | none => .error ⟨' ' :: s, .noOperator⟩
  | s => .error ⟨s, .noOperator⟩

/-- A list glyph before a space or the end of the line. -/
def glyph : Parser Text := fun s => do
  let (mark, rest) ← pattern (.one "^[\\-\\+!\\*¿\\?✘★✓]".toList listGlyphs.contains) s
  match rest with
  | [] => .ok (mark, rest)
  | c :: _ =>
    if c = ' ' ∨ c = '\n' then .ok (mark, rest) else .error ⟨s, .glyphNotSeparated⟩

/-- One segment of a label and its dot. -/
def labelSegment : Parser Text := sequence [alphanumeric, literal ['.']]

/-- A dotted label such as `a.` or `1.2.`. -/
def label : Parser Text := List.flatten <$> many1 labelSegment

end Slipbox.Markup
