import Slipbox.Markup.Lexeme
import Slipbox.Markup.Node

/-!
# Spans, runs and links

A span is the first that succeeds of operator, bold, struck, code, quote, block
math, inline math, plain text and a stray character. An unterminated delimiter
never fails a run: the delimited rules all fail there, and the stray character
takes the opening mark as plain text.
-/

namespace Slipbox.Markup

open Slipbox.Parsing

/-! ### Spans -/

def spanOf (kind : SpanKind) (p : Parser Text) : Parser Span := Span.mk kind <$> p

def operatorSpan : Parser Span := spanOf .operator operator

def bold : Parser Span := spanOf .bold (enclosed "*".toList boldBody)

def struck : Parser Span := spanOf .struck (enclosed "~~".toList struckBody)

def fencedCode : Parser Text := enclosed "```".toList fencedBody

def singleCode : Parser Text := enclosed "`".toList codeBody

/-- Fenced code, which may cross lines, or code between single marks. -/
def code : Parser Span := spanOf .code (alternation fencedCode [singleCode])

def quote : Parser Span := spanOf .quote (enclosed "\"".toList quoteBody)

def blockMath : Parser Span := spanOf .blockMath (enclosed "$$".toList blockMathBody)

def inlineMath : Parser Span := spanOf .inlineMath (enclosed "$".toList inlineMathBody)

def plainSpan : Parser Span := spanOf .plain plainText

def straySpan : Parser Span := spanOf .plain stray

/-- A delimited span or an operator. -/
def styled : Parser Span :=
  alternation operatorSpan [bold, struck, code, quote, blockMath, inlineMath]

def span : Parser Span := alternation styled [plainSpan, straySpan]

/-! ### Runs -/

/-- Puts a span before a run, merging two plain texts that meet. -/
def Run.cons (s : Span) : Run → Run
  | [] => [s]
  | t :: run =>
    if s.kind = .plain ∧ t.kind = .plain then ⟨.plain, s.text ++ t.text⟩ :: run
    else s :: t :: run

/-- Merges neighbouring plain texts and keeps all else. -/
def flatten (run : Run) : Run := run.foldr Run.cons []

@[simp] theorem flatten_nil : flatten [] = [] := rfl

@[simp] theorem flatten_cons (s : Span) (run : Run) :
    flatten (s :: run) = Run.cons s (flatten run) := rfl

/-- One span or more, with plain texts merged. -/
def textRun : Parser Run := flatten <$> many1 span

/-! ### Links -/

def bracketed : Parser Text := region (literal ['[']) linkText (literal [']'])

def parenthesised : Parser Text := region (literal ['(']) linkTarget (literal [')'])

/-- A text in brackets or a bare address, and perhaps a target in parentheses. -/
def link : Parser Link := do
  let display ← alternation bracketed [bareUrl]
  let target ← optional parenthesised
  pure ⟨display, target⟩

/-- A link, or else a run. -/
def inline : Parser Inline := alternation (Inline.link <$> link) [Inline.run <$> textRun]

end Slipbox.Markup
