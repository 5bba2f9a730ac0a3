import Slipbox.Markup.Rule

/-!
# Recipes for parsers

A recipe is a finite description of a parser: a literal, a recogniser or a lexeme,
or recipes put together by a combinator. `Recipe.parser` builds the parser that it
describes. Values are of one type, so that recipes can be nested at will.
-/

namespace Slipbox.Markup

open Slipbox.Parsing

/-- The values of recipes. A place is given by the text that is left there. -/
inductive Value where
  | absent
  | text (text : Text)
  | number (n : Nat)
  | place (rest : Text)
  | list (values : List Value)
deriving Repr

/-- The text of a value; only texts have one. -/
def Value.asText : Value → Text
  | .text t => t
  | _ => []

inductive Recipe where
  | literal (expected : Text)
  | pattern (recogniser : Recogniser)
  | lexeme (l : Lexeme)
  | sequence (steps : List Recipe)
  | alternation (first : Recipe) (others : List Recipe)
  | many (r : Recipe)
  | many1 (r : Recipe)
  | optional (r : Recipe)
  | region (left inner right : Recipe)
  | enclosed (delimiter : Text) (inner : Recipe)
  | preceded (first r : Recipe)
  | allConsuming (r : Recipe)
  /-- The byte length of the text of the value. -/
  | measure (r : Recipe)
  /-- A list that holds the value only. -/
  | wrap (r : Recipe)
  /-- Every value together with the place after it. -/
  | steps (rs : List Recipe)

/-- Runs parsers in order and notes the place after each. -/
def recordSteps : List (Parser Value) → Parser (List Value)
  | [] => pure []
  | p :: others => do
    let (value, rest) ← withRest p
    let following ← recordSteps others
    pure (.list [value, .place rest] :: following)

mutual

/-- The parser that a recipe describes. -/
def Recipe.parser : Recipe → Parser Value
  | .literal expected => Value.text <$> Parsing.literal expected
  | .pattern recogniser => Value.text <$> Parsing.pattern recogniser
  | .lexeme l => Value.text <$> l.parser
  | .sequence rs => Value.text <$> Parsing.sequence ((parsers rs).map (Value.asText <$> ·))
  | .alternation first others => Parsing.alternation first.parser (parsers others)
  | .many r => Value.list <$> Parsing.many r.parser
  | .many1 r => Value.list <$> Parsing.many1 r.parser
  | .optional r => (·.getD .absent) <$> Parsing.optional r.parser
  | .region left inner right => Parsing.region left.parser inner.parser right.parser
  | .enclosed delimiter inner => Parsing.enclosed delimiter inner.parser
  | .preceded first r => Parsing.preceded first.parser r.parser
  | .allConsuming r => Parsing.allConsuming r.parser
  | .measure r => (fun v => .number v.asText.byteLength) <$> r.parser
  | .wrap r => (fun v => .list [v]) <$> r.parser
  | .steps rs => Value.list <$> recordSteps (parsers rs)

/-- The parsers of several recipes. -/
def Recipe.parsers : List Recipe → List (Parser Value)
  | [] => []
  | r :: rs => r.parser :: parsers rs

end

end Slipbox.Markup
