import Slipbox.Text.Position
import Slipbox.Text.Quoted

/-!
# Parsers

A parser takes the text that is left and answers with a value and the text left
after it, or with a failure. A failure keeps what was left where the failing
attempt began, so that its offset can be told once the whole text is known.

Parsers have no state, so trying another one from the same place means applying
it to the same text. `Parser` is a state monad over `Except`: steps that follow
one another are written with `do`, and the first failing step is the failure of
the whole.
-/

namespace Slipbox

/-- An error in a text: a byte offset and what was wrong there. -/
structure ParseError where
  offset : Nat
  reason : Text
deriving DecidableEq, Repr

/-- The error as it is shown. -/
def ParseError.message (e : ParseError) : Text :=
  e.reason ++ " (at offset ".toList ++ Text.decimal e.offset ++ ")".toList

namespace Parsing

/-- Why a parser failed. -/
inductive Reason where
  | missing (literal : Text)
  | unmatched (source : Text)
  | noOperator
  | glyphNotSeparated
  | leftover
deriving DecidableEq, Repr

/-- The wording of a reason for a failure at the given offset. -/
def Reason.describe (offset : Nat) : Reason → Text
  | .missing literal =>
    "could not find ".toList ++ Text.quoted literal ++ " at ".toList ++ Text.decimal offset
  | .unmatched source => "could not match /".toList ++ source ++ "/".toList
  | .noOperator => "could not match operator".toList
  | .glyphNotSeparated => "list glyph must be followed by a space".toList
  | .leftover => "unconsumed input".toList

/-- A failed attempt: what was left where it began, and why it failed. -/
structure Failure where
  rest : Text
  reason : Reason
deriving DecidableEq, Repr

/-- The offset of the failing attempt within the whole text. -/
def Failure.offset (whole : Text) (f : Failure) : Nat := Text.offsetOf whole f.rest

def Failure.toError (whole : Text) (f : Failure) : ParseError :=
  ⟨f.offset whole, f.reason.describe (f.offset whole)⟩

/-- A parser of values of type `α`. -/
abbrev Parser := StateT Text (Except Failure)

namespace Parser

variable {α β : Type}

/-- Applies the parser to a whole text. -/
def parse (p : Parser α) (whole : Text) : Except ParseError α :=
  match p whole with
  | .ok (value, _) => .ok value
  | .error failure => .error (failure.toError whole)

/-- Applies the parser at a byte offset, beyond which the end is meant. There is no answer
when the offset lies inside a character. -/
def parseAt? (p : Parser α) (whole : Text) (offset : Nat) :
    Option (Except ParseError (α × Position)) :=
  let place := (Position.start whole).advance offset
  place.rest?.map fun rest =>
    match p rest with
    | .ok (value, left) => .ok (value, ⟨whole, Text.offsetOf whole left⟩)
    | .error failure => .error (failure.toError whole)

theorem bind_ok {p : Parser α} {f : α → Parser β} {s r : Text} {a : α}
    (h : p s = .ok (a, r)) : (p >>= f) s = f a r := by
  show (Except.bind (p s) fun x => f x.1 x.2) = _
  rw [h]
  rfl

theorem bind_error {p : Parser α} {f : α → Parser β} {s : Text} {e : Failure}
    (h : p s = .error e) : (p >>= f) s = .error e := by
  show (Except.bind (p s) fun x => f x.1 x.2) = _
  rw [h]
  rfl

theorem map_apply (f : α → β) (p : Parser α) (s : Text) :
    (f <$> p) s = (p s).map fun x => (f x.1, x.2) := by
  show (Except.bind (p s) fun x => Except.pure (f x.1, x.2)) = _
  cases p s <;> rfl

theorem pure_apply (a : α) (s : Text) : (pure a : Parser α) s = .ok (a, s) := rfl

end Parser
end Parsing
end Slipbox
