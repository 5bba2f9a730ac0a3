import Slipbox.Parsing.Combinator

/-!
# Rules in steps

A rule in steps moves a place through the text. `Sequencer.next` runs a parser at the place that
is reached and moves the place behind what was taken; `Sequencer.place` looks at it. The first
step that fails ends the rule, and its failure is the failure of the rule. `build` makes a
parser of such a rule: it starts where the parser is run and ends at the last place.
-/

namespace Slipbox.Parsing

variable {α : Type}

/-- What the steps of a rule share: the text left behind the steps that have succeeded. -/
structure Sequencer where
  rest : Text

/-- Steps that follow one another. -/
abbrev Steps := StateT Sequencer (Except Failure)

namespace Sequencer

/-- Runs a parser from the place that is reached. -/
def next (p : Parser α) : Steps α := fun seq => do
  let (value, rest) ← p seq.rest
  .ok (value, { seq with rest := rest })

/-- What is left at the place that is reached. -/
def place : Steps Text := fun seq => .ok (seq.rest, seq)

end Sequencer

/-- The parser of a rule in steps. -/
def build (rule : Steps α) : Parser α := fun s => do
  let (value, seq) ← rule ⟨s⟩
  .ok (value, seq.rest)

end Slipbox.Parsing
