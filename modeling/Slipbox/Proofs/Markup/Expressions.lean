import Slipbox.Proofs.Markup.Resumption
import Slipbox.Proofs.Parsing.Walking

/-!
# Every nesting of combinators runs safely

An expression is a finite nesting of the combinators, with the lexemes at its leaves and
with arbitrary functions in its maps and in the steps of its rules. It has two readings: the
parser of the text that is left, and the walker over byte positions. They agree, so from a
boundary every expression has an answer, and its answer lies between the start and the end of
the text, again on a boundary. The main result is `expression_runs`.
-/

namespace Slipbox

/-! ### Places that can be reached -/

namespace Position

/-- The position lies between two characters of its text. -/
def OnBoundary (c : Position) : Prop :=
  ∃ before rest, c.text = before ++ rest ∧ c.offset = before.byteLength

/-- The second position is a boundary of the same text, not before the first one. -/
structure Reaches (c d : Position) : Prop where
  sameText : d.text = c.text
  boundary : d.OnBoundary
  ahead : c.offset ≤ d.offset
  inside : d.offset ≤ c.text.byteLength

theorem reaches_append (before u m : Text) :
    Reaches ⟨before ++ (u ++ m), before.byteLength⟩
      ⟨before ++ (u ++ m), (before ++ u).byteLength⟩ := by
  refine ⟨rfl, ⟨before ++ u, m, ?_, rfl⟩, ?_, ?_⟩
  · exact (List.append_assoc before u m).symm
  · simp
  · simp

end Position

namespace Markup

open Slipbox.Parsing

variable {α β γ : Type} {t : Text}

/-! ### Expressions -/

/-- A nesting of combinators. A rule of several steps is a chain of `next` that ends in
`done`; `place` tells such a rule where it stands. -/
inductive Expression : Type → Type 1 where
  | literal (expected : Text) : Expression Text
  | pattern (recogniser : Recogniser) : Expression Text
  | operator : Expression Text
  | glyph : Expression Text
  | map {α β : Type} (f : α → β) (e : Expression α) : Expression β
  | sequence {n : Nat} (steps : Fin n → Expression Text) : Expression Text
  | alternation {α : Type} {n : Nat} (first : Expression α) (others : Fin n → Expression α) :
    Expression α
  | many {α : Type} (e : Expression α) : Expression (List α)
  | many1 {α : Type} (e : Expression α) : Expression (List α)
  | optional {α : Type} (e : Expression α) : Expression (Option α)
  | region {α β γ : Type} (left : Expression α) (inner : Expression β) (right : Expression γ) :
    Expression β
  | enclosed {α : Type} (delimiter : Text) (inner : Expression α) : Expression α
  | preceded {α β : Type} (first : Expression α) (e : Expression β) : Expression β
  | allConsuming {α : Type} (e : Expression α) : Expression α
  | done {α : Type} (value : α) : Expression α
  | next {α β : Type} (e : Expression α) (following : α → Expression β) : Expression β
  | place : Expression Position

/-- The parser of an expression within a whole text. -/
def Expression.parser (t : Text) : {α : Type} → Expression α → Parser α
  | _, .literal expected => Parsing.literal expected
  | _, .pattern recogniser => Parsing.pattern recogniser
  | _, .operator => Markup.operator
  | _, .glyph => Markup.glyph
  | _, .map f e => f <$> e.parser t
  | _, .sequence (n := n) steps =>
    Parsing.sequence ((List.finRange n).map fun i => (steps i).parser t)
  | _, .alternation (n := n) first others =>
    Parsing.alternation (first.parser t) ((List.finRange n).map fun i => (others i).parser t)
  | _, .many e => Parsing.many (e.parser t)
  | _, .many1 e => Parsing.many1 (e.parser t)
  | _, .optional e => Parsing.optional (e.parser t)
  | _, .region left inner right =>
    Parsing.region (left.parser t) (inner.parser t) (right.parser t)
  | _, .enclosed delimiter inner => Parsing.enclosed delimiter (inner.parser t)
  | _, .preceded first e => Parsing.preceded (first.parser t) (e.parser t)
  | _, .allConsuming e => Parsing.allConsuming (e.parser t)
  | _, .done value => pure value
  | _, .next e following => do (following (← e.parser t)).parser t
  | _, .place => fun s => .ok (⟨t, Text.offsetOf t s⟩, s)

/-! ### Expressions over byte positions -/

/-- An operator symbol between two spaces, of which the last one is given back. -/
def operatorWalker : Walker Text := fun c => do
  match ← c.rest? with
  | ' ' :: s =>
    match leadingOperator? s with
    | some (symbol, _) =>
      let whole : Text := ' ' :: symbol ++ [' ']
      Walker.give symbol (c.advance (whole.byteLength - 1))
    | none => Walker.refuse .noOperator c
  | _ => Walker.refuse .noOperator c

def mark : Recogniser := .one "^[\\-\\+!\\*¿\\?✘★✓]".toList listGlyphs.contains

/-- A list glyph, after which the text is read again for the separator. -/
def glyphWalker : Walker Text := fun c =>
  (Walker.pattern mark).andThen (fun taken next => do
    match ← next.rest? with
    | [] => Walker.give taken next
    | d :: _ =>
      if d = ' ' ∨ d = '\n' then Walker.give taken next
      else Walker.refuse .glyphNotSeparated c) c

noncomputable def Expression.walker : {α : Type} → Expression α → Walker α
  | _, .literal expected => Walker.literal expected
  | _, .pattern recogniser => Walker.pattern recogniser
  | _, .operator => operatorWalker
  | _, .glyph => glyphWalker
  | _, .map f e => e.walker.map f
  | _, .sequence (n := n) steps =>
    Walker.sequence ((List.finRange n).map fun i => (steps i).walker)
  | _, .alternation (n := n) first others =>
    Walker.alternation first.walker ((List.finRange n).map fun i => (others i).walker)
  | _, .many e => e.walker.many
  | _, .many1 e => e.walker.many1
  | _, .optional e => e.walker.optional
  | _, .region left inner right => Walker.region left.walker inner.walker right.walker
  | _, .enclosed delimiter inner => inner.walker.enclosed delimiter
  | _, .preceded first e => first.walker.preceded e.walker
  | _, .allConsuming e => e.walker.allConsuming
  | _, .done value => Walker.give value
  | _, .next e following => e.walker.andThen fun a => (following a).walker
  | _, .place => fun c => some (.ok (c, c))

/-! ### The two readings agree -/

theorem follows_operator : Follows t operatorWalker operator := by
  apply follows_of_outcomes within_operator
  · rintro before u m v rfl hv
    obtain ⟨hmem, hu, hhead⟩ := operator_eq_ok_iff.1 hv
    cases List.append_cancel_right hu
    obtain ⟨x, rfl⟩ := List.head?_eq_some_iff.1 hhead
    have hlead := leadingOperator?_eq_some_iff.2 ⟨hmem, x, rfl, rfl⟩
    have hlength : Text.byteLength (' ' :: v ++ [' ']) - 1 = Text.byteLength (' ' :: v) := by
      simp [show ' '.utf8Size = 1 from rfl, Nat.add_comm]
    rw [← advance_append, ← hlength]
    simp [operatorWalker, Position.rest?_append, hlead, Walker.give]
  · rintro before rest e rfl he
    unfold operator at he
    split at he
    · next s =>
      cases hlead : leadingOperator? s with
      | some found => simp [hlead] at he
      | none =>
        simp only [hlead] at he
        cases he
        rw [← refuse_eq rfl]
        simp [operatorWalker, Position.rest?_append, hlead]
    · cases he
      have hrest := Position.rest?_append before rest
      simp only [operatorWalker, hrest, Option.bind_eq_bind, Option.bind_some]
      exact refuse_eq rfl

theorem glyph_of_error {s : Text} {e : Failure} (h : pattern mark s = .error e) :
    glyph s = .error e := by
  change (pattern mark s >>= _) = _
  rw [h]
  rfl

theorem glyph_of_ok {s taken m : Text} : pattern mark s = .ok (taken, m) →
    glyph s = match m with
      | [] => .ok (taken, [])
      | d :: m => if d = ' ' ∨ d = '\n' then .ok (taken, d :: m)
        else .error ⟨s, .glyphNotSeparated⟩ := by
  intro h
  change (pattern mark s >>= _) = _
  rw [h]
  cases m <;> rfl

theorem follows_glyph : Follows t glyphWalker glyph := by
  have hmark : Follows t (Walker.pattern mark) (pattern mark) := follows_pattern mark
  refine ⟨within_glyph, ?_⟩
  rintro before rest rfl
  cases hread : pattern mark rest with
  | error e =>
    rw [parseAt?_append, glyph_of_error hread]
    simp [glyphWalker, Walker.andThen, hmark.error rfl hread]
  | ok x =>
    obtain ⟨taken, m⟩ := x
    obtain ⟨u, rfl, hw⟩ := hmark.ok rfl hread
    have hrest := Position.rest?_append (before ++ u) m
    rw [List.append_assoc] at hrest
    have hglyph := glyph_of_ok hread
    simp only [glyphWalker, Walker.andThen, hw, hrest, Option.bind_eq_bind, Option.bind_some]
    cases m with
    | nil => exact (parseAt?_of_ok hglyph).symm
    | cons d m =>
      by_cases hd : d = ' ' ∨ d = '\n'
      · simp only [if_pos hd] at hglyph ⊢
        exact (parseAt?_of_ok hglyph).symm
      · simp only [if_neg hd] at hglyph ⊢
        rw [parseAt?_append, hglyph]
        exact refuse_eq rfl

theorem follows_place :
    Follows t (fun c => some (.ok (c, c))) (fun s => .ok (⟨t, Text.offsetOf t s⟩, s)) := by
  constructor
  · constructor
    · intro s r c h
      cases h
      exact List.suffix_refl _
    · intro s e h
      exact nomatch h
  · rintro before rest rfl
    rw [parseAt?_append]
    simp

theorem follows_expression (e : Expression α) : Follows t e.walker (e.parser t) := by
  induction e with
  | literal expected => exact follows_literal expected
  | pattern recogniser => exact follows_pattern recogniser
  | operator => exact follows_operator
  | glyph => exact follows_glyph
  | map f e ih => exact ih.map f
  | sequence steps ih => exact follows_sequence fun i _ => ih i
  | alternation first others ih ihOthers => exact ih.alternation fun i _ => ihOthers i
  | many e ih => exact ih.many
  | many1 e ih => exact ih.many1
  | optional e ih => exact ih.optional
  | region left inner right ihl ih ihr => exact ihl.region ih ihr
  | enclosed delimiter inner ih => exact ih.enclosed delimiter
  | preceded first e ihf ih => exact ihf.preceded ih
  | allConsuming e ih => exact ih.allConsuming
  | done value => exact follows_give value
  | next e following ih ihk => exact ih.andThen ihk
  | place => exact follows_place

/-! ### Lexemes -/

/-- The parser is that of an expression. -/
def IsExpression (p : Parser α) : Prop := ∃ e : Expression α, ∀ t, e.parser t = p

theorem isExpression_literal (expected : Text) : IsExpression (literal expected) :=
  ⟨.literal expected, fun _ => rfl⟩

theorem isExpression_pattern (r : Recogniser) : IsExpression (pattern r) :=
  ⟨.pattern r, fun _ => rfl⟩

theorem isExpression_label : IsExpression label := by
  obtain ⟨segment, hsegment⟩ : IsExpression alphanumeric := isExpression_pattern _
  let steps : Fin 2 → Expression Text
    | 0 => segment
    | 1 => .literal ['.']
  refine ⟨.map List.flatten (.many1 (.sequence steps)), fun t => ?_⟩
  have hsteps : (List.finRange 2).map (fun i => (steps i).parser t) =
      [alphanumeric, literal ['.']] := by
    simp [List.finRange_succ, steps, hsegment, Expression.parser]
  simp only [Expression.parser, hsteps]
  rfl

theorem isExpression_lexeme (l : Lexeme) : IsExpression l.parser := by
  cases l with
  | space => exact isExpression_literal _
  | commentMarker => exact isExpression_literal _
  | operator => exact ⟨.operator, fun _ => rfl⟩
  | glyph => exact ⟨.glyph, fun _ => rfl⟩
  | label => exact isExpression_label
  | spaces | indent | restOfLine | linkText | linkTarget =>
    simp only [Lexeme.parser, indent, spaces, restOfLine, linkText, linkTarget]
    exact isExpression_pattern _
  | _ => exact isExpression_pattern _

/-! ### Safety -/

/-- A value is followed by a place that can be reached, and an error is told at one. -/
def EndsAhead (c : Position) : Except ParseError (α × Position) → Prop
  | .ok (_, next) => c.Reaches next
  | .error e => c.Reaches ⟨c.text, e.offset⟩

/-- **Every expression runs safely.** From a boundary of any text its walker has an answer,
which is the answer of its parser; the place after a value and the place of an error are
boundaries between the start and the end of the text. Every lexeme is an expression. -/
theorem expression_runs :
    (∀ l : Lexeme, IsExpression l.parser) ∧
    ∀ {α : Type} (e : Expression α) (c : Position), c.OnBoundary →
      ∃ answer, e.walker c = some answer ∧
        (e.parser c.text).parseAt? c.text c.offset = some answer ∧ EndsAhead c answer := by
  refine ⟨isExpression_lexeme, ?_⟩
  rintro α e ⟨t, offset⟩ ⟨before, rest, rfl, rfl⟩
  have hfollows := follows_expression (t := before ++ rest) e
  have hagrees := hfollows.agrees before rest rfl
  cases hread : e.parser (before ++ rest) rest with
  | ok x =>
    obtain ⟨a, m⟩ := x
    obtain ⟨u, rfl, hw⟩ := hfollows.ok rfl hread
    exact ⟨_, hw, hagrees ▸ hw, Position.reaches_append before u m⟩
  | error f =>
    obtain ⟨failed, reason⟩ := f
    obtain ⟨u, rfl⟩ := hfollows.within.failure hread
    have hw := hfollows.error rfl hread
    refine ⟨_, hw, hagrees ▸ hw, ?_⟩
    have hplace : Text.offsetOf (before ++ (u ++ failed)) failed = (before ++ u).byteLength := by
      rw [← List.append_assoc, Text.offsetOf_append]
    simp only [EndsAhead, Failure.toError, Failure.offset, hplace]
    exact Position.reaches_append before u failed

/-- A repetition whose parts take nothing ends, also between characters of several bytes. -/
theorem expression_runs_of_spaces :
    Position.OnBoundary ⟨"é  à".toList, 2⟩ ∧
    ∃ answer,
      (Expression.many (.many1 (.pattern (.run "^ *".toList (· == ' ')))) :
        Expression (List (List Text))).walker ⟨"é  à".toList, 2⟩ = some answer ∧
      ((Expression.many (.many1 (.pattern (.run "^ *".toList (· == ' ')))) :
        Expression (List (List Text))).parser "é  à".toList).parseAt? "é  à".toList 2 =
          some answer ∧
      EndsAhead ⟨"é  à".toList, 2⟩ answer := by
  have hboundary : Position.OnBoundary ⟨"é  à".toList, 2⟩ := ⟨['é'], "  à".toList, rfl, rfl⟩
  exact ⟨hboundary, expression_runs.2 _ _ hboundary⟩

end Markup
end Slipbox
