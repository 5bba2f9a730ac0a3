import Slipbox.Parsing.Combinator
import Slipbox.Parsing.Recogniser

/-!
# What combinators read

A parser on a text either succeeds with a value and a rest or fails. This module
says, for every combinator, exactly when it succeeds and with what, in terms of
the outcomes of its parts; later proofs take these equivalences and never open a
combinator again. The reason of a failure does not matter for them, so `Fails`
forgets it.
-/

namespace Slipbox.Parsing

variable {α β γ : Type}

/-- The parser does not succeed on the text. -/
def Fails (p : Parser α) (s : Text) : Prop := ∃ e, p s = .error e

instance (p : Parser α) (s : Text) : Decidable (Fails p s) :=
  match h : p s with
  | .error e => .isTrue ⟨e, h⟩
  | .ok _ => .isFalse fun ⟨_, he⟩ => nomatch h.symm.trans he

theorem fails_iff {p : Parser α} {s : Text} : Fails p s ↔ ∀ v r, p s ≠ .ok (v, r) := by
  constructor
  · intro ⟨e, he⟩ v r hok
    rw [he] at hok
    exact nomatch hok
  · intro h
    cases hp : p s with
    | error e => exact ⟨e, hp⟩
    | ok x => exact absurd hp (h x.1 x.2)

theorem not_fails_iff {p : Parser α} {s : Text} : ¬ Fails p s ↔ ∃ v r, p s = .ok (v, r) := by
  rw [fails_iff]
  constructor
  · intro h
    by_cases hx : ∃ v r, p s = .ok (v, r)
    · exact hx
    · exact absurd (fun v r hok => hx ⟨v, r, hok⟩) h
  · intro ⟨v, r, hok⟩ h
    exact h v r hok

theorem not_fails_of_ok {p : Parser α} {s r : Text} {v : α} (h : p s = .ok (v, r)) :
    ¬ Fails p s := not_fails_iff.2 ⟨v, r, h⟩

/-! ### Sequencing -/

theorem bind_eq_ok_iff {p : Parser α} {f : α → Parser β} {s r : Text} {b : β} :
    (p >>= f) s = .ok (b, r) ↔ ∃ a m, p s = .ok (a, m) ∧ f a m = .ok (b, r) := by
  cases h : p s with
  | error e =>
    rw [Parser.bind_error h]
    constructor
    · intro h
      exact nomatch h
    · intro ⟨a, m, h, _⟩
      exact nomatch h
  | ok x =>
    obtain ⟨a, m⟩ := x
    rw [Parser.bind_ok h]
    constructor
    · intro hf
      exact ⟨a, m, rfl, hf⟩
    · rintro ⟨a', m', heq, hf⟩
      cases heq
      exact hf

theorem map_eq_ok_iff {f : α → β} {p : Parser α} {s r : Text} {b : β} :
    (f <$> p) s = .ok (b, r) ↔ ∃ a, p s = .ok (a, r) ∧ f a = b := by
  rw [Parser.map_apply]
  cases p s with
  | error e => simp [Except.map]
  | ok x =>
    obtain ⟨a, m⟩ := x
    constructor
    · intro heq
      cases heq
      exact ⟨a, rfl, rfl⟩
    · rintro ⟨a', heq, rfl⟩
      cases heq
      rfl

theorem map_fails_iff {f : α → β} {p : Parser α} {s : Text} :
    Fails (f <$> p) s ↔ Fails p s := by
  simp only [fails_iff, ne_eq, map_eq_ok_iff, not_exists, not_and]
  constructor
  · intro h v r hok
    exact h (f v) r v hok rfl
  · intro h v r a hok _
    exact h a r hok

theorem preceded_eq_ok_iff {first : Parser α} {p : Parser β} {s r : Text} {b : β} :
    preceded first p s = .ok (b, r) ↔ ∃ a m, first s = .ok (a, m) ∧ p m = .ok (b, r) :=
  bind_eq_ok_iff (p := first) (f := fun _ => p)

/-- A region is its three parsers in sequence. -/
theorem region_eq_bind (left : Parser α) (inner : Parser β) (right : Parser γ) :
    region left inner right = left >>= fun _ => inner >>= fun v => (fun _ => v) <$> right := by
  funext s
  simp only [region]
  cases hl : left s with
  | error e => rw [Parser.bind_error hl]; rfl
  | ok x =>
    rw [Parser.bind_ok hl]
    cases hi : inner x.2 with
    | error e => rw [Parser.bind_error hi]; simp [bind, Except.bind, hi]
    | ok y =>
      rw [Parser.bind_ok hi, Parser.map_apply]
      cases hr : right y.2 <;> simp [bind, Except.bind, Except.map, hi, hr]

theorem region_eq_ok_iff {left : Parser α} {inner : Parser β} {right : Parser γ} {s r : Text}
    {b : β} :
    region left inner right s = .ok (b, r) ↔
      ∃ a x y c, left s = .ok (a, x) ∧ inner x = .ok (b, y) ∧ right y = .ok (c, r) := by
  rw [region_eq_bind]
  simp only [bind_eq_ok_iff, map_eq_ok_iff]
  grind

/-! ### Choice -/

@[simp] theorem alternation_nil (p : Parser α) : alternation p [] = p := rfl

theorem alternation_eq_ok_iff {p q : Parser α} {others : List (Parser α)} {s : Text}
    {x : α × Text} :
    alternation p (q :: others) s = .ok x ↔
      p s = .ok x ∨ Fails p s ∧ alternation q others s = .ok x := by
  cases h : p s with
  | error e => simp [alternation, h, Fails]
  | ok y => simp [alternation, h, Fails]

theorem alternation_fails_iff {p q : Parser α} {others : List (Parser α)} {s : Text} :
    Fails (alternation p (q :: others)) s ↔ Fails p s ∧ Fails (alternation q others) s := by
  simp only [Fails]
  cases h : p s with
  | error e => simp [alternation, h]
  | ok y => simp [alternation, h]

theorem optional_eq_ok_iff {p : Parser α} {s r : Text} {v : Option α} :
    optional p s = .ok (v, r) ↔
      (∃ a, v = some a ∧ p s = .ok (a, r)) ∨ v = none ∧ r = s ∧ Fails p s := by
  cases h : p s with
  | error e => simp [optional, h, Fails, eq_comm]
  | ok x =>
    obtain ⟨a, m⟩ := x
    have hopt : optional p s = .ok (some a, m) := by rw [optional, h]
    rw [hopt]
    constructor
    · intro heq
      cases heq
      exact .inl ⟨a, rfl, rfl⟩
    · rintro (⟨b, rfl, heq⟩ | ⟨-, -, hfails⟩)
      · cases heq
        rfl
      · exact absurd hfails (not_fails_of_ok h)

theorem getD_optional_apply (p : Parser (List α)) (s : Text) :
    ((·.getD []) <$> optional p) s = .ok (match p s with
      | .ok (as, r) => (as, r)
      | .error _ => ([], s)) := by
  rw [Parser.map_apply, optional]
  cases p s <;> rfl

/-! ### Texts -/

theorem literal_eq_ok_iff {expected s v r : Text} :
    literal expected s = .ok (v, r) ↔ v = expected ∧ s = expected ++ r := by
  rw [← Text.dropLead?_eq_some_iff]
  cases h : Text.dropLead? expected s with
  | none => simp [literal, h]
  | some rest => simp [literal, h, eq_comm]

theorem pattern_eq_ok_iff {p : Recogniser} {s v r : Text} :
    pattern p s = .ok (v, r) ↔ p.split s = some (v, r) := by
  cases h : p.split s with
  | none => simp [pattern, h]
  | some x => simp [pattern, h, Prod.ext_iff]

end Slipbox.Parsing
