import Slipbox.Markup.Lexeme
import Slipbox.Proofs.Parsing.Walking

/-!
# Repetition takes all it can

A parser that never moves back ends strictly after the place where it began, or takes nothing.
Repeating it therefore leads along a chain of values, each of which takes something, up to a place
where the parser fails or takes nothing (`Forward.many_eq_ok_iff`). There is only one such
chain, and every other one from the same place is a beginning of it. The loop that compares byte
offsets for equality, and could go on for ever with a parser that moves back, runs through
the same chain (`Forward.turns_iff`).

The two repetitions differ in what they do with a value that takes nothing: as the first value
it is kept by `many1`, while `many` drops it. Where the parser has no such value, `many` is an
optional `many1` (`Forward.many_eq_optional_iff`).

On the places of one text, what is left tells the place. So nothing is lost by parsers that are
given what is left and not the place.
-/

namespace Slipbox.Parsing

variable {α : Type} {p : Parser α} {s : Text}

/-! ### Zero or more -/

theorem Forward.many_eq_ok_iff (hp : Forward p) {as : List α} {r : Text} :
    Parsing.many p s = .ok (as, r) ↔ Chain p s as r ∧ (Fails p r ∨ TakesNothing p r) := by
  rw [many_apply, Except.ok.injEq, repeated_eq_iff, hp.halts_iff]

/-- The loop over byte positions ends, with the values of the repetition and at its place. -/
theorem Forward.turns_iff (hp : Forward p) (before s : Text) {found : List α × Position} :
    (Parsing.many p).parseAt? (before ++ s) before.byteLength = some (.ok found) ↔
      (Walker.ofParser p).Turns ⟨before ++ s, before.byteLength⟩ found := by
  obtain ⟨hchain, hhalts⟩ := chain_repeated p s
  obtain ⟨u, hs, hturns⟩ := hchain.turns (w := .ofParser p) (fun _ _ _ => rfl) hp hhalts rfl
  have hmany : Parsing.many p (u ++ (repeated p s).2) = .ok (repeated p s) := by
    rw [← hs, many_apply]
  have hread := parseAt?_of_ok (s := before) hmany
  rw [← hs] at hread
  rw [hread]
  constructor
  · intro h
    cases h
    exact hturns
  · intro h
    rw [h.unique hturns]

/-! ### One or more -/

theorem Forward.many1 (hp : Forward p) : Forward (many1 p) := by
  intro s r as h
  obtain ⟨a, m, bs, head, hrest, -⟩ := many1_eq_ok_iff_many.1 h
  exact (hp.many hrest).trans (hp head)

/-- Zero or more are one or more or none, but for a first value that takes nothing. -/
theorem Forward.many_eq_optional_iff (hp : Forward p) :
    Parsing.many p s = ((·.getD []) <$> optional (Parsing.many1 p)) s ↔ ¬ TakesNothing p s := by
  rw [getD_optional_apply, many_apply, many1_apply]
  cases hread : p s with
  | error e =>
    have hfails : Fails p s := ⟨e, hread⟩
    simp [repeated_error hread, hfails.not_takesNothing, Except.map]
  | ok x =>
    obtain ⟨a, m⟩ := x
    rw [takesNothing_iff hread]
    rcases hp.shorter_or_eq hread with hlt | rfl
    · have hne : m ≠ s := by
        rintro rfl
        exact Nat.lt_irrefl _ hlt
      simp [repeated_ok hread hlt, hne, Except.map]
    · -- `many` drops the value that `many1` keeps
      simp [repeated_still hread (Nat.lt_irrefl _), Except.map]

/-- **Repetition takes the one chain that cannot go on.** A parser that never moves back is
repeated along values that each take something, up to a place where it fails or takes nothing.
Whatever else can be read one value after another from the same place is a beginning of that,
and the loop over byte positions ends with the same. `many1` fails as the parser itself does,
and otherwise has the first value, even one that takes nothing, in front of what `many` reads
from there on. Exactly where the parser does not succeed without taking anything, `many` is an
optional `many1`. Neither moves back, so that all this holds of nested repetitions. -/
theorem repetition_maximal {p : Parser α} (hp : Forward p) :
    (∀ s, ∃ as r, many p s = .ok (as, r)) ∧
    (∀ s as r, many p s = .ok (as, r) ↔
      Chain p s as r ∧ (Fails p r ∨ TakesNothing p r)) ∧
    (∀ s bs m, Chain p s bs m →
      ∃ cs r, many p m = .ok (cs, r) ∧ many p s = .ok (bs ++ cs, r)) ∧
    (∀ before s found,
      (many p).parseAt? (before ++ s) before.byteLength = some (.ok found) ↔
        (Walker.ofParser p).Turns ⟨before ++ s, before.byteLength⟩ found) ∧
    (∀ s e, many1 p s = .error e ↔ p s = .error e) ∧
    (∀ s as r, many1 p s = .ok (as, r) ↔
      ∃ a m bs, p s = .ok (a, m) ∧ many p m = .ok (bs, r) ∧ as = a :: bs) ∧
    (∀ s, many p s = ((·.getD []) <$> optional (many1 p)) s ↔ ¬ TakesNothing p s) ∧
    Forward (many p) ∧ Forward (many1 p) := by
  refine ⟨fun s => ⟨_, _, many_apply p s⟩, fun _ _ _ => hp.many_eq_ok_iff, ?_,
    fun before s _ => hp.turns_iff before s, fun _ _ => many1_eq_error_iff,
    fun _ _ _ => many1_eq_ok_iff_many, fun _ => hp.many_eq_optional_iff, hp.many, hp.many1⟩
  intro s bs m hchain
  refine ⟨_, _, many_apply p m, ?_⟩
  rw [many_apply, hchain.repeated_append]

/-- A run of spaces may be empty: then it ends `many`, and `many1` keeps it. -/
theorem repetition_maximal_of_spaces :
    Forward Markup.spaces ∧
    many Markup.spaces "  é".toList = .ok (["  ".toList], ['é']) ∧
    (Walker.ofParser Markup.spaces).Turns ⟨"é  é".toList, 2⟩
      (["  ".toList], ⟨"é  é".toList, 4⟩) ∧
    many1 Markup.spaces ['é'] = .ok ([[]], ['é']) ∧
    many Markup.spaces ['é'] ≠ ((·.getD []) <$> optional (many1 Markup.spaces)) ['é'] := by
  have hforward : Forward Markup.spaces := (within_pattern _).rest
  have hnothing : TakesNothing Markup.spaces ['é'] := ⟨[], rfl⟩
  obtain ⟨-, hmany, -, hturns, -, hmany1, hoptional, -⟩ := repetition_maximal hforward
  have hspaces : many Markup.spaces "  é".toList = .ok (["  ".toList], ['é']) :=
    (hmany _ _ _).2 ⟨.step rfl (by decide) (.stop _), .inr hnothing⟩
  have hnone : many Markup.spaces ['é'] = .ok ([], ['é']) :=
    (hmany _ _ _).2 ⟨.stop _, .inr hnothing⟩
  refine ⟨hforward, hspaces, ?_, ?_, ?_⟩
  · exact (hturns ['é'] "  é".toList _).1 (parseAt?_of_ok (w := "  ".toList) hspaces)
  · exact (hmany1 _ _ _).2 ⟨[], ['é'], [], rfl, hnone, rfl⟩
  · intro heq
    exact (hoptional _).1 heq hnothing

end Slipbox.Parsing
