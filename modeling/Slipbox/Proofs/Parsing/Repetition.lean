import Slipbox.Proofs.Parsing.Outcome

/-!
# What repetitions read

`Chain p s as r` says that `p`, run from `s` on, gives the values `as` one after
another, takes something each time and leaves `r`. A repetition reads the chain
that ends where `p` halts, that is, fails or takes nothing (`repeated_eq_iff`). For
a parser that takes something whenever it succeeds, halting is failing
(`many_eq_ok_iff`, `many1_eq_ok_iff`).
-/

namespace Slipbox.Parsing

variable {α β : Type} {p : Parser α} {s m r : Text} {a : α} {as bs : List α}

/-- Successive values of a parser, each of which takes something. -/
inductive Chain (p : Parser α) : Text → List α → Text → Prop where
  | stop (s : Text) : Chain p s [] s
  | step {s m r : Text} {a : α} {as : List α} (head : p s = .ok (a, m))
      (shorter : m.length < s.length) (tail : Chain p m as r) : Chain p s (a :: as) r

/-- The parser fails or takes nothing. -/
def Halts (p : Parser α) (s : Text) : Prop := ∀ a m, p s = .ok (a, m) → ¬ m.length < s.length

/-- The parser takes something whenever it succeeds. -/
def Advances (p : Parser α) : Prop := ∀ {s a m}, p s = .ok (a, m) → m.length < s.length

theorem Advances.halts_iff (hp : Advances p) : Halts p s ↔ Fails p s := by
  rw [fails_iff]
  constructor
  · intro h a m hok
    exact h a m hok (hp hok)
  · intro h a m hok
    exact absurd hok (h a m)

theorem Chain.append (first : Chain p s as m) (last : Chain p m bs r) :
    Chain p s (as ++ bs) r := by
  induction first with
  | stop s => exact last
  | step head shorter _ ih => exact .step head shorter (ih last)

/-- A chain reads the same with more text at the end if each of its steps does, under a condition
that steps keep. -/
theorem Chain.extend {P : Text → Prop} (hs : P s) (h : Chain p s as m)
    (hstep : ∀ {s a m}, P s → p s = .ok (a, m) → P m ∧ p (s ++ r) = .ok (a, m ++ r)) :
    Chain p (s ++ r) as (m ++ r) := by
  induction h with
  | stop s => exact .stop (s ++ r)
  | step head shorter _ ih =>
    obtain ⟨hm, hok⟩ := hstep hs head
    refine .step hok ?_ (ih hm)
    rw [List.length_append, List.length_append]
    omega

theorem Chain.repeated_eq (h : Chain p s as r) (hr : Halts p r) : repeated p s = (as, r) := by
  induction h with
  | stop s =>
    cases hp : p s with
    | error e => exact repeated_error hp
    | ok x => exact repeated_still hp (hr x.1 x.2 hp)
  | step head shorter _ ih => rw [repeated_ok head shorter, ih hr]

theorem chain_repeated (p : Parser α) (s : Text) :
    Chain p s (repeated p s).1 (repeated p s).2 ∧ Halts p (repeated p s).2 := by
  induction hn : s.length using Nat.strongRecOn generalizing s with
  | ind n ih =>
    cases hp : p s with
    | error e =>
      rw [repeated_error hp]
      refine ⟨.stop s, ?_⟩
      intro a m hok
      rw [hp] at hok
      exact nomatch hok
    | ok x =>
      obtain ⟨a, m⟩ := x
      by_cases hlt : m.length < s.length
      · rw [repeated_ok hp hlt]
        have hrest := ih m.length (hn ▸ hlt) m rfl
        exact ⟨.step hp hlt hrest.1, hrest.2⟩
      · rw [repeated_still hp hlt]
        refine ⟨.stop s, ?_⟩
        intro a' m' hok
        rw [hp] at hok
        cases hok
        exact hlt

theorem repeated_eq_iff : repeated p s = (as, r) ↔ Chain p s as r ∧ Halts p r := by
  constructor
  · intro h
    have hchain := chain_repeated p s
    rw [h] at hchain
    exact hchain
  · intro ⟨hchain, hr⟩
    exact hchain.repeated_eq hr

theorem Chain.rest_length_le (h : Chain p s as m) : m.length ≤ s.length := by
  induction h with
  | stop s => exact Nat.le_refl _
  | step _ shorter _ ih => exact Nat.le_of_lt (Nat.lt_of_le_of_lt ih shorter)

/-- A repetition goes through all values that can be read one after another. -/
theorem Chain.repeated_append (h : Chain p s as m) :
    repeated p s = (as ++ (repeated p m).1, (repeated p m).2) := by
  obtain ⟨hrest, hhalts⟩ := chain_repeated p m
  exact (h.append hrest).repeated_eq hhalts

/-! ### The first value -/

theorem many1_eq_ok_iff_many : many1 p s = .ok (as, r) ↔
    ∃ a m bs, p s = .ok (a, m) ∧ many p m = .ok (bs, r) ∧ as = a :: bs := by
  rw [many1, bind_eq_ok_iff]
  constructor
  · intro ⟨a, m, head, hrest⟩
    obtain ⟨bs, m', hmany, hpure⟩ := bind_eq_ok_iff.1 hrest
    cases hpure
    exact ⟨a, m, bs, head, hmany, rfl⟩
  · rintro ⟨a, m, bs, head, hmany, rfl⟩
    exact ⟨a, m, head, bind_eq_ok_iff.2 ⟨bs, r, hmany, rfl⟩⟩

theorem many1_eq_error_iff {e : Failure} : many1 p s = .error e ↔ p s = .error e := by
  rw [many1_apply]
  cases p s with
  | error e' => simp [Except.map]
  | ok x => simp [Except.map]

theorem many1_fails_iff : Fails (many1 p) s ↔ Fails p s :=
  exists_congr fun _ => many1_eq_error_iff

/-! ### Parsers that advance -/

theorem many_eq_ok_iff (hp : Advances p) : many p s = .ok (as, r) ↔ Chain p s as r ∧ Fails p r := by
  rw [many_apply, Except.ok.injEq, repeated_eq_iff, hp.halts_iff]

theorem many1_eq_ok_iff (hp : Advances p) :
    many1 p s = .ok (as, r) ↔ as ≠ [] ∧ Chain p s as r ∧ Fails p r := by
  rw [many1_eq_ok_iff_many]
  constructor
  · rintro ⟨a, m, bs, head, hmany, rfl⟩
    rw [many_eq_ok_iff hp] at hmany
    exact ⟨List.cons_ne_nil a bs, .step head (hp head) hmany.1, hmany.2⟩
  · intro ⟨hne, hchain, hr⟩
    cases hchain with
    | stop => exact absurd rfl hne
    | step head shorter tail =>
      exact ⟨_, _, _, head, (many_eq_ok_iff hp).2 ⟨tail, hr⟩, rfl⟩

theorem Advances.many1 (hp : Advances p) : Advances (many1 p) := by
  intro s as r h
  obtain ⟨hne, hchain, -⟩ := (many1_eq_ok_iff hp).1 h
  clear h
  induction hchain with
  | stop => exact absurd rfl hne
  | step head shorter tail ih =>
    cases tail with
    | stop => exact shorter
    | step head' shorter' tail' =>
      have := ih (List.cons_ne_nil _ _)
      omega

/-! ### Chains whose values can be written

A chain of values that were written by `write` without loss is as long as what was
written, so if it reads exactly that text, every value is read from its own part.
-/

/-- Every value is read from what `write` gives for it, before what follows. -/
inductive ReadsBack (p : Parser α) (write : α → Text) : List α → Text → Prop where
  | stop (r : Text) : ReadsBack p write [] r
  | step {a : α} {as : List α} {r : Text}
      (head : p (write a ++ (as.flatMap write ++ r)) = .ok (a, as.flatMap write ++ r))
      (tail : ReadsBack p write as r) : ReadsBack p write (a :: as) r

theorem ReadsBack.chain {write : α → Text} (hp : Advances p) (h : ReadsBack p write as r) :
    Chain p (as.flatMap write ++ r) as r := by
  induction h with
  | stop r => exact .stop r
  | step head _ ih =>
    rw [List.flatMap_cons, List.append_assoc]
    exact .step head (hp head) ih

/-- A value takes at least as much as `write` gives for it. -/
def TakesWritten (p : Parser α) (write : α → Text) : Prop :=
  ∀ {s a m}, p s = .ok (a, m) → ∃ w, s = w ++ m ∧ (write a).length ≤ w.length

theorem Chain.length_le {write : α → Text} (hp : TakesWritten p write) (h : Chain p s as r) :
    ∃ w, s = w ++ r ∧ (as.flatMap write).length ≤ w.length := by
  induction h with
  | stop s => exact ⟨[], rfl, Nat.le_refl 0⟩
  | step head _ _ ih =>
    obtain ⟨w, rfl, hw⟩ := ih
    obtain ⟨v, rfl, hv⟩ := hp head
    refine ⟨v ++ w, (List.append_assoc v w _).symm, ?_⟩
    rw [List.flatMap_cons, List.length_append, List.length_append]
    omega

/-- A chain that reads exactly what its values are written as reads each from its own part. -/
theorem Chain.readsBack {write : α → Text} (hp : TakesWritten p write)
    (h : Chain p (as.flatMap write ++ r) as r) : ReadsBack p write as r := by
  induction as with
  | nil => exact .stop r
  | cons a as ih =>
    rw [List.flatMap_cons, List.append_assoc] at h
    cases h with
    | step head _ tail =>
      obtain ⟨v, hv, hlv⟩ := hp head
      obtain ⟨w, rfl, hlw⟩ := tail.length_le hp
      have hlen := congrArg List.length hv
      simp only [List.length_append] at hlen
      obtain ⟨-, hrest⟩ := List.append_inj' hv (by simp only [List.length_append]; omega)
      have hw : w = as.flatMap write := (List.append_cancel_right hrest).symm
      subst hw
      exact .step head (ih tail)

end Slipbox.Parsing
