import Slipbox.Markup.Recipe
import Slipbox.Parsing.Sequencer
import Slipbox.Proofs.Parsing.Outcome

/-!
# Ways of putting parsers together

Parsers are put one after another in four ways: as a sequence of texts, as the steps of a rule,
as a region, and behind something that is skipped. Each of them threads the text that is left on
its own. A rule in steps does what its first steps do and then what the rule of the others does
(`build_bind`), and the other three are rules in steps (`sequence_eq_build`, `region_eq_build`,
`preceded_eq_build`).

Neither sequences nor alternations depend on how their parsers are grouped
(`sequence_group`, `alternation_group_last`, `alternation_group_first`). What an alternation
answers is what one of its parsers answers at the place where the whole began
(`alternation_eq_iff`).
-/

namespace Slipbox.Parsing

open Sequencer

variable {α β γ ι : Type} {p q r : Parser α} {ps qs rs : List (Parser α)} {s : Text}

/-! ### Rules in steps -/

theorem build_pure (a : α) : build (pure a) = pure a := rfl

theorem build_next (p : Parser α) : build (next p) = p := by
  funext s
  cases h : p s <;> simp [build, next, h, bind, Except.bind]

theorem build_bind (rule : Steps α) (f : α → Steps β) :
    build (rule >>= f) = build rule >>= fun a => build (f a) := by
  funext s
  cases h : rule ⟨s⟩ with
  | error e =>
    have hrule : build rule s = .error e := by simp [build, h, bind, Except.bind]
    rw [Parser.bind_error hrule]
    simp [build, h, bind, StateT.bind, Except.bind]
  | ok x =>
    obtain ⟨a, seq⟩ := x
    have hrule : build rule s = .ok (a, seq.rest) := by simp [build, h, bind, Except.bind]
    rw [Parser.bind_ok hrule]
    simp [build, h, bind, StateT.bind, Except.bind]

theorem build_map (f : α → β) (rule : Steps α) : build (f <$> rule) = f <$> build rule := by
  rw [map_eq_pure_bind, map_eq_pure_bind, build_bind]
  rfl

theorem build_mapM (step : ι → Steps α) (steps : List ι) :
    build (steps.mapM step) = steps.mapM fun i => build (step i) := by
  induction steps with
  | nil => rfl
  | cons i steps ih =>
    rw [List.mapM_cons, List.mapM_cons, build_bind]
    simp only [build_bind, build_pure, ih]

/-! ### One parser after another -/

theorem sequence_eq_mapM (ps : List (Parser Text)) :
    sequence ps = List.flatten <$> ps.mapM id := by
  induction ps with
  | nil => rfl
  | cons p ps ih =>
    rw [sequence, List.mapM_cons, ih]
    simp only [map_eq_pure_bind, bind_assoc, pure_bind, List.flatten_cons, id]

/-- A sequence is a rule in steps that puts the texts of its steps together. -/
theorem sequence_eq_build {Value : ι → Type} (p : (i : ι) → Parser (Value i))
    (text : (i : ι) → Value i → Text) (steps : List ι) :
    sequence (steps.map fun i => text i <$> p i) =
      List.flatten <$> build (steps.mapM fun i => text i <$> next (p i)) := by
  rw [sequence_eq_mapM, List.mapM_map, build_mapM]
  simp only [build_map, build_next]
  rfl

theorem region_eq_build (left : Parser α) (inner : Parser β) (right : Parser γ) :
    region left inner right = build (do
      let _ ← next left
      let value ← next inner
      let _ ← next right
      pure value) := by
  rw [region_eq_bind]
  simp only [build_bind, build_next, build_pure, map_eq_pure_bind]

theorem preceded_eq_build (first : Parser α) (p : Parser β) :
    preceded first p = build (do
      let _ ← next first
      next p) := by
  simp only [build_bind, build_next]
  rfl

theorem sequence_append (ps qs : List (Parser Text)) :
    sequence (ps ++ qs) = (do
      let first ← sequence ps
      let following ← sequence qs
      pure (first ++ following)) := by
  induction ps with
  | nil => simp [sequence]
  | cons p ps ih =>
    rw [List.cons_append, sequence, ih, sequence]
    simp only [bind_assoc, pure_bind, List.append_assoc]

/-- A sequence fails as the first step does that fails where the steps before it have ended. -/
theorem sequence_eq_error_iff {steps : List (Parser Text)} {e : Failure} :
    sequence steps s = .error e ↔ ∃ before step after taken m, steps = before ++ step :: after ∧
      sequence before s = .ok (taken, m) ∧ step m = .error e := by
  constructor
  · intro h
    induction steps generalizing s with
    | nil => exact nomatch h
    | cons first steps ih =>
      cases hfirst : first s with
      | error e' =>
        rw [sequence, Parser.bind_error hfirst] at h
        cases h
        exact ⟨[], first, steps, [], s, rfl, rfl, hfirst⟩
      | ok x =>
        obtain ⟨text, rest⟩ := x
        rw [sequence, Parser.bind_ok hfirst] at h
        have hrest : sequence steps rest = .error e := by
          cases hrest : sequence steps rest with
          | error e' => rwa [Parser.bind_error hrest] at h
          | ok y =>
            rw [Parser.bind_ok hrest] at h
            exact nomatch h
        obtain ⟨before, step, after, taken, m, rfl, hbefore, hstep⟩ := ih hrest
        refine ⟨first :: before, step, after, text ++ taken, m, rfl, ?_, hstep⟩
        exact bind_eq_ok_iff.2 ⟨text, rest, hfirst, bind_eq_ok_iff.2 ⟨taken, m, hbefore, rfl⟩⟩
  · rintro ⟨before, step, after, taken, m, rfl, hbefore, h⟩
    rw [sequence_append, Parser.bind_ok hbefore]
    exact Parser.bind_error (Parser.bind_error h)

/-- Steps of a sequence may be a sequence of their own. -/
theorem sequence_group (ps qs rs : List (Parser Text)) :
    sequence (ps ++ sequence qs :: rs) = sequence (ps ++ (qs ++ rs)) := by
  rw [sequence_append, sequence_append, sequence_append, sequence]

/-! ### One parser after the failure of another -/

theorem alternation_pair_apply (p q : Parser α) (s : Text) : alternation p [q] s =
    match p s with
    | .ok success => .ok success
    | .error _ => q s := rfl

theorem alternation_cons (p q : Parser α) (qs : List (Parser α)) :
    alternation p (q :: qs) = alternation p [alternation q qs] := rfl

theorem alternation_assoc (p q r : Parser α) :
    alternation (alternation p [q]) [r] = alternation p [alternation q [r]] := by
  funext s
  simp only [alternation_pair_apply]
  cases p s with
  | ok => rfl
  | error => rfl

/-- The last alternatives may be an alternation of their own. -/
theorem alternation_group_last (p r : Parser α) (qs rs : List (Parser α)) :
    alternation p (qs ++ [alternation r rs]) = alternation p (qs ++ r :: rs) := by
  induction qs generalizing p with
  | nil => rfl
  | cons q qs ih =>
    rw [List.cons_append, List.cons_append, alternation_cons, ih, ← alternation_cons]

/-- The first alternatives may be an alternation of their own. -/
theorem alternation_group_first (p r : Parser α) (qs rs : List (Parser α)) :
    alternation (alternation p qs) (r :: rs) = alternation p (qs ++ r :: rs) := by
  induction qs generalizing p with
  | nil => rfl
  | cons q qs ih =>
    calc alternation (alternation p (q :: qs)) (r :: rs)
        = alternation (alternation p [alternation q qs]) [alternation r rs] := by
          rw [alternation_cons p q, alternation_cons _ r]
      _ = alternation p [alternation (alternation q qs) [alternation r rs]] :=
          alternation_assoc ..
      _ = alternation p [alternation q (qs ++ r :: rs)] := by
          rw [← alternation_cons (alternation q qs) r rs, ih]
      _ = _ := (alternation_cons ..).symm

/-- An alternation answers what one of its parsers answers at the same place, the first that does
not fail there, or else the last. -/
theorem alternation_eq_iff {outcome : Except Failure (α × Text)} :
    alternation p ps s = outcome ↔ ∃ before q after, p :: ps = before ++ q :: after ∧
      (∀ b ∈ before, Fails b s) ∧ q s = outcome ∧ (Fails q s → after = []) := by
  induction ps generalizing p with
  | nil =>
    constructor
    · intro h
      exact ⟨[], p, [], rfl, by simp, h, fun _ => rfl⟩
    · rintro ⟨before, q, after, hps, -, h, -⟩
      cases before with
      | nil =>
        cases hps
        exact h
      | cons b before => simp at hps
  | cons r ps ih =>
    cases hp : p s with
    | ok x =>
      have hfirst : alternation p (r :: ps) s = .ok x := alternation_eq_ok_iff.2 (.inl hp)
      rw [hfirst]
      constructor
      · rintro rfl
        exact ⟨[], p, r :: ps, rfl, by simp, hp, fun hfails => absurd hfails (not_fails_of_ok hp)⟩
      · rintro ⟨before, q, after, hps, hbefore, h, -⟩
        cases before with
        | nil =>
          cases hps
          exact hp.symm.trans h
        | cons b before =>
          obtain ⟨rfl, -⟩ := List.cons.inj hps
          exact absurd (hbefore _ List.mem_cons_self) (not_fails_of_ok hp)
    | error e =>
      have hnext : alternation p (r :: ps) s = alternation r ps s := by
        rw [alternation_cons, alternation_pair_apply, hp]
      rw [hnext, ih]
      constructor
      · rintro ⟨before, q, after, hps, hbefore, h⟩
        refine ⟨p :: before, q, after, by rw [hps]; rfl, ?_, h⟩
        exact List.forall_mem_cons.2 ⟨⟨e, hp⟩, hbefore⟩
      · rintro ⟨before, q, after, hps, hbefore, h, hlast⟩
        cases before with
        | nil =>
          cases hps
          exact nomatch hlast ⟨e, hp⟩
        | cons b before =>
          obtain ⟨-, hrest⟩ := List.cons.inj hps
          exact ⟨before, q, after, hrest, (List.forall_mem_cons.1 hbefore).2, h, hlast⟩

/-! ### Places noted on the way -/

theorem withRest_eq_build (p : Parser α) :
    withRest p = build (do
      let value ← next p
      let rest ← place
      pure (value, rest)) := by
  simp only [build_bind, build_next, build_pure]
  funext s
  cases h : p s with
  | error e =>
    rw [Parser.bind_error h, withRest, h]
    rfl
  | ok x =>
    obtain ⟨a, m⟩ := x
    rw [Parser.bind_ok h, withRest, h]
    rfl

end Slipbox.Parsing

namespace Slipbox.Markup

open Slipbox.Parsing Slipbox.Parsing.Sequencer

/-- Noting the place after each step is a rule in steps. -/
theorem recordSteps_eq_build (ps : List (Parser Value)) :
    recordSteps ps = build (ps.mapM fun p => do
      let value ← next p
      let rest ← place
      pure (.list [value, .place rest])) := by
  rw [build_mapM]
  induction ps with
  | nil => rfl
  | cons p ps ih =>
    rw [recordSteps, List.mapM_cons, ih, withRest_eq_build]
    simp only [build_bind, build_next, build_pure, bind_assoc, pure_bind]

/-- **The ways of putting parsers together agree.** A sequence, a region and a parser behind a
skipped one are rules in steps, with the same value, rest and failure; a sequence puts the texts
of its steps together, and fails as the first step does that fails where the steps before it
ended. Grouping changes neither a sequence nor an alternation. All alternatives are tried where
the alternation began: it answers what the first one answers that does not fail there, or
else the last. -/
theorem compositions_agree {α β γ ι : Type} :
    (∀ {Value : ι → Type} (p : (i : ι) → Parser (Value i)) (text : (i : ι) → Value i → Text)
      (steps : List ι), Parsing.sequence (steps.map fun i => text i <$> p i) =
        List.flatten <$> build (steps.mapM fun i => text i <$> next (p i))) ∧
    (∀ (left : Parser α) (inner : Parser β) (right : Parser γ), region left inner right =
      build (do
        let _ ← next left
        let value ← next inner
        let _ ← next right
        pure value)) ∧
    (∀ (first : Parser α) (p : Parser β), preceded first p = build (do
      let _ ← next first
      next p)) ∧
    (∀ ps : List (Parser Value), recordSteps ps = build (ps.mapM fun p => do
      let value ← next p
      let rest ← place
      pure (.list [value, .place rest]))) ∧
    (∀ (steps : List (Parser Text)) (s : Text) (e : Failure),
      Parsing.sequence steps s = .error e ↔
      ∃ before step after taken m, steps = before ++ step :: after ∧
        Parsing.sequence before s = .ok (taken, m) ∧ step m = .error e) ∧
    (∀ ps qs rs : List (Parser Text),
      Parsing.sequence (ps ++ Parsing.sequence qs :: rs) = Parsing.sequence (ps ++ (qs ++ rs))) ∧
    (∀ (p r : Parser α) (qs rs : List (Parser α)),
      alternation p (qs ++ [alternation r rs]) = alternation p (qs ++ r :: rs) ∧
      alternation (alternation p qs) (r :: rs) = alternation p (qs ++ r :: rs)) ∧
    ∀ (p : Parser α) (ps : List (Parser α)) (s : Text) (outcome : Except Failure (α × Text)),
      alternation p ps s = outcome ↔ ∃ before q after, p :: ps = before ++ q :: after ∧
        (∀ b ∈ before, Fails b s) ∧ q s = outcome ∧ (Fails q s → after = []) :=
  ⟨sequence_eq_build, region_eq_build, preceded_eq_build, recordSteps_eq_build,
    fun _ _ _ => sequence_eq_error_iff, sequence_group,
    fun p r qs rs => ⟨alternation_group_last p r qs rs, alternation_group_first p r qs rs⟩,
    fun _ _ _ _ => alternation_eq_iff⟩

end Slipbox.Markup
