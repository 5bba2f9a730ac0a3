import Slipbox.Proofs.Parsing.Repetition
import Slipbox.Proofs.Text

/-!
# Parsers stay within their text

What a parser leaves, and what was left where a failing attempt began, is the end of the
text that it was given. Every combinator keeps this. Such a parser gives the same answer
wherever its text stands, with all offsets moved on by what stands before
(`Within.seesOnlyRest`).

Of this, `Forward` is the part about values. It is enough for repetitions: such a parser
halts where it fails or takes nothing (`Forward.halts_iff`).
-/

namespace Slipbox.Parsing

variable {α β γ : Type} {p : Parser α} {s m r : Text} {a : α}

/-- The parser never moves back: what it leaves is the end of its text. -/
def Forward (p : Parser α) : Prop := ∀ {s r a}, p s = .ok (a, r) → r <:+ s

/-- The parser succeeds where it is run and ends there. -/
def TakesNothing (p : Parser α) (s : Text) : Prop := ∃ a, p s = .ok (a, s)

theorem takesNothing_iff (h : p s = .ok (a, m)) : TakesNothing p s ↔ m = s := by
  constructor
  · rintro ⟨b, hok⟩
    cases h.symm.trans hok
    rfl
  · rintro rfl
    exact ⟨a, h⟩

theorem Fails.not_takesNothing (h : Fails p s) : ¬ TakesNothing p s := by
  rintro ⟨a, hok⟩
  exact not_fails_of_ok hok h

theorem Forward.shorter_or_eq (hp : Forward p) (h : p s = .ok (a, m)) :
    m.length < s.length ∨ m = s := by
  rcases Nat.lt_or_ge m.length s.length with hlt | hle
  · exact .inl hlt
  · exact .inr ((hp h).eq_of_length_le hle)

theorem Forward.halts_iff (hp : Forward p) : Halts p s ↔ Fails p s ∨ TakesNothing p s := by
  constructor
  · intro h
    cases hread : p s with
    | error e => exact .inl ⟨e, hread⟩
    | ok x =>
      obtain ⟨a, m⟩ := x
      have heq : m = s := (hp.shorter_or_eq hread).resolve_left (h a m hread)
      exact .inr ((takesNothing_iff hread).2 heq)
  · rintro (hfails | hnothing) a m hok
    · exact absurd hfails (not_fails_of_ok hok)
    · rw [(takesNothing_iff hok).1 hnothing]
      exact Nat.lt_irrefl _

/-- The parser leaves the end of its text, and its failures lie there. -/
structure Within (p : Parser α) : Prop where
  rest : ∀ {s r a}, p s = .ok (a, r) → r <:+ s
  failure : ∀ {s e}, p s = .error e → e.rest <:+ s

/-! ### Sequencing -/

theorem within_pure (a : α) : Within (pure a : Parser α) := by
  constructor
  · intro s r b h
    cases h
    exact List.suffix_refl s
  · intro s e h
    exact nomatch h

theorem Within.bind {f : α → Parser β} (hp : Within p) (hf : ∀ a, Within (f a)) :
    Within (p >>= f) := by
  constructor
  · intro s r b h
    obtain ⟨a, m, hfirst, hsecond⟩ := bind_eq_ok_iff.1 h
    exact ((hf a).rest hsecond).trans (hp.rest hfirst)
  · intro s e h
    cases hfirst : p s with
    | error e' =>
      rw [Parser.bind_error hfirst] at h
      cases h
      exact hp.failure hfirst
    | ok x =>
      obtain ⟨a, m⟩ := x
      rw [Parser.bind_ok hfirst] at h
      exact ((hf a).failure h).trans (hp.rest hfirst)

theorem Within.map (f : α → β) (hp : Within p) : Within (f <$> p) := by
  constructor
  · intro s r b h
    obtain ⟨a, ha, -⟩ := map_eq_ok_iff.1 h
    exact hp.rest ha
  · intro s e h
    rw [Parser.map_apply] at h
    cases hp' : p s with
    | error e' =>
      rw [hp'] at h
      cases h
      exact hp.failure hp'
    | ok x =>
      rw [hp'] at h
      exact nomatch h

theorem Within.preceded {first : Parser β} (hfirst : Within first) (hp : Within p) :
    Within (preceded first p) :=
  hfirst.bind fun _ => hp

theorem Within.region {left : Parser β} {right : Parser γ} (hl : Within left) (hp : Within p)
    (hr : Within right) : Within (region left p right) := by
  rw [region_eq_bind]
  exact hl.bind fun _ => hp.bind fun _ => hr.map _

theorem within_sequence {steps : List (Parser Text)} (h : ∀ p ∈ steps, Within p) :
    Within (sequence steps) := by
  induction steps with
  | nil => exact within_pure []
  | cons p steps ih =>
    rw [List.forall_mem_cons] at h
    exact h.1.bind fun _ => (ih h.2).bind fun _ => within_pure _

/-! ### Choice -/

theorem Within.alternation {others : List (Parser α)} (hp : Within p)
    (hothers : ∀ q ∈ others, Within q) : Within (alternation p others) := by
  induction others generalizing p with
  | nil => exact hp
  | cons q others ih =>
    rw [List.forall_mem_cons] at hothers
    have hrest := ih hothers.1 hothers.2
    constructor
    · intro s r a h
      rcases alternation_eq_ok_iff.1 h with hok | ⟨-, hok⟩
      · exact hp.rest hok
      · exact hrest.rest hok
    · intro s e h
      -- the failure is that of the last parser
      cases hp' : p s with
      | error e' =>
        simp only [Parsing.alternation, hp'] at h
        exact hrest.failure h
      | ok x => simp [Parsing.alternation, hp'] at h

theorem Within.optional (hp : Within p) : Within (optional p) := by
  constructor
  · intro s r v h
    rcases optional_eq_ok_iff.1 h with ⟨a, -, hok⟩ | ⟨-, rfl, -⟩
    · exact hp.rest hok
    · exact List.suffix_refl _
  · intro s e h
    cases hp' : p s with
    | error e' => simp [Parsing.optional, hp'] at h
    | ok x => simp [Parsing.optional, hp'] at h

/-! ### Repetition -/

theorem Chain.suffix {as : List α} (hp : Forward p) (h : Chain p s as r) : r <:+ s := by
  induction h with
  | stop s => exact List.suffix_refl s
  | step head _ _ ih => exact ih.trans (hp head)

theorem Forward.many (hp : Forward p) : Forward (many p) := by
  intro s r as h
  rw [many_apply, Except.ok.injEq, repeated_eq_iff] at h
  exact h.1.suffix hp

theorem Within.many (hp : Within p) : Within (many p) := by
  constructor
  · exact Forward.many hp.rest
  · intro s e h
    exact nomatch h

theorem Within.many1 (hp : Within p) : Within (many1 p) :=
  hp.bind fun _ => hp.many.bind fun _ => within_pure _

/-! ### Texts -/

theorem within_literal (expected : Text) : Within (literal expected) := by
  constructor
  · intro s r v h
    obtain ⟨-, rfl⟩ := literal_eq_ok_iff.1 h
    exact List.suffix_append expected r
  · intro s e h
    rw [literal] at h
    cases hrest : Text.dropLead? expected s with
    | some rest => simp [hrest] at h
    | none =>
      simp only [hrest] at h
      cases h
      exact List.suffix_refl s

theorem within_pattern (recogniser : Recogniser) : Within (pattern recogniser) := by
  constructor
  · intro s r v h
    rw [← recogniser.append_of_split (pattern_eq_ok_iff.1 h)]
    exact List.suffix_append v r
  · intro s e h
    rw [pattern] at h
    cases hsplit : recogniser.split s with
    | some found => simp [hsplit] at h
    | none =>
      simp only [hsplit] at h
      cases h
      exact List.suffix_refl s

theorem Within.enclosed (delimiter : Text) (hp : Within p) : Within (enclosed delimiter p) :=
  (within_literal delimiter).region hp (within_literal delimiter)

/-! ### Places -/

/-- Running a parser behind a text. -/
theorem parseAt?_append (p : Parser α) (before s : Text) :
    p.parseAt? (before ++ s) before.byteLength = some (match p s with
      | .ok (value, rest) => .ok (value, ⟨before ++ s, Text.offsetOf (before ++ s) rest⟩)
      | .error failure => .error (failure.toError (before ++ s))) := by
  have hplace : (Position.start (before ++ s)).advance before.byteLength =
      ⟨before ++ s, before.byteLength⟩ := by
    simp [Position.start, Position.advance]
  rw [Parser.parseAt?, hplace, Position.rest?_append]
  rfl

theorem parseAt?_of_ok {s w m : Text} (h : p (w ++ m) = .ok (a, m)) :
    p.parseAt? (s ++ (w ++ m)) s.byteLength =
      some (.ok (a, ⟨s ++ (w ++ m), (s ++ w).byteLength⟩)) := by
  rw [parseAt?_append, h]
  simp [Text.offsetOf, ← Nat.add_assoc]

/-- What is taken from an offset of the text on stands there. -/
theorem Within.exists_of_parseAt? {t : Text} {offset stop : Nat} (hp : Within p)
    (hplace : offset ≤ t.byteLength)
    (h : p.parseAt? t offset = some (.ok (a, ⟨t, stop⟩))) :
    ∃ s w m, t = s ++ (w ++ m) ∧ s.byteLength = offset ∧ (s ++ w).byteLength = stop ∧
      p (w ++ m) = .ok (a, m) := by
  cases hrest : Position.rest? ⟨t, offset⟩ with
  | none =>
    have hstart : (Position.start t).advance offset = ⟨t, offset⟩ := by
      simp [Position.start, Position.advance, Nat.min_eq_left hplace]
    rw [Parser.parseAt?, hstart, hrest] at h
    exact nomatch h
  | some r =>
    obtain ⟨s, rfl, rfl⟩ := Position.rest?_eq_some_iff.1 hrest
    cases hr : p r with
    | error e =>
      rw [parseAt?_append, hr] at h
      exact nomatch h
    | ok x =>
      obtain ⟨b, m⟩ := x
      obtain ⟨w, rfl⟩ := hp.rest hr
      rw [parseAt?_of_ok hr] at h
      cases h
      exact ⟨s, w, m, rfl, rfl, rfl, hr⟩

theorem offsetOf_append_of_suffix (before : Text) (h : m <:+ s) :
    Text.offsetOf (before ++ s) m = before.byteLength + Text.offsetOf s m := by
  obtain ⟨w, rfl⟩ := h
  rw [← List.append_assoc, Text.offsetOf_append, Text.offsetOf_append, Text.byteLength_append]

/-- Behind a text the parser does what it does at the start of what follows: it succeeds with the
same value, or fails, as far on. -/
structure SeesOnlyRest (p : Parser α) : Prop where
  succeeds (before s : Text) (a : α) (k : Nat) :
    p.parseAt? (before ++ s) before.byteLength =
        some (.ok (a, ⟨before ++ s, before.byteLength + k⟩)) ↔
      p.parseAt? s 0 = some (.ok (a, ⟨s, k⟩))
  fails (before s : Text) (k : Nat) :
    (∃ reason, p.parseAt? (before ++ s) before.byteLength =
        some (.error ⟨before.byteLength + k, reason⟩)) ↔
      ∃ reason, p.parseAt? s 0 = some (.error ⟨k, reason⟩)

theorem Within.seesOnlyRest (hp : Within p) : SeesOnlyRest p := by
  have hstart (s : Text) := parseAt?_append p [] s
  simp only [List.nil_append, Text.byteLength_nil] at hstart
  constructor
  · intro before s a k
    rw [parseAt?_append, hstart]
    cases h : p s with
    | error e => simp
    | ok x =>
      obtain ⟨b, r⟩ := x
      simp [offsetOf_append_of_suffix before (hp.rest h)]
  · intro before s k
    rw [parseAt?_append, hstart]
    cases h : p s with
    | error e =>
      simp [Failure.toError, Failure.offset, offsetOf_append_of_suffix before (hp.failure h)]
    | ok x => simp

end Slipbox.Parsing
