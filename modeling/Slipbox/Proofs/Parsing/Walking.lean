import Slipbox.Proofs.Parsing.Suffix

/-!
# Parsers as walks over byte positions

The parsers of the slip-box take the text that is left. Here are the same combinators on byte
positions: a walker starts at a position, cuts the text at byte offsets, and answers with a value
and the position after it, or with an error. Two things can keep it from answering. It may cut
inside a character, and it may repeat for ever: the loop of a repetition ends at a failure or
where its position stands still, but nothing in it forbids a step backwards.

`Follows t w p` says that this does not happen on the text `t`: from every boundary between
two characters the walker `w` answers what the parser `p` answers there. Every combinator
keeps this (`Follows.andThen`, `Follows.alternation`, `Follows.many`, …), because parsers
that stay within their text leave positions that are boundaries again and never lie before
the one where they began.
-/

namespace Slipbox.Parsing

variable {α β γ : Type} {t before rest m : Text} {a : α} {e : Failure}

/-- A parser on byte positions. There is no answer where the text would be cut inside a
character, or where a repetition would not end. -/
abbrev Walker (α : Type) := Position → Option (Except ParseError (α × Position))

namespace Walker

/-! ### Steps -/

def give (value : α) : Walker α := fun c => some (.ok (value, c))

/-- The failure of an attempt that began at the position. -/
def refuse (reason : Reason) : Walker α := fun c =>
  some (.error ⟨c.offset, reason.describe c.offset⟩)

/-- One step and what follows it; the first failure is the failure of the whole. -/
def andThen (w : Walker α) (following : α → Walker β) : Walker β := fun c => do
  match ← w c with
  | .ok (value, next) => following value next
  | .error e => some (.error e)

def literal (expected : Text) : Walker Text := fun c => do
  let rest ← c.rest?
  if Text.startsWith expected rest then
    let next := c.advance expected.byteLength
    let taken ← c.sliceTo? next
    give taken next
  else refuse (.missing expected) c

def pattern (r : Recogniser) : Walker Text := fun c => do
  let rest ← c.rest?
  match r.split rest with
  | some (lexeme, _) => give lexeme (c.advance lexeme.byteLength)
  | none => refuse (.unmatched r.source) c

/-! ### Combinators -/

def map (f : α → β) (w : Walker α) : Walker β := w.andThen fun value => give (f value)

/-- The texts of the walkers in order, put behind what was taken before. -/
def sequenceAfter (taken : Text) : List (Walker Text) → Walker Text
  | [] => give taken
  | w :: others => w.andThen fun text => sequenceAfter (taken ++ text) others

def sequence : List (Walker Text) → Walker Text := sequenceAfter []

def alternation : Walker α → List (Walker α) → Walker α
  | w, [] => w
  | w, v :: others => fun c => do
    match ← w c with
    | .ok found => some (.ok found)
    | .error _ => alternation v others c

/-- A run of the loop of a repetition. It ends at a failure and where the position stands
still. -/
inductive Turns (w : Walker α) : Position → List α × Position → Prop where
  | failed {c : Position} {e : ParseError} (h : w c = some (.error e)) : Turns w c ([], c)
  | still {c next : Position} {value : α} (h : w c = some (.ok (value, next)))
    (hstill : next.offset = c.offset) : Turns w c ([], c)
  | turn {c next last : Position} {value : α} {values : List α}
    (h : w c = some (.ok (value, next))) (hmoved : next.offset ≠ c.offset)
    (hrest : Turns w next (values, last)) : Turns w c (value :: values, last)

open Classical in
/-- The loop of a repetition: what a run of it finds, and no answer if no run ends. -/
noncomputable def repeated (w : Walker α) (c : Position) : Option (List α × Position) :=
  if h : ∃ found, w.Turns c found then some h.choose else none

noncomputable def many (w : Walker α) : Walker (List α) := fun c => do
  let (values, last) ← w.repeated c
  give values last

noncomputable def many1 (w : Walker α) : Walker (List α) :=
  w.andThen fun first => w.many.map (first :: ·)

def optional (w : Walker α) : Walker (Option α) := fun c => do
  match ← w c with
  | .ok (value, next) => give (some value) next
  | .error _ => give none c

def region (left : Walker α) (inner : Walker β) (right : Walker γ) : Walker β :=
  left.andThen fun _ => inner.andThen fun value => right.andThen fun _ => give value

def enclosed (delimiter : Text) (inner : Walker α) : Walker α :=
  region (literal delimiter) inner (literal delimiter)

def preceded (first : Walker α) (w : Walker β) : Walker β := first.andThen fun _ => w

def allConsuming (w : Walker α) : Walker α :=
  w.andThen fun value next => if next.atEnd then give value next else refuse .leftover next

theorem Turns.unique {w : Walker α} {c : Position} {found found' : List α × Position}
    (h : w.Turns c found) (h' : w.Turns c found') : found = found' := by
  induction h generalizing found' with
  | failed hw =>
    cases h' with
    | failed => rfl
    | still hw' => cases hw.symm.trans hw'
    | turn hw' => cases hw.symm.trans hw'
  | still hw hstill =>
    cases h' with
    | failed => rfl
    | still => rfl
    | turn hw' hmoved =>
      cases hw.symm.trans hw'
      exact absurd hstill hmoved
  | turn hw hmoved _ ih =>
    cases h' with
    | failed hw' => cases hw.symm.trans hw'
    | still hw' hstill =>
      cases hw.symm.trans hw'
      exact absurd hstill hmoved
    | turn hw' _ hrest =>
      cases hw.symm.trans hw'
      cases ih hrest
      rfl

theorem repeated_of_turns {w : Walker α} {c : Position} {found : List α × Position}
    (h : w.Turns c found) : w.repeated c = some found := by
  have hends : ∃ found, w.Turns c found := ⟨found, h⟩
  rw [repeated, dif_pos hends, hends.choose_spec.unique h]

end Walker

/-! ### Agreement with parsers -/

/-- The parser as a walker. -/
def Walker.ofParser (p : Parser α) : Walker α := fun c => p.parseAt? c.text c.offset

/-- The parser stays within its text, and from every boundary of `t` the walker answers what the
parser answers there. -/
structure Follows (t : Text) (w : Walker α) (p : Parser α) : Prop where
  within : Within p
  agrees : ∀ before rest, t = before ++ rest →
    w ⟨t, before.byteLength⟩ = p.parseAt? t before.byteLength

section

variable {w : Walker α} {p : Parser α}

section

variable (hagrees : ∀ before rest, t = before ++ rest →
  w ⟨t, before.byteLength⟩ = p.parseAt? t before.byteLength)

include hagrees

theorem answers_ok {u : Text} (ht : t = before ++ (u ++ m)) (hp : p (u ++ m) = .ok (a, m)) :
    w ⟨t, before.byteLength⟩ = some (.ok (a, ⟨t, (before ++ u).byteLength⟩)) := by
  rw [hagrees before _ ht]
  subst ht
  exact parseAt?_of_ok hp

theorem answers_error (ht : t = before ++ rest) (hp : p rest = .error e) :
    w ⟨t, before.byteLength⟩ = some (.error (e.toError t)) := by
  rw [hagrees before rest ht]
  subst ht
  rw [parseAt?_append, hp]

/-- The loop runs through the chain of values that ends where the parser halts. -/
theorem Chain.turns {as : List α} {r : Text} (hp : Forward p) (h : Chain p rest as r)
    (hr : Halts p r) (ht : t = before ++ rest) :
    ∃ u, rest = u ++ r ∧
      w.Turns ⟨t, before.byteLength⟩ (as, ⟨t, (before ++ u).byteLength⟩) := by
  induction h generalizing before with
  | stop r =>
    refine ⟨[], rfl, ?_⟩
    rw [List.append_nil]
    -- the loop ends where the parser fails, and where the position stands still
    rcases hp.halts_iff.1 hr with ⟨e, hread⟩ | ⟨a, hread⟩
    · exact .failed (answers_error hagrees ht hread)
    · have hstill := answers_ok hagrees (u := []) ht hread
      rw [List.append_nil] at hstill
      exact .still hstill rfl
  | step head shorter _ ih =>
    obtain ⟨u, rfl⟩ := hp head
    have hmoved : (before ++ u).byteLength ≠ before.byteLength := by
      have hle := Text.length_le_byteLength u
      rw [List.length_append] at shorter
      rw [Text.byteLength_append]
      omega
    have hturn := answers_ok hagrees ht head
    rw [← List.append_assoc] at ht
    obtain ⟨y, rfl, hrest⟩ := ih hr ht
    refine ⟨u ++ y, ?_, ?_⟩
    · rw [List.append_assoc]
    · rw [← List.append_assoc]
      exact .turn hturn hmoved hrest

end

theorem Follows.ok (h : Follows t w p) (ht : t = before ++ rest) (hp : p rest = .ok (a, m)) :
    ∃ u, rest = u ++ m ∧
      w ⟨t, before.byteLength⟩ = some (.ok (a, ⟨t, (before ++ u).byteLength⟩)) := by
  obtain ⟨u, rfl⟩ := h.within.rest hp
  exact ⟨u, rfl, answers_ok h.agrees ht hp⟩

theorem Follows.error (h : Follows t w p) (ht : t = before ++ rest) (hp : p rest = .error e) :
    w ⟨t, before.byteLength⟩ = some (.error (e.toError t)) :=
  answers_error h.agrees ht hp

/-- A walker follows a parser if it does so on both outcomes. -/
theorem follows_of_outcomes (hwithin : Within p)
    (hok : ∀ before u m a, t = before ++ (u ++ m) → p (u ++ m) = .ok (a, m) →
      w ⟨t, before.byteLength⟩ = some (.ok (a, ⟨t, (before ++ u).byteLength⟩)))
    (herror : ∀ before rest e, t = before ++ rest → p rest = .error e →
      w ⟨t, before.byteLength⟩ = some (.error (e.toError t))) :
    Follows t w p := by
  refine ⟨hwithin, ?_⟩
  intro before rest ht
  cases hp : p rest with
  | ok x =>
    obtain ⟨a, m⟩ := x
    obtain ⟨u, rfl⟩ := hwithin.rest hp
    rw [hok before u m a ht hp]
    subst ht
    exact (parseAt?_of_ok hp).symm
  | error e =>
    rw [herror before rest e ht hp]
    subst ht
    rw [parseAt?_append, hp]

theorem refuse_eq {reason : Reason} (ht : t = before ++ rest) :
    Walker.refuse (α := α) reason ⟨t, before.byteLength⟩ =
      some (.error (Failure.toError t ⟨rest, reason⟩)) := by
  subst ht
  simp [Walker.refuse, Failure.toError, Failure.offset]

theorem advance_append (before u m : Text) :
    Position.advance ⟨before ++ (u ++ m), before.byteLength⟩ u.byteLength =
      ⟨before ++ (u ++ m), (before ++ u).byteLength⟩ := by
  simp [Position.advance]

/-! ### Steps -/

theorem follows_give (a : α) : Follows t (.give a) (pure a) := by
  apply follows_of_outcomes (within_pure a)
  · intro before u m b _ hb
    cases List.append_left_eq_self.1 (congrArg Prod.snd (Except.ok.inj hb))
    cases hb
    rw [List.append_nil]
    rfl
  · intro before rest e _ he
    exact nomatch he

theorem Follows.andThen {k : α → Walker β} {f : α → Parser β} (h : Follows t w p)
    (hk : ∀ a, Follows t (k a) (f a)) : Follows t (w.andThen k) (p >>= f) := by
  apply follows_of_outcomes (h.within.bind fun a => (hk a).within)
  · intro before u r b ht hb
    obtain ⟨a, m, hfirst, hsecond⟩ := bind_eq_ok_iff.1 hb
    obtain ⟨x, hx, hw⟩ := h.ok ht hfirst
    rw [hx, ← List.append_assoc] at ht
    obtain ⟨y, rfl, hv⟩ := (hk a).ok ht hsecond
    rw [← List.append_assoc] at hx
    rw [List.append_cancel_right hx, ← List.append_assoc, ← hv]
    simp [Walker.andThen, hw]
  · intro before rest e ht he
    cases hfirst : p rest with
    | error e' =>
      rw [Parser.bind_error hfirst] at he
      cases he
      simp [Walker.andThen, h.error ht hfirst]
    | ok x =>
      obtain ⟨a, m⟩ := x
      rw [Parser.bind_ok hfirst] at he
      obtain ⟨u, rfl, hw⟩ := h.ok ht hfirst
      rw [← List.append_assoc] at ht
      simp [Walker.andThen, hw, ← (hk a).error ht he]

theorem Follows.map (f : α → β) (h : Follows t w p) : Follows t (w.map f) (f <$> p) := by
  rw [← bind_pure_comp]
  exact h.andThen fun a => follows_give (f a)

theorem follows_literal (expected : Text) :
    Follows t (.literal expected) (literal expected) := by
  apply follows_of_outcomes (within_literal expected)
  · intro before u m v ht hv
    obtain ⟨rfl, hu⟩ := literal_eq_ok_iff.1 hv
    cases List.append_cancel_right hu
    subst ht
    simp [Walker.literal, Walker.give, Position.rest?_append, Text.startsWith,
      Text.dropLead?_append, advance_append, Position.sliceTo?_append]
  · intro before rest e ht he
    rw [literal] at he
    cases hlead : Text.dropLead? expected rest with
    | some m => simp [hlead] at he
    | none =>
      simp only [hlead] at he
      cases he
      rw [← refuse_eq ht]
      subst ht
      simp [Walker.literal, Position.rest?_append, Text.startsWith, hlead]

/-- Inside a character there is no answer. -/
example : Walker.literal [] ⟨['é'], 1⟩ = none := by cbv

theorem follows_pattern (r : Recogniser) : Follows t (.pattern r) (pattern r) := by
  apply follows_of_outcomes (within_pattern r)
  · intro before u m v ht hv
    have hsplit := pattern_eq_ok_iff.1 hv
    cases List.append_cancel_right (r.append_of_split hsplit)
    subst ht
    simp [Walker.pattern, Walker.give, Position.rest?_append, hsplit, advance_append]
  · intro before rest e ht he
    rw [pattern] at he
    cases hsplit : r.split rest with
    | some found => simp [hsplit] at he
    | none =>
      simp only [hsplit] at he
      cases he
      rw [← refuse_eq ht]
      subst ht
      simp [Walker.pattern, Position.rest?_append, hsplit]

/-! ### Combinators -/

variable {ι : Type}

theorem follows_sequenceAfter {steps : List ι} {v : ι → Walker Text} {q : ι → Parser Text}
    (h : ∀ i ∈ steps, Follows t (v i) (q i)) (taken : Text) :
    Follows t (.sequenceAfter taken (steps.map v))
      ((taken ++ ·) <$> sequence (steps.map q)) := by
  induction steps generalizing taken with
  | nil =>
    have hnil := follows_give (t := t) taken
    simpa [sequence, Walker.sequenceAfter, map_pure] using hnil
  | cons i steps ih =>
    rw [List.forall_mem_cons] at h
    have hsteps := h.1.andThen fun text => ih h.2 (taken ++ text)
    simpa [sequence, Walker.sequenceAfter] using hsteps

theorem follows_sequence {steps : List ι} {v : ι → Walker Text} {q : ι → Parser Text}
    (h : ∀ i ∈ steps, Follows t (v i) (q i)) :
    Follows t (.sequence (steps.map v)) (sequence (steps.map q)) := by
  simpa [Walker.sequence] using follows_sequenceAfter h []

theorem Follows.alternation {others : List ι} {v : ι → Walker α} {q : ι → Parser α}
    (h : Follows t w p) (hothers : ∀ i ∈ others, Follows t (v i) (q i)) :
    Follows t (w.alternation (others.map v)) (alternation p (others.map q)) := by
  induction others generalizing w p with
  | nil => exact h
  | cons i others ih =>
    rw [List.forall_mem_cons] at hothers
    have hrest := ih hothers.1 hothers.2
    refine ⟨h.within.alternation ?_, ?_⟩
    · rw [List.forall_mem_map, List.forall_mem_cons]
      exact ⟨hothers.1.within, fun j hj => (hothers.2 j hj).within⟩
    · intro before rest ht
      cases hp : p rest with
      | ok x =>
        obtain ⟨a, m⟩ := x
        obtain ⟨u, rfl, hw⟩ := h.ok ht hp
        have hfirst : alternation p ((i :: others).map q) (u ++ m) = .ok (a, m) :=
          alternation_eq_ok_iff.2 (.inl hp)
        subst ht
        rw [parseAt?_of_ok hfirst]
        simp [Walker.alternation, hw]
      | error e =>
        have hnext : alternation p ((i :: others).map q) rest =
            alternation (q i) (others.map q) rest := by
          simp [Parsing.alternation, hp]
        have hw := hrest.agrees before rest ht
        have hv := h.error ht hp
        subst ht
        rw [parseAt?_append, hnext, ← parseAt?_append, ← hw]
        simp [Walker.alternation, hv]

theorem Follows.turns (h : Follows t w p) (ht : t = before ++ rest) :
    ∃ u, rest = u ++ (repeated p rest).2 ∧
      w.Turns ⟨t, before.byteLength⟩ ((repeated p rest).1, ⟨t, (before ++ u).byteLength⟩) := by
  obtain ⟨hchain, hhalts⟩ := chain_repeated p rest
  exact hchain.turns h.agrees h.within.rest hhalts ht

theorem Follows.many (h : Follows t w p) : Follows t w.many (many p) := by
  apply follows_of_outcomes h.within.many
  · intro before u m as ht has
    obtain ⟨y, hy, hturns⟩ := h.turns ht
    rw [many_apply, Except.ok.injEq] at has
    rw [has] at hy hturns
    cases List.append_cancel_right hy
    simp [Walker.many, Walker.give, Walker.repeated_of_turns hturns]
  · intro before rest e _ he
    exact nomatch he

theorem Follows.many1 (h : Follows t w p) : Follows t w.many1 (many1 p) := by
  have hrest := h.andThen fun first => h.many.map (first :: ·)
  simpa [Parsing.many1, Walker.many1] using hrest

theorem Follows.optional (h : Follows t w p) : Follows t w.optional (optional p) := by
  apply follows_of_outcomes h.within.optional
  · intro before u m v ht hv
    rcases optional_eq_ok_iff.1 hv with ⟨a, rfl, hp⟩ | ⟨rfl, hm, e, hp⟩
    · obtain ⟨y, hy, hw⟩ := h.ok ht hp
      cases List.append_cancel_right hy
      simp [Walker.optional, Walker.give, hw]
    · have hu : u = [] := List.append_left_eq_self.1 hm.symm
      simp [Walker.optional, Walker.give, h.error ht hp, hu]
  · intro before rest e _ he
    cases hp : p rest <;> simp [Parsing.optional, hp] at he

theorem Follows.region {l : Walker β} {left : Parser β} {r : Walker γ} {right : Parser γ}
    (hl : Follows t l left) (h : Follows t w p) (hr : Follows t r right) :
    Follows t (l.region w r) (region left p right) := by
  rw [region_eq_bind]
  exact hl.andThen fun _ => h.andThen fun a => hr.map fun _ => a

theorem Follows.enclosed (delimiter : Text) (h : Follows t w p) :
    Follows t (w.enclosed delimiter) (enclosed delimiter p) :=
  (follows_literal delimiter).region h (follows_literal delimiter)

theorem Follows.preceded {f : Walker β} {first : Parser β} (hf : Follows t f first)
    (h : Follows t w p) : Follows t (f.preceded w) (preceded first p) :=
  hf.andThen fun _ => h

theorem follows_atEnd (a : α) :
    Follows t (fun c => if c.atEnd then Walker.give a c else Walker.refuse .leftover c)
      (allConsuming (pure a)) := by
  have hwithin : Within (allConsuming (pure a : Parser α)) := by
    constructor
    · intro s r b h
      cases s with
      | nil =>
        cases h
        exact List.suffix_refl _
      | cons c s => exact nomatch h
    · intro s e h
      cases s with
      | nil => exact nomatch h
      | cons c s =>
        cases h
        exact List.suffix_refl _
  refine ⟨hwithin, ?_⟩
  rintro before rest rfl
  rw [parseAt?_append]
  cases rest with
  | nil => simp [Position.atEnd, Walker.give, Parsing.allConsuming, Parser.pure_apply,
      bind, Except.bind, Text.offsetOf]
  | cons c rest =>
    have hpos := c.utf8Size_pos
    rw [if_neg (by simp [Position.atEnd]; omega), refuse_eq rfl]
    rfl

theorem Follows.allConsuming (h : Follows t w p) :
    Follows t w.allConsuming (allConsuming p) := by
  have hbind : Parsing.allConsuming p = p >>= fun a => Parsing.allConsuming (pure a) := rfl
  rw [hbind]
  exact h.andThen follows_atEnd

end

end Slipbox.Parsing
