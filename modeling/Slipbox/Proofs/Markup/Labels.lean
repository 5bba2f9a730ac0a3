import Slipbox.Proofs.Markup.Lexemes
import Slipbox.Proofs.Parsing.Composition

/-!
# Labels by recursion

A label is read by a loop: segments one after another, put together at the end. It can also be
described by itself: letters or digits, a dot, and then a label or nothing (`labelBy`). A segment
takes something, so that the description says at every text what a label is on shorter texts
only (`labelBy_congr`), and no two parsers satisfy it. The loop does (`label_eq_labelBy`).

At the end of a label there may be letters without a dot. Neither reading takes them: what is read
is the longest beginning of the text that is a label (`label_eq_ok_iff_longest`), since
every label at the beginning of the text is a part of the loop's run (`Chain.repeated_append`).
-/

namespace Slipbox.Markup

open Slipbox.Parsing

variable {s v r w m : Text}

/-! ### The recursion -/

/-- A label by way of a parser for the rest of it: letters or digits, a dot, and what `rest` takes
or nothing. -/
def labelBy (rest : Parser Text) : Parser Text :=
  Parsing.sequence [alphanumeric, literal ['.'], (·.getD []) <$> optional rest]

theorem labelBy_eq (rest : Parser Text) :
    labelBy rest = Parsing.sequence [labelSegment, (·.getD []) <$> optional rest] := by
  rw [labelBy, labelSegment]
  exact (sequence_group [] [alphanumeric, literal ['.']] [_]).symm

theorem labelBy_of_error {rest : Parser Text} {e : Failure} (h : labelSegment s = .error e) :
    labelBy rest s = .error e := by
  rw [labelBy_eq]
  exact Parser.bind_error h

theorem labelBy_of_ok {rest : Parser Text} {segment : Text}
    (h : labelSegment s = .ok (segment, m)) :
    labelBy rest s = .ok (match rest m with
      | .ok (others, r) => (segment ++ others, r)
      | .error _ => (segment, m)) := by
  rw [labelBy_eq, Parsing.sequence, Parser.bind_ok h, Parsing.sequence]
  refine bind_eq_ok_iff.2 ⟨_, _, bind_eq_ok_iff.2 ⟨_, _, getD_optional_apply rest m, rfl⟩, ?_⟩
  cases rest m with
  | error e => simp [Parser.pure_apply]
  | ok x => simp [Parser.pure_apply]

/-- What the description says of a text depends on shorter texts only. -/
theorem labelBy_congr {p q : Parser Text} (h : ∀ m, m.length < s.length → p m = q m) :
    labelBy p s = labelBy q s := by
  cases hsegment : labelSegment s with
  | error e => rw [labelBy_of_error hsegment, labelBy_of_error hsegment]
  | ok x =>
    obtain ⟨segment, m⟩ := x
    rw [labelBy_of_ok hsegment, labelBy_of_ok hsegment, h m (advances_labelSegment hsegment)]

/-- At most one parser satisfies the description. -/
theorem eq_of_eq_labelBy {p q : Parser Text} (hp : p = labelBy p) (hq : q = labelBy q) : p = q := by
  funext s
  induction hn : s.length using Nat.strongRecOn generalizing s with
  | ind n ih =>
    rw [hp, hq]
    apply labelBy_congr
    intro m hm
    exact ih m.length (hn ▸ hm) m rfl

/-! ### The loop -/

theorem label_of_error {e : Failure} (h : labelSegment s = .error e) : label s = .error e := by
  rw [label, Parser.map_apply, many1_apply, h]
  rfl

theorem label_of_ok {segment : Text} (h : labelSegment s = .ok (segment, m)) :
    label s = .ok (segment ++ (repeated labelSegment m).1.flatten, (repeated labelSegment m).2) := by
  rw [label, Parser.map_apply, many1_apply, h]
  rfl

/-- The loop satisfies the description. -/
theorem label_eq_labelBy : label = labelBy label := by
  funext s
  cases h : labelSegment s with
  | error e => rw [label_of_error h, labelBy_of_error h]
  | ok x =>
    obtain ⟨segment, m⟩ := x
    rw [label_of_ok h, labelBy_of_ok h]
    -- the loop goes on just when another label follows
    cases hm : labelSegment m with
    | error e =>
      rw [label_of_error hm, repeated_error hm]
      simp
    | ok y =>
      rw [label_of_ok hm, repeated_ok hm (advances_labelSegment hm)]
      simp

/-! ### The longest label -/

theorem IsLabel.append {segment : Text} (h : IsLabel v) (hsegment : IsSegment segment) :
    IsLabel (v ++ segment) := by
  obtain ⟨segments, -, hall, rfl⟩ := h
  refine ⟨segments ++ [segment], by simp, ?_, by simp⟩
  intro x hx
  rcases List.mem_append.1 hx with hx | hx
  · exact hall x hx
  · exact List.mem_singleton.1 hx ▸ hsegment

theorem IsLabel.exists_chain (h : IsLabel v) (r : Text) :
    ∃ segments, Chain labelSegment (v ++ r) segments r := by
  obtain ⟨segments, -, hall, rfl⟩ := h
  have hchain := (readsBack_segments hall r).chain advances_labelSegment
  rw [List.flatMap_id] at hchain
  exact ⟨segments, hchain⟩

/-- What is left behind the loop is no longer than what is left behind any label. -/
theorem IsLabel.length_le (hw : IsLabel w) (hv : IsLabel v) (hr : Fails labelSegment r)
    (h : w ++ m = v ++ r) : w.length ≤ v.length := by
  obtain ⟨others, hothers⟩ := hw.exists_chain m
  obtain ⟨segments, hsegments⟩ := hv.exists_chain r
  have hloop : repeated labelSegment (v ++ r) = (segments, r) :=
    hsegments.repeated_eq (advances_labelSegment.halts_iff.2 hr)
  rw [h] at hothers
  have hrest : r = (repeated labelSegment m).2 :=
    congrArg Prod.snd (hloop.symm.trans hothers.repeated_append)
  have hle : (repeated labelSegment m).2.length ≤ m.length :=
    (chain_repeated labelSegment m).1.rest_length_le
  rw [← hrest] at hle
  have hlength := congrArg List.length h
  rw [List.length_append, List.length_append] at hlength
  omega

/-- The longest beginning of the text that is a label is read. -/
theorem label_eq_ok_iff_longest : label s = .ok (v, r) ↔
    s = v ++ r ∧ IsLabel v ∧ ∀ w, IsLabel w → w <+: s → w.length ≤ v.length := by
  rw [label_eq_ok_iff]
  constructor
  · rintro ⟨hv, rfl, hr⟩
    refine ⟨rfl, hv, ?_⟩
    rintro w hw ⟨m, hm⟩
    exact hw.length_le hv hr hm
  · rintro ⟨rfl, hv, hlongest⟩
    refine ⟨hv, rfl, ?_⟩
    rw [fails_iff]
    intro segment m hok
    obtain ⟨hsegment, rfl⟩ := labelSegment_eq_ok_iff.1 hok
    have hle := hlongest _ (hv.append hsegment) ⟨m, List.append_assoc ..⟩
    have hshorter := advances_labelSegment hok
    simp only [List.length_append] at hle hshorter
    omega

theorem label_fails_iff_not_prefix : Fails label s ↔ ∀ w, IsLabel w → ¬ w <+: s := by
  constructor
  · rintro hfails _ ⟨segments, hne, hall, rfl⟩ ⟨m, rfl⟩
    obtain ⟨segment, segments, rfl⟩ := List.exists_cons_of_ne_nil hne
    have hread : labelSegment ((segment :: segments).flatten ++ m) =
        .ok (segment, segments.flatten ++ m) :=
      labelSegment_eq_ok_iff.2 ⟨hall segment List.mem_cons_self, by simp⟩
    exact not_fails_of_ok hread (label_fails_iff.1 hfails)
  · intro h
    rw [fails_iff]
    intro v r hok
    obtain ⟨rfl, hv, -⟩ := label_eq_ok_iff_longest.1 hok
    exact h v hv (List.prefix_append v r)

/-- **A label is read by the loop as by recursion.** The loop is the one parser that reads letters
or digits, a dot, and then what it reads itself or nothing, with the same values, rests and
failures. It reads the longest beginning of the text that is a label, and fails just when no
beginning of the text is a label. -/
theorem label_by_recursion :
    (∀ p : Parser Text, p = labelBy p ↔ p = label) ∧
    (∀ s v r, label s = .ok (v, r) ↔
      s = v ++ r ∧ IsLabel v ∧ ∀ w, IsLabel w → w <+: s → w.length ≤ v.length) ∧
    ∀ s, Fails label s ↔ ∀ w, IsLabel w → ¬ w <+: s := by
  refine ⟨fun p => ⟨fun hp => eq_of_eq_labelBy hp label_eq_labelBy, ?_⟩,
    fun _ _ _ => label_eq_ok_iff_longest, fun _ => label_fails_iff_not_prefix⟩
  rintro rfl
  exact label_eq_labelBy

end Slipbox.Markup
