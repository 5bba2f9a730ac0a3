import Mathlib.Data.List.Chain
import Mathlib.Data.List.Induction
import Slipbox.Markup.Inline

/-!
# Flattening as a normal form

The styled spans of a run leave gaps: one between any two of them, one before the first and one
after the last. `Merges raw run` says that `run` has the styled spans of `raw`, the same text in
each gap and at most one plain span there, and one just where `raw` has some. Exactly one run
merges a given one (`merges_iff`), and flattening finds it.

Flattening is defined from the right. It can also be done from the left, where each span is put
behind the run so far (`flatten_eq_foldl`); a plain span then goes into the last one. Since merging
plain texts is associative, it does not matter in which parts a run is flattened first.
-/

namespace Slipbox.Markup

variable {raw run xs ys : Run} {s t : Span}

/-! ### Merging from both ends -/

/-- Two plain spans that meet become one. -/
def Span.merge (s t : Span) : Span := ⟨.plain, s.text ++ t.text⟩

theorem Run.cons_plain (hs : s.kind = .plain) (ht : t.kind = .plain) (run : Run) :
    Run.cons s (t :: run) = s.merge t :: run :=
  if_pos ⟨hs, ht⟩

theorem Run.cons_styled (h : ¬ (s.kind = .plain ∧ t.kind = .plain)) (run : Run) :
    Run.cons s (t :: run) = s :: t :: run :=
  if_neg h

/-- Plain spans that are put in front one after another go in as one. -/
theorem Run.cons_merge (hs : s.kind = .plain) (ht : t.kind = .plain) (run : Run) :
    Run.cons s (Run.cons t run) = Run.cons (s.merge t) run := by
  cases run with
  | nil => exact Run.cons_plain hs ht []
  | cons u run =>
    by_cases hu : u.kind = .plain
    · rw [Run.cons_plain ht hu, Run.cons_plain hs rfl, Run.cons_plain rfl hu]
      simp [Span.merge]
    · have hstay : ∀ x : Span, ¬ (x.kind = .plain ∧ u.kind = .plain) := fun x h => hu h.2
      rw [Run.cons_styled (hstay t), Run.cons_plain hs ht, Run.cons_styled (hstay _)]

theorem flatten_append (xs ys : Run) : flatten (xs ++ ys) = xs.foldr Run.cons (flatten ys) :=
  List.foldr_append

/-- What has been merged already is put in front as its parts are. -/
theorem foldr_cons_flatten (xs zs : Run) :
    (flatten xs).foldr Run.cons zs = xs.foldr Run.cons zs := by
  induction xs with
  | nil => rfl
  | cons s xs ih =>
    rw [flatten_cons, List.foldr_cons, ← ih]
    cases flatten xs with
    | nil => rfl
    | cons t run =>
      by_cases h : s.kind = .plain ∧ t.kind = .plain
      · rw [Run.cons_plain h.1 h.2, List.foldr_cons, List.foldr_cons, Run.cons_merge h.1 h.2]
      · rw [Run.cons_styled h, List.foldr_cons]

theorem flatten_flatten (xs : Run) : flatten (flatten xs) = flatten xs :=
  foldr_cons_flatten xs []

/-- Puts a span behind a run, into the last span if both are plain. -/
def Run.snoc : Run → Span → Run
  | [], s => [s]
  | [t], s => if t.kind = .plain ∧ s.kind = .plain then [t.merge s] else [t, s]
  | t :: u :: run, s => t :: Run.snoc (u :: run) s

/-- A run can be extended at both ends in either order. -/
theorem Run.snoc_cons (s : Span) (run : Run) (t : Span) :
    (Run.cons s run).snoc t = Run.cons s (run.snoc t) := by
  cases run with
  | nil => rfl
  | cons u run =>
    by_cases hmeet : s.kind = .plain ∧ u.kind = .plain
    · rw [Run.cons_plain hmeet.1 hmeet.2]
      cases run with
      | nil =>
        by_cases hlast : u.kind = .plain ∧ t.kind = .plain
        · have hmerged : (s.merge u).kind = .plain ∧ t.kind = .plain := ⟨rfl, hlast.2⟩
          simp only [Run.snoc, if_pos hmerged, if_pos hlast]
          rw [Run.cons_plain hmeet.1 rfl]
          simp [Span.merge]
        · have hmerged : ¬ ((s.merge u).kind = .plain ∧ t.kind = .plain) :=
            fun h => hlast ⟨hmeet.2, h.2⟩
          simp only [Run.snoc, if_neg hmerged, if_neg hlast]
          rw [Run.cons_plain hmeet.1 hmeet.2]
      | cons v run => exact (Run.cons_plain hmeet.1 hmeet.2 _).symm
    · rw [Run.cons_styled hmeet]
      cases run with
      | nil =>
        by_cases hlast : u.kind = .plain ∧ t.kind = .plain
        · have hstay : ¬ (s.kind = .plain ∧ (u.merge t).kind = .plain) :=
            fun h => hmeet ⟨h.1, hlast.1⟩
          simp only [Run.snoc, if_pos hlast]
          rw [Run.cons_styled hstay]
        · simp only [Run.snoc, if_neg hlast]
          rw [Run.cons_styled hmeet]
      | cons v run => exact (Run.cons_styled hmeet _).symm

theorem flatten_concat (xs : Run) (s : Span) : flatten (xs ++ [s]) = (flatten xs).snoc s := by
  induction xs with
  | nil => rfl
  | cons t xs ih => rw [List.cons_append, flatten_cons, ih, flatten_cons, Run.snoc_cons]

/-- Flattening from the left. -/
theorem flatten_eq_foldl (xs : Run) : flatten xs = xs.foldl Run.snoc [] := by
  induction xs using List.reverseRecOn with
  | nil => rfl
  | append_singleton xs s ih => rw [flatten_concat, ih, List.foldl_concat]

/-! ### Gaps between styled spans -/

def Span.isStyled (s : Span) : Bool := s.kind != .plain

theorem Span.isStyled_eq_false : s.isStyled = false ↔ s.kind = .plain := by
  simp [Span.isStyled]

theorem Span.isStyled_eq_true : s.isStyled = true ↔ s.kind ≠ .plain := by
  simp [Span.isStyled]

/-- The styled spans in order. -/
def Run.styled (run : Run) : Run := run.filter Span.isStyled

theorem Run.styled_plain (h : s.kind = .plain) (run : Run) : Run.styled (s :: run) = run.styled :=
  List.filter_cons_of_neg (by simp [Span.isStyled_eq_false.2 h])

theorem Run.styled_styled (h : s.kind ≠ .plain) (run : Run) :
    Run.styled (s :: run) = s :: run.styled :=
  List.filter_cons_of_pos (Span.isStyled_eq_true.2 h)

/-- The plain spans in each gap that the styled ones leave. -/
def Run.gaps (run : Run) : List Run := run.splitOnP Span.isStyled

theorem Run.gaps_styled (h : s.kind ≠ .plain) (run : Run) :
    Run.gaps (s :: run) = [] :: run.gaps := by
  rw [Run.gaps, List.splitOnP_cons_eq_if_modifyHead, if_pos (Span.isStyled_eq_true.2 h), Run.gaps]

theorem Run.gaps_plain (h : s.kind = .plain) {gap : Run} {gaps : List Run}
    (hrun : run.gaps = gap :: gaps) : Run.gaps (s :: run) = (s :: gap) :: gaps := by
  rw [Run.gaps, List.splitOnP_cons_eq_if_modifyHead, if_neg (by simp [Span.isStyled_eq_false.2 h]),
    ← Run.gaps, hrun]
  rfl

theorem Run.exists_gaps (run : Run) : ∃ gap gaps, run.gaps = gap :: gaps :=
  List.exists_cons_of_ne_nil (List.splitOnP_ne_nil _ run)

theorem Run.gaps_ne_of_styled (hs : s.kind = .plain) (ht : t.kind ≠ .plain) (xs ys : Run) :
    Run.gaps (s :: xs) ≠ Run.gaps (t :: ys) := by
  obtain ⟨gap, gaps, hgaps⟩ := xs.exists_gaps
  rw [Run.gaps_plain hs hgaps, Run.gaps_styled ht]
  exact nofun

theorem Run.gaps_cons_ne_nil (s : Span) (xs : Run) : Run.gaps (s :: xs) ≠ Run.gaps [] := by
  obtain ⟨gap, gaps, hgaps⟩ := xs.exists_gaps
  have hnil : Run.gaps [] = [[]] := rfl
  rw [hnil]
  by_cases hs : s.kind = .plain
  · rw [Run.gaps_plain hs hgaps]
    exact nofun
  · rw [Run.gaps_styled hs, hgaps]
    exact nofun

/-- A run is made up of its gaps and its styled spans. -/
theorem Run.eq_of_gaps (hgaps : xs.gaps = ys.gaps) (hstyled : xs.styled = ys.styled) : xs = ys := by
  induction xs generalizing ys with
  | nil =>
    cases ys with
    | nil => rfl
    | cons t ys => exact absurd hgaps.symm (Run.gaps_cons_ne_nil t ys)
  | cons s xs ih =>
    cases ys with
    | nil => exact absurd hgaps (Run.gaps_cons_ne_nil s xs)
    | cons t ys =>
      by_cases hs : s.kind = .plain
      · by_cases ht : t.kind = .plain
        · obtain ⟨gap, gaps, hxs⟩ := Run.exists_gaps xs
          obtain ⟨gap', gaps', hys⟩ := Run.exists_gaps ys
          rw [Run.gaps_plain hs hxs, Run.gaps_plain ht hys] at hgaps
          obtain ⟨hfirst, rfl⟩ := List.cons.inj hgaps
          obtain ⟨rfl, rfl⟩ := List.cons.inj hfirst
          rw [Run.styled_plain hs, Run.styled_plain hs] at hstyled
          rw [ih (hxs.trans hys.symm) hstyled]
        · exact absurd hgaps (Run.gaps_ne_of_styled hs ht xs ys)
      · by_cases ht : t.kind = .plain
        · exact absurd hgaps.symm (Run.gaps_ne_of_styled ht hs ys xs)
        · rw [Run.gaps_styled hs, Run.gaps_styled ht] at hgaps
          rw [Run.styled_styled hs, Run.styled_styled ht] at hstyled
          obtain ⟨rfl, hrest⟩ := List.cons.inj hstyled
          rw [ih (List.cons.inj hgaps).2 hrest]

/-- What a gap becomes: one plain span with its text, unless nothing is there. -/
def Run.mergedGap (gap : Run) : Run := if gap.isEmpty then [] else [⟨.plain, gap.text⟩]

theorem Run.text_mergedGap (gap : Run) : gap.mergedGap.text = gap.text := by
  cases gap with
  | nil => rfl
  | cons s gap => simp [Run.mergedGap, Run.text]

theorem Run.isEmpty_mergedGap (gap : Run) : gap.mergedGap.isEmpty = gap.isEmpty := by
  cases gap with
  | nil => rfl
  | cons s gap => rfl

theorem Run.mergedGap_cons (hs : s.kind = .plain) (gap : Run) :
    Run.mergedGap (s :: gap) = Run.cons s gap.mergedGap := by
  obtain ⟨kind, text⟩ := s
  obtain rfl : kind = .plain := hs
  cases gap with
  | nil => simp [Run.mergedGap, Run.text, Run.cons]
  | cons t gap => simp [Run.mergedGap, Run.text, Run.cons]

/-! ### Merged runs -/

/-- No two plain spans meet. -/
def Run.Apart (run : Run) : Prop := run.IsChain fun s t => ¬ (s.kind = .plain ∧ t.kind = .plain)

/-- The run has the styled spans of the other and in each gap the same plain text, in one span. -/
structure Run.Merges (raw run : Run) : Prop where
  apart : run.Apart
  styled : run.styled = raw.styled
  texts : run.gaps.map Run.text = raw.gaps.map Run.text
  present : run.gaps.map List.isEmpty = raw.gaps.map List.isEmpty

theorem Run.Apart.tail (h : Run.Apart (s :: run)) : run.Apart := List.IsChain.tail h

/-- The gaps of a run in which no plain spans meet are merged. -/
theorem Run.Apart.gaps_eq (h : run.Apart) : run.gaps = run.gaps.map Run.mergedGap := by
  induction run with
  | nil => rfl
  | cons s run ih =>
    have htail := ih h.tail
    by_cases hs : s.kind = .plain
    · -- the span fills its gap alone, since a styled one follows or none
      obtain ⟨gaps, hgaps⟩ : ∃ gaps, Run.gaps run = [] :: gaps := by
        cases run with
        | nil => exact ⟨[], rfl⟩
        | cons t run =>
          have ht : t.kind ≠ .plain := fun ht => (List.isChain_cons_cons.1 h).1 ⟨hs, ht⟩
          exact ⟨Run.gaps run, Run.gaps_styled ht run⟩
      rw [hgaps, List.map_cons] at htail
      obtain ⟨kind, text⟩ := s
      obtain rfl : kind = .plain := hs
      rw [Run.gaps_plain rfl hgaps, List.map_cons, ← (List.cons.inj htail).2]
      simp [Run.mergedGap, Run.text]
    · rw [Run.gaps_styled hs, List.map_cons, ← htail]
      rfl

theorem Run.Apart.cons (h : run.Apart) (s : Span) : (Run.cons s run).Apart := by
  cases run with
  | nil => exact List.isChain_singleton s
  | cons t run =>
    by_cases hmeet : s.kind = .plain ∧ t.kind = .plain
    · rw [Run.cons_plain hmeet.1 hmeet.2]
      cases run with
      | nil => exact List.isChain_singleton _
      | cons u run =>
        obtain ⟨hnext, hrest⟩ := List.isChain_cons_cons.1 h
        exact List.isChain_cons_cons.2 ⟨fun hplain => hnext ⟨hmeet.2, hplain.2⟩, hrest⟩
    · rw [Run.cons_styled hmeet]
      exact List.isChain_cons_cons.2 ⟨hmeet, h⟩

theorem apart_flatten (xs : Run) : Run.Apart (flatten xs) := by
  induction xs with
  | nil => exact List.isChain_nil
  | cons s xs ih => exact ih.cons s

theorem Run.styled_cons (s : Span) (run : Run) :
    Run.styled (Run.cons s run) = Run.styled (s :: run) := by
  cases run with
  | nil => rfl
  | cons t run =>
    by_cases h : s.kind = .plain ∧ t.kind = .plain
    · rw [Run.cons_plain h.1 h.2, Run.styled_plain rfl, Run.styled_plain h.1,
        Run.styled_plain h.2]
    · rw [Run.cons_styled h]

theorem styled_flatten (xs : Run) : Run.styled (flatten xs) = xs.styled := by
  induction xs with
  | nil => rfl
  | cons s xs ih =>
    rw [flatten_cons, Run.styled_cons]
    by_cases hs : s.kind = .plain
    · rw [Run.styled_plain hs, Run.styled_plain hs, ih]
    · rw [Run.styled_styled hs, Run.styled_styled hs, ih]

/-- A span in front changes the first gap only: it goes into it, or closes it. -/
theorem Run.gaps_cons (s : Span) (run : Run) : Run.gaps (Run.cons s run) =
    if s.kind = .plain then run.gaps.modifyHead (Run.cons s) else [] :: run.gaps := by
  cases run with
  | nil =>
    by_cases hs : s.kind = .plain
    · rw [if_pos hs]
      exact Run.gaps_plain hs rfl
    · rw [if_neg hs]
      exact Run.gaps_styled hs []
  | cons t run =>
    obtain ⟨gap, gaps, hgaps⟩ := Run.exists_gaps run
    by_cases hs : s.kind = .plain
    · rw [if_pos hs]
      by_cases ht : t.kind = .plain
      · rw [Run.cons_plain hs ht, Run.gaps_plain rfl hgaps, Run.gaps_plain ht hgaps,
          List.modifyHead_cons, Run.cons_plain hs ht]
      · rw [Run.cons_styled fun h => ht h.2, Run.gaps_plain hs (Run.gaps_styled ht run),
          Run.gaps_styled ht]
        rfl
    · rw [if_neg hs, Run.cons_styled fun h => hs h.1, Run.gaps_styled hs]

theorem gaps_flatten (xs : Run) : Run.gaps (flatten xs) = xs.gaps.map Run.mergedGap := by
  induction xs with
  | nil => rfl
  | cons s xs ih =>
    obtain ⟨gap, gaps, hgaps⟩ := Run.exists_gaps xs
    rw [flatten_cons, Run.gaps_cons, ih, hgaps]
    by_cases hs : s.kind = .plain
    · rw [if_pos hs, Run.gaps_plain hs hgaps, List.map_cons, List.map_cons, List.modifyHead_cons,
        Run.mergedGap_cons hs]
    · rw [if_neg hs, Run.gaps_styled hs, hgaps]
      rfl

theorem merges_flatten (xs : Run) : Run.Merges xs (flatten xs) := by
  refine ⟨apart_flatten xs, styled_flatten xs, ?_, ?_⟩
  · rw [gaps_flatten, List.map_map]
    exact List.map_congr_left fun gap _ => gap.text_mergedGap
  · rw [gaps_flatten, List.map_map]
    exact List.map_congr_left fun gap _ => gap.isEmpty_mergedGap

/-- Gaps with the same texts that are empty at the same places are merged alike. -/
theorem map_mergedGap_congr {gaps gaps' : List Run}
    (htexts : gaps.map Run.text = gaps'.map Run.text)
    (hpresent : gaps.map List.isEmpty = gaps'.map List.isEmpty) :
    gaps.map Run.mergedGap = gaps'.map Run.mergedGap := by
  induction gaps generalizing gaps' with
  | nil =>
    cases gaps' with
    | nil => rfl
    | cons gap' gaps' => exact nomatch htexts
  | cons gap gaps ih =>
    cases gaps' with
    | nil => exact nomatch htexts
    | cons gap' gaps' =>
      obtain ⟨htext, htexts⟩ := List.cons.inj htexts
      obtain ⟨hempty, hpresent⟩ := List.cons.inj hpresent
      rw [List.map_cons, List.map_cons, ih htexts hpresent, Run.mergedGap, Run.mergedGap, htext,
        hempty]

/-- There is one way only to merge a run. -/
theorem merges_iff : Run.Merges xs run ↔ run = flatten xs := by
  constructor
  · intro h
    refine Run.eq_of_gaps ?_ (h.styled.trans (styled_flatten xs).symm)
    rw [h.apart.gaps_eq, gaps_flatten]
    exact map_mergedGap_congr h.texts h.present
  · rintro rfl
    exact merges_flatten xs

theorem text_flatten (xs : Run) : Run.text (flatten xs) = Run.text xs := by
  induction xs with
  | nil => rfl
  | cons s xs ih =>
    have htext : Run.text (s :: xs) = s.text ++ Run.text xs := List.flatMap_cons
    rw [flatten_cons, htext, ← ih]
    cases flatten xs with
    | nil => rfl
    | cons t run =>
      by_cases h : s.kind = .plain ∧ t.kind = .plain
      · rw [Run.cons_plain h.1 h.2]
        simp [Run.text, Span.merge]
      · rw [Run.cons_styled h]
        rfl

/-- **Flattening is a normalisation.** It may be done in parts first, it merges every run, and
nothing else does: the spans that are styled stay, each gap between them keeps its plain text, in
one span, and is empty if it was. So flattening twice changes nothing more and the text
stays. From the left the same comes out. -/
theorem flatten_normalises :
    (∀ xs ys, flatten (xs ++ ys) = flatten (flatten xs ++ flatten ys)) ∧
    (∀ f : Run → Run, (∀ xs, Run.Merges xs (f xs)) ↔ f = flatten) ∧
    (∀ xs, flatten (flatten xs) = flatten xs) ∧
    (∀ xs, Run.text (flatten xs) = Run.text xs) ∧
    ∀ xs, flatten xs = xs.foldl Run.snoc [] := by
  refine ⟨fun xs ys => ?_, fun f => ?_, flatten_flatten, text_flatten, flatten_eq_foldl⟩
  · rw [flatten_append, flatten_append, foldr_cons_flatten, flatten_flatten]
  · constructor
    · intro h
      exact funext fun xs => merges_iff.1 (h xs)
    · rintro rfl
      exact merges_flatten

/-- Empty plain spans merge too, and styled spans of one kind stay apart. -/
example : flatten [⟨.plain, []⟩, ⟨.plain, []⟩, ⟨.quote, ['a']⟩, ⟨.quote, ['b']⟩] =
    [⟨.plain, []⟩, ⟨.quote, ['a']⟩, ⟨.quote, ['b']⟩] := by decide

end Slipbox.Markup
