import Mathlib.Data.List.Basic
import Slipbox.Proofs.Markup.Shape

/-!
# A text of one tag line

A text that is a tag marker, a line and a newline is one tag and a blank run. Nothing in the line
can take the newline: what is read there would have to end with it, and no span ends with a
newline (`textRun_line`). Markers at the beginning of the line count to the depth of the tag, and
markers alone are plain text, for then nothing is left for a tag to label.
-/

namespace Slipbox.Markup

open Slipbox.Parsing

variable {s t r : Text} {raw run : Run} {k : Nat}

/-! ### Runs before the last newline -/

/-- No span ends with a newline, though the bodies of some may hold one. -/
theorem ReadsSpan.getLast?_ne {x : Span} (h : ReadsSpan s x []) : s.getLast? ≠ some '\n' := by
  generalize hr : ([] : Text) = r at h
  cases h with
  | styled styled =>
    cases styled with
    | operator _ spaced => simp [← hr] at spaced
    | enclosed encloses =>
      obtain ⟨d, n, rfl, -, hd, -⟩ := encloses.delimiter_eq
      have hlast : d ≠ '\n' := by
        rintro rfl
        exact absurd hd (by decide)
      simpa [← hr, delimited, List.getLast?_replicate] using hlast
  | plain _ avoids =>
    rw [← hr, List.append_nil]
    intro hlast
    exact avoids _ (List.mem_of_getLast? hlast) List.mem_cons_self
  | stray special =>
    rw [← hr]
    intro hlast
    obtain rfl := Option.some.inj hlast
    exact absurd special (by decide)

theorem getLast?_ne_of_chain (h : Chain span s raw []) : s.getLast? ≠ some '\n' := by
  generalize hr : ([] : Text) = r at h
  induction h with
  | stop => simp [← hr]
  | @step s m r x raw head _ _ ih =>
    have hread := span_eq_ok_iff.1 head
    cases m with
    | nil => exact hread.getLast?_ne
    | cons d m =>
      obtain ⟨c, w, -, rfl⟩ := hread.exists_head
      rw [← List.cons_append, List.getLast?_append_cons]
      exact ih hr

/-- A run reads a line before the last newline of a text whole, and leaves the newline. -/
theorem textRun_line (hne : t ≠ []) (hline : '\n' ∉ t) :
    ∃ run, textRun (t ++ ['\n']) = .ok (run, ['\n']) := by
  have hopens : ¬ LineEnd (t ++ ['\n']) := by
    obtain ⟨c, u, rfl⟩ := List.exists_cons_of_ne_nil hne
    rw [List.cons_append, lineEnd_cons]
    rintro rfl
    exact hline List.mem_cons_self
  obtain ⟨run, r, hrun⟩ := not_fails_iff.1 (mt textRun_fails_iff.1 hopens)
  obtain ⟨raw, -, hchain, hend, -⟩ := textRun_eq_ok_iff.1 hrun
  obtain ⟨w, -, hsplit⟩ := textRun_spells hrun
  cases r with
  | nil => exact absurd (by simp) (getLast?_ne_of_chain hchain)
  | cons c r =>
    obtain rfl := lineEnd_cons.1 hend
    rcases List.eq_nil_or_concat r with rfl | ⟨u, d, rfl⟩
    · exact ⟨run, hrun⟩
    · -- a newline before the last one would stand in the line
      rw [List.concat_eq_append, ← List.cons_append, ← List.append_assoc] at hsplit
      obtain ⟨rfl, -⟩ := List.append_inj' hsplit rfl
      exact absurd (by simp) hline

/-- A line without delimiters and operators is one plain text. -/
theorem textRun_plain (hne : t ≠ []) (havoids : Avoids SpanKind.plain.stops t)
    (hfree : ¬ HoldsOperator t) (hr : LineEnd r) :
    textRun (t ++ r) = .ok ([⟨.plain, t⟩], r) := by
  have hrun : Run.Canonical [⟨.plain, t⟩] := by
    refine ⟨by simp, ?_, ⟨by simp, ?_, by simp⟩, trivial⟩
    · exact List.forall_mem_singleton.2 ⟨hne, havoids, by simp⟩
    · simpa [gapBefore] using hfree
  simpa [Run.spelling, Span.spelling] using hrun.textRun_eq hr

/-! ### Tags -/

/-- What is left of a text without the marks in front, which can be counted. -/
theorem dropWhile_mark_eq_iff {c : Char} {t u : Text} :
    t.dropWhile (· == c) = u ↔ u.head? ≠ some c ∧ ∃ n, t = List.replicate n c ++ u := by
  constructor
  · intro h
    obtain ⟨hmarks, hnext, hsplit⟩ := takeWhile_dropWhile_iff.1 ⟨rfl, h⟩
    refine ⟨fun hc => ?_, _, hsplit.trans (congrArg (· ++ u) (eq_replicate_of_all hmarks))⟩
    simpa using hnext c hc
  · rintro ⟨hu, n, rfl⟩
    refine (takeWhile_append_of_next (by simp) ?_).2
    intro x hx
    rw [beq_eq_false_iff_ne]
    rintro rfl
    exact hu hx

theorem not_opensLink (hbracket : t.head? ≠ some '[') (haddress : ¬ "http".toList <+: t) :
    ¬ OpensLink t := by
  intro h
  cases h with
  | bracket => exact hbracket rfl
  | address => exact haddress (List.prefix_append _ _)

/-- The text of one tag line: markers, what they mark, and a newline. -/
def tagLine (k : Nat) (t : Text) : Text := List.replicate (k + 1) '@' ++ (t ++ ['\n'])

theorem next_tagLine (hmark : t.head? ≠ some '@') : Next (· ≠ '@') (t ++ ['\n']) := by
  cases t with
  | nil => exact (next_cons _ _ _).2 (by decide)
  | cons c t => exact (next_cons _ _ _).2 (by simpa using hmark)

/-- The markers of a tag line are counted, whatever they mark. -/
theorem exists_nodes_tagLine (hne : t ≠ []) (hline : '\n' ∉ t) (hmark : t.head? ≠ some '@') :
    ∃ label nodes, parseDocument (tagLine k t) = .ok (.tag ⟨k + 1, label⟩ :: nodes) := by
  obtain ⟨run, hrun⟩ := textRun_line hne hline
  have hopens : ¬ Fails inline (t ++ ['\n']) := by
    rw [inline_fails_iff, ← textRun_fails_iff]
    exact not_fails_of_ok hrun
  obtain ⟨label, r, hlabel⟩ := not_fails_iff.1 hopens
  have htag : tag (tagLine k t) = .ok (⟨k + 1, label⟩, r) :=
    tag_eq_ok_iff.2 ⟨Nat.succ_pos k, _, rfl, next_tagLine hmark, hlabel⟩
  have hnode := node_eq_ok_iff.2 (.tag htag)
  obtain ⟨nodes, hrest⟩ := exists_chain_node r
  exact ⟨label, nodes, parseDocument_eq_ok_iff.2 (.step hnode (advances_node hnode) hrest)⟩

theorem chain_newline : Chain node ['\n'] [.blank 0] [] := by
  have hblank : node (List.replicate (0 + 1) '\n' ++ []) = .ok (.blank 0, []) :=
    node_eq_ok_iff.2 (.blank (next_nil _))
  exact .step hblank (advances_node hblank) (.stop [])

/-- A tag line that begins no link is one tag with the run of the line, and a blank run. -/
theorem nodes_tagLine (hmark : t.head? ≠ some '@') (hlink : ¬ OpensLink t)
    (hrun : textRun (t ++ ['\n']) = .ok (run, ['\n'])) :
    parseDocument (tagLine k t) = .ok [.tag ⟨k + 1, .run run⟩, .blank 0] := by
  have hunlinked : Fails link (t ++ ['\n']) := by
    rwa [link_fails_iff, opensLink_append_iff (lineEnd_cons.2 rfl)]
  have hlabel : inline (t ++ ['\n']) = .ok (.run run, ['\n']) :=
    inline_eq_ok_iff.2 (.inr ⟨hunlinked, run, rfl, hrun⟩)
  have htag : tag (tagLine k t) = .ok (⟨k + 1, .run run⟩, ['\n']) :=
    tag_eq_ok_iff.2 ⟨Nat.succ_pos k, _, rfl, next_tagLine hmark, hlabel⟩
  have hnode := node_eq_ok_iff.2 (.tag htag)
  exact parseDocument_eq_ok_iff.2 (.step hnode (advances_node hnode) chain_newline)

/-- Markers that mark nothing are plain text. -/
theorem nodes_tagLine_nil (k : Nat) :
    parseDocument (tagLine k []) =
      .ok [.text [⟨.plain, List.replicate (k + 1) '@'⟩], .blank 0] := by
  have hfree : ¬ HoldsOperator (List.replicate (k + 1) '@') := by
    rw [← List.append_nil (List.replicate (k + 1) '@'), holdsOperator_append (by simp)]
    decide
  have havoids : Avoids SpanKind.plain.stops (List.replicate (k + 1) '@') := by
    intro c hc
    rw [List.eq_of_mem_replicate hc]
    decide
  have hrun : textRun (tagLine k []) = .ok ([⟨.plain, List.replicate (k + 1) '@'⟩], ['\n']) :=
    textRun_plain (by simp) havoids hfree (lineEnd_cons.2 rfl)
  have hline : Fails line (tagLine k []) := by
    rw [fails_iff]
    intro l r hok
    obtain ⟨c, w, hsplit, -, hc⟩ := line_head_ne hok
    exact hc (List.cons.inj hsplit).1.symm
  have htag : Fails tag (tagLine k []) := by
    rw [fails_iff]
    rintro ⟨depth, label⟩ r hok
    obtain ⟨-, m, hsplit, hm, hlabel⟩ := tag_eq_ok_iff.1 hok
    obtain ⟨-, rfl⟩ := replicate_append_inj (next_tagLine (by simp)) hm hsplit
    exact not_fails_of_ok hlabel (inline_fails_iff.2 (lineEnd_cons.2 rfl))
  have hnode := node_eq_ok_iff.2 (.text hline htag hrun)
  exact parseDocument_eq_ok_iff.2 (.step hnode (advances_node hnode) chain_newline)

end Slipbox.Markup
