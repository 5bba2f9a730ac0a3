import Slipbox.Proofs.Markup.Openings
import Slipbox.Proofs.Markup.Spellings

/-!
# Lines are parsed on their own

What a rule reads in a line does not depend on what follows the end of that line. The
openings of lines and tags already lie within a line; here the same is shown for what
the rules read and leave, from the styled spans up to the nodes. Two regions may go on
over the end of a line, fenced code and block math, and a blank run goes on over all
newlines that follow it. A text is closed when it begins no such region and does not
end with a newline; a closed text is parsed alike on its own and before the end of its
line. The main result is `parse_lines`.
-/

namespace Slipbox.Markup

open Slipbox.Parsing

variable {s m r : Text}

/-- The text holds no delimiter of a region that may take newlines, and no newline at its end. -/
structure Closed (s : Text) : Prop where
  unfenced : ¬ ['\x60', '\x60', '\x60'] <:+: s
  unmathed : ¬ ['$', '$'] <:+: s
  ends : s.getLast? ≠ some '\n'

theorem Closed.of_append {w : Text} (h : Closed (w ++ m)) : Closed m := by
  constructor
  · intro hfence
    exact h.unfenced (hfence.trans (List.suffix_append w m).isInfix)
  · intro hmath
    exact h.unmathed (hmath.trans (List.suffix_append w m).isInfix)
  · intro hlast
    apply h.ends
    rw [List.getLast?_append, hlast]
    rfl

/-! ### Spans -/

/-- A body does not go on over the end of a line, unless its delimiter is a fence or that of
block math. -/
theorem Encloses.single_line {kind : SpanKind} {delimiter : Text} {stops : List Char}
    (h : Encloses kind delimiter stops) :
    '\n' ∉ delimiter ∧ ('\n' ∈ stops ∨ delimiter = ['\x60', '\x60', '\x60'] ∨
      delimiter = ['$', '$']) := by
  cases h <;> decide

theorem ReadsStyled.append {x : Span} (h : ReadsStyled s x m) (r : Text) :
    ReadsStyled (s ++ r) x (m ++ r) := by
  cases h with
  | operator known spaced =>
    rw [List.append_assoc]
    obtain ⟨z, rfl⟩ := List.head?_eq_some_iff.1 spaced
    exact .operator known rfl
  | enclosed encloses nonempty avoids =>
    rw [List.append_assoc]
    exact .enclosed encloses nonempty avoids

theorem ReadsStyled.of_append {x : Span} {t : Text} (hs : Closed s) (hr : LineEnd r)
    (h : ReadsStyled (s ++ r) x t) : ∃ m, ReadsStyled s x m := by
  generalize hw : s ++ r = w at h
  cases h with
  | @operator symbol _ known spaced =>
    obtain ⟨z, rfl⟩ := List.head?_eq_some_iff.1 spaced
    have hsymbol : '\n' ∉ ' ' :: symbol ++ [' '] :=
      (by decide : ∀ o ∈ operators, '\n' ∉ ' ' :: o ++ [' ']) symbol known
    have hlead : ' ' :: symbol ++ [' '] <+: s ++ r := ⟨z, by simp [hw]⟩
    obtain ⟨y, rfl⟩ := prefix_of_lineEnd hsymbol hr hlead
    exact ⟨' ' :: y, by simpa using ReadsStyled.operator (r := ' ' :: y) known rfl⟩
  | @enclosed kind delimiter stops body _ encloses nonempty avoids =>
    obtain ⟨hdelimiter, hline | hmulti⟩ := encloses.single_line
    · have hregion : '\n' ∉ delimited delimiter body := by
        simp only [delimited, List.mem_append, not_or]
        exact ⟨⟨hdelimiter, fun hmem => avoids _ hmem hline⟩, hdelimiter⟩
      have hlead : delimited delimiter body <+: s ++ r := ⟨t, hw.symm⟩
      obtain ⟨y, rfl⟩ := prefix_of_lineEnd hregion hr hlead
      exact ⟨y, .enclosed encloses nonempty avoids⟩
    · -- a body that may take newlines has its opening delimiter in the closed text
      have hlead : delimiter <+: s ++ r := ⟨body ++ (delimiter ++ t), by simp [hw, delimited]⟩
      have hopening := prefix_of_lineEnd hdelimiter hr hlead
      rcases hmulti with rfl | rfl
      · exact absurd hopening.isInfix hs.unfenced
      · exact absurd hopening.isInfix hs.unmathed

theorem styled_fails_append (hs : Closed s) (hr : LineEnd r) (h : Fails styled s) :
    Fails styled (s ++ r) := by
  rw [fails_iff]
  intro x t hok
  obtain ⟨m, hread⟩ := (styled_eq_ok_iff.1 hok).of_append hs hr
  exact hread.not_fails h

/-- The next character stays of its kind before the end of a line. -/
theorem Next.before_lineEnd {P : Char → Prop} (hP : P '\n') (h : Next P s) (hr : LineEnd r) :
    Next P (s ++ r) := by
  refine h.append fun _ c hc => ?_
  rw [hr c hc]
  exact hP

theorem LineEnd.append (hs : LineEnd s) (hr : LineEnd r) : LineEnd (s ++ r) :=
  Next.before_lineEnd rfl hs hr

theorem ReadsSpan.append {x : Span} (hs : Closed s) (hr : LineEnd r) (h : ReadsSpan s x m) :
    ReadsSpan (s ++ r) x (m ++ r) := by
  cases h with
  | styled styled => exact .styled (styled.append r)
  | plain nonempty avoids ends =>
    rw [List.append_assoc]
    exact .plain nonempty avoids (ends.before_lineEnd (by simp) hr)
  | stray special unclaimed => exact .stray special (styled_fails_append hs hr unclaimed)

theorem span_append {x : Span} (hs : Closed s) (hr : LineEnd r) (h : span s = .ok (x, m)) :
    Closed m ∧ span (s ++ r) = .ok (x, m ++ r) := by
  have hread := span_eq_ok_iff.1 h
  refine ⟨?_, span_eq_ok_iff.2 (hread.append hs hr)⟩
  obtain ⟨c, w, -, rfl⟩ := hread.exists_head
  exact hs.of_append (w := c :: w)

theorem textRun_append {run : Run} (hs : Closed s) (hr : LineEnd r)
    (h : textRun s = .ok (run, m)) : textRun (s ++ r) = .ok (run, m ++ r) := by
  obtain ⟨raw, hne, hchain, hm, rfl⟩ := textRun_eq_ok_iff.1 h
  have hlonger : Chain span (s ++ r) raw (m ++ r) := hchain.extend hs fun hs => span_append hs hr
  exact textRun_eq_ok_iff.2 ⟨raw, hne, hlonger, hm.append hr, rfl⟩

/-! ### Links -/

theorem parenthesised_fails_append (hr : LineEnd r) (h : Fails parenthesised s) :
    Fails parenthesised (s ++ r) := by
  rw [fails_iff]
  intro target t hok
  obtain ⟨havoids, heq⟩ := parenthesised_eq_ok_iff.1 hok
  have hregion : '\n' ∉ '(' :: target ++ [')'] := by
    have hbody : '\n' ∉ target := fun hmem => havoids _ hmem (by simp)
    simp [hbody]
  have hlead : '(' :: target ++ [')'] <+: s ++ r := ⟨t, by simp [heq]⟩
  obtain ⟨y, rfl⟩ := prefix_of_lineEnd hregion hr hlead
  exact not_fails_of_ok (parenthesised_eq_ok_iff.2 ⟨havoids, List.append_assoc _ [')'] y⟩) h

theorem ReadsLink.append {l : Link} (hr : LineEnd r) (h : ReadsLink s l m) :
    ReadsLink (s ++ r) l (m ++ r) := by
  cases h with
  | targeted display_avoids target_avoids =>
    simpa using ReadsLink.targeted (r := m ++ r) display_avoids target_avoids
  | bracketed display_avoids untargeted =>
    simpa using ReadsLink.bracketed display_avoids (parenthesised_fails_append hr untargeted)
  | bare address ended =>
    rw [List.append_assoc]
    exact .bare address (ended.before_lineEnd (by decide) hr)

theorem link_fails_append (hr : LineEnd r) (h : Fails link s) : Fails link (s ++ r) := by
  rw [link_fails_iff] at h ⊢
  rwa [opensLink_append_iff hr]

theorem inline_append {content : Inline} (hs : Closed s) (hr : LineEnd r)
    (h : inline s = .ok (content, m)) : inline (s ++ r) = .ok (content, m ++ r) := by
  rcases inline_eq_ok_iff.1 h with ⟨l, rfl, hl⟩ | ⟨hlink, run, rfl, hrun⟩
  · exact inline_eq_ok_iff.2 (.inl ⟨l, rfl, link_eq_ok_iff.2 ((link_eq_ok_iff.1 hl).append hr)⟩)
  · have hrun' := textRun_append hs hr hrun
    exact inline_eq_ok_iff.2 (.inr ⟨link_fails_append hr hlink, run, rfl, hrun'⟩)

/-! ### Lines -/

theorem labelSegment_fails_append (hr : LineEnd r) (h : Fails labelSegment s) :
    Fails labelSegment (s ++ r) := by
  rw [fails_iff]
  intro segment t hok
  obtain ⟨hsegment, heq⟩ := labelSegment_eq_ok_iff.1 hok
  obtain ⟨y, rfl⟩ := prefix_of_lineEnd hsegment.newline_not_mem hr (heq ▸ List.prefix_append _ t)
  exact not_fails_of_ok (labelSegment_eq_ok_iff.2 ⟨hsegment, rfl⟩) h

theorem ReadsMarker.append {marker : Text} (hr : LineEnd r) (h : ReadsMarker s marker m) :
    ReadsMarker (s ++ r) marker (m ++ r) := by
  cases h with
  | glyph known separated => exact .glyph known (separated.before_lineEnd (.inr rfl) hr)
  | label shape complete =>
    rw [List.append_assoc]
    exact .label shape (labelSegment_fails_append hr complete)

theorem ReadsContent.append {content : Option Inline} (hs : Closed s) (hr : LineEnd r)
    (h : ReadsContent s content m) : ReadsContent (s ++ r) content (m ++ r) := by
  cases h with
  | @some t _ _ hinline => exact .some (inline_append (hs.of_append (w := [' '])) hr hinline)
  | none bare =>
    refine .none fun x hx => ?_
    cases s with
    | nil => exact absurd (hr ' ' (by rw [← List.nil_append r, hx]; rfl)) (by decide)
    | cons c s =>
      obtain ⟨rfl, rfl⟩ := List.cons.inj hx
      exact (bare s rfl).append hr

theorem ReadsLineContent.append {content : LineContent} (hs : Closed s) (hr : LineEnd r)
    (h : ReadsLineContent s content m) : ReadsLineContent (s ++ r) content (m ++ r) := by
  cases h with
  | link link => exact .link (link.append hr)
  | comment avoids ends =>
    rw [List.append_assoc]
    exact .comment avoids (ends.append hr)
  | item unlinked marker content =>
    rw [marker.eq_append] at hs
    exact .item (link_fails_append hr unlinked) (marker.append hr)
      (content.append hs.of_append hr)

theorem line_append {l : Line} (hs : Closed s) (hr : LineEnd r) (h : line s = .ok (l, m)) :
    line (s ++ r) = .ok (l, m ++ r) := by
  obtain ⟨t, rfl, hcontent⟩ := line_eq_ok_iff.1 h
  exact line_eq_ok_iff.2 ⟨t ++ r, List.append_assoc _ _ _, hcontent.append hs.of_append hr⟩

theorem tag_append {t : Tag} (hs : Closed s) (hr : LineEnd r) (h : tag s = .ok (t, m)) :
    tag (s ++ r) = .ok (t, m ++ r) := by
  obtain ⟨hdepth, u, rfl, hu, hlabel⟩ := tag_eq_ok_iff.1 h
  exact tag_eq_ok_iff.2 ⟨hdepth, u ++ r, List.append_assoc _ _ _,
    hu.before_lineEnd (by decide) hr, inline_append hs.of_append hr hlabel⟩

/-! ### Nodes -/

/-- A blank run of a closed text has something after it, and stops there. -/
theorem Closed.blank_append {count : Nat} (hs : Closed (List.replicate (count + 1) '\n' ++ m))
    (hm : Next (· ≠ '\n') m) (r : Text) : Next (· ≠ '\n') (m ++ r) := by
  refine hm.append ?_
  rintro rfl
  refine absurd ?_ hs.ends
  simp [List.getLast?_replicate]

theorem ReadsNode.append {n : Node} (hs : Closed s) (hr : LineEnd r) (h : ReadsNode s n m) :
    ReadsNode (s ++ r) n (m ++ r) := by
  cases h with
  | line hline => exact .line (line_append hs hr hline)
  | tag htag => exact .tag (tag_append hs hr htag)
  | blank ends =>
    rw [List.append_assoc]
    exact .blank (hs.blank_append ends r)
  | text unlined untagged hrun =>
    -- neither a line nor a tag may open now, which their openings within the line decide
    refine .text ?_ ?_ (textRun_append hs hr hrun)
    · rwa [line_fails_iff, opensLine_append_iff hr, ← line_fails_iff]
    · rwa [tag_fails_iff, opensTag_append_iff hr, ← tag_fails_iff]

theorem node_append {n : Node} (hs : Closed s) (hr : LineEnd r) (h : node s = .ok (n, m)) :
    Closed m ∧ node (s ++ r) = .ok (n, m ++ r) := by
  refine ⟨?_, node_eq_ok_iff.2 ((node_eq_ok_iff.1 h).append hs hr)⟩
  obtain ⟨w, -, rfl⟩ := node_spells h
  exact hs.of_append

/-! ### Documents -/

/-- **Lines are parsed on their own.** A text that begins no fence and no block math and does not
end with a newline is parsed as if nothing followed its last line, and what follows the newlines
after it is parsed as if nothing stood before them. -/
theorem parse_lines {a b : Text} {k : Nat} (ha : a.getLast? ≠ some '\n')
    (hfence : Text.containsText "```".toList a = false)
    (hmath : Text.containsText "$$".toList a = false) (hk : 0 < k) (hb : b.head? ≠ some '\n') :
    ∃ before after, parseDocument a = .ok before ∧ parseDocument b = .ok after ∧
      parseDocument (a ++ List.replicate k '\n' ++ b) =
        .ok (before ++ [.blank (k - 1)] ++ after) := by
  have hclosed : Closed a := by
    refine ⟨?_, ?_, ha⟩
    · rw [← Text.containsText_iff]
      exact Bool.eq_false_iff.1 hfence
    · rw [← Text.containsText_iff]
      exact Bool.eq_false_iff.1 hmath
  obtain ⟨before, hbefore⟩ := exists_chain_node a
  obtain ⟨after, hafter⟩ := exists_chain_node b
  refine ⟨before, after, parseDocument_eq_ok_iff.2 hbefore, parseDocument_eq_ok_iff.2 hafter, ?_⟩
  have hblank : node (List.replicate k '\n' ++ b) = .ok (.blank (k - 1), b) := by
    obtain ⟨count, rfl⟩ := Nat.exists_eq_add_one.2 hk
    refine node_eq_ok_iff.2 (.blank ?_)
    rintro c hc rfl
    exact hb hc
  have hend : LineEnd (List.replicate k '\n' ++ b) := by
    refine next_append ?_ (by simp) b
    simpa using Nat.ne_of_gt hk
  rw [parseDocument_eq_ok_iff, List.append_assoc, List.append_assoc]
  have hlonger := hbefore.extend hclosed fun hs => node_append hs hend
  exact hlonger.append (.step hblank (advances_node hblank) hafter)

/-- A stray bold mark finds no partner on a later line. -/
theorem parse_lines_stray : ∃ before after,
    parseDocument "@a *b".toList = .ok before ∧ parseDocument "- c* d".toList = .ok after ∧
      parseDocument ("@a *b".toList ++ List.replicate 2 '\n' ++ "- c* d".toList) =
        .ok (before ++ [.blank (2 - 1)] ++ after) :=
  parse_lines (by decide) (by decide) (by decide) (by decide) (by decide)

end Slipbox.Markup
