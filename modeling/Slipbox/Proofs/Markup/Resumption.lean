import Slipbox.Markup.Rule
import Slipbox.Proofs.Markup.Totality

/-!
# Parsing can resume between nodes

Every lexeme and every rule of the markup stays within its text, so none of them sees
what stands before the place where it is tried. In particular the nodes of a text are
those that come up to a boundary between two nodes, followed by the nodes of what stands
after it. The main result is `parse_resumes`.
-/

namespace Slipbox.Markup

open Slipbox.Parsing

variable {t : Text} {offset : Nat} {segments : List Segment}

/-! ### Rules stay within their text -/

theorem within_operator : Within operator := by
  constructor
  · intro s r v h
    obtain ⟨-, rfl, -⟩ := operator_eq_ok_iff.1 h
    exact List.suffix_append _ r
  · intro s e h
    unfold operator at h
    split at h
    · split at h
      · exact nomatch h
      · cases h
        exact List.suffix_refl _
    · cases h
      exact List.suffix_refl _

theorem within_glyph : Within glyph := by
  constructor
  · intro s r v h
    obtain ⟨c, -, -, rfl, -⟩ := glyph_eq_ok_iff.1 h
    exact List.suffix_cons c r
  · intro s e h
    unfold glyph at h
    cases hmark : pattern (.one "^[\\-\\+!\\*¿\\?✘★✓]".toList listGlyphs.contains) s with
    | error e' =>
      rw [hmark] at h
      cases h
      exact (within_pattern _).failure hmark
    | ok x =>
      obtain ⟨mark, rest⟩ := x
      rw [hmark] at h
      cases rest with
      | nil => simp [bind, Except.bind] at h
      | cons c rest =>
        by_cases hc : c = ' ' ∨ c = '\n'
        · simp [bind, Except.bind, hc] at h
        · simp only [bind, Except.bind, if_neg hc] at h
          cases h
          exact List.suffix_refl s

theorem within_label : Within label := by
  have hsegment : Within labelSegment := by
    apply within_sequence
    intro p hp
    rcases List.mem_cons.1 hp with rfl | hp
    · exact within_pattern _
    · rw [List.mem_singleton.1 hp]
      exact within_literal _
  exact hsegment.many1.map _

theorem within_lexeme (l : Lexeme) : Within l.parser := by
  cases l with
  | space => exact within_literal _
  | commentMarker => exact within_literal _
  | operator => exact within_operator
  | glyph => exact within_glyph
  | label => exact within_label
  | spaces | indent | restOfLine | linkText | linkTarget =>
    -- such a run always succeeds, and without its definition its pattern cannot be inferred
    simp only [Lexeme.parser, indent, spaces, restOfLine, linkText, linkTarget]
    exact within_pattern _
  | _ => exact within_pattern _

theorem within_enclosed (kind : SpanKind) (delimiter : Text) (recogniser : Recogniser) :
    Within (spanOf kind (enclosed delimiter (pattern recogniser))) :=
  ((within_pattern recogniser).enclosed delimiter).map _

theorem within_code : Within code := by
  have hfenced : Within fencedCode := (within_pattern _).enclosed _
  have hsingle : Within singleCode := (within_pattern _).enclosed _
  refine (hfenced.alternation ?_).map _
  simpa using hsingle

theorem within_styled : Within styled := by
  apply Within.alternation (within_operator.map _)
  simp only [List.forall_mem_cons]
  exact ⟨within_enclosed _ _ _, within_enclosed _ _ _, within_code, within_enclosed _ _ _,
    within_enclosed _ _ _, within_enclosed _ _ _, by simp⟩

theorem within_span : Within span := by
  apply within_styled.alternation
  simp only [List.forall_mem_cons]
  exact ⟨(within_pattern _).map _, (within_pattern _).map _, by simp⟩

theorem within_textRun : Within textRun := within_span.many1.map _

theorem within_bracketed : Within bracketed :=
  (within_literal _).region (within_pattern _) (within_literal _)

theorem within_parenthesised : Within parenthesised :=
  (within_literal _).region (within_pattern _) (within_literal _)

theorem within_link : Within link := by
  have hdisplay : Within (alternation bracketed [bareUrl]) := by
    apply within_bracketed.alternation
    intro p hp
    rw [List.mem_singleton.1 hp]
    exact within_pattern _
  exact hdisplay.bind fun _ => within_parenthesised.optional.bind fun _ => within_pure _

theorem within_inline : Within inline := by
  apply (within_link.map _).alternation
  simpa using within_textRun.map _

theorem within_comment : Within comment := (within_literal _).bind fun _ => within_pattern _

theorem within_listMarker : Within listMarker := by
  apply within_glyph.alternation
  simpa using within_label

theorem within_listItem : Within listItem :=
  within_listMarker.bind fun _ =>
    ((within_literal _).preceded within_inline).optional.bind fun _ => within_pure _

theorem within_lineContent : Within lineContent := by
  apply (within_link.map _).alternation
  simp only [List.forall_mem_cons]
  exact ⟨within_comment.map _, within_listItem.map _, by simp⟩

theorem within_line : Within line :=
  (within_lexeme .indent).bind fun _ => within_lineContent.bind fun _ => within_pure _

theorem within_tag : Within tag :=
  (within_pattern _).bind fun _ => within_inline.bind fun _ => within_pure _

theorem within_blankRun : Within blankRun := (within_pattern _).map _

theorem within_node : Within node := by
  apply (within_line.map _).alternation
  simp only [List.forall_mem_cons]
  exact ⟨within_tag.map _, within_blankRun.map _, within_textRun.map _, by simp⟩

theorem within_rule (rule : Rule) : Within rule.parser := by
  cases rule with
  | lexeme l => exact (within_lexeme l).map _
  | operator => exact (within_operator.map _).map _
  | code => exact within_code.map _
  | plain => exact ((within_pattern _).map _).map _
  | stray => exact ((within_pattern _).map _).map _
  | styled => exact within_styled.map _
  | span => exact within_span.map _
  | textRun => exact within_textRun.map _
  | link => exact within_link.map _
  | comment => exact within_comment.map _
  | inline => exact within_inline.map _
  | listItem => exact within_listItem.map _
  | line => exact within_line.map _
  | tag => exact within_tag.map _
  | blankRun => exact within_blankRun.map _
  | node => exact within_node.map _
  | document => exact within_node.many.map _
  | bold | struck | quote | blockMath | inlineMath => exact (within_enclosed _ _ _).map _

/-! ### Boundaries between nodes -/

theorem Tiles.le (h : Tiles t offset segments) : offset ≤ t.byteLength := by
  induction h with
  | done => exact Nat.le_refl _
  | next nonempty _ _ ih => omega

theorem Tiles.start_eq {g : Segment} {after : List Segment} (h : Tiles t offset (g :: after)) :
    g.start = offset := by
  cases h with
  | next => rfl

/-- The first node of a tiling is read from what is left at its start and leaves what is left
at its stop. -/
theorem Tiles.exists_read {g : Segment} {after : List Segment} (h : Tiles t offset (g :: after)) :
    ∃ w m, Position.rest? ⟨t, offset⟩ = some (w ++ m) ∧
      Position.rest? ⟨t, g.stop⟩ = some m ∧ node (w ++ m) = .ok (g.node, m) := by
  have hplace := h.le
  cases h with
  | next _ reads _ =>
    obtain ⟨s, w, m, rfl, hs, hstop, hread⟩ := within_node.exists_of_parseAt? hplace reads
    refine ⟨w, m, ?_, ?_, hread⟩
    · rw [← hs]
      exact Position.rest?_append s (w ++ m)
    · rw [← hstop, ← List.append_assoc]
      exact Position.rest?_append (s ++ w) m

/-- What a tiling reads is a chain of nodes that starts where it does and reaches the end. -/
theorem Tiles.exists_chain (h : Tiles t offset segments) :
    ∃ r, Position.rest? ⟨t, offset⟩ = some r ∧ Chain node r (segments.map Segment.node) [] := by
  induction h with
  | done => exact ⟨[], Position.rest?_eq_some_iff.2 ⟨t, by simp⟩, .stop []⟩
  | next nonempty reads tiles ih =>
    obtain ⟨r, hrest, hchain⟩ := ih
    obtain ⟨w, m, hstart, hstop, hread⟩ := (Tiles.next nonempty reads tiles).exists_read
    obtain rfl := Option.some.inj (hstop.symm.trans hrest)
    exact ⟨w ++ m, hstart, .step hread (advances_node hread) hchain⟩

theorem Tiles.tail {g : Segment} {after : List Segment} (h : Tiles t offset (g :: after)) :
    Tiles t g.stop after := by
  cases h with
  | next _ _ tiles => exact tiles

theorem Tiles.drop {before after : List Segment} {g : Segment}
    (h : Tiles t offset (before ++ g :: after)) : Tiles t g.start (g :: after) := by
  induction before generalizing offset with
  | nil =>
    cases h with
    | next nonempty reads tiles => exact .next nonempty reads tiles
  | cons _ _ ih => exact ih h.tail

/-- **Every rule sees only what lies ahead, and parsing can resume between nodes.** Each rule does
behind any text what it does at the start of what follows. A text has a tiling, and from the end
of each of its nodes on the text parses to the nodes after that one. -/
theorem parse_resumes :
    (∀ rule : Rule, SeesOnlyRest rule.parser) ∧ SeesOnlyRest bracketed ∧
    SeesOnlyRest parenthesised ∧ SeesOnlyRest listMarker ∧ SeesOnlyRest lineContent ∧
    ∀ t : Text, (∃ segments, Tiles t 0 segments) ∧
      ∀ segments, Tiles t 0 segments → parseDocument t = .ok (segments.map Segment.node) ∧
        ∀ before g after, segments = before ++ g :: after →
          ∃ rest, Position.rest? ⟨t, g.stop⟩ = some rest ∧
            parseDocument rest = .ok (after.map Segment.node) := by
  refine ⟨fun rule => (within_rule rule).seesOnlyRest, within_bracketed.seesOnlyRest,
    within_parenthesised.seesOnlyRest, within_listMarker.seesOnlyRest,
    within_lineContent.seesOnlyRest, ?_⟩
  intro t
  constructor
  · obtain ⟨nodes, hchain⟩ := exists_chain_node t
    obtain ⟨segments, -, htiles⟩ := exists_tiles_of_chain (s := []) hchain
    exact ⟨segments, htiles⟩
  · intro segments htiles
    constructor
    · obtain ⟨r, hrest, hchain⟩ := htiles.exists_chain
      obtain rfl := Option.some.inj (hrest.symm.trans (Position.rest?_append [] t))
      exact parseDocument_eq_ok_iff.2 hchain
    · rintro before g after rfl
      obtain ⟨rest, hrest, hchain⟩ := htiles.drop.tail.exists_chain
      exact ⟨rest, hrest, parseDocument_eq_ok_iff.2 hchain⟩

/-- Parsing resumes behind a link that takes four bytes. -/
theorem parse_resumes_behind_link :
    ∃ rest, Position.rest? ⟨"[é]\n[b]".toList, 4⟩ = some rest ∧
      parseDocument rest = .ok [.blank 0, .line ⟨0, .link ⟨['b'], none⟩⟩] := by
  have hlast : Tiles "[é]\n[b]".toList 5 [⟨5, 8, .line ⟨0, .link ⟨['b'], none⟩⟩⟩] :=
    Tiles.read (s := "[é]\n".toList) (w := "[b]".toList) (m := []) rfl .done
  have hblank : Tiles "[é]\n[b]".toList 4 [⟨4, 5, .blank 0⟩, _] :=
    Tiles.read (s := "[é]".toList) (w := ['\n']) (m := "[b]".toList) rfl hlast
  have htiles : Tiles "[é]\n[b]".toList 0 [⟨0, 4, .line ⟨0, .link ⟨['é'], none⟩⟩⟩, _, _] :=
    Tiles.read (s := []) (w := "[é]".toList) (m := "\n[b]".toList) rfl hblank
  exact ((parse_resumes.2.2.2.2.2 _).2 _ htiles).2 [] _ _ rfl

end Slipbox.Markup
