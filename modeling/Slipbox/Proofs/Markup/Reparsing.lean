import Slipbox.Proofs.Markup.Backticks

/-!
# When a printed document reads back

What the parser gives for a text is not always given again for its print. Three
things can go wrong, each where a spelling is not recorded: a bracketed address may
hold white space or be followed by something else, the same may continue the label
of an item, and marks of code may join (see `Run.Settled`). `Settled` excludes them,
and `reparse_iff` says that nothing else goes wrong: the print of a parsed text is
read back if and only if its nodes are settled.
-/

namespace Slipbox.Markup

open Slipbox.Parsing

variable {s m m' r w p : Text} {nodes : List Node}

/-! ### Settled nodes -/

/-- A link that is printed bare is an address and ends where it is printed. -/
def Link.SettledBefore (l : Link) (after : Text) : Prop :=
  l.IsBare → (∀ c ∈ l.display, Text.isBlank c = false) ∧ Ended after

def Inline.run? : Inline → Option Run
  | .run spans => some spans
  | .link _ => none

def LineContent.run? : LineContent → Option Run
  | .item i => i.content.bind Inline.run?
  | _ => none

/-- The run that the node holds, if any. -/
def Node.run? : Node → Option Run
  | .tag t => t.label.run?
  | .line l => l.content.run?
  | .text run => some run
  | .blank _ => none

/-- The node keeps its meaning when it is printed before the other nodes. -/
structure Node.Settled (n : Node) (nodes : List Node) : Prop where
  link : ∀ l ∈ n.link?, l.SettledBefore (unparse nodes)
  marker : ∀ indent mark l rest, n = .line ⟨indent, .item ⟨mark, none⟩⟩ →
    nodes = .line ⟨0, .link l⟩ :: rest → l.IsBare → Fails labelSegment l.display
  run : ∀ run ∈ n.run?, run.Settled

/-- Every node is settled among those after it. -/
def Settled : List Node → Prop
  | [] => True
  | n :: nodes => n.Settled nodes ∧ Settled nodes

/-! ### Labels -/

theorem labelSegment_fails_iff :
    Fails labelSegment s ↔ ∀ segment, IsSegment segment → ¬ segment <+: s := by
  rw [fails_iff]
  constructor
  · rintro h segment hsegment ⟨r, rfl⟩
    exact h segment r (labelSegment_eq_ok_iff.2 ⟨hsegment, rfl⟩)
  · intro h segment r hok
    obtain ⟨hsegment, rfl⟩ := labelSegment_eq_ok_iff.1 hok
    exact h segment hsegment (List.prefix_append segment r)

theorem IsSegment.not_prefix_cons {segment : Text} {c : Char} (h : IsSegment segment)
    (hc : c.isAlphanum = false) : ¬ segment <+: c :: s := by
  intro hlead
  obtain ⟨a, hne, ha, rfl⟩ := h
  obtain ⟨d, a, rfl⟩ := List.exists_cons_of_ne_nil hne
  obtain ⟨rfl, -⟩ := List.cons_prefix_cons.1 hlead
  rw [ha d List.mem_cons_self] at hc
  exact nomatch hc

theorem not_isBlank_of_isAlphanum {c : Char} (h : c.isAlphanum = true) :
    Text.isBlank c = false := by
  have hrange : 48 ≤ c.toNat ∧ c.toNat ≤ 122 := by
    change ((decide (65 ≤ c.val ∧ c.val ≤ 90) ||
      (decide (97 ≤ c.val) && decide (c.val ≤ 122))) ||
      (decide (48 ≤ c.val) && decide (c.val ≤ 57))) = true at h
    simp only [Bool.or_eq_true, Bool.and_eq_true, decide_eq_true_eq, UInt32.le_iff_toNat_le] at h
    change ((65 ≤ c.toNat ∧ c.toNat ≤ 90) ∨ (97 ≤ c.toNat ∧ c.toNat ≤ 122)) ∨
      (48 ≤ c.toNat ∧ c.toNat ≤ 57) at h
    omega
  simp only [Text.isBlank, Bool.or_eq_false_iff, Bool.and_eq_false_iff, decide_eq_false_iff_not,
    beq_eq_false_iff_ne]
  omega

theorem IsSegment.not_blank {segment : Text} (h : IsSegment segment) :
    ∀ c ∈ segment, ¬ Text.isBlank c = true := by
  intro c hc
  rw [Bool.not_eq_true]
  rcases h.of_mem hc with hc | rfl
  · exact not_isBlank_of_isAlphanum hc
  · decide

theorem IsSegment.tick_not_mem {segment : Text} (h : IsSegment segment) : '\x60' ∉ segment := by
  intro hmem
  exact absurd (h.of_mem hmem) (by decide)

/-! ### Openings stay closed

What opens in the print of a run opened in the text: no brackets are dropped there.
-/

theorem OpensLink.of_respelled (hp : Respelled Never w p) (h : OpensLink p) : OpensLink w := by
  have hnever : ∀ display q, ¬ Never display q := fun _ _ hfalse => hfalse
  cases h with
  | @bracket display q avoids =>
    obtain ⟨w, rfl, hw⟩ := hp.exists_cons (by decide) (.inr hnever)
    have hclosing : Respelled Never w (display ++ (List.replicate (0 + 1) ']' ++ q)) := hw
    obtain ⟨v, w', rfl, -, hmem⟩ := hclosing.exists_closing (by decide) (by decide)
      fun _ _ hfalse => hfalse.elim
    refine .bracket ?_
    intro c hc
    rcases hmem c hc with hc | ⟨-, _, _, hfalse⟩
    · exact avoids c hc
    · exact hfalse.elim
  | address q =>
    obtain ⟨w, rfl, -⟩ := hp.exists_append (by decide) (.inr hnever)
    exact .address w

theorem OpensLine.of_respelled (hp : Respelled Never w p) (h : OpensLine p) : OpensLine w := by
  have hnever : ∀ display q, ¬ Never display q := fun _ _ hfalse => hfalse
  induction h generalizing w with
  | link link => exact .link (link.of_respelled hp)
  | comment q =>
    have hmarker : Respelled Never w (['>', ' '] ++ q) := hp
    obtain ⟨w, rfl, -⟩ := hmarker.exists_append (by decide) (.inr hnever)
    exact .comment w
  | @glyph c q known separated =>
    have hc : c ≠ '\x60' := by
      rintro rfl
      exact absurd known (by decide)
    obtain ⟨w, rfl, hw⟩ := hp.exists_cons hc (.inr hnever)
    refine .glyph known ?_
    intro d hd
    rcases hw.head?_eq with hsame | ⟨hbracket, hletter⟩
    · exact separated d (hsame ▸ hd)
    · rcases separated 'h' hletter with heq | heq
      · exact absurd heq (by decide)
      · exact absurd heq (by decide)
  | @label segment shape q =>
    obtain ⟨w, rfl, -⟩ := hp.exists_append shape.tick_not_mem (.inr hnever)
    exact .label shape w
  | indented _ ih =>
    obtain ⟨w, rfl, hw⟩ := hp.exists_cons (by decide) (.inr hnever)
    exact .indented (ih hw)

theorem OpensTag.of_respelled (hp : Respelled Never w p) (h : OpensTag p) : OpensTag w := by
  have hnever : ∀ display q, ¬ Never display q := fun _ _ hfalse => hfalse
  induction h generalizing w with
  | @label c q marked hline =>
    obtain ⟨w, rfl, hw⟩ := hp.exists_cons (by decide) (.inr hnever)
    rcases hw.head?_eq with hsame | ⟨hbracket, -⟩
    · obtain ⟨w, rfl⟩ := List.head?_eq_some_iff.1 hsame
      exact .label w marked hline
    · obtain ⟨w, rfl⟩ := List.head?_eq_some_iff.1 hbracket
      exact .label w (by decide) (by decide)
  | deeper _ ih =>
    obtain ⟨w, rfl, hw⟩ := hp.exists_cons (by decide) (.inr hnever)
    exact .deeper (ih hw)

theorem parenthesised_fails_respelled (hm : Respelled BeforeBlank m m')
    (h : Fails parenthesised m) : Fails parenthesised m' := by
  rw [fails_iff]
  intro t r hok
  obtain ⟨havoids, rfl⟩ := parenthesised_eq_ok_iff.1 hok
  rw [List.cons_append] at hm
  obtain ⟨w, rfl, hw⟩ := hm.exists_cons (by decide) (.inl (by decide))
  have hclosing : Respelled BeforeBlank w (t ++ (List.replicate (0 + 1) ')' ++ r)) := hw
  obtain ⟨v, w', rfl, -, hmem⟩ := hclosing.exists_closing (by decide) (by decide) fun _ _ hq => hq
  have hread : parenthesised ('(' :: (v ++ ([')'] ++ w'))) = .ok (v, w') := by
    refine parenthesised_eq_ok_iff.2 ⟨?_, by simp⟩
    intro c hc
    rcases hmem c hc with hc | ⟨hbracket, -⟩
    · exact havoids c hc
    · exact (by decide : ∀ e ∈ ['[', ']'], e ∉ [')', '\n']) c hbracket
  exact not_fails_of_ok hread h

/-! ### Settled nodes read back -/

theorem ReadsLink.of_settled {l : Link} (h : ReadsLink s l m) (hm : Respelled BeforeBlank m m')
    (hl : l.SettledBefore m') : ReadsLink (l.spelling ++ m') l m' := by
  by_cases hbare : l.IsBare
  · obtain ⟨hblank, hended⟩ := hl hbare
    rw [hbare.spelling_eq]
    obtain ⟨display, target⟩ := l
    obtain ⟨rfl, http⟩ := hbare
    exact .bare ⟨Link.isBareUrl_iff.1 http, hblank⟩ hended
  · cases h with
    | targeted display_avoids target_avoids =>
      simpa [Link.spelling] using ReadsLink.targeted (r := m') display_avoids target_avoids
    | @bracketed display _ display_avoids untargeted =>
      have http : ¬ Link.isBareUrl ⟨display, none⟩ = true := fun http => hbare ⟨rfl, http⟩
      have hread := ReadsLink.bracketed display_avoids
        (parenthesised_fails_respelled hm untargeted)
      simpa [Link.spelling, http] using hread
    | bare address => exact absurd ⟨rfl, Link.isBareUrl_iff.2 address.1⟩ hbare

theorem inline_of_settled {content : Inline} (h : inline s = .ok (content, m))
    (hm : Respelled BeforeBlank m m') (hl : ∀ l ∈ content.link?, l.SettledBefore m')
    (hrun : ∀ run ∈ content.run?, run.Settled) :
    inline (content.spelling ++ m') = .ok (content, m') := by
  rcases inline_eq_ok_iff.1 h with ⟨l, rfl, hlink⟩ | ⟨hfails, run, rfl, hread⟩
  · have hlink' := (link_eq_ok_iff.1 hlink).of_settled hm (hl l rfl)
    exact inline_eq_ok_iff.2 (.inl ⟨l, rfl, link_eq_ok_iff.2 hlink'⟩)
  · have hend := textRun_end hread
    obtain ⟨w, hw, rfl⟩ := textRun_spells hread
    refine inline_eq_ok_iff.2 (.inr ⟨?_, run, rfl, textRun_of_settled hread hm (hrun run rfl)⟩)
    rw [link_fails_iff, opensLink_append_iff hend] at hfails
    rw [link_fails_iff, Inline.spelling, opensLink_append_iff (hm.next (by decide) hend)]
    exact fun hopens => hfails (hopens.of_respelled hw.respelled)

theorem ReadsMarker.isMarker {marker : Text} (h : ReadsMarker s marker r) (hlink : Fails link s) :
    IsMarker marker := by
  cases h with
  | glyph known => exact .inl ⟨_, known, rfl⟩
  | label shape =>
    refine .inr ⟨shape, ?_⟩
    intro http
    rw [link_fails_iff, opensLink_iff_exists] at hlink
    exact hlink (.inr (http.trans (List.prefix_append _ _)))

theorem ReadsContent.none_of_respelled (h : ReadsContent m .none m)
    (hm : Respelled BeforeBlank m m') : ReadsContent m' .none m' := by
  refine .none ?_
  rintro x rfl
  obtain ⟨x₀, rfl, hx⟩ := hm.exists_cons (by decide) (.inl (by decide))
  cases h with
  | none bare => exact hx.next (by decide) (bare x₀ rfl)

/-- The condition on a marker is asked for only where it is printed alone. -/
theorem ReadsMarker.of_settled {marker : Text} (h : ReadsMarker s marker m)
    (hm : Respelled BeforeBlank m m') (hlabel : Fails labelSegment m → Fails labelSegment m') :
    ReadsMarker (marker ++ m') marker m' := by
  cases h with
  | glyph known separated => exact .glyph known (hm.next (by decide) separated)
  | label shape complete => exact .label shape (hlabel complete)

theorem ReadsLineContent.of_settled {content : LineContent} (h : ReadsLineContent s content m)
    (hm : Respelled BeforeBlank m m') (hl : ∀ l ∈ content.link?, l.SettledBefore m')
    (hrun : ∀ run ∈ content.run?, run.Settled)
    (hlabel : ∀ marker, content = .item ⟨marker, none⟩ → Fails labelSegment m →
      Fails labelSegment m') :
    ReadsLineContent (content.spelling ++ m') content m' := by
  cases h with
  | link hlink => exact .link (hlink.of_settled hm (hl _ rfl))
  | comment avoids ends => exact .comment avoids (hm.next (by decide) ends)
  | @item _ y _ i unlinked marker content =>
    obtain ⟨mark, content'⟩ := i
    have hmarker := marker.isMarker unlinked
    cases content' with
    | none =>
      cases content with
      | none bare =>
        exact .item (hmarker.link_fails m') (marker.of_settled hm (hlabel mark rfl))
          ((ReadsContent.none bare).none_of_respelled hm)
    | some inner =>
      cases content with
      | some hinline =>
        have hread := inline_of_settled hinline hm hl hrun
        have hitem := ReadsLineContent.item (s := mark ++ ' ' :: (inner.spelling ++ m'))
          (m := ' ' :: (inner.spelling ++ m')) (hmarker.link_fails _)
          (hmarker.readsMarker ((next_cons _ _ _).2 (.inl rfl))) (.some hread)
        simpa [LineContent.spelling, ListItem.spelling] using hitem

theorem Link.exists_bracket {l : Link} (h : ¬ l.IsBare) : ∃ t, l.spelling = '[' :: t := by
  obtain ⟨display, _ | target⟩ := l
  · have http : ¬ Link.isBareUrl ⟨display, none⟩ = true := fun http => h ⟨rfl, http⟩
    exact ⟨_, by simp only [Link.spelling, if_neg http]; rfl⟩
  · exact ⟨_, rfl⟩

/-! ### Documents -/

/-- What is printed for settled nodes respells the text that they were read from. -/
theorem respelled_of_settled (h : Chain node s nodes []) (hsettled : Settled nodes) :
    Respelled BeforeBlank s (unparse nodes) := by
  induction nodes generalizing s with
  | nil =>
    cases h
    exact .nil
  | cons n nodes ih =>
    obtain ⟨hn, hnodes⟩ := hsettled
    cases h with
    | step head _ tail =>
      obtain ⟨w, hw, rfl⟩ := node_spells head
      have hspelled : Respelled (fun _ q => Ended (q ++ unparse nodes)) w n.spelling :=
        hw.respelled fun l hl hbare => (hn.link l hl hbare).2
      exact hspelled.append (ih tail hnodes) fun _ _ hq => hq

/-- Where a segment begins the print of a line, a segment began the line. -/
theorem ReadsLineContent.exists_segment {content : LineContent} {segment : Text}
    (h : ReadsLineContent s content m) (hsegment : IsSegment segment)
    (hlink : ∀ l, content = .link l → l.IsBare → ¬ segment <+: l.display ++ m')
    (hlead : segment <+: content.spelling ++ m') : ∃ first, IsSegment first ∧ first <+: s := by
  cases h with
  | @link _ _ l =>
    change segment <+: l.spelling ++ m' at hlead
    by_cases hbare : l.IsBare
    · rw [hbare.spelling_eq] at hlead
      exact absurd hlead (hlink l rfl hbare)
    · obtain ⟨t, ht⟩ := Link.exists_bracket hbare
      rw [ht] at hlead
      exact absurd hlead (hsegment.not_prefix_cons (by decide))
  | comment => exact absurd hlead (hsegment.not_prefix_cons (by decide))
  | @item _ _ _ i _ marker =>
    obtain ⟨mark, content⟩ := i
    cases marker with
    | @glyph c _ known =>
      have hc := (by decide : ∀ g ∈ listGlyphs, g.isAlphanum = false) c known
      cases content with
      | none => exact absurd hlead (hsegment.not_prefix_cons hc)
      | some inner => exact absurd hlead (hsegment.not_prefix_cons hc)
    | label shape =>
      obtain ⟨segments, hne, hall, hmark⟩ := shape
      obtain ⟨first, segments, rfl⟩ := List.exists_cons_of_ne_nil hne
      refine ⟨first, hall first List.mem_cons_self, ?_⟩
      rw [hmark, List.flatten_cons, List.append_assoc]
      exact List.prefix_append _ _

/-- The print of settled nodes does not continue a label that their text does not continue. -/
theorem labelSegment_fails_unparse (hchain : Chain node m nodes []) (hsettled : Settled nodes)
    (hfirst : ∀ l rest, nodes = .line ⟨0, .link l⟩ :: rest → l.IsBare →
      Fails labelSegment l.display)
    (h : Fails labelSegment m) : Fails labelSegment (unparse nodes) := by
  rw [labelSegment_fails_iff] at h ⊢
  intro segment hsegment hlead
  cases hchain with
  | stop => exact h segment hsegment hlead
  | @step _ m₂ _ n nodes head _ tail =>
    obtain ⟨hn, hnodes⟩ := hsettled
    have hrest := respelled_of_settled tail hnodes
    rw [unparse_cons] at hlead
    cases node_eq_ok_iff.1 head with
    | blank => exact hsegment.not_prefix_cons (by decide) hlead
    | tag htag =>
      obtain ⟨hdepth, -⟩ := tag_eq_ok_iff.1 htag
      obtain ⟨k, hk⟩ := Nat.exists_eq_add_of_lt hdepth
      rw [Node.spelling, hk, List.replicate_succ] at hlead
      exact hsegment.not_prefix_cons (by decide) hlead
    | @line _ _ l hline =>
      obtain ⟨_ | indent, content⟩ := l
      · obtain ⟨x, rfl, hcontent⟩ := line_eq_ok_iff.1 hline
        have hlink : ∀ l, content = .link l → l.IsBare →
            ¬ segment <+: l.display ++ unparse nodes := by
          rintro l rfl hbare hstart
          have hended := (hn.link l rfl hbare).2
          have hfails := labelSegment_fails_iff.1 (hfirst l nodes rfl hbare)
          exact hfails segment hsegment (prefix_of_next hsegment.not_blank hended hstart)
        obtain ⟨first, hshape, hfirst⟩ := hcontent.exists_segment hsegment hlink hlead
        exact h first hshape hfirst
      · exact hsegment.not_prefix_cons (by decide) hlead
    | @text _ _ run unlined untagged hrun =>
      obtain ⟨w, hw, rfl⟩ := textRun_spells hrun
      have hend := hrest.next (by decide) (textRun_end hrun)
      have hprinted : segment <+: run.spelling :=
        prefix_of_lineEnd hsegment.newline_not_mem hend hlead
      obtain ⟨q, hq⟩ := hprinted
      have hspelled := Run.Spells.respelled hw
      rw [← hq] at hspelled
      have hnever : ∀ display q, ¬ Never display q := fun _ _ hfalse => hfalse
      obtain ⟨x, rfl, -⟩ := hspelled.exists_append hsegment.tick_not_mem (.inr hnever)
      exact h segment hsegment ⟨x ++ m₂, (List.append_assoc _ _ _).symm⟩

theorem node_of_settled {n : Node} {nodes : List Node} (h : node s = .ok (n, m))
    (hchain : Chain node m nodes []) (hn : n.Settled nodes) (hsettled : Settled nodes) :
    node (n.spelling ++ unparse nodes) = .ok (n, unparse nodes) := by
  have hrest := respelled_of_settled hchain hsettled
  rw [node_eq_ok_iff]
  cases node_eq_ok_iff.1 h with
  | blank ends => exact .blank (hrest.next (by decide) ends)
  | @line _ _ l hline =>
    obtain ⟨x, rfl, hcontent⟩ := line_eq_ok_iff.1 hline
    obtain ⟨indent, content⟩ := l
    have hread := hcontent.of_settled hrest hn.link hn.run fun mark hitem =>
      labelSegment_fails_unparse hchain hsettled fun l rest =>
        hn.marker indent mark l rest (by rw [← hitem])
    exact .line (line_eq_ok_iff.2 ⟨_, by simp [Node.spelling], hread⟩)
  | @tag _ _ t htag =>
    obtain ⟨hdepth, x, rfl, hmarkers, hlabel⟩ := tag_eq_ok_iff.1 htag
    have hread := inline_of_settled hlabel hrest hn.link hn.run
    refine .tag (tag_eq_ok_iff.2 ⟨hdepth, _, by simp [Node.spelling], ?_, hread⟩)
    obtain ⟨w, hw, rfl⟩ := inline_spells hlabel
    have hspelled : Respelled (fun _ q => Ended (q ++ unparse nodes)) w t.label.spelling :=
      hw.respelled fun l hl hbare => (hn.link l hl hbare).2
    have hall : Respelled BeforeBlank (w ++ m) (t.label.spelling ++ unparse nodes) :=
      hspelled.append hrest fun _ _ hq => hq
    exact hall.next (by decide) hmarkers
  | @text _ _ run unlined untagged hrun =>
    have hend := textRun_end hrun
    have hend' := hrest.next (by decide) hend
    have hread := textRun_of_settled hrun hrest (hn.run run rfl)
    obtain ⟨w, hw, rfl⟩ := textRun_spells hrun
    rw [line_fails_iff, opensLine_append_iff hend] at unlined
    rw [tag_fails_iff, opensTag_append_iff hend] at untagged
    refine .text ?_ ?_ hread
    · rw [line_fails_iff, Node.spelling, opensLine_append_iff hend']
      exact fun hopens => unlined (hopens.of_respelled hw.respelled)
    · rw [tag_fails_iff, Node.spelling, opensTag_append_iff hend']
      exact fun hopens => untagged (hopens.of_respelled hw.respelled)

theorem chain_of_settled (h : Chain node s nodes []) (hsettled : Settled nodes) :
    Chain node (unparse nodes) nodes [] := by
  induction nodes generalizing s with
  | nil => exact .stop []
  | cons n nodes ih =>
    cases h with
    | step head _ tail =>
      have hread := node_of_settled head tail hsettled.1 hsettled.2
      exact .step hread (advances_node hread) (ih tail hsettled.2)

/-! ### Nodes that read back are settled -/

theorem ReadsLink.settledBefore {l : Link} (h : ReadsLink (l.spelling ++ r) l r) :
    l.SettledBefore r := by
  intro hbare
  rw [hbare.spelling_eq] at h
  obtain ⟨display, target⟩ := l
  obtain ⟨rfl, http⟩ := hbare
  obtain ⟨x, rfl⟩ := Link.isBareUrl_iff.1 http
  generalize hs : "http".toList ++ x ++ r = s at h
  cases h with
  | bracketed => exact absurd (List.cons.inj hs).1 (by decide)
  | bare address ended => exact ⟨address.2, ended⟩

theorem settled_of_inline {content : Inline}
    (h : inline (content.spelling ++ r) = .ok (content, r)) :
    (∀ l ∈ content.link?, l.SettledBefore r) ∧ ∀ run ∈ content.run?, run.Settled := by
  rcases inline_eq_ok_iff.1 h with ⟨l, rfl, hl⟩ | ⟨-, run, rfl, hrun⟩
  · constructor
    · rintro _ ⟨⟩
      exact (link_eq_ok_iff.1 hl).settledBefore
    · rintro _ ⟨⟩
  · constructor
    · rintro _ ⟨⟩
    · rintro _ ⟨⟩
      exact settled_of_textRun hrun

theorem settled_of_lineContent {content : LineContent}
    (h : ReadsLineContent (content.spelling ++ r) content r) :
    (∀ l ∈ content.link?, l.SettledBefore r) ∧ (∀ run ∈ content.run?, run.Settled) ∧
      ∀ marker, content = .item ⟨marker, none⟩ → ReadsMarker (marker ++ r) marker r := by
  cases content with
  | link l =>
    refine ⟨?_, by rintro _ ⟨⟩, by rintro _ ⟨⟩⟩
    rintro _ ⟨⟩
    change ReadsLineContent (l.spelling ++ r) _ r at h
    generalize hs : l.spelling ++ r = s at h
    cases h with
    | link hlink =>
      rw [← hs] at hlink
      exact hlink.settledBefore
  | comment t => refine ⟨?_, ?_, ?_⟩ <;> rintro _ ⟨⟩
  | item i =>
    obtain ⟨mark, content⟩ := i
    generalize hs : LineContent.spelling (.item ⟨mark, content⟩) ++ r = s at h
    cases h with
    | item _ marker inner =>
      have hmark := hs.trans marker.eq_append
      -- what the marker leaves is what is printed after it
      cases inner with
      | none =>
        refine ⟨by rintro _ ⟨⟩, by rintro _ ⟨⟩, ?_⟩
        rintro _ ⟨⟩
        rw [← hs] at marker
        exact marker
      | @some x _ content hinline =>
        have hx : x = content.spelling ++ r := by
          simpa [LineContent.spelling, ListItem.spelling, eq_comm] using hmark
        rw [hx] at hinline
        obtain ⟨hlink, hrun⟩ := settled_of_inline hinline
        exact ⟨hlink, hrun, by rintro _ ⟨⟩⟩

/-- A marker that is read alone is not continued by an address. -/
theorem ReadsMarker.address_fails {marker : Text} {l : Link} (hl : l.IsBare)
    (h : ReadsMarker (marker ++ (l.spelling ++ r)) marker (l.spelling ++ r)) :
    Fails labelSegment l.display := by
  rw [hl.spelling_eq] at h
  obtain ⟨x, hx⟩ := Link.isBareUrl_iff.1 hl.2
  generalize hs : marker ++ (l.display ++ r) = s at h
  cases h with
  | glyph _ separated =>
    rw [← hx] at separated
    exact absurd ((next_cons _ _ _).1 separated) (by decide)
  | label _ complete =>
    rw [labelSegment_fails_iff] at complete ⊢
    intro segment hsegment hlead
    exact complete segment hsegment (hlead.trans (List.prefix_append _ _))

theorem settled_of_node {n : Node}
    (h : node (n.spelling ++ unparse nodes) = .ok (n, unparse nodes)) : n.Settled nodes := by
  have hread := node_eq_ok_iff.1 h
  generalize hs : n.spelling ++ unparse nodes = s at hread
  cases hread with
  | blank => exact ⟨by rintro _ ⟨⟩, by rintro _ _ _ _ ⟨⟩, by rintro _ ⟨⟩⟩
  | @line _ _ l hline =>
    obtain ⟨x, hx, hcontent⟩ := line_eq_ok_iff.1 hline
    obtain ⟨indent, content⟩ := l
    have hprinted : x = content.spelling ++ unparse nodes := by
      simpa [Node.spelling, eq_comm] using hs.trans hx
    rw [hprinted] at hcontent
    obtain ⟨hlink, hrun, hmarker⟩ := settled_of_lineContent hcontent
    refine ⟨hlink, ?_, hrun⟩
    rintro _ mark l rest ⟨⟩ rfl hl
    exact (hmarker mark rfl).address_fails hl
  | @tag _ _ t htag =>
    obtain ⟨-, x, hx, -, hlabel⟩ := tag_eq_ok_iff.1 htag
    have hprinted : x = t.label.spelling ++ unparse nodes := by
      simpa [Node.spelling, eq_comm] using hs.trans hx
    rw [hprinted] at hlabel
    obtain ⟨hlink, hrun⟩ := settled_of_inline hlabel
    exact ⟨hlink, by rintro _ _ _ _ ⟨⟩, hrun⟩
  | @text _ _ run _ _ hrun =>
    rw [← hs] at hrun
    refine ⟨by rintro _ ⟨⟩, by rintro _ _ _ _ ⟨⟩, ?_⟩
    rintro _ ⟨⟩
    exact settled_of_textRun hrun

theorem settled_of_readsBack (h : ReadsBack node Node.spelling nodes []) : Settled nodes := by
  generalize hend : ([] : Text) = r at h
  induction h with
  | stop => trivial
  | @step n nodes _ head _ ih =>
    subst hend
    rw [List.append_nil] at head
    exact ⟨settled_of_node head, ih rfl⟩

theorem takesWritten_node : TakesWritten node Node.spelling := by
  intro s n r h
  obtain ⟨w, hw, rfl⟩ := node_spells h
  have hrespelled : Respelled (fun _ _ => True) w n.spelling := hw.respelled fun _ _ _ => trivial
  exact ⟨w, rfl, hrespelled.length_le⟩

/-- **Reading back a print.** The print of a parsed text gives the same nodes exactly when they
are settled. -/
theorem reparse_iff (t : Text) :
    ∃ nodes, parseDocument t = .ok nodes ∧
      (parseDocument (unparse nodes) = .ok nodes ↔ Settled nodes) := by
  obtain ⟨nodes, hchain⟩ := exists_chain_node t
  refine ⟨nodes, parseDocument_eq_ok_iff.2 hchain, ?_⟩
  rw [parseDocument_eq_ok_iff]
  constructor
  · intro h
    have hprint : unparse nodes = nodes.flatMap Node.spelling ++ [] := by
      rw [List.append_nil, unparse]
    rw [hprint] at h
    exact settled_of_readsBack (Chain.readsBack takesWritten_node h)
  · exact chain_of_settled hchain

/-- A bracketed text that begins with `http` loses its brackets in print, even around a space. -/
theorem reparse_splits_address :
    ∃ nodes, parseDocument "[http x]".toList = .ok nodes ∧
      parseDocument (unparse nodes) ≠ .ok nodes := by
  have hread : node "[http x]".toList = .ok (.line ⟨0, .link ⟨"http x".toList, none⟩⟩, []) := rfl
  have hprint : node "http x".toList = .ok (.line ⟨0, .link ⟨"http".toList, none⟩⟩, " x".toList) :=
    rfl
  refine ⟨[.line ⟨0, .link ⟨"http x".toList, none⟩⟩], ?_, ?_⟩
  · exact parseDocument_eq_ok_iff.2 (.step hread (by decide) (.stop []))
  · intro hsame
    cases parseDocument_eq_ok_iff.1 hsame with
    | step head =>
      have := hprint.symm.trans head
      simp at this

end Slipbox.Markup
