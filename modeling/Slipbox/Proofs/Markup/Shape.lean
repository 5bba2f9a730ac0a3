import Slipbox.Proofs.Markup.Backticks

/-!
# The shape of parsed nodes

Whatever the text, its nodes keep to a shape on which the renderers, the search and the
outline rely. A parsed run is separated like a canonical one and its spans are bodies
of their kinds, except that plain text may hold stray marks. Links stop before the mark
that closes them, markers are glyphs or labels, and every rule leaves a character unread
that decides what can come next: after a run or a comment only a blank run, and after a
blank run anything but another one. The main result is `parse_shape`.

The text of a tagged run is the one place where delimiters matter. All markers are
taken before the run, so its spelling does not begin with one, but the body of a
delimited span may (`parse_keeps_quoted_marker`).
-/

namespace Slipbox.Markup

open Slipbox.Parsing

variable {s m r t : Text} {run raw : Run}

/-! ### Runs -/

/-- What the text of a parsed span does not hold. -/
def SpanKind.excluded : SpanKind → List Char
  | .plain => ['\n']
  | kind => kind.stops

structure Span.Shaped (x : Span) : Prop where
  nonempty : x.text ≠ []
  avoids : Avoids x.kind.excluded x.text
  known : x.kind = .operator → x.text ∈ operators

structure Run.Shaped (run : Run) : Prop where
  nonempty : run ≠ []
  spans : ∀ x ∈ run, x.Shaped
  separated : run.Separated

theorem ReadsSpan.shaped {x : Span} (h : ReadsSpan s x r) : x.Shaped := by
  cases h with
  | styled styled =>
    obtain ⟨hkind, hx⟩ := styled.canonical
    obtain ⟨kind, t⟩ := x
    refine ⟨hx.nonempty, ?_, hx.known⟩
    cases kind with
    | plain => exact absurd rfl hkind
    | _ => exact hx.avoids
  | plain nonempty avoids =>
    refine ⟨nonempty, ?_, by simp⟩
    intro c hc hstop
    rw [List.mem_singleton.1 hstop] at hc
    exact avoids _ hc List.mem_cons_self
  | stray special =>
    refine ⟨by simp, ?_, by simp⟩
    intro d hd hstop
    rw [List.mem_singleton.1 hd] at hstop
    rw [List.mem_singleton.1 hstop] at special
    exact absurd special (by decide)

theorem Run.shaped_cons {x : Span} (hx : x.Shaped) (hrun : ∀ y ∈ run, y.Shaped) :
    ∀ y ∈ Run.cons x run, y.Shaped := by
  cases run with
  | nil => simpa [Run.cons] using hx
  | cons y run =>
    rw [List.forall_mem_cons] at hrun
    by_cases hplain : x.kind = .plain ∧ y.kind = .plain
    · obtain ⟨⟨_, t⟩, ⟨_, u⟩⟩ := x, y
      obtain ⟨rfl, rfl⟩ := hplain
      have hmerged : Span.Shaped ⟨.plain, t ++ u⟩ := by
        refine ⟨?_, ?_, by simp⟩
        · simp [hx.nonempty]
        · exact (avoids_append _ _ _).2 ⟨hx.avoids, hrun.1.avoids⟩
      simpa [Run.cons, hmerged] using hrun.2
    · simp only [Run.cons, if_neg hplain, List.forall_mem_cons]
      exact ⟨hx, hrun⟩

theorem Run.shaped_flatten (h : ∀ x ∈ raw, x.Shaped) : ∀ x ∈ flatten raw, x.Shaped := by
  induction raw with
  | nil => simp
  | cons x raw ih =>
    rw [List.forall_mem_cons] at h
    exact Run.shaped_cons h.1 (ih h.2)

/-! ### What runs begin with

An operator in plain text would begin at a space. The text that was read goes on from
there with the rest of the plain text and with the space of an operator after it, so
the operator would have been read.
-/

/-- The plain text that the run begins with, and the space of an operator after that. -/
def Run.lead : Run → Text
  | [] => []
  | y :: run => if y.kind = .plain then y.text ++ gapBefore run else gapBefore (y :: run)

theorem gapBefore_eq (run : Run) : gapBefore run = [] ∨ gapBefore run = [' '] := by
  cases run with
  | nil => exact .inl rfl
  | cons y run =>
    by_cases hy : y.kind = .operator
    · exact .inr (if_pos hy)
    · exact .inl (if_neg hy)

/-- A text of one character holds no operator between spaces. -/
theorem not_holdsOperator_gap (run : Run) : ¬ HoldsOperator (gapBefore run) := by
  rintro ⟨symbol, -, hholds⟩
  have hlength := (Text.containsText_iff.1 hholds).length_le
  rcases gapBefore_eq run with hgap | hgap
  · simp [hgap] at hlength
  · simp [hgap] at hlength

theorem Run.Separated.not_holdsOperator_lead (h : run.Separated) : ¬ HoldsOperator run.lead := by
  cases run with
  | nil => exact not_holdsOperator_gap []
  | cons y run =>
    by_cases hy : y.kind = .plain
    · rw [Run.lead, if_pos hy]
      exact h.1.free hy
    · rw [Run.lead, if_neg hy]
      exact not_holdsOperator_gap _

theorem Run.lead_cons {x : Span} (hx : x.kind = .plain) :
    Run.lead (Run.cons x run) = x.text ++ run.lead := by
  cases run with
  | nil => simp [Run.cons, Run.lead, gapBefore, hx]
  | cons y run =>
    by_cases hy : y.kind = .plain
    · simp [Run.cons, Run.lead, hx, hy]
    · simp [Run.cons, Run.lead, hx, hy]

/-- Characters other than a space begin no operator. -/
theorem holdsOperator_append (ht : ' ' ∉ t) : HoldsOperator (t ++ r) ↔ HoldsOperator r := by
  induction t with
  | nil => exact Iff.rfl
  | cons c t ih =>
    rw [List.mem_cons, not_or] at ht
    rw [← ih ht.2]
    simp only [HoldsOperator, Text.containsText_iff, List.cons_append, List.infix_cons_iff]
    constructor
    · rintro ⟨symbol, hknown, hlead | hpart⟩
      · exact absurd (List.cons_prefix_cons.1 hlead).1 ht.1
      · exact ⟨symbol, hknown, hpart⟩
    · rintro ⟨symbol, hknown, hpart⟩
      exact ⟨symbol, hknown, .inr hpart⟩

/-- At a space that opens no operator, none begins in what follows. -/
theorem not_holdsOperator_space (hfails : Fails styled (' ' :: m)) (hr : r <+: m)
    (hfree : ¬ HoldsOperator r) : ¬ HoldsOperator (' ' :: r) := by
  rintro ⟨symbol, hknown, hholds⟩
  rw [Text.containsText_iff, List.infix_cons_iff] at hholds
  rcases hholds with hlead | hpart
  · obtain ⟨z, rfl⟩ := (List.cons_prefix_cons.1 hlead).2.trans hr
    have hread := ReadsStyled.operator (r := ' ' :: z) hknown rfl
    apply hread.not_fails
    simpa using hfails
  · exact hfree ⟨symbol, hknown, Text.containsText_iff.2 hpart⟩

/-- Plain text that is read before a run without operators in its lead leaves it that way. -/
theorem ReadsSpan.not_holdsOperator {x : Span} (h : ReadsSpan s x m) (hx : x.kind = .plain)
    (hr : r <+: m) (hfree : ¬ HoldsOperator r) :
    x.text ++ r <+: s ∧ ¬ HoldsOperator (x.text ++ r) := by
  cases h with
  | styled styled => exact absurd hx styled.canonical.1
  | plain _ avoids =>
    refine ⟨(List.prefix_append_right_inj _).2 hr, ?_⟩
    rw [holdsOperator_append]
    · exact hfree
    · intro hmem
      exact avoids _ hmem (by decide)
  | @stray c _ special unclaimed =>
    refine ⟨(List.prefix_append_right_inj [c]).2 hr, ?_⟩
    by_cases hc : c = ' '
    · subst hc
      exact not_holdsOperator_space unclaimed hr hfree
    · rw [holdsOperator_append]
      · exact hfree
      · simpa using Ne.symm hc

/-! ### Separated runs -/

/-- The run begins with an operator or with a plain space. -/
def Run.BeginsSpaced (run : Run) : Prop :=
  ∃ y ∈ run.head?, y.kind = .operator ∨ y.kind = .plain ∧ y.text.head? = some ' '

theorem Run.separated_cons {x : Span} (hx : x.kind = .plain) (h : run.Separated)
    (hfree : ¬ HoldsOperator (x.text ++ run.lead)) : (Run.cons x run).Separated := by
  rw [← Run.lead_cons hx] at hfree
  cases run with
  | nil =>
    refine ⟨⟨by simp, ?_, by simp [hx]⟩, trivial⟩
    intro _
    simpa [Run.cons, Run.lead, hx] using hfree
  | cons y run =>
    by_cases hy : y.kind = .plain
    · simp only [Run.cons, hx, hy, and_self, if_true, Run.lead] at hfree ⊢
      exact ⟨⟨fun _ => h.1.alone hy, fun _ => hfree, by simp⟩, h.2⟩
    · simp only [Run.cons, hx, hy, and_false, if_false, Run.lead, if_true] at hfree ⊢
      exact ⟨⟨fun _ => by simpa using hy, fun _ => hfree, by simp [hx]⟩, h⟩

theorem Run.beginsSpaced_cons {x : Span} (hx : x.kind = .plain) (ht : x.text.head? = some ' ') :
    (Run.cons x run).BeginsSpaced := by
  obtain ⟨u, hu⟩ := List.head?_eq_some_iff.1 ht
  cases run with
  | nil => exact ⟨x, rfl, .inr ⟨hx, ht⟩⟩
  | cons y run =>
    by_cases hy : y.kind = .plain
    · refine ⟨⟨.plain, x.text ++ y.text⟩, by simp [Run.cons, hx, hy], .inr ⟨rfl, ?_⟩⟩
      simp [hu]
    · exact ⟨x, by simp [Run.cons, hy], .inr ⟨hx, ht⟩⟩

/-- What merged spans satisfy with respect to the text that they were read from. -/
structure Run.ReadFrom (run : Run) (s : Text) : Prop where
  separated : run.Separated
  lead : run.lead <+: s
  spaced : s.head? = some ' ' → run.BeginsSpaced

theorem Run.ReadFrom.cons_plain {x : Span} (h : run.ReadFrom m) (hread : ReadsSpan s x m)
    (hx : x.kind = .plain) : (Run.cons x run).ReadFrom s := by
  obtain ⟨hlead, hfree⟩ := hread.not_holdsOperator hx h.lead h.separated.not_holdsOperator_lead
  refine ⟨Run.separated_cons hx h.separated hfree, ?_, ?_⟩
  · rw [Run.lead_cons hx]
    exact hlead
  · intro hspace
    refine Run.beginsSpaced_cons hx ?_
    obtain ⟨c, u, hu⟩ := List.exists_cons_of_ne_nil hread.shaped.nonempty
    obtain ⟨z, rfl⟩ := hlead
    rw [hu] at hspace ⊢
    exact hspace

theorem Run.ReadFrom.cons_styled {x : Span} (h : run.ReadFrom m) (hread : ReadsStyled s x m) :
    (Run.cons x run).ReadFrom s := by
  have hx := hread.canonical.1
  have hcons : Run.cons x run = x :: run := by
    cases run with
    | nil => rfl
    | cons y run => simp [Run.cons, hx]
  rw [hcons]
  refine ⟨⟨⟨by simp [hx], by simp [hx], ?_⟩, h.separated⟩, ?_, ?_⟩
  · intro hop
    exact h.spaced (hread.spaced hop)
  · rw [Run.lead, if_neg hx]
    cases hread with
    | operator => exact ⟨_, rfl⟩
    | @enclosed kind _ _ _ _ encloses =>
      have hop : kind ≠ .operator := by cases encloses <;> decide
      rw [gapBefore, if_neg hop]
      exact List.nil_prefix
  · intro hspace
    obtain ⟨z, rfl⟩ := List.head?_eq_some_iff.1 hspace
    exact ⟨x, rfl, .inl hread.operator_of_space.2.1⟩

/-- The spans of a chain that reaches the end of a line are separated once they are merged. -/
theorem readFrom_of_chain (h : Chain span s raw r) (hr : LineEnd r) :
    (flatten raw).ReadFrom s := by
  induction h with
  | stop s =>
    refine ⟨trivial, List.nil_prefix, ?_⟩
    intro hspace
    exact absurd (hr ' ' hspace) (by decide)
  | @step s m r x raw head _ _ ih =>
    rw [flatten_cons]
    have hread := span_eq_ok_iff.1 head
    by_cases hx : x.kind = .plain
    · exact (ih hr).cons_plain hread hx
    · cases hread with
      | styled styled => exact (ih hr).cons_styled styled
      | plain => exact absurd rfl hx
      | stray => exact absurd rfl hx

theorem shaped_of_chain (h : Chain span s raw r) : ∀ x ∈ raw, x.Shaped := by
  induction h with
  | stop => simp
  | step head _ _ ih => exact List.forall_mem_cons.2 ⟨(span_eq_ok_iff.1 head).shaped, ih⟩

theorem flatten_ne_nil (h : raw ≠ []) : flatten raw ≠ [] := by
  obtain ⟨x, raw, rfl⟩ := List.exists_cons_of_ne_nil h
  rw [flatten_cons]
  cases flatten raw with
  | nil => simp [Run.cons]
  | cons y run =>
    by_cases hplain : x.kind = .plain ∧ y.kind = .plain
    · simp [Run.cons, hplain]
    · simp [Run.cons, hplain]

theorem textRun_shaped (h : textRun s = .ok (run, r)) : run.Shaped := by
  obtain ⟨raw, hne, hchain, hr, rfl⟩ := textRun_eq_ok_iff.1 h
  exact ⟨flatten_ne_nil hne, Run.shaped_flatten (shaped_of_chain hchain),
    (readFrom_of_chain hchain hr).separated⟩

/-! ### Links and markers -/

def Link.Shaped : Link → Prop
  | ⟨display, some target⟩ => Avoids [']', '\n'] display ∧ Avoids [')', '\n'] target
  | ⟨display, none⟩ => Avoids [']', '\n'] display ∨ IsAddress display

def Inline.Shaped : Inline → Prop
  | .run spans => spans.Shaped
  | .link l => l.Shaped

def LineContent.Shaped : LineContent → Prop
  | .link l => l.Shaped
  | .comment t => Avoids ['\n'] t
  | .item i => ((∃ c ∈ listGlyphs, i.marker = [c]) ∨ IsLabel i.marker) ∧
      ∀ content ∈ i.content, content.Shaped

theorem ReadsLink.shaped {l : Link} (h : ReadsLink s l r) : l.Shaped := by
  cases h with
  | targeted display_avoids target_avoids => exact ⟨display_avoids, target_avoids⟩
  | bracketed display_avoids => exact .inl display_avoids
  | bare address => exact .inr address

theorem inline_shaped {content : Inline} (h : inline s = .ok (content, r)) : content.Shaped := by
  rcases inline_eq_ok_iff.1 h with ⟨l, rfl, hl⟩ | ⟨-, run, rfl, hrun⟩
  · exact (link_eq_ok_iff.1 hl).shaped
  · exact textRun_shaped hrun

theorem ReadsLineContent.shaped {content : LineContent} (h : ReadsLineContent s content r) :
    content.Shaped := by
  cases h with
  | link hlink => exact hlink.shaped
  | comment avoids => exact avoids
  | @item _ _ _ i _ marker content =>
    obtain ⟨mark, content'⟩ := i
    constructor
    · cases marker with
      | glyph known => exact .inl ⟨_, known, rfl⟩
      | label shape => exact .inr shape
    · intro inner hinner
      cases content with
      | some hinline =>
        cases hinner
        exact inline_shaped hinline
      | none => exact nomatch hinner

/-! ### Tags -/

/-- The span stands between delimiters, which its text does not include. -/
def Span.IsDelimited (x : Span) : Prop := x.kind ≠ .plain ∧ x.kind ≠ .operator

/-- No tag marker is left for the run, though the body of a delimited span may begin with one. -/
structure Run.Unmarked (run : Run) : Prop where
  spelling : run.spelling.head? ≠ some '@'
  text : run.text.head? = some '@' → ∃ x ∈ run.head?, x.IsDelimited

theorem Run.Shaped.unmarked (h : run.Shaped) (hmark : run.spelling.head? ≠ some '@') :
    run.Unmarked := by
  refine ⟨hmark, ?_⟩
  intro htext
  obtain ⟨x, run, rfl⟩ := List.exists_cons_of_ne_nil h.nonempty
  have hx := h.spans x List.mem_cons_self
  obtain ⟨c, u, hu⟩ := List.exists_cons_of_ne_nil hx.nonempty
  have hc : c = '@' := by simpa [Run.text, hu] using htext
  refine ⟨x, rfl, ?_, ?_⟩
  · intro hplain
    apply hmark
    simp [Span.spelling, hplain, hu, hc]
  · intro hop
    have hknown := hx.known hop
    rw [hu, hc] at hknown
    have hsymbols : ∀ o ∈ operators, o.head? ≠ some '@' := by decide
    exact hsymbols _ hknown rfl

theorem unmarked_of_textRun (h : textRun m = .ok (run, r)) (hm : Next (· ≠ '@') m) :
    run.Unmarked := by
  refine (textRun_shaped h).unmarked ?_
  intro hmark
  obtain ⟨w, hw, rfl⟩ := textRun_spells h
  rcases hw.respelled.head?_eq with hsame | ⟨-, hletter⟩
  · obtain ⟨z, rfl⟩ := List.head?_eq_some_iff.1 (hsame.trans hmark)
    exact (next_cons _ _ _).1 hm rfl
  · rw [hmark] at hletter
    exact absurd hletter (by decide)

/-! ### Nodes -/

def Node.Shaped : Node → Prop
  | .tag t => 0 < t.depth ∧ t.label.Shaped ∧ ∀ spans, t.label = .run spans → spans.Unmarked
  | .line l => l.content.Shaped
  | .text run => run.Shaped
  | .blank _ => True

theorem node_shaped {n : Node} (h : node s = .ok (n, r)) : n.Shaped := by
  cases node_eq_ok_iff.1 h with
  | line hline =>
    obtain ⟨m, -, hcontent⟩ := line_eq_ok_iff.1 hline
    exact hcontent.shaped
  | tag htag =>
    obtain ⟨hdepth, m, -, hm, hlabel⟩ := tag_eq_ok_iff.1 htag
    refine ⟨hdepth, inline_shaped hlabel, ?_⟩
    intro spans hspans
    rcases inline_eq_ok_iff.1 hlabel with ⟨l, hl, -⟩ | ⟨-, run, hrun, hread⟩
    · exact nomatch hspans.symm.trans hl
    · cases hspans.symm.trans hrun
      exact unmarked_of_textRun hread hm
  | blank => trivial
  | text _ _ hrun => exact textRun_shaped hrun

/-! ### What follows a node -/

def Inline.stopsEarly : Inline → Bool
  | .run _ => false
  | .link _ => true

def LineContent.stopsEarly : LineContent → Bool
  | .link _ => true
  | .comment _ => false
  | .item i => i.content.all Inline.stopsEarly

/-- The node may stop before the end of its line: it ends with a link, or it is an item without
content. -/
def Node.stopsEarly : Node → Bool
  | .tag t => t.label.stopsEarly
  | .line l => l.content.stopsEarly
  | .text _ => false
  | .blank _ => false

theorem inline_end {content : Inline} (h : inline s = .ok (content, r))
    (hstops : content.stopsEarly = false) : LineEnd r := by
  rcases inline_eq_ok_iff.1 h with ⟨l, rfl, -⟩ | ⟨-, run, rfl, hrun⟩
  · exact nomatch hstops
  · exact textRun_end hrun

theorem ReadsLineContent.end {content : LineContent} (h : ReadsLineContent s content r)
    (hstops : content.stopsEarly = false) : LineEnd r := by
  cases h with
  | link => exact nomatch hstops
  | comment _ ends => exact ends
  | @item _ _ _ i _ _ content =>
    obtain ⟨mark, content'⟩ := i
    cases content with
    | some hinline => exact inline_end hinline (by simpa [LineContent.stopsEarly] using hstops)
    | none => exact nomatch hstops

/-- A node other than a blank run reaches the end of its line unless it is one that may stop
early. -/
theorem node_end {n : Node} (h : node s = .ok (n, r)) (hblank : n.isBlank = false)
    (hstops : n.stopsEarly = false) : LineEnd r := by
  cases node_eq_ok_iff.1 h with
  | line hline =>
    obtain ⟨m, -, hcontent⟩ := line_eq_ok_iff.1 hline
    exact hcontent.end hstops
  | tag htag =>
    obtain ⟨-, m, -, -, hlabel⟩ := tag_eq_ok_iff.1 htag
    exact inline_end hlabel hstops
  | blank => exact nomatch hblank
  | text _ _ hrun => exact textRun_end hrun

/-- A node directly before another one. -/
structure Node.Leads (n m : Node) : Prop where
  merged : n.isBlank = true → m.isBlank = false
  ended : n.isBlank = false → n.stopsEarly = false → m.isBlank = true

def Arranged : List Node → Prop
  | n :: m :: nodes => n.Leads m ∧ Arranged (m :: nodes)
  | _ => True

theorem node_leads {n n' : Node} {m : Text} (h : node s = .ok (n, m))
    (h' : node m = .ok (n', r)) : n.Leads n' := by
  have hread' := node_eq_ok_iff.1 h'
  constructor
  · intro hblank
    rw [← Bool.not_eq_true]
    intro hblank'
    cases node_eq_ok_iff.1 h with
    | blank ends =>
      cases hread' with
      | blank => exact (next_cons _ _ _).1 ends rfl
      | _ => exact nomatch hblank'
    | _ => exact nomatch hblank
  · intro hblank hstops
    have hend := node_end h hblank hstops
    by_cases hblank' : n'.isBlank = true
    · exact hblank'
    · have hhead := hread'.head_ne (by simpa using hblank')
      cases m with
      | nil => exact absurd (advances_node h') (Nat.not_lt_zero _)
      | cons c m => exact absurd (lineEnd_cons.1 hend) ((next_cons _ _ _).1 hhead)

/-! ### Documents -/

/-- Every node has its shape, and each may stand before the next. -/
structure Shaped (nodes : List Node) : Prop where
  each : ∀ n ∈ nodes, n.Shaped
  arranged : Arranged nodes

theorem shaped_of_nodes {nodes : List Node} (h : Chain node s nodes r) : Shaped nodes := by
  induction h with
  | stop => exact ⟨by simp, trivial⟩
  | @step _ _ _ n nodes head _ tail ih =>
    refine ⟨List.forall_mem_cons.2 ⟨node_shaped head, ih.each⟩, ?_⟩
    cases tail with
    | stop => trivial
    | step head' => exact ⟨node_leads head head', ih.arranged⟩

/-- **The shape of everything that is parsed.** Every text has nodes, and these have the shape
that later stages rely on. -/
theorem parse_shape (t : Text) : ∃ nodes, parseDocument t = .ok nodes ∧ Shaped nodes := by
  obtain ⟨nodes, hchain⟩ := exists_chain_node t
  exact ⟨nodes, parseDocument_eq_ok_iff.2 hchain, shaped_of_nodes hchain⟩

/-- The text of a tagged quotation may begin with a marker. -/
theorem parse_keeps_quoted_marker : ∃ spans,
    parseDocument "@\"@a\"".toList = .ok [.tag ⟨1, .run spans⟩] ∧
      spans.text.head? = some '@' := by
  have hrun : textRun "\"@a\"".toList = .ok ([⟨.quote, "@a".toList⟩], []) :=
    textRun_eq_ok_iff.2 ⟨_, by simp, .step rfl (by decide) (.stop []), next_nil _, rfl⟩
  have hlabel : inline "\"@a\"".toList = .ok (.run [⟨.quote, "@a".toList⟩], []) :=
    inline_eq_ok_iff.2 (.inr ⟨link_fails_of_head (by decide) (by decide), _, rfl, hrun⟩)
  have htag : tag "@\"@a\"".toList = .ok (⟨1, .run [⟨.quote, "@a".toList⟩]⟩, []) :=
    tag_eq_ok_iff.2 ⟨Nat.one_pos, _, rfl, (next_cons _ _ _).2 (by decide), hlabel⟩
  refine ⟨[⟨.quote, "@a".toList⟩], parseDocument_eq_ok_iff.2 ?_, rfl⟩
  exact .step (node_eq_ok_iff.2 (.tag htag)) (by decide) (.stop [])

end Slipbox.Markup
