import Slipbox.Proofs.Markup.Openings
import Slipbox.Proofs.Markup.Spellings

/-!
# Canonical nodes read back

The markup has no escapes, so a printed node is read back only if its neighbours do
not take part in it. `Canonical` collects what is needed: bodies without their own
delimiters, no two plain texts in a row, operators before a space, no plain text that
would be read as an operator, links and lines that do not open where a run should,
and blank runs between all other nodes. The main result, `parse_unparse`, says that
canonical nodes are read back exactly.
-/

namespace Slipbox.Markup

open Slipbox.Parsing

variable {s r t : Text}

/-! ### Canonical runs -/

/-- What a span of the kind must not hold to be read back. -/
def SpanKind.stops : SpanKind → List Char
  | .plain => ['\n', '$', '~', '\x60', '"', '*']
  | .operator => []
  | .quote => ['"', '\n']
  | .code => ['\x60']
  | .inlineMath => ['$', '\n']
  | .blockMath => ['$']
  | .bold => ['*', '\n']
  | .struck => ['~', '\n']

/-- The text alone can be the body of a span of its kind. -/
structure Span.Canonical (x : Span) : Prop where
  nonempty : x.text ≠ []
  avoids : Avoids x.kind.stops x.text
  known : x.kind = .operator → x.text ∈ operators

instance (x : Span) : Decidable x.Canonical :=
  decidable_of_iff (x.text ≠ [] ∧ Avoids x.kind.stops x.text ∧
      (x.kind = .operator → operators.contains x.text = true))
    ⟨fun ⟨h₁, h₂, h₃⟩ => ⟨h₁, h₂, fun h => List.contains_iff_mem.1 (h₃ h)⟩,
      fun ⟨h₁, h₂, h₃⟩ => ⟨h₁, h₂, fun h => List.contains_iff_mem.2 (h₃ h)⟩⟩

/-- An operator symbol stands somewhere between two spaces. -/
def HoldsOperator (t : Text) : Prop :=
  ∃ symbol ∈ operators, Text.containsText (' ' :: symbol ++ [' ']) t = true

instance (t : Text) : Decidable (HoldsOperator t) :=
  inferInstanceAs (Decidable (∃ symbol ∈ operators,
    Text.containsText (' ' :: symbol ++ [' ']) t = true))

/-- The space that an operator brings along. -/
def gapBefore : Run → Text
  | [] => []
  | y :: _ => if y.kind = .operator then [' '] else []

/-- The span is told apart from the run after it. -/
structure Span.Fits (x : Span) (run : Run) : Prop where
  alone : x.kind = .plain → ∀ y ∈ run.head?, y.kind ≠ .plain
  free : x.kind = .plain → ¬ HoldsOperator (x.text ++ gapBefore run)
  spaced : x.kind = .operator →
    ∃ y ∈ run.head?, y.kind = .operator ∨ y.kind = .plain ∧ y.text.head? = some ' '

instance (x : Span) (run : Run) : Decidable (x.Fits run) :=
  decidable_of_iff ((x.kind = .plain → ∀ y ∈ run.head?, y.kind ≠ .plain) ∧
      (x.kind = .plain → ¬ HoldsOperator (x.text ++ gapBefore run)) ∧
      (x.kind = .operator →
        ∃ y ∈ run.head?, y.kind = .operator ∨ y.kind = .plain ∧ y.text.head? = some ' '))
    ⟨fun ⟨h₁, h₂, h₃⟩ => ⟨h₁, h₂, h₃⟩, fun ⟨h₁, h₂, h₃⟩ => ⟨h₁, h₂, h₃⟩⟩

/-- Every span is told apart from those after it. -/
def Run.Separated : Run → Prop
  | [] => True
  | x :: run => x.Fits run ∧ Run.Separated run

instance decidableSeparated : (run : Run) → Decidable run.Separated
  | [] => .isTrue trivial
  | x :: run =>
    have := decidableSeparated run
    inferInstanceAs (Decidable (x.Fits run ∧ Run.Separated run))

structure Run.Canonical (run : Run) : Prop where
  nonempty : run ≠ []
  spans : ∀ x ∈ run, x.Canonical
  separated : run.Separated

instance (run : Run) : Decidable run.Canonical :=
  decidable_of_iff (run ≠ [] ∧ (∀ x ∈ run, x.Canonical) ∧ run.Separated)
    ⟨fun ⟨h₁, h₂, h₃⟩ => ⟨h₁, h₂, h₃⟩, fun ⟨h₁, h₂, h₃⟩ => ⟨h₁, h₂, h₃⟩⟩

/-! ### Canonical nodes -/

/-- A bare address holds no white space; other parts of a link stop before the mark that
closes them. -/
def Link.Canonical : Link → Prop
  | ⟨display, some target⟩ => Avoids [']', '\n'] display ∧ Avoids [')', '\n'] target
  | ⟨display, none⟩ =>
    if Link.isBareUrl ⟨display, none⟩ then ∀ c ∈ display, Text.isBlank c = false
    else Avoids [']', '\n'] display

def Inline.Canonical : Inline → Prop
  | .run spans => spans.Canonical ∧ Fails Markup.link spans.spelling
  | .link l => l.Canonical

/-- A list glyph, or a label that is not read as an address. -/
def IsMarker (marker : Text) : Prop :=
  (∃ c ∈ listGlyphs, marker = [c]) ∨ IsLabel marker ∧ ¬ "http".toList <+: marker

def LineContent.Canonical : LineContent → Prop
  | .link l => l.Canonical
  | .comment t => Avoids ['\n'] t
  | .item i => IsMarker i.marker ∧ ∀ content ∈ i.content, content.Canonical

def Node.Canonical : Node → Prop
  | .tag t => 0 < t.depth ∧ t.label.Canonical ∧
      ∀ spans, t.label = .run spans → spans.spelling.head? ≠ some '@'
  | .line l => l.content.Canonical
  | .text run => run.Canonical ∧ Fails Markup.line run.spelling ∧ Fails Markup.tag run.spelling
  | .blank _ => True

def Node.isBlank : Node → Bool
  | .blank _ => true
  | _ => false

/-- Blank runs and other nodes take turns. -/
def Alternate : List Node → Prop
  | n :: m :: nodes => n.isBlank = !m.isBlank ∧ Alternate (m :: nodes)
  | _ => True

structure Canonical (nodes : List Node) : Prop where
  each : ∀ n ∈ nodes, n.Canonical
  alternate : Alternate nodes

/-! ### Styled spans -/

/-- A canonical span that is not plain is read back, an operator only before a space. -/
theorem Span.Canonical.readsStyled {x : Span} (hx : x.Canonical) (hkind : x.kind ≠ .plain)
    (hspace : x.kind = .operator → r.head? = some ' ') : ReadsStyled (x.spelling ++ r) x r := by
  obtain ⟨kind, t⟩ := x
  obtain ⟨nonempty, avoids, known⟩ := hx
  cases kind with
  | plain => exact absurd rfl hkind
  | operator => exact .operator (known rfl) (hspace rfl)
  | quote => exact .enclosed .quote nonempty avoids
  | code =>
    by_cases hline : '\n' ∈ t
    · simp only [Span.spelling, if_pos hline]
      exact .enclosed .fence nonempty avoids
    · simp only [Span.spelling, if_neg hline]
      refine .enclosed .code nonempty ?_
      intro c hc
      have hmark := avoids c hc
      simp only [SpanKind.stops, List.mem_singleton] at hmark
      simp only [List.mem_cons, List.not_mem_nil, or_false, not_or]
      refine ⟨hmark, ?_⟩
      rintro rfl
      exact hline hc
  | inlineMath => exact .enclosed .inlineMath nonempty avoids
  | blockMath => exact .enclosed .blockMath nonempty avoids
  | bold => exact .enclosed .bold nonempty avoids
  | struck => exact .enclosed .struck nonempty avoids

/-- Two tildes open a struck text, so no text with an arrow of one tilde does. -/
theorem ReadsStyled.not_arrow {x : Span} (h : ReadsStyled s x r) : ¬ ['~', '>'] <+: s := by
  rintro ⟨z, rfl⟩
  generalize hs : ['~', '>'] ++ z = s at h
  cases h with
  | operator => exact absurd (List.cons.inj hs).1 (by decide)
  | enclosed encloses =>
    cases encloses with
    | struck => exact absurd (List.cons.inj (List.cons.inj hs).2).1 (by decide)
    | bold => exact absurd (List.cons.inj hs).1 (by decide)
    | fence => exact absurd (List.cons.inj hs).1 (by decide)
    | code => exact absurd (List.cons.inj hs).1 (by decide)
    | quote => exact absurd (List.cons.inj hs).1 (by decide)
    | blockMath => exact absurd (List.cons.inj hs).1 (by decide)
    | inlineMath => exact absurd (List.cons.inj hs).1 (by decide)

/-- Only an operator is read at a space. -/
theorem ReadsStyled.operator_of_space {x : Span} (h : ReadsStyled (' ' :: s) x r) :
    x.text ∈ operators ∧ x.kind = .operator ∧ s = x.text ++ r ∧ r.head? = some ' ' := by
  generalize hs : ' ' :: s = s' at h
  cases h with
  | operator known spaced => exact ⟨known, rfl, (List.cons.inj hs).2, spaced⟩
  | enclosed encloses =>
    obtain ⟨d, n, rfl, -, -, hspace, -⟩ := encloses.delimiter_eq
    have : ' ' = d := by simpa [delimited, List.replicate_succ] using congrArg List.head? hs
    exact absurd this.symm hspace

/-! ### Plain text

Plain text is read in pieces: words, and one space at a time. Flattening puts them
together again.
-/

/-- An operator is read at a space of a plain text only if the text holds one, or ends like one
right before another operator. -/
theorem styled_fails_in_plain {t z : Text} {run : Run}
    (hfree : ¬ HoldsOperator (t ++ gapBefore run)) (hz : Next (· ∈ plainStops) z)
    (harrow : ¬ ['~', '>'] <+: z) (hgap : z.head? = some ' ' → gapBefore run = [' '])
    {a b : Text} (ht : t = a ++ ' ' :: b) : Fails styled (' ' :: (b ++ z)) := by
  rw [fails_iff]
  intro x m hok
  obtain ⟨hknown, -, heq, hspace⟩ := (styled_eq_ok_iff.1 hok).operator_of_space
  obtain ⟨y, rfl⟩ := List.head?_eq_some_iff.1 hspace
  generalize x.text = symbol at hknown heq
  -- a symbol at the end of the text with a space after it
  have hlast : ∀ w, b = symbol → z = ' ' :: w → False := by
    rintro w rfl rfl
    apply hfree
    refine ⟨b, hknown, Text.containsText_iff.2 ⟨a, [], ?_⟩⟩
    rw [hgap rfl, ht]
    simp
  rcases List.append_eq_append_iff.1 heq with ⟨c, hsymbol, hz'⟩ | ⟨c, hb, hrest⟩
  · cases c with
    | nil => exact hlast y (by simpa using hsymbol.symm) hz'
    | cons d c =>
      -- the symbol would go on in the next span, which begins with a delimiter
      have hd : d ∈ plainStops := by
        rw [hz'] at hz
        exact (next_cons _ _ _).1 hz
      have hsym : symbol = ['~', '>'] :=
        (by decide : ∀ o ∈ operators, ∀ e ∈ o, e ∈ plainStops → o = ['~', '>']) symbol hknown d
          (hsymbol ▸ List.mem_append_right b List.mem_cons_self) hd
      rw [hsym] at hsymbol
      cases b with
      | nil =>
        apply harrow
        rw [hz', ← List.nil_append (d :: c), ← hsymbol]
        exact List.prefix_append _ _
      | cons e b =>
        obtain ⟨-, htail⟩ := List.cons.inj hsymbol
        have hmem : d ∈ ['>'] := by
          rw [htail]
          exact List.mem_append_right b List.mem_cons_self
        rw [List.mem_singleton] at hmem
        rw [hmem] at hd
        exact absurd hd (by decide)
  · cases c with
    | nil => exact hlast y (by simpa using hb) (by simpa using hrest.symm)
    | cons d c =>
      obtain ⟨rfl, -⟩ := List.cons.inj hrest
      apply hfree
      refine ⟨symbol, hknown, Text.containsText_iff.2 ⟨a, c ++ gapBefore run, ?_⟩⟩
      rw [ht, hb]
      simp

/-- A word of plain text is read whole. -/
theorem span_word {word rest z : Text} (hne : word ≠ []) (ht : Avoids SpanKind.plain.stops word)
    (hword : ∀ d ∈ word, d ≠ ' ') (hend : Next (· = ' ') rest) (hz : Next (· ∈ plainStops) z) :
    span (word ++ (rest ++ z)) = .ok (⟨.plain, word⟩, rest ++ z) := by
  have havoids : Avoids plainStops word := by
    intro d hd
    have hstops := ht d hd
    have hspace := hword d hd
    simp only [SpanKind.stops, List.mem_cons, List.not_mem_nil, or_false] at hstops
    simp only [plainStops, specials, List.mem_cons, List.not_mem_nil, or_false]
    simpa [hspace] using hstops
  have hnext : Next (· ∈ plainStops) (rest ++ z) := by
    cases rest with
    | nil => exact hz
    | cons d rest =>
      have hspace : d = ' ' := hend d rfl
      rw [hspace]
      exact (next_cons _ _ _).2 (by decide)
  exact span_eq_ok_iff.2 (.plain hne havoids hnext)

theorem exists_pieces {t z : Text} (ht : Avoids SpanKind.plain.stops t)
    (hz : Next (· ∈ plainStops) z)
    (hfree : ∀ a b, t = a ++ ' ' :: b → Fails styled (' ' :: (b ++ z))) :
    ∃ pieces : Run, Chain span (t ++ z) pieces z ∧ (∀ x ∈ pieces, x.kind = .plain) ∧
      pieces.text = t := by
  induction hn : t.length using Nat.strongRecOn generalizing t with
  | ind n ih =>
    cases t with
    | nil => exact ⟨[], .stop z, by simp, rfl⟩
    | cons c t =>
      rw [avoids_cons] at ht
      by_cases hc : c = ' '
      · subst hc
        obtain ⟨pieces, hchain, hplain, htext⟩ := ih t.length (by simp at hn; omega) ht.2
          (fun a b hab => hfree (' ' :: a) b (congrArg (' ' :: ·) hab)) rfl
        have hread : span (' ' :: (t ++ z)) = .ok (⟨.plain, [' ']⟩, t ++ z) :=
          span_eq_ok_iff.2 (.stray (by decide) (hfree [] t rfl))
        refine ⟨⟨.plain, [' ']⟩ :: pieces, .step hread (by simp) hchain, ?_, ?_⟩
        · exact List.forall_mem_cons.2 ⟨rfl, hplain⟩
        · exact congrArg (' ' :: ·) htext
      · -- the word up to the next space or the end of the text
        obtain ⟨hword, hend, hsplit⟩ := takeWhile_dropWhile_iff.1 (⟨rfl, rfl⟩ :
          t.takeWhile (· != ' ') = _ ∧ t.dropWhile (· != ' ') = _)
        generalize t.takeWhile (· != ' ') = word at hword hsplit
        generalize t.dropWhile (· != ' ') = rest at hend hsplit
        subst hsplit
        rw [avoids_append] at ht
        obtain ⟨pieces, hchain, hplain, htext⟩ := ih rest.length
          (by simp only [List.length_cons, List.length_append] at hn; omega) ht.2.2
          (fun a b hab => hfree (c :: word ++ a) b (by rw [hab]; simp)) rfl
        have hread := span_word (List.cons_ne_nil c word)
          ((avoids_cons _ _ _).2 ⟨ht.1, ht.2.1⟩)
          (List.forall_mem_cons.2 ⟨hc, fun d hd => by simpa using hword d hd⟩)
          (fun d hd => by simpa using hend d hd) hz
        refine ⟨⟨.plain, c :: word⟩ :: pieces, ?_, ?_, ?_⟩
        · have hstep := Chain.step hread (advances_span hread) hchain
          simpa using hstep
        · exact List.forall_mem_cons.2 ⟨rfl, hplain⟩
        · show c :: word ++ Run.text pieces = _
          rw [htext]
          rfl

/-- Pieces of plain text before a run that begins otherwise are one span. -/
theorem flatten_pieces {pieces raw run : Run} (hplain : ∀ x ∈ pieces, x.kind = .plain)
    (hne : pieces ≠ []) (hraw : flatten raw = run) (hrun : ∀ y ∈ run.head?, y.kind ≠ .plain) :
    flatten (pieces ++ raw) = ⟨.plain, pieces.text⟩ :: run := by
  induction pieces with
  | nil => exact absurd rfl hne
  | cons x pieces ih =>
    rw [List.forall_mem_cons] at hplain
    obtain ⟨kind, t⟩ := x
    obtain ⟨rfl, hplain⟩ := hplain
    rw [List.cons_append, flatten_cons]
    cases pieces with
    | nil =>
      rw [List.nil_append, hraw]
      cases run with
      | nil => simp [Run.cons, Run.text]
      | cons y run =>
        have hy := hrun y rfl
        simp [Run.cons, Run.text, hy]
    | cons y pieces =>
      rw [ih hplain (List.cons_ne_nil y pieces)]
      simp [Run.cons, Run.text]

/-! ### Runs -/

/-- The text after an operator begins with a space. -/
theorem Span.Fits.head_space {x : Span} {run : Run} (h : x.Fits run) (hx : x.kind = .operator)
    (r : Text) : (run.spelling ++ r).head? = some ' ' := by
  obtain ⟨y, hy, hkind⟩ := h.spaced hx
  obtain ⟨run, rfl⟩ := List.head?_eq_some_iff.1 hy
  rw [Run.spelling_cons]
  rcases hkind with hop | ⟨hplain, hspace⟩
  · simp [Span.spelling, hop]
  · obtain ⟨t, ht⟩ := List.head?_eq_some_iff.1 hspace
    simp [Span.spelling, hplain, ht]

/-- A run that begins with a styled span, or is empty, does not go on with plain text. -/
theorem next_of_styled {run : Run} (hspans : ∀ x ∈ run, x.Canonical) (hsep : run.Separated)
    (hhead : ∀ y ∈ run.head?, y.kind ≠ .plain) (hr : LineEnd r) :
    Next (· ∈ plainStops) (run.spelling ++ r) ∧ ¬ ['~', '>'] <+: run.spelling ++ r ∧
      ((run.spelling ++ r).head? = some ' ' → gapBefore run = [' ']) := by
  cases run with
  | nil =>
    show Next (· ∈ plainStops) r ∧ ¬ ['~', '>'] <+: r ∧ (r.head? = some ' ' → _)
    cases r with
    | nil => simp
    | cons c r =>
      obtain rfl := lineEnd_cons.1 hr
      simp [plainStops]
  | cons y run =>
    have hy := hhead y rfl
    have hread := (hspans y List.mem_cons_self).readsStyled hy (fun hop => hsep.1.head_space hop r)
    rw [Run.spelling_cons, List.append_assoc]
    refine ⟨?_, hread.not_arrow, ?_⟩
    · obtain ⟨c, hc, hs⟩ := hread.head_special
      obtain ⟨w, hw⟩ := List.head?_eq_some_iff.1 hs
      rw [hw]
      exact (next_cons _ _ _).2 (List.mem_cons_of_mem _ hc)
    · intro hhead
      obtain ⟨w, hw⟩ := List.head?_eq_some_iff.1 hhead
      rw [hw] at hread
      simp [gapBefore, hread.operator_of_space.2.1]

theorem exists_chain_of_separated {run : Run} (hspans : ∀ x ∈ run, x.Canonical)
    (hsep : run.Separated) (hr : LineEnd r) :
    ∃ raw, Chain span (run.spelling ++ r) raw r ∧ flatten raw = run := by
  induction run with
  | nil => exact ⟨[], .stop r, rfl⟩
  | cons x run ih =>
    obtain ⟨hfits, hsep⟩ := hsep
    rw [List.forall_mem_cons] at hspans
    obtain ⟨raw, hchain, hflat⟩ := ih hspans.2 hsep
    rw [Run.spelling_cons, List.append_assoc]
    by_cases hkind : x.kind = .plain
    · obtain ⟨kind, t⟩ := x
      obtain rfl := hkind
      have hhead := hfits.alone rfl
      obtain ⟨hnext, harrow, hgap⟩ := next_of_styled hspans.2 hsep hhead hr
      obtain ⟨pieces, hpieces, hplain, htext⟩ := exists_pieces hspans.1.avoids hnext
        (fun a b hab => styled_fails_in_plain (hfits.free rfl) hnext harrow hgap hab)
      have hne : pieces ≠ [] := by
        rintro rfl
        exact hspans.1.nonempty htext.symm
      refine ⟨pieces ++ raw, hpieces.append hchain, ?_⟩
      rw [flatten_pieces hplain hne hflat hhead, htext]
    · have hread := hspans.1.readsStyled hkind (fun hx => hfits.head_space hx r)
      have hok := span_eq_ok_iff.2 (.styled hread)
      refine ⟨x :: raw, .step hok (advances_span hok) hchain, ?_⟩
      rw [flatten_cons, hflat]
      cases run with
      | nil => rfl
      | cons y run => simp [Run.cons, hkind]

/-- A canonical run is read back in front of the end of a line. -/
theorem Run.Canonical.textRun_eq {run : Run} (h : run.Canonical) (hr : LineEnd r) :
    textRun (run.spelling ++ r) = .ok (run, r) := by
  obtain ⟨raw, hchain, rfl⟩ := exists_chain_of_separated h.spans h.separated hr
  refine textRun_eq_ok_iff.2 ⟨raw, ?_, hchain, hr, rfl⟩
  rintro rfl
  exact h.nonempty rfl

/-! ### Links and lines -/

theorem LineEnd.ended (h : LineEnd r) : Ended r := by
  intro c hc
  rw [h c hc]
  decide

theorem Link.Canonical.readsLink {l : Link} (h : l.Canonical) (hr : LineEnd r) :
    ReadsLink (l.spelling ++ r) l r := by
  obtain ⟨display, _ | target⟩ := l
  · simp only [Link.Canonical] at h
    by_cases http : Link.isBareUrl ⟨display, none⟩ = true
    · rw [if_pos http] at h
      simp only [Link.spelling, if_pos http]
      exact .bare ⟨Link.isBareUrl_iff.1 http, h⟩ hr.ended
    · rw [if_neg http] at h
      simp only [Link.spelling, if_neg http]
      simpa using ReadsLink.bracketed h hr.ended.parenthesised_fails
  · obtain ⟨hdisplay, htarget⟩ := h
    simpa [Link.spelling] using ReadsLink.targeted (r := r) hdisplay htarget

theorem Inline.Canonical.inline_eq {content : Inline} (h : content.Canonical) (hr : LineEnd r) :
    inline (content.spelling ++ r) = .ok (content, r) := by
  cases content with
  | run spans =>
    obtain ⟨hrun, hlink⟩ := h
    refine inline_eq_ok_iff.2 (.inr ⟨?_, spans, rfl, hrun.textRun_eq hr⟩)
    rw [link_fails_iff] at hlink ⊢
    rwa [Inline.spelling, opensLink_append_iff hr]
  | link l =>
    have hread := Link.Canonical.readsLink h hr
    exact inline_eq_ok_iff.2 (.inl ⟨l, rfl, link_eq_ok_iff.2 hread⟩)

/-- A marker is complete before a space and before the end of the line. -/
theorem IsMarker.readsMarker {marker : Text} (h : IsMarker marker)
    (hr : Next (fun d => d = ' ' ∨ d = '\n') r) : ReadsMarker (marker ++ r) marker r := by
  rcases h with ⟨c, hc, rfl⟩ | ⟨hlabel, -⟩
  · exact .glyph hc hr
  · refine .label hlabel ?_
    rw [fails_iff]
    intro v m hok
    obtain ⟨⟨a, hne, ha, rfl⟩, rfl⟩ := labelSegment_eq_ok_iff.1 hok
    obtain ⟨c, a, rfl⟩ := List.exists_cons_of_ne_nil hne
    have hc := ha c List.mem_cons_self
    rcases (next_cons _ _ _).1 hr with rfl | rfl
    · exact absurd hc (by decide)
    · exact absurd hc (by decide)

/-- No link can be read at a marker. -/
theorem IsMarker.link_fails {marker : Text} (h : IsMarker marker) (r : Text) :
    Fails link (marker ++ r) := by
  rcases h with ⟨c, hc, rfl⟩ | ⟨hlabel, http⟩
  · obtain ⟨hb, hh⟩ := (by decide : ∀ g ∈ listGlyphs, g ≠ '[' ∧ g ≠ 'h') c hc
    exact link_fails_of_head hb hh
  · rw [link_fails_iff, opensLink_iff_exists]
    rintro (⟨display, -, hlead⟩ | hlead)
    · obtain ⟨c, w, hc, rfl⟩ := hlabel.exists_cons
      obtain ⟨rfl, -⟩ := List.cons_prefix_cons.1 hlead
      exact absurd hc (by decide)
    · -- a label ends with a dot, so it is not a beginning of the letters of an address
      rcases List.prefix_or_prefix_of_prefix hlead (List.prefix_append marker r) with hp | hp
      · exact http hp
      · obtain ⟨segments, hne, hall, rfl⟩ := hlabel
        obtain ⟨segment, segments, rfl⟩ := List.exists_cons_of_ne_nil hne
        obtain ⟨a, -, -, rfl⟩ := hall segment List.mem_cons_self
        have hdot : '.' ∈ "http".toList := hp.subset (by simp)
        exact absurd hdot (by decide)

theorem LineContent.Canonical.readsLineContent {content : LineContent} (h : content.Canonical)
    (hr : LineEnd r) : ReadsLineContent (content.spelling ++ r) content r := by
  cases content with
  | link l => exact .link (Link.Canonical.readsLink h hr)
  | comment t => exact .comment h hr
  | item i =>
    obtain ⟨hmarker, hcontent⟩ := h
    obtain ⟨marker, _ | content⟩ := i
    · refine .item (hmarker.link_fails r) (hmarker.readsMarker ?_) (.none ?_)
      · intro c hc
        exact .inr (hr c hc)
      · rintro x rfl
        exact absurd (lineEnd_cons.1 hr) (by decide)
    · have hread := (hcontent content rfl).inline_eq hr
      have hitem := ReadsLineContent.item
        (s := marker ++ ' ' :: (content.spelling ++ r)) (m := ' ' :: (content.spelling ++ r))
        (hmarker.link_fails _) (hmarker.readsMarker ((next_cons _ _ _).2 (.inl rfl))) (.some hread)
      simpa [LineContent.spelling, ListItem.spelling] using hitem

/-! ### Nodes -/

/-- A canonical node is read back: a blank run before something else, any other node before
the end of a line. -/
theorem Node.Canonical.readsNode {n : Node} (h : n.Canonical)
    (hline : n.isBlank = false → LineEnd r) (hblank : n.isBlank = true → Next (· ≠ '\n') r) :
    ReadsNode (n.spelling ++ r) n r := by
  cases n with
  | blank count => exact .blank (hblank rfl)
  | line l =>
    refine .line (line_eq_ok_iff.2 ⟨l.content.spelling ++ r, by simp [Node.spelling], ?_⟩)
    exact LineContent.Canonical.readsLineContent h (hline rfl)
  | tag t =>
    obtain ⟨hdepth, hlabel, hhead⟩ := h
    have hread := hlabel.inline_eq (hline rfl)
    refine .tag (tag_eq_ok_iff.2
      ⟨hdepth, t.label.spelling ++ r, by simp [Node.spelling], ?_, hread⟩)
    rcases inline_eq_ok_iff.1 hread with ⟨l, -, hl⟩ | ⟨-, spans, hspans, -⟩
    · obtain ⟨c, w, hc, heq⟩ := (link_eq_ok_iff.1 hl).exists_cons
      rw [heq, next_cons]
      rcases hc with rfl | rfl
      · decide
      · decide
    · refine Next.append ?_ ?_
      · intro c hc
        rintro rfl
        rw [hspans] at hc
        exact hhead spans hspans hc
      · intro _ c hc
        rw [hline rfl c hc]
        decide
  | text run =>
    obtain ⟨hrun, hunlined, huntagged⟩ := h
    rw [line_fails_iff] at hunlined
    rw [tag_fails_iff] at huntagged
    refine .text ?_ ?_ (hrun.textRun_eq (hline rfl))
    · rwa [line_fails_iff, Node.spelling, opensLine_append_iff (hline rfl)]
    · rwa [tag_fails_iff, Node.spelling, opensTag_append_iff (hline rfl)]

/-- Only blank runs begin with a newline. -/
theorem ReadsNode.head_ne {n : Node} (h : ReadsNode s n r) (hn : n.isBlank = false) :
    Next (· ≠ '\n') s := by
  rintro c hc rfl
  obtain ⟨s, rfl⟩ := List.head?_eq_some_iff.1 hc
  cases h with
  | line hline => exact not_fails_of_ok hline fails_of_newline.1
  | tag htag => exact not_fails_of_ok htag fails_of_newline.2
  | blank => exact nomatch hn
  | text _ _ hrun => exact not_fails_of_ok hrun (textRun_fails_iff.2 (lineEnd_cons.2 rfl))

theorem Canonical.chain {nodes : List Node} (h : Canonical nodes) :
    Chain node (unparse nodes) nodes [] := by
  induction nodes with
  | nil => exact .stop []
  | cons n nodes ih =>
    obtain ⟨heach, halternate⟩ := h
    rw [List.forall_mem_cons] at heach
    have htail : Alternate nodes := by
      cases nodes with
      | nil => trivial
      | cons m nodes => exact halternate.2
    have hchain := ih ⟨heach.2, htail⟩
    have hread : ReadsNode (n.spelling ++ unparse nodes) n (unparse nodes) := by
      cases nodes with
      | nil => exact heach.1.readsNode (fun _ => lineEnd_nil) (fun _ => next_nil _)
      | cons m nodes =>
        have hturn : n.isBlank = !m.isBlank := halternate.1
        refine heach.1.readsNode ?_ ?_
        · intro hn
          cases m with
          | blank count => exact lineEnd_cons.2 rfl
          | _ => exact nomatch hn.symm.trans hturn
        · intro hn
          rw [hn] at hturn
          cases hchain with
          | step head =>
            exact (node_eq_ok_iff.1 head).head_ne (by simpa using hturn.symm)
    have hok := node_eq_ok_iff.2 hread
    rw [unparse_cons]
    exact .step hok (advances_node hok) hchain

/-- **Canonical nodes read back.** Parsing what is printed for them gives the same nodes. -/
theorem parse_unparse (nodes : List Node) (h : Canonical nodes) :
    parseDocument (unparse nodes) = .ok nodes :=
  parseDocument_eq_ok_iff.2 h.chain

/-- A tag, a list item with a link and a run with an operator next to code. -/
theorem parse_unparse_note :
    let nodes : List Node := [.tag ⟨1, .run [⟨.plain, "a b".toList⟩]⟩, .blank 0,
      .line ⟨2, .item ⟨['-'], some (.link ⟨"c".toList, some "d".toList⟩)⟩⟩, .blank 1,
      .text [⟨.plain, "e".toList⟩, ⟨.operator, "->".toList⟩, ⟨.plain, [' ']⟩,
        ⟨.code, "f".toList⟩]]
    Canonical nodes ∧ parseDocument (unparse nodes) = .ok nodes := by
  intro nodes
  have hruns : Run.Canonical [⟨.plain, "a b".toList⟩] ∧ Run.Canonical [⟨.plain, "e".toList⟩,
      ⟨.operator, "->".toList⟩, ⟨.plain, [' ']⟩, ⟨.code, "f".toList⟩] := by decide
  have hlabel : Node.Canonical (.tag ⟨1, .run [⟨.plain, "a b".toList⟩]⟩) := by
    refine ⟨by decide, ⟨hruns.1, by decide⟩, ?_⟩
    rintro spans ⟨⟩
    decide
  have hitem : Node.Canonical
      (.line ⟨2, .item ⟨['-'], some (.link ⟨"c".toList, some "d".toList⟩)⟩⟩) := by
    refine ⟨.inl ⟨'-', by decide, rfl⟩, ?_⟩
    rintro content ⟨⟩
    exact ⟨by decide, by decide⟩
  have hcanonical : Canonical nodes := by
    refine ⟨?_, ⟨rfl, rfl, rfl, rfl, trivial⟩⟩
    simp only [nodes, List.forall_mem_cons]
    exact ⟨hlabel, trivial, hitem, trivial, ⟨hruns.2, by decide, by decide⟩, by simp⟩
  exact ⟨hcanonical, parse_unparse nodes hcanonical⟩

end Slipbox.Markup
