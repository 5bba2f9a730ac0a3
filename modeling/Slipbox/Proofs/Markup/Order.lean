import Slipbox.Proofs.Markup.Rules
import Slipbox.Proofs.Parsing.Composition
import Slipbox.Proofs.Parsing.Suffix

/-!
# The order of alternatives

The grammar tries its rules in a fixed order, but only the last one of each choice needs its place:
a stray character is what no other rule of spans takes, and a run is what no other rule of nodes
takes. Of the other rules at most one succeeds at any place (`SpanRule.exclusive`,
`NodeRule.exclusive`), and a choice among parsers that exclude each other does not depend on
their order (`firstOf_perm`). An `Order` is any order of the rules; the grammar that follows it
is the grammar itself (`order_immaterial`).
-/

namespace Slipbox.Parsing

variable {α : Type} {p q r : Parser α} {ps qs : List (Parser α)} {last : Parser α}

/-! ### Choices in any order -/

/-- Nowhere do both parsers succeed. -/
def Excludes (p q : Parser α) : Prop := ∀ s, Fails p s ∨ Fails q s

theorem Excludes.symm (h : Excludes p q) : Excludes q p := fun s => (h s).symm

/-- Of the parsers the first that succeeds, or else the last one. -/
def firstOf (ps : List (Parser α)) (last : Parser α) : Parser α :=
  match ps with
  | [] => last
  | p :: ps => alternation p (ps ++ [last])

theorem firstOf_nil (last : Parser α) : firstOf [] last = last := rfl

theorem firstOf_cons (p : Parser α) (ps : List (Parser α)) (last : Parser α) :
    firstOf (p :: ps) last = alternation p [firstOf ps last] := by
  cases ps with
  | nil => rfl
  | cons q ps => rfl

/-- Parsers that exclude each other may change places. -/
theorem Excludes.alternation_comm (h : Excludes p q) (r : Parser α) :
    alternation p [alternation q [r]] = alternation q [alternation p [r]] := by
  funext s
  simp only [alternation_pair_apply]
  rcases h s with ⟨e, hp⟩ | ⟨e, hq⟩
  · rw [hp]
  · rw [hq]

theorem firstOf_perm (hperm : ps.Perm qs) (h : ps.Pairwise Excludes) (last : Parser α) :
    firstOf ps last = firstOf qs last := by
  induction hperm with
  | nil => rfl
  | cons p _ ih => rw [firstOf_cons, firstOf_cons, ih h.of_cons]
  | swap p q ps =>
    have hexcludes : Excludes q p := List.rel_of_pairwise_cons h List.mem_cons_self
    simp only [firstOf_cons]
    exact hexcludes.alternation_comm _
  | trans hperm _ ih ih' => exact (ih h).trans (ih' (hperm.pairwise h Excludes.symm))

/-- The parser succeeds at a byte offset. -/
def SucceedsAt (p : Parser α) (t : Text) (offset : Nat) : Prop :=
  ∃ value place, p.parseAt? t offset = some (.ok (value, place))

/-- A parser that succeeds somewhere does so on what is left there. -/
theorem SucceedsAt.exists_ok {t : Text} {offset : Nat} (h : SucceedsAt p t offset) :
    ∃ s x, ((Position.start t).advance offset).rest? = some s ∧ p s = .ok x := by
  obtain ⟨value, place, h⟩ := h
  obtain ⟨s, hs, h⟩ := Option.map_eq_some_iff.1 h
  cases hp : p s with
  | error e =>
    rw [hp] at h
    exact nomatch h
  | ok x => exact ⟨s, x, hs, hp⟩

/-- A parser succeeds behind a text if it succeeds on what follows. -/
theorem succeedsAt_of_not_fails (before : Text) {s : Text} (h : ¬ Fails p s) :
    SucceedsAt p (before ++ s) before.byteLength := by
  obtain ⟨value, rest, hok⟩ := not_fails_iff.1 h
  refine ⟨value, ⟨before ++ s, Text.offsetOf (before ++ s) rest⟩, ?_⟩
  rw [parseAt?_append, hok]

/-- At most one of the rules succeeds on any text. -/
def Exclusive {ι : Type} (parser : ι → Parser α) : Prop :=
  ∀ a b s x y, parser a s = .ok x → parser b s = .ok y → a = b

namespace Exclusive

variable {ι : Type} {parser : ι → Parser α} {a b : ι}

theorem excludes (h : Exclusive parser) (hne : a ≠ b) : Excludes (parser a) (parser b) := by
  intro s
  cases ha : parser a s with
  | error e => exact .inl ⟨e, ha⟩
  | ok x =>
    refine .inr (fails_iff.2 fun y m hb => ?_)
    exact hne (h a b s x (y, m) ha hb)

theorem eq_of_succeedsAt (h : Exclusive parser) {t : Text} {offset : Nat}
    (ha : SucceedsAt (parser a) t offset) (hb : SucceedsAt (parser b) t offset) : a = b := by
  obtain ⟨s, x, hs, ha⟩ := ha.exists_ok
  obtain ⟨s', y, hs', hb⟩ := hb.exists_ok
  obtain rfl : s = s' := Option.some.inj (hs.symm.trans hs')
  exact h a b s x y ha hb

/-- Rules that exclude each other give the same choice in any order. -/
theorem firstOf_perm (h : Exclusive parser) {rules all : List ι} (hperm : rules.Perm all)
    (hnodup : all.Nodup) (last : Parser α) :
    firstOf (rules.map parser) last = firstOf (all.map parser) last := by
  refine Parsing.firstOf_perm (hperm.map parser) ?_ last
  rw [List.pairwise_map]
  exact (hperm.nodup_iff.2 hnodup).imp h.excludes

end Exclusive

end Slipbox.Parsing

namespace Slipbox.Markup

open Slipbox.Parsing

variable {s m r : Text} {x : Span}

/-! ### Rules of spans -/

/-- The rules of spans but that of stray characters. -/
inductive SpanRule where
  | operator | bold | struck | fencedCode | singleCode | quote | blockMath | inlineMath | plain
deriving DecidableEq, Repr

namespace SpanRule

variable {a b : SpanRule}

def parser : SpanRule → Parser Span
  | .operator => operatorSpan
  | .bold => Markup.bold
  | .struck => Markup.struck
  | .fencedCode => spanOf .code Markup.fencedCode
  | .singleCode => spanOf .code Markup.singleCode
  | .quote => Markup.quote
  | .blockMath => Markup.blockMath
  | .inlineMath => Markup.inlineMath
  | .plain => plainSpan

/-- The rules in the order in which the grammar tries them. -/
def all : List SpanRule :=
  [.operator, .bold, .struck, .fencedCode, .singleCode, .quote, .blockMath, .inlineMath, .plain]

/-- The kind of the spans that the rule gives. -/
def kind : SpanRule → SpanKind
  | .operator => .operator
  | .bold => .bold
  | .struck => .struck
  | .fencedCode => .code
  | .singleCode => .code
  | .quote => .quote
  | .blockMath => .blockMath
  | .inlineMath => .inlineMath
  | .plain => .plain

theorem eq_of_kind (h : a.kind = b.kind) (hcode : a.kind ≠ .code) : a = b := by
  cases a <;> cases b <;> first | rfl | exact absurd rfl hcode | exact nomatch h

theorem eq_code_of_kind (h : a.kind = .code) : a = .fencedCode ∨ a = .singleCode := by
  cases a <;> first | exact .inl rfl | exact .inr rfl | exact nomatch h

/-- All rules but that of plain text give a styled span, of their own kind. -/
theorem readsStyled (h : a.parser s = .ok (x, m)) (hplain : a ≠ .plain) :
    ReadsStyled s x m ∧ x.kind = a.kind := by
  cases a with
  | operator =>
    obtain ⟨t, rfl, hop⟩ := spanOf_eq_ok_iff.1 h
    obtain ⟨hmem, rfl, hhead⟩ := operator_eq_ok_iff.1 hop
    exact ⟨.operator hmem hhead, rfl⟩
  | bold =>
    obtain ⟨t, rfl, hne, havoids, rfl⟩ := bold_eq_ok_iff.1 h
    exact ⟨.enclosed .bold hne havoids, rfl⟩
  | struck =>
    obtain ⟨t, rfl, hne, havoids, rfl⟩ := struck_eq_ok_iff.1 h
    exact ⟨.enclosed .struck hne havoids, rfl⟩
  | fencedCode =>
    obtain ⟨t, rfl, hcode⟩ := spanOf_eq_ok_iff.1 h
    obtain ⟨hne, havoids, rfl⟩ := fencedCode_eq_ok_iff.1 hcode
    exact ⟨.enclosed .fence hne havoids, rfl⟩
  | singleCode =>
    obtain ⟨t, rfl, hcode⟩ := spanOf_eq_ok_iff.1 h
    obtain ⟨hne, havoids, rfl⟩ := singleCode_eq_ok_iff.1 hcode
    exact ⟨.enclosed .code hne havoids, rfl⟩
  | quote =>
    obtain ⟨t, rfl, hne, havoids, rfl⟩ := quote_eq_ok_iff.1 h
    exact ⟨.enclosed .quote hne havoids, rfl⟩
  | blockMath =>
    obtain ⟨t, rfl, hne, havoids, rfl⟩ := blockMath_eq_ok_iff.1 h
    exact ⟨.enclosed .blockMath hne havoids, rfl⟩
  | inlineMath =>
    obtain ⟨t, rfl, hne, havoids, rfl⟩ := inlineMath_eq_ok_iff.1 h
    exact ⟨.enclosed .inlineMath hne havoids, rfl⟩
  | plain => exact absurd rfl hplain

theorem styled_fails (h : SpanRule.plain.parser s = .ok (x, m)) : Fails styled s := by
  obtain ⟨t, -, hne, havoids, -, rfl⟩ := plainSpan_eq_ok_iff.1 h
  exact styled_fails_of_plain hne havoids

/-- A fence is no single mark, because code is not empty. -/
theorem singleCode_fails (h : SpanRule.fencedCode.parser s = .ok (x, m)) :
    Fails SpanRule.singleCode.parser s := by
  rw [fails_iff]
  intro y m' h'
  obtain ⟨t, -, hfence⟩ := spanOf_eq_ok_iff.1 h
  obtain ⟨t', -, hsingle⟩ := spanOf_eq_ok_iff.1 h'
  obtain ⟨-, -, rfl⟩ := fencedCode_eq_ok_iff.1 hfence
  obtain ⟨hne, havoids, heq⟩ := singleCode_eq_ok_iff.1 hsingle
  obtain ⟨c, t', rfl⟩ := List.exists_cons_of_ne_nil hne
  obtain ⟨hc, -⟩ := List.cons.inj (List.cons.inj heq).2
  exact havoids c List.mem_cons_self (hc ▸ List.mem_cons_self)

theorem exclusive : Exclusive parser := by
  intro a b s v w ha hb
  by_cases hpa : a = .plain
  · by_cases hpb : b = .plain
    · rw [hpa, hpb]
    · subst hpa
      exact absurd (styled_fails ha) (readsStyled hb hpb).1.not_fails
  · by_cases hpb : b = .plain
    · subst hpb
      exact absurd (styled_fails hb) (readsStyled ha hpa).1.not_fails
    · obtain ⟨hreads, hkind⟩ := readsStyled ha hpa
      obtain ⟨hreads', hkind'⟩ := readsStyled hb hpb
      have hsame : a.kind = b.kind := by rw [← hkind, ← hkind', (hreads.unique hreads').1]
      by_cases hcode : a.kind = .code
      · rcases eq_code_of_kind hcode with rfl | rfl
        · rcases eq_code_of_kind (hsame ▸ hcode) with rfl | rfl
          · rfl
          · exact absurd (singleCode_fails ha) (not_fails_of_ok hb)
        · rcases eq_code_of_kind (hsame ▸ hcode) with rfl | rfl
          · exact absurd (singleCode_fails hb) (not_fails_of_ok ha)
          · rfl
      · exact eq_of_kind hsame hcode

end SpanRule

theorem map_alternation_pair {α β : Type} (f : α → β) (p q : Parser α) :
    f <$> alternation p [q] = alternation (f <$> p) [f <$> q] := by
  funext s
  rw [alternation_pair_apply, Parser.map_apply, Parser.map_apply, Parser.map_apply,
    alternation_pair_apply]
  cases p s with
  | ok => rfl
  | error => rfl

/-- A span is the first that succeeds of all rules, or else a stray character. -/
theorem span_eq_firstOf : span = firstOf (SpanRule.all.map SpanRule.parser) straySpan := by
  have hcode : code = alternation (spanOf .code fencedCode) [spanOf .code singleCode] := by
    simp only [code, spanOf, map_alternation_pair]
  rw [span, styled, hcode]
  -- each step is a proof term, or the two grammars would be unfolded down to their characters
  simp -implicitDefEqProofs only [SpanRule.all, SpanRule.parser, List.map_cons, List.map_nil,
    firstOf_cons, firstOf_nil, alternation_cons _ _ (_ :: _), alternation_assoc]

/-! ### Rules of nodes -/

/-- The rules of nodes but that of runs. -/
inductive NodeRule where
  | line | tag | blankRun
deriving DecidableEq, Repr

namespace NodeRule

variable {a b : NodeRule}

def parser : NodeRule → Parser Node
  | .line => Node.line <$> Markup.line
  | .tag => Node.tag <$> Markup.tag
  | .blankRun => Node.blank <$> Markup.blankRun

/-- The rules in the order in which the grammar tries them. -/
def all : List NodeRule := [.line, .tag, .blankRun]

/-- The rule that the first character of a text leaves. -/
def opened (s : Text) : NodeRule :=
  if s.head? = some '@' then .tag else if s.head? = some '\n' then .blankRun else .line

theorem eq_opened {v : Node × Text} (h : a.parser s = .ok v) : a = opened s := by
  obtain ⟨n, m⟩ := v
  cases a with
  | line =>
    obtain ⟨l, hline, -⟩ := map_eq_ok_iff.1 h
    obtain ⟨c, w, rfl, hnewline, hmarker⟩ := line_head_ne hline
    simp [opened, hnewline, hmarker]
  | tag =>
    obtain ⟨t, htag, -⟩ := map_eq_ok_iff.1 h
    obtain ⟨w, rfl⟩ := tag_head_eq htag
    rfl
  | blankRun =>
    obtain ⟨count, hblank, -⟩ := map_eq_ok_iff.1 h
    obtain ⟨rfl, -⟩ := blankRun_eq_ok_iff.1 hblank
    rfl

theorem exclusive : Exclusive parser := fun _ _ _ _ _ ha hb =>
  (eq_opened ha).trans (eq_opened hb).symm

end NodeRule

theorem node_eq_firstOf :
    node = firstOf (NodeRule.all.map NodeRule.parser) (Node.text <$> textRun) := rfl

/-! ### The grammar in another order -/

/-- An order of the rules. Stray characters and runs keep their last places. -/
structure Order where
  spans : List SpanRule
  nodes : List NodeRule
  spans_perm : spans.Perm SpanRule.all
  nodes_perm : nodes.Perm NodeRule.all

namespace Order

def span (o : Order) : Parser Span := firstOf (o.spans.map SpanRule.parser) straySpan

def textRun (o : Order) : Parser Run := flatten <$> many1 o.span

def inline (o : Order) : Parser Inline :=
  alternation (Inline.link <$> link) [Inline.run <$> o.textRun]

def listItem (o : Order) : Parser ListItem := do
  let marker ← listMarker
  let content ← optional (preceded space o.inline)
  pure ⟨marker, content⟩

def lineContent (o : Order) : Parser LineContent :=
  alternation (LineContent.link <$> link)
    [LineContent.comment <$> comment, LineContent.item <$> o.listItem]

def line (o : Order) : Parser Line := do
  let blanks ← indent
  let content ← o.lineContent
  pure ⟨blanks.length, content⟩

def tag (o : Order) : Parser Tag := do
  let markers ← tagMarkers
  let content ← o.inline
  pure ⟨markers.length, content⟩

def rule (o : Order) : NodeRule → Parser Node
  | .line => Node.line <$> o.line
  | .tag => Node.tag <$> o.tag
  | .blankRun => Node.blank <$> blankRun

def node (o : Order) : Parser Node := firstOf (o.nodes.map o.rule) (Node.text <$> o.textRun)

def document (o : Order) : Parser (List Node) := many o.node

/-- The nodes of a whole text, with the rules tried in this order. -/
def parseDocument (o : Order) (text : Text) : Except ParseError (List Node) :=
  (allConsuming o.document).parse text

variable (o : Order)

theorem span_eq : o.span = Markup.span := by
  rw [span_eq_firstOf]
  exact SpanRule.exclusive.firstOf_perm o.spans_perm (by decide) straySpan

theorem textRun_eq : o.textRun = Markup.textRun := by
  rw [textRun, span_eq]
  rfl

theorem inline_eq : o.inline = Markup.inline := by
  rw [inline, textRun_eq]
  rfl

theorem line_eq : o.line = Markup.line := by
  rw [line, lineContent, listItem, inline_eq]
  rfl

theorem tag_eq : o.tag = Markup.tag := by
  rw [tag, inline_eq]
  rfl

theorem rule_eq : o.rule = NodeRule.parser := by
  funext a
  cases a with
  | line => rw [rule, line_eq, NodeRule.parser]
  | tag => rw [rule, tag_eq, NodeRule.parser]
  | blankRun => rfl

theorem node_eq : o.node = Markup.node := by
  rw [node, rule_eq, textRun_eq, node_eq_firstOf]
  exact NodeRule.exclusive.firstOf_perm o.nodes_perm (by decide) _

theorem parseDocument_eq (t : Text) : o.parseDocument t = Markup.parseDocument t := by
  rw [parseDocument, document, node_eq]
  rfl

end Order

/-- **The order of alternatives does not matter.** At every place of a text at most one rule of
spans succeeds, stray characters aside, and at most one rule of nodes, runs aside. So the grammar
with its rules in any order reads the same spans, nodes and documents, or fails in the same
way. -/
theorem order_immaterial :
    (∀ t offset, ∀ a b : SpanRule,
      SucceedsAt a.parser t offset → SucceedsAt b.parser t offset → a = b) ∧
    (∀ t offset, ∀ a b : NodeRule,
      SucceedsAt a.parser t offset → SucceedsAt b.parser t offset → a = b) ∧
    ∀ o : Order, o.span = span ∧ o.node = node ∧ ∀ t, o.parseDocument t = parseDocument t :=
  ⟨fun _ _ _ _ => SpanRule.exclusive.eq_of_succeedsAt,
    fun _ _ _ _ => NodeRule.exclusive.eq_of_succeedsAt,
    fun o => ⟨o.span_eq, o.node_eq, o.parseDocument_eq⟩⟩

/-- In a list item a fence is read as fenced code and not as code between single marks, and the item
is no tag. The rules may be tried from the last to the first. -/
theorem order_immaterial_at_fence :
    let t : Text := "- ```a```".toList
    let o : Order := ⟨SpanRule.all.reverse, NodeRule.all.reverse, List.reverse_perm _,
      List.reverse_perm _⟩
    SucceedsAt SpanRule.fencedCode.parser t 2 ∧ ¬ SucceedsAt SpanRule.singleCode.parser t 2 ∧
      SucceedsAt NodeRule.line.parser t 0 ∧ ¬ SucceedsAt NodeRule.tag.parser t 0 ∧
      o.parseDocument t = parseDocument t := by
  intro t o
  obtain ⟨hspans, hnodes, horder⟩ := order_immaterial
  have hfence : SucceedsAt SpanRule.fencedCode.parser t 2 :=
    succeedsAt_of_not_fails "- ".toList (by decide)
  have hline : SucceedsAt NodeRule.line.parser t 0 :=
    succeedsAt_of_not_fails [] (by decide +kernel)
  refine ⟨hfence, fun hsingle => ?_, hline, fun htag => ?_, (horder o).2.2 t⟩
  · exact absurd (hspans t 2 .fencedCode .singleCode hfence hsingle) (by decide)
  · exact absurd (hnodes t 0 .line .tag hline htag) (by decide)

end Slipbox.Markup
