import Slipbox.Proofs.Markup.Respelling

/-!
# Spellings of nodes

A node does not record which of two spellings it was read from: code without a
newline may be fenced or stand between single marks, and an address without target
may be bare or in brackets. `Node.Spells` relates a node to all of its spellings
and follows the printer in everything else. The main result, `parse_spells`, says
that a text is the concatenation of one spelling of each of its nodes, so parsing
loses nothing else.
-/

namespace Slipbox.Markup

open Slipbox.Parsing

variable {s r w : Text}

/-! ### The two free choices -/

inductive Span.Spells : Span → Text → Prop where
  | printed (x : Span) : x.Spells x.spelling
  | fenced {t : Text} (oneLine : '\n' ∉ t) : Span.Spells ⟨.code, t⟩ (delimited "```".toList t)

inductive Link.Spells : Link → Text → Prop where
  | printed (l : Link) : l.Spells l.spelling
  | bracketed {display : Text} (http : Link.isBareUrl ⟨display, none⟩ = true) :
      Link.Spells ⟨display, none⟩ ('[' :: display ++ [']'])

/-! ### Everything else is printed -/

/-- One text for each element, in order, and all of them together. -/
inductive Concat {α : Type} (R : α → Text → Prop) : List α → Text → Prop where
  | nil : Concat R [] []
  | cons {a : α} {as : List α} {v w : Text} (head : R a v) (tail : Concat R as w) :
      Concat R (a :: as) (v ++ w)

abbrev Run.Spells : Run → Text → Prop := Concat Span.Spells

inductive Inline.Spells : Inline → Text → Prop where
  | run {spans : Run} {w : Text} (spans_spell : spans.Spells w) : Inline.Spells (.run spans) w
  | link {l : Link} {w : Text} (link_spells : l.Spells w) : Inline.Spells (.link l) w

inductive ListItem.Spells : ListItem → Text → Prop where
  | content {marker w : Text} {content : Inline} (content_spells : content.Spells w) :
      ListItem.Spells ⟨marker, some content⟩ (marker ++ ' ' :: w)
  | marker (marker : Text) : ListItem.Spells ⟨marker, none⟩ marker

inductive LineContent.Spells : LineContent → Text → Prop where
  | link {l : Link} {w : Text} (link_spells : l.Spells w) : LineContent.Spells (.link l) w
  | comment (t : Text) : LineContent.Spells (.comment t) ("> ".toList ++ t)
  | item {i : ListItem} {w : Text} (item_spells : i.Spells w) : LineContent.Spells (.item i) w

inductive Node.Spells : Node → Text → Prop where
  | tag {depth : Nat} {label : Inline} {w : Text} (label_spells : label.Spells w) :
      Node.Spells (.tag ⟨depth, label⟩) (List.replicate depth '@' ++ w)
  | line {indent : Nat} {content : LineContent} {w : Text} (content_spells : content.Spells w) :
      Node.Spells (.line ⟨indent, content⟩) (List.replicate indent ' ' ++ w)
  | text {run : Run} {w : Text} (run_spells : run.Spells w) : Node.Spells (.text run) w
  | blank (count : Nat) : Node.Spells (.blank count) (List.replicate (count + 1) '\n')

/-! ### Printing chooses a spelling -/

theorem concat_flatMap {α : Type} {R : α → Text → Prop} {write : α → Text}
    (h : ∀ a, R a (write a)) (as : List α) : Concat R as (as.flatMap write) := by
  induction as with
  | nil => exact .nil
  | cons a as ih => exact .cons (h a) ih

theorem Run.spells_spelling (run : Run) : run.Spells run.spelling :=
  concat_flatMap Span.Spells.printed run

theorem Inline.spells_spelling (content : Inline) : content.Spells content.spelling := by
  cases content with
  | run spans => exact .run spans.spells_spelling
  | link l => exact .link (.printed l)

theorem LineContent.spells_spelling (content : LineContent) :
    content.Spells content.spelling := by
  cases content with
  | link l => exact .link (.printed l)
  | comment t => exact .comment t
  | item i =>
    obtain ⟨marker, _ | content⟩ := i
    · exact .item (.marker marker)
    · exact .item (.content content.spells_spelling)

theorem Node.spells_spelling (n : Node) : n.Spells n.spelling := by
  cases n with
  | tag t => exact .tag t.label.spells_spelling
  | line l => exact .line l.content.spells_spelling
  | text run => exact .text run.spells_spelling
  | blank count => exact .blank count

/-! ### Every spelling respells as the printed one

Only the brackets of a link that is printed bare are dropped, so it is enough to ask
for them at the link that a node holds.
-/

/-- The link is printed as an address without brackets. -/
def Link.IsBare (l : Link) : Prop := l.target = none ∧ l.isBareUrl = true

def Inline.link? : Inline → Option Link
  | .run _ => none
  | .link l => some l

def LineContent.link? : LineContent → Option Link
  | .link l => some l
  | .comment _ => none
  | .item i => i.content.bind Inline.link?

/-- The link that the node holds, if any. -/
def Node.link? : Node → Option Link
  | .tag t => t.label.link?
  | .line l => l.content.link?
  | .text _ => none
  | .blank _ => none

/-- No brackets are dropped. -/
def Never : Text → Text → Prop := fun _ _ => False

variable {drops : Text → Text → Prop}

theorem Respelled.of_never {p : Text} (h : Respelled Never w p) : Respelled drops w p :=
  h.mono fun _ _ hfalse => hfalse.elim

theorem Respelled.append_left {p : Text} (v : Text) (h : Respelled drops w p) :
    Respelled drops (v ++ w) (v ++ p) :=
  (Respelled.refl v : Respelled Never v v).append_of_never h

theorem Span.Spells.respelled {x : Span} (h : x.Spells w) : Respelled Never w x.spelling := by
  cases h with
  | printed => exact .refl _
  | @fenced t oneLine =>
    have hprinted : Span.spelling ⟨.code, t⟩ = '\x60' :: (t ++ ['\x60']) := by
      simp only [Span.spelling, if_neg oneLine]
      rfl
    rw [hprinted]
    have hclose : Respelled Never ("```".toList) ['\x60'] := .mark .nil
    have hbody := (Respelled.refl t : Respelled Never t t).append_of_never hclose
    simpa [delimited] using Respelled.mark hbody

theorem Run.Spells.respelled {run : Run} (h : run.Spells w) : Respelled Never w run.spelling := by
  induction h with
  | nil => exact .nil
  | cons head _ ih => exact head.respelled.append_of_never ih

theorem Link.isBareUrl_iff {l : Link} : l.isBareUrl = true ↔ "http".toList <+: l.display :=
  Text.startsWith_iff

theorem Link.IsBare.spelling_eq {l : Link} (h : l.IsBare) : l.spelling = l.display := by
  obtain ⟨htarget, http⟩ := h
  simp [Link.spelling, htarget, http]

theorem Link.Spells.respelled {l : Link} (h : l.Spells w)
    (hdrops : l.IsBare → drops l.display []) : Respelled drops w l.spelling := by
  cases h with
  | printed => exact .refl _
  | @bracketed display http =>
    have hbare : Link.IsBare ⟨display, none⟩ := ⟨rfl, http⟩
    rw [hbare.spelling_eq]
    simpa using Respelled.unbracket (Link.isBareUrl_iff.1 http) (hdrops hbare) .nil

theorem Inline.Spells.respelled {content : Inline} (h : content.Spells w)
    (hdrops : ∀ l ∈ content.link?, l.IsBare → drops l.display []) :
    Respelled drops w content.spelling := by
  cases h with
  | run spans_spell => exact spans_spell.respelled.of_never
  | link link_spells => exact link_spells.respelled (hdrops _ rfl)

theorem LineContent.Spells.respelled {content : LineContent} (h : content.Spells w)
    (hdrops : ∀ l ∈ content.link?, l.IsBare → drops l.display []) :
    Respelled drops w content.spelling := by
  cases h with
  | link link_spells => exact link_spells.respelled (hdrops _ rfl)
  | comment => exact .refl _
  | item item_spells =>
    cases item_spells with
    | content content_spells =>
      exact ((content_spells.respelled hdrops).keep ' ').append_left _
    | marker => exact .refl _

theorem Node.Spells.respelled {n : Node} (h : n.Spells w)
    (hdrops : ∀ l ∈ n.link?, l.IsBare → drops l.display []) : Respelled drops w n.spelling := by
  cases h with
  | tag label_spells => exact (label_spells.respelled hdrops).append_left _
  | line content_spells => exact (content_spells.respelled hdrops).append_left _
  | text run_spells => exact run_spells.respelled.of_never
  | blank => exact .refl _

theorem respelled_unparse {nodes : List Node} (h : Concat Node.Spells nodes w) :
    Respelled (fun _ _ => True) w (unparse nodes) := by
  induction h with
  | nil => exact .nil
  | cons head _ ih =>
    have hhead : Respelled (fun _ _ => True) _ _ := head.respelled fun _ _ _ => trivial
    exact hhead.append ih fun _ _ _ => trivial

/-! ### Flattening keeps the spelling -/

theorem Run.spells_cons {x : Span} {run : Run} (h : Concat Span.Spells (x :: run) w) :
    (Run.cons x run).Spells w := by
  cases run with
  | nil => exact h
  | cons y run =>
    simp only [Run.cons]
    by_cases hplain : x.kind = .plain ∧ y.kind = .plain
    · rw [if_pos hplain]
      obtain ⟨⟨_, t⟩, ⟨_, u⟩⟩ := x, y
      obtain ⟨rfl, rfl⟩ := hplain
      cases h with
      | cons hx tail =>
        cases tail with
        | cons hy others =>
          -- plain text has no other spelling than itself
          cases hx
          cases hy
          rw [← List.append_assoc]
          exact .cons (.printed ⟨.plain, t ++ u⟩) others
    · rw [if_neg hplain]
      exact h

theorem Run.spells_flatten {raw : Run} (h : raw.Spells w) : Run.Spells (flatten raw) w := by
  induction h with
  | nil => exact .nil
  | cons head _ ih => exact Run.spells_cons (.cons head ih)

@[simp] theorem Run.spelling_cons (x : Span) (run : Run) :
    Run.spelling (x :: run) = x.spelling ++ Run.spelling run := rfl

@[simp] theorem Run.spelling_flatten (raw : Run) :
    Run.spelling (flatten raw) = Run.spelling raw := by
  induction raw with
  | nil => rfl
  | cons x raw ih =>
    rw [flatten_cons, Run.spelling_cons, ← ih]
    cases flatten raw with
    | nil => rfl
    | cons y run =>
      simp only [Run.cons]
      split
      · next hplain => simp [Span.spelling, hplain.1, hplain.2]
      · rfl

/-! ### Rules take spellings -/

theorem ReadsSpan.spells {x : Span} (h : ReadsSpan s x r) : ∃ w, x.Spells w ∧ s = w ++ r := by
  cases h with
  | styled styled =>
    cases styled with
    | operator => exact ⟨_, .printed _, rfl⟩
    | @enclosed _ _ _ t _ encloses _ avoids =>
      cases encloses with
      | fence =>
        by_cases hline : '\n' ∈ t
        · refine ⟨_, .printed _, ?_⟩
          simp only [Span.spelling, if_pos hline]
          rfl
        · exact ⟨_, .fenced hline, rfl⟩
      | code =>
        have hline : '\n' ∉ t := fun hmem => avoids _ hmem (by simp)
        refine ⟨_, .printed _, ?_⟩
        simp only [Span.spelling, if_neg hline]
        rfl
      | bold => exact ⟨_, .printed _, rfl⟩
      | struck => exact ⟨_, .printed _, rfl⟩
      | quote => exact ⟨_, .printed _, rfl⟩
      | blockMath => exact ⟨_, .printed _, rfl⟩
      | inlineMath => exact ⟨_, .printed _, rfl⟩
  | plain => exact ⟨_, .printed _, rfl⟩
  | stray => exact ⟨_, .printed _, rfl⟩

/-- A chain takes one spelling for each of its values. -/
theorem Chain.concat {α : Type} {p : Parser α} {R : α → Text → Prop} {as : List α}
    (hp : ∀ {s a m}, p s = .ok (a, m) → ∃ w, R a w ∧ s = w ++ m) (h : Chain p s as r) :
    ∃ w, Concat R as w ∧ s = w ++ r := by
  induction h with
  | stop s => exact ⟨[], .nil, rfl⟩
  | step head _ _ ih =>
    obtain ⟨v, hv, rfl⟩ := hp head
    obtain ⟨w, hw, rfl⟩ := ih
    exact ⟨v ++ w, .cons hv hw, by simp⟩

theorem span_spells {x : Span} (h : span s = .ok (x, r)) : ∃ w, x.Spells w ∧ s = w ++ r :=
  (span_eq_ok_iff.1 h).spells

theorem textRun_spells {run : Run} (h : textRun s = .ok (run, r)) :
    ∃ w, run.Spells w ∧ s = w ++ r := by
  obtain ⟨raw, -, hchain, -, rfl⟩ := textRun_eq_ok_iff.1 h
  obtain ⟨w, hw, rfl⟩ := Chain.concat span_spells hchain
  exact ⟨w, Run.spells_flatten hw, rfl⟩

theorem ReadsLink.spells {l : Link} (h : ReadsLink s l r) : ∃ w, l.Spells w ∧ s = w ++ r := by
  cases h with
  | targeted => exact ⟨_, .printed _, by simp [Link.spelling]⟩
  | @bracketed display _ =>
    by_cases http : Link.isBareUrl ⟨display, none⟩ = true
    · exact ⟨_, .bracketed http, by simp⟩
    · exact ⟨_, .printed _, by simp [Link.spelling, http]⟩
  | @bare display _ address =>
    have http : Link.isBareUrl ⟨display, none⟩ = true := Link.isBareUrl_iff.2 address.1
    exact ⟨_, .printed _, by simp [Link.spelling, http]⟩

theorem inline_spells {content : Inline} (h : inline s = .ok (content, r)) :
    ∃ w, content.Spells w ∧ s = w ++ r := by
  rcases inline_eq_ok_iff.1 h with ⟨l, rfl, hl⟩ | ⟨-, run, rfl, hrun⟩
  · obtain ⟨w, hw, rfl⟩ := (link_eq_ok_iff.1 hl).spells
    exact ⟨w, .link hw, rfl⟩
  · obtain ⟨w, hw, rfl⟩ := textRun_spells hrun
    exact ⟨w, .run hw, rfl⟩

theorem ReadsMarker.eq_append {marker : Text} (h : ReadsMarker s marker r) : s = marker ++ r := by
  cases h <;> rfl

theorem ReadsLineContent.spells {content : LineContent} (h : ReadsLineContent s content r) :
    ∃ w, content.Spells w ∧ s = w ++ r := by
  cases h with
  | link hlink =>
    obtain ⟨w, hw, rfl⟩ := hlink.spells
    exact ⟨w, .link hw, rfl⟩
  | comment => exact ⟨_, .comment _, rfl⟩
  | @item _ m _ i _ marker content =>
    obtain ⟨mark, content'⟩ := i
    obtain rfl := marker.eq_append
    cases content with
    | some hinline =>
      obtain ⟨w, hw, rfl⟩ := inline_spells hinline
      exact ⟨_, .item (.content hw), by simp⟩
    | none => exact ⟨_, .item (.marker _), rfl⟩

theorem node_spells {n : Node} (h : node s = .ok (n, r)) : ∃ w, n.Spells w ∧ s = w ++ r := by
  cases node_eq_ok_iff.1 h with
  | line hline =>
    obtain ⟨m, rfl, hcontent⟩ := line_eq_ok_iff.1 hline
    obtain ⟨w, hw, rfl⟩ := hcontent.spells
    exact ⟨_, .line hw, by simp⟩
  | tag htag =>
    obtain ⟨-, m, rfl, -, hlabel⟩ := tag_eq_ok_iff.1 htag
    obtain ⟨w, hw, rfl⟩ := inline_spells hlabel
    exact ⟨_, .tag hw, by simp⟩
  | blank => exact ⟨_, .blank _, rfl⟩
  | text _ _ hrun =>
    obtain ⟨w, hw, rfl⟩ := textRun_spells hrun
    exact ⟨w, .text hw, rfl⟩

/-! ### Documents -/

/-- **Parsing loses nothing but spelling.** A text is the concatenation of one spelling of each
of its nodes, and without fences and bracketed addresses it is exactly what is printed. -/
theorem parse_spells (t : Text) :
    ∃ nodes, parseDocument t = .ok nodes ∧ Concat Node.Spells nodes t ∧
      (Text.containsText "```".toList t = false → Text.containsText "[http".toList t = false →
        unparse nodes = t) := by
  obtain ⟨nodes, hchain⟩ := exists_chain_node t
  obtain ⟨w, hw, hwt⟩ := Chain.concat node_spells hchain
  rw [List.append_nil] at hwt
  subst hwt
  refine ⟨nodes, parseDocument_eq_ok_iff.2 hchain, hw, ?_⟩
  intro hfence hbracket
  rcases (respelled_unparse hw).eq_or_contains with heq | hpart | hpart
  · exact heq.symm
  · rw [Text.containsText_iff.2 hpart] at hfence
    exact nomatch hfence
  · rw [Text.containsText_iff.2 hpart] at hbracket
    exact nomatch hbracket

/-- A note with a tag, a list item and a link is printed as it was written. -/
theorem parse_spells_note :
    ∃ nodes, parseDocument "@a\n- b -> *c*\n[d](e)".toList = .ok nodes ∧
      Concat Node.Spells nodes "@a\n- b -> *c*\n[d](e)".toList ∧
      unparse nodes = "@a\n- b -> *c*\n[d](e)".toList := by
  obtain ⟨nodes, hparse, hspells, hprint⟩ := parse_spells "@a\n- b -> *c*\n[d](e)".toList
  exact ⟨nodes, hparse, hspells, hprint (by decide) (by decide)⟩

end Slipbox.Markup
