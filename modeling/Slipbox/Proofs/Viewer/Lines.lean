import Mathlib.Data.List.Forall2
import Slipbox.Proofs.Markup.Shape
import Slipbox.Proofs.Text
import Slipbox.Viewer.Lines

/-!
# The lines of the terminal follow the lines of the text

What a node shows is a text of its own (`visible`), and the lines of the terminal are the pieces
of that text between its newlines, whichever of them come from blank runs and whichever from
code. Parsing and showing only ever delete characters, and never a newline (`Thins`), so a note
has a line on the terminal for each of its own lines, with nothing in it that is not there in
the note (`rows_follow`).
-/

namespace Slipbox.Viewer

open Slipbox.Markup Slipbox.Parsing

variable {t u v w : Text}

/-! ### Visible texts -/

/-- An operator shows the space before it; the one after it belongs to what follows. -/
def visibleSpan (s : Span) : Text := if s.kind = .operator then ' ' :: s.text else s.text

def visibleInline : Inline → Text
  | .run spans => spans.flatMap visibleSpan
  | .link l => l.display

def visibleContent : LineContent → Text
  | .link l => l.display
  | .comment t => "> ".toList ++ t
  | .item i => i.marker ++ (i.content.map fun content => ' ' :: visibleInline content).getD []

def visibleNode : Node → Text
  | .tag t => List.replicate t.depth '@' ++ visibleInline t.label
  | .line l => List.replicate l.indent ' ' ++ visibleContent l.content
  | .text run => run.flatMap visibleSpan
  | .blank count => List.replicate (count + 1) '\n'

/-- What nodes show, one after another. -/
def visible (nodes : List Node) : Text := nodes.flatMap visibleNode

/-- The text of styled texts one after another. -/
def plainText (spans : List StyledText) : Text := spans.flatMap (·.text)

@[simp] theorem plainText_append (f g : List StyledText) :
    plainText (f ++ g) = plainText f ++ plainText g := List.flatMap_append

@[simp] theorem plainText_cons (s : StyledText) (f : List StyledText) :
    plainText (s :: f) = s.text ++ plainText f := rfl

@[simp] theorem plainText_nil : plainText [] = [] := rfl

/-- The text of a line without its styles. -/
def Row.text (row : Row) : Text := plainText row.spans

section Shown

variable (base : Style)

theorem plainText_ofSpan (s : Span) : plainText (ofSpan base s) = visibleSpan s := by
  by_cases hop : s.kind = .operator
  · simp [ofSpan, visibleSpan, hop]
  · simp [ofSpan, visibleSpan, hop]

theorem plainText_ofRun (run : Run) : plainText (ofRun base run) = run.flatMap visibleSpan := by
  rw [plainText, ofRun, List.flatMap_assoc]
  exact congrArg run.flatMap (funext (plainText_ofSpan base))

theorem plainText_ofInline (content : Inline) :
    plainText (ofInline base content) = visibleInline content := by
  cases content with
  | run spans => exact plainText_ofRun base spans
  | link l => simp [ofInline, ofLink, visibleInline]

end Shown

theorem plainText_ofContent (content : LineContent) :
    plainText (ofContent content) = visibleContent content := by
  cases content with
  | link l => simp [ofContent, ofLink, visibleContent]
  | comment t => simp [ofContent, visibleContent]
  | item i =>
    obtain ⟨marker, _ | content⟩ := i
    · simp [ofContent, ofItem, visibleContent]
    · simp [ofContent, ofItem, visibleContent, plainText_ofInline]

theorem plainText_ofNode (n : Node) : plainText (ofNode n) = visibleNode n := by
  cases n with
  | tag t => simp [ofNode, visibleNode, plainText_ofInline]
  | line l => simp [ofNode, visibleNode, plainText_ofContent]
  | text run => exact plainText_ofRun .plain run
  | blank count => simp [ofNode, visibleNode]

theorem plainText_ofNodes (nodes : List Node) :
    plainText (nodes.flatMap ofNode) = visible nodes := by
  rw [plainText, List.flatMap_assoc]
  exact congrArg nodes.flatMap (funext plainText_ofNode)

/-! ### Cutting into lines

The builder works on pieces and breaks. What it builds depends only on the text that they make
together, as long as no piece holds a newline of its own.
-/

/-- A piece that may be pushed to a line. -/
structure StyledText.Fits (s : StyledText) : Prop where
  nonempty : s.text ≠ []
  oneLine : '\n' ∉ s.text

/-- The text that a piece or a break stands for. -/
def pieceText : Option StyledText → Text
  | none => ['\n']
  | some s => s.text

theorem pieceText_nonempty (style : Style) : (nonempty t style).flatMap pieceText = t := by
  cases t with
  | nil => rfl
  | cons c t => simp [nonempty, pieceText]

theorem fits_of_mem_nonempty {s : StyledText} {style : Style} (ht : '\n' ∉ t)
    (h : some s ∈ nonempty t style) : s.Fits := by
  cases t with
  | nil => simp [nonempty] at h
  | cons c t =>
    obtain rfl : s = ⟨c :: t, style⟩ := by simpa [nonempty] using h
    exact ⟨by simp, ht⟩

theorem join_newlines (first : Text) (others : List Text) :
    Text.join ['\n'] (first :: others) = first ++ others.flatMap ('\n' :: ·) := by
  induction others generalizing first with
  | nil => simp [Text.join]
  | cons next others ih => simp [Text.join, ih]

/-- The pieces of a text make the text again. -/
theorem pieces_text (s : StyledText) : s.pieces.flatMap pieceText = s.text := by
  obtain ⟨first, others, hs⟩ :=
    List.exists_cons_of_ne_nil (Text.splitAtChar_ne_nil '\n' s.text)
  have hjoin := Text.join_splitAtChar '\n' s.text
  rw [hs, join_newlines] at hjoin
  rw [StyledText.pieces, hs, List.flatMap_append, pieceText_nonempty, List.flatMap_assoc]
  simpa [pieceText, pieceText_nonempty] using hjoin

theorem fits_of_mem_pieces {s piece : StyledText} (h : some piece ∈ s.pieces) : piece.Fits := by
  obtain ⟨first, others, hs⟩ :=
    List.exists_cons_of_ne_nil (Text.splitAtChar_ne_nil '\n' s.text)
  have hclean : ∀ t ∈ first :: others, '\n' ∉ t := by
    intro t ht
    exact Text.not_mem_of_mem_splitAtChar (hs ▸ ht)
  simp only [StyledText.pieces, hs, List.mem_append, List.mem_flatMap, List.mem_cons] at h
  rcases h with hfirst | ⟨t, ht, hbreak | hpiece⟩
  · exact fits_of_mem_nonempty (hclean _ List.mem_cons_self) hfirst
  · exact nomatch hbreak
  · exact fits_of_mem_nonempty (hclean _ (List.mem_cons_of_mem _ ht)) hpiece

theorem cut_ne_nil (pieces : List (Option StyledText)) : cut pieces ≠ [] := by
  cases pieces with
  | nil => simp [cut]
  | cons piece pieces =>
    cases piece with
    | none => simp [cut]
    | some s =>
      simp only [cut]
      split <;> simp

/-- The lines between the breaks are the pieces of the text between its newlines. -/
theorem cut_text {pieces : List (Option StyledText)} (h : ∀ s, some s ∈ pieces → s.Fits) :
    (cut pieces).map plainText = Text.splitAtChar '\n' (pieces.flatMap pieceText) := by
  induction pieces with
  | nil => rfl
  | cons piece pieces ih =>
    have hrest := ih fun s hs => h s (List.mem_cons_of_mem _ hs)
    cases piece with
    | none => simp [cut, pieceText, Text.splitAtChar, hrest]
    | some s =>
      obtain ⟨line, lines, hcut⟩ := List.exists_cons_of_ne_nil (cut_ne_nil pieces)
      rw [hcut, List.map_cons] at hrest
      simp only [cut, hcut, List.map_cons, plainText_cons, List.flatMap_cons, pieceText]
      exact (Text.splitAtChar_append_left (h s List.mem_cons_self).oneLine hrest.symm).symm

theorem fits_of_mem_cut {pieces : List (Option StyledText)} (h : ∀ s, some s ∈ pieces → s.Fits) :
    ∀ line ∈ cut pieces, ∀ s ∈ line, s.Fits := by
  induction pieces with
  | nil => simp [cut]
  | cons piece pieces ih =>
    have hrest := ih fun s hs => h s (List.mem_cons_of_mem _ hs)
    cases piece with
    | none => simpa [cut] using hrest
    | some s =>
      obtain ⟨line, lines, hcut⟩ := List.exists_cons_of_ne_nil (cut_ne_nil pieces)
      rw [hcut, List.forall_mem_cons] at hrest
      simp only [cut, hcut, List.forall_mem_cons]
      exact ⟨⟨h s List.mem_cons_self, hrest.1⟩, hrest.2⟩

/-- The pieces without the last one, if that is empty. -/
def withoutEmptyLast (pieces : List Text) : List Text :=
  if pieces.getLast? = some [] then pieces.dropLast else pieces

theorem withoutEmptyLast_cons (piece next : Text) (pieces : List Text) :
    withoutEmptyLast (piece :: next :: pieces) = piece :: withoutEmptyLast (next :: pieces) := by
  simp only [withoutEmptyLast, List.getLast?_cons_cons]
  split
  · rfl
  · rfl

theorem plainText_eq_nil_iff {line : List StyledText} (h : ∀ s ∈ line, s.Fits) :
    plainText line = [] ↔ line = [] := by
  cases line with
  | nil => simp
  | cons s line => simp [(h s List.mem_cons_self).nonempty]

/-- A last line without pieces is one without text, because no piece is empty. -/
theorem closeLast_text {lines : List (List StyledText)} (h : ∀ line ∈ lines, ∀ s ∈ line, s.Fits) :
    (closeLast lines).map plainText = withoutEmptyLast (lines.map plainText) := by
  induction lines with
  | nil => rfl
  | cons line lines ih =>
    rw [List.forall_mem_cons] at h
    cases lines with
    | nil =>
      by_cases hline : line = []
      · simp [closeLast, withoutEmptyLast, hline]
      · have htext : plainText line ≠ [] := mt (plainText_eq_nil_iff h.1).1 hline
        simp [closeLast, withoutEmptyLast, hline, htext]
    | cons next lines =>
      rw [closeLast, List.map_cons, ih h.2]
      exact (withoutEmptyLast_cons _ _ _).symm

theorem mem_of_mem_closeLast {line : List StyledText} {lines : List (List StyledText)}
    (h : line ∈ closeLast lines) : line ∈ lines := by
  fun_induction closeLast lines with
  | case1 => exact h
  | case2 => simp at h
  | case3 => exact h
  | case4 first next lines ih =>
    rcases List.mem_cons.1 h with rfl | hmem
    · exact List.mem_cons_self
    · exact List.mem_cons_of_mem _ (ih hmem)

theorem fits_of_mem_flatMap_pieces {texts : List StyledText} {s : StyledText}
    (h : some s ∈ texts.flatMap StyledText.pieces) : s.Fits := by
  obtain ⟨text, -, hpiece⟩ := List.mem_flatMap.1 h
  exact fits_of_mem_pieces hpiece

theorem layOut_text (texts : List StyledText) :
    (layOut texts).map plainText = withoutEmptyLast (Text.splitAtChar '\n' (plainText texts)) := by
  have hpieces : ∀ s, some s ∈ texts.flatMap StyledText.pieces → s.Fits :=
    fun _ => fits_of_mem_flatMap_pieces
  have hjoined : (texts.flatMap StyledText.pieces).flatMap pieceText = plainText texts := by
    rw [List.flatMap_assoc]
    exact congrArg texts.flatMap (funext pieces_text)
  rw [layOut, closeLast_text (fits_of_mem_cut hpieces), cut_text hpieces, hjoined]

/-- The lines of nodes are the pieces of what the nodes show. -/
theorem rowsOfNodes_text (nodes : List Node) :
    (rowsOfNodes nodes).map Row.text =
      withoutEmptyLast (Text.splitAtChar '\n' (visible nodes)) := by
  rw [rowsOfNodes, List.map_map, ← plainText_ofNodes, ← layOut_text]
  rfl

theorem rowsOfNodes_fits {nodes : List Node} {row : Row} (h : row ∈ rowsOfNodes nodes) :
    ∀ s ∈ row.spans, s.Fits := by
  obtain ⟨line, hline, rfl⟩ := List.mem_map.1 h
  exact fits_of_mem_cut (fun _ => fits_of_mem_flatMap_pieces) line (mem_of_mem_closeLast hline)

/-! ### Deleting characters -/

/-- The first text is the second without some of its characters, all of its newlines kept. -/
inductive Thins : Text → Text → Prop where
  | nil : Thins [] []
  | keep (c : Char) {v w : Text} (rest : Thins v w) : Thins (c :: v) (c :: w)
  | drop {c : Char} {v w : Text} (inLine : c ≠ '\n') (rest : Thins v w) : Thins v (c :: w)

namespace Thins

theorem refl (w : Text) : Thins w w := by
  induction w with
  | nil => exact .nil
  | cons c w ih => exact .keep c ih

theorem append {v' w' : Text} (h : Thins v w) (h' : Thins v' w') : Thins (v ++ v') (w ++ w') := by
  induction h with
  | nil => exact h'
  | keep c _ ih => exact .keep c ih
  | drop hc _ ih => exact .drop hc ih

theorem append_left (u : Text) (h : Thins v w) : Thins (u ++ v) (u ++ w) := (refl u).append h

theorem of_not_mem (h : '\n' ∉ w) : Thins [] w := by
  induction w with
  | nil => exact .nil
  | cons c w ih =>
    obtain ⟨hc, hw⟩ : '\n' ≠ c ∧ '\n' ∉ w := by simpa using h
    exact .drop hc.symm (ih hw)

/-- Delimiters are deleted on both sides. -/
theorem between (hu : '\n' ∉ u) (hw : '\n' ∉ w) : Thins t (u ++ t ++ w) := by
  simpa using ((of_not_mem hu).append (refl t)).append (of_not_mem hw)

theorem count_eq (h : Thins v w) : v.count '\n' = w.count '\n' := by
  induction h with
  | nil => rfl
  | keep c _ ih => simp [List.count_cons, ih]
  | drop hc _ ih => rw [ih, List.count_cons_of_ne hc]

/-- Every line loses characters only. -/
theorem lines (h : Thins v w) :
    List.Forall₂ List.Sublist (Text.splitAtChar '\n' v) (Text.splitAtChar '\n' w) := by
  induction h with
  | nil => exact .cons (.refl []) .nil
  | @keep c v w _ ih =>
    by_cases hc : c = '\n'
    · rw [Text.splitAtChar, Text.splitAtChar, if_pos hc, if_pos hc]
      exact .cons (.refl []) ih
    · obtain ⟨first, others, hw⟩ :=
        List.exists_cons_of_ne_nil (Text.splitAtChar_ne_nil '\n' w)
      rw [hw] at ih
      obtain ⟨first', others', hfirst, hothers, hv⟩ := List.forall₂_cons_right_iff.1 ih
      rw [Text.splitAtChar_cons_of_ne hc hv, Text.splitAtChar_cons_of_ne hc hw]
      exact .cons (hfirst.cons_cons c) hothers
  | @drop c v w hc _ ih =>
    obtain ⟨first, others, hw⟩ := List.exists_cons_of_ne_nil (Text.splitAtChar_ne_nil '\n' w)
    rw [hw] at ih
    obtain ⟨first', others', hfirst, hothers, hv⟩ := List.forall₂_cons_right_iff.1 ih
    rw [Text.splitAtChar_cons_of_ne hc hw, hv]
    exact .cons (hfirst.cons c) hothers

end Thins

/-! ### Spellings are thinned -/

/-- No target crosses lines. -/
def OneLineTarget (l : Link) : Prop := ∀ target ∈ l.target, '\n' ∉ target

theorem Link.Shaped.oneLineTarget {l : Link} (h : l.Shaped) : OneLineTarget l := by
  obtain ⟨display, _ | target⟩ := l
  · exact fun _ hnone => nomatch hnone
  · intro target' htarget
    cases htarget
    exact fun hmem => h.2 _ hmem (by simp)

theorem thins_delimited {delimiter : Text} (h : '\n' ∉ delimiter) (t : Text) :
    Thins t (delimited delimiter t) := Thins.between h h

theorem thins_span {x : Span} (h : x.Spells w) : Thins (visibleSpan x) w := by
  cases h with
  | printed =>
    obtain ⟨kind, t⟩ := x
    cases kind with
    | plain => exact .refl t
    | operator => exact .refl (' ' :: t)
    | code =>
      refine thins_delimited ?_ t
      split <;> decide
    | quote => exact thins_delimited (by decide) t
    | inlineMath => exact thins_delimited (by decide) t
    | blockMath => exact thins_delimited (by decide) t
    | bold => exact thins_delimited (by decide) t
    | struck => exact thins_delimited (by decide) t
  | fenced => exact thins_delimited (by decide) _

/-- What is shown of a concatenation is thinned part by part. -/
theorem thins_concat {α : Type} {shown : α → Text} {as : List α}
    (h : Concat (fun a w => Thins (shown a) w) as w) : Thins (as.flatMap shown) w := by
  induction h with
  | nil => exact .nil
  | cons head _ ih => exact head.append ih

theorem thins_run {run : Run} (h : run.Spells w) : Thins (run.flatMap visibleSpan) w := by
  induction h with
  | nil => exact .nil
  | cons head _ ih => exact (thins_span head).append ih

theorem thins_link {l : Link} (h : l.Spells w) (htarget : OneLineTarget l) :
    Thins l.display w := by
  cases h with
  | bracketed => exact Thins.between (u := ['[']) (by decide) (by decide)
  | printed =>
    obtain ⟨display, _ | target⟩ := l
    · simp only [Link.spelling]
      split
      · exact .refl display
      · exact Thins.between (u := ['[']) (by decide) (by decide)
    · have hclose : '\n' ∉ "](".toList ++ target ++ [')'] := by
        simpa using htarget target rfl
      simpa [Link.spelling] using Thins.between (u := ['[']) (t := display) (by decide) hclose

theorem thins_inline {content : Inline} (h : content.Spells w) (hshape : content.Shaped) :
    Thins (visibleInline content) w := by
  cases h with
  | run spans_spell => exact thins_run spans_spell
  | link link_spells => exact thins_link link_spells (Link.Shaped.oneLineTarget hshape)

theorem thins_content {content : LineContent} (h : content.Spells w) (hshape : content.Shaped) :
    Thins (visibleContent content) w := by
  cases h with
  | link link_spells => exact thins_link link_spells (Link.Shaped.oneLineTarget hshape)
  | comment t => exact .refl _
  | item item_spells =>
    cases item_spells with
    | content content_spells =>
      have hcontent := thins_inline content_spells (hshape.2 _ rfl)
      exact (Thins.keep ' ' hcontent).append_left _
    | marker => simpa [visibleContent] using Thins.refl _

theorem thins_node {n : Node} (h : n.Spells w) (hshape : n.Shaped) :
    Thins (visibleNode n) w := by
  cases h with
  | tag label_spells => exact (thins_inline label_spells hshape.2.1).append_left _
  | line content_spells => exact (thins_content content_spells hshape).append_left _
  | text run_spells => exact thins_run run_spells
  | blank count => exact .refl _

/-- What the nodes of a text show is the text without some characters. -/
theorem thins_visible {nodes : List Node} (h : Chain node t nodes []) : Thins (visible nodes) t := by
  have hnode : ∀ {s r : Text} {n : Node}, node s = .ok (n, r) →
      ∃ w, Thins (visibleNode n) w ∧ s = w ++ r := by
    intro s r n hread
    obtain ⟨w, hw, hs⟩ := node_spells hread
    exact ⟨w, thins_node hw (node_shaped hread), hs⟩
  obtain ⟨w, hw, hwt⟩ := Chain.concat (R := fun n w => Thins (visibleNode n) w) hnode h
  rw [List.append_nil] at hwt
  exact hwt ▸ thins_concat hw

/-! ### Notes -/

theorem length_withoutEmptyLast {pieces : List Text} (h : pieces ≠ []) :
    (withoutEmptyLast pieces).length =
      pieces.length - 1 + if pieces.getLast? = some [] then 0 else 1 := by
  have hpos := List.length_pos_iff.2 h
  rw [withoutEmptyLast]
  split
  · simp
  · omega

theorem withoutEmptyLast_prefix (pieces : List Text) : withoutEmptyLast pieces <+: pieces := by
  rw [withoutEmptyLast]
  split
  · exact List.dropLast_prefix pieces
  · exact List.prefix_refl pieces

/-- **The terminal follows the lines of the text.** Whatever the nodes, the lines are the pieces
of what the nodes show, without an empty last one, and no piece of a line is empty or crosses
lines. A text with a number of newlines has as many lines, or one more when something is shown
after the last newline, and each line is the line of the text at its place with characters
deleted. -/
theorem rows_follow :
    (∀ nodes : List Node,
      (rowsOfNodes nodes).map Row.text =
        withoutEmptyLast (Text.splitAtChar '\n' (visible nodes)) ∧
      ∀ row ∈ rowsOfNodes nodes, ∀ s ∈ row.spans, s.text ≠ [] ∧ '\n' ∉ s.text) ∧
    ∀ t : Text, ∃ nodes, parseDocument t = .ok nodes ∧
      (visible nodes).count '\n' = t.count '\n' ∧
      (rowsOfNodes nodes).length =
        t.count '\n' +
          (if (Text.splitAtChar '\n' (visible nodes)).getLast? = some [] then 0 else 1) ∧
      ∀ (i : Nat) (row : Row), (rowsOfNodes nodes)[i]? = some row →
        ∃ line, (Text.splitAtChar '\n' t)[i]? = some line ∧ row.text.Sublist line := by
  constructor
  · intro nodes
    refine ⟨rowsOfNodes_text nodes, ?_⟩
    intro row hrow s hs
    exact ⟨(rowsOfNodes_fits hrow s hs).nonempty, (rowsOfNodes_fits hrow s hs).oneLine⟩
  · intro t
    obtain ⟨nodes, hchain⟩ := exists_chain_node t
    have hthins : Thins (visible nodes) t := thins_visible hchain
    refine ⟨nodes, parseDocument_eq_ok_iff.2 hchain, hthins.count_eq, ?_, ?_⟩
    · have hlength := congrArg List.length (rowsOfNodes_text nodes)
      rw [List.length_map, length_withoutEmptyLast (Text.splitAtChar_ne_nil _ _),
        Text.length_splitAtChar, hthins.count_eq] at hlength
      simpa using hlength
    · intro i row hrow
      have htext : (withoutEmptyLast (Text.splitAtChar '\n' (visible nodes)))[i]? =
          some row.text := by
        rw [← rowsOfNodes_text, List.getElem?_map, hrow]
        rfl
      obtain ⟨tail, htail⟩ := withoutEmptyLast_prefix (Text.splitAtChar '\n' (visible nodes))
      have hpiece : (Text.splitAtChar '\n' (visible nodes))[i]? = some row.text := by
        rw [← htail]
        exact List.getElem?_append_left (List.getElem?_eq_some_iff.1 htext).1 ▸ htext
      obtain ⟨hi, hget⟩ := List.getElem?_eq_some_iff.1 hpiece
      have hi' : i < (Text.splitAtChar '\n' t).length := hthins.lines.length_eq ▸ hi
      refine ⟨_, List.getElem?_eq_getElem hi', ?_⟩
      exact hget ▸ hthins.lines.get hi hi'

end Slipbox.Viewer
