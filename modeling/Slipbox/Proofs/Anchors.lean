import Slipbox.Proofs.Contents
import Slipbox.Proofs.Html

/-!
# Where entries of the contents lead

The element of a line carries the place of the line as its identifier, and no other tag of a page
has an identifier. So the identifiers of a page, read from its tags (`Token.ids`), are the places
of the lines in their order (`ids_render`). Entries of the contents and items of the outline
stand for lines, hence each has one element (`anchors_resolve`).
-/

namespace Slipbox

open Slipbox.Markup

theorem Text.decimal_injective : Function.Injective Text.decimal := by
  intro m n h
  calc m = Nat.ofDigitChars 10 (Text.decimal m) 0 := Nat.ofDigitChars_ten_toDigits.symm
    _ = Nat.ofDigitChars 10 (Text.decimal n) 0 := by rw [h]
    _ = n := Nat.ofDigitChars_ten_toDigits

namespace Html

variable {nodes : List Node} {i : Nat}

/-! ### Identifiers -/

/-- The values of the attributes with the name `id`, as they are meant. -/
def Token.ids : Token → List Text
  | .tag body =>
    match readTag? body with
    | some (.opening _ attributes) =>
      (attributes.filter fun a => a.1 = "id".toList).map fun a => decode attributeEntities a.2
    | _ => []
  | .char _ => []

def idsOfAttributes (attributes : List (Text × Text)) : List Text :=
  (attributes.filter fun a => a.1 = "id".toList).map (·.2)

def Piece.ids : Piece → List Text
  | .opening _ attributes => idsOfAttributes attributes
  | _ => []

def idsOf (f : List Html) : List Text := (piecesOf f).flatMap Piece.ids

theorem ids_pieces {ps : List Piece} (h : ∀ p ∈ ps, p.Named) :
    (ps.flatMap Piece.tokens).flatMap Token.ids = ps.flatMap Piece.ids := by
  rw [List.flatMap_assoc]
  apply List.flatMap_congr
  intro p hp
  cases p with
  | text t => simp [Piece.tokens, Piece.ids, Token.ids, List.flatMap_map]
  | lineBreak => decide
  | opening name attributes =>
    obtain ⟨hname, -, hattributes⟩ := h _ hp
    simp [Piece.tokens, Token.ids, readTag?_opening hname hattributes, Piece.ids, idsOfAttributes,
      List.filter_map, decode_escapeAttribute, Function.comp_def]
  | closing name => rfl

/-! ### Identifiers of nodes -/

theorem idsOf_append (f g : List Html) : idsOf (f ++ g) = idsOf f ++ idsOf g := by
  rw [idsOf, piecesOf_append, List.flatMap_append]
  rfl

theorem idsOf_cons (h : Html) (f : List Html) : idsOf (h :: f) = idsOf [h] ++ idsOf f :=
  idsOf_append [h] f

theorem idsOf_element (name : Text) (attributes : List (Text × Text)) (f : List Html) :
    idsOf [.element name attributes f] = idsOfAttributes attributes ++ idsOf f := by
  simp [idsOf, piecesOf, pieces, Piece.ids]

theorem idsOf_ofClass (name cssClass : String) (f : List Html) :
    idsOf [ofClass name cssClass f] = idsOf f := by
  rw [ofClass, idsOf_element]
  rfl

theorem idsOf_text (t : Text) : idsOf [.text t] = [] := rfl

theorem idsOf_link (l : Link) : idsOf [ofLink l] = [] := rfl

theorem idsOf_span (s : Span) : idsOf [ofSpan s] = [] := by
  obtain ⟨kind, text⟩ := s
  cases kind <;> rfl

theorem idsOf_run (run : Run) : idsOf (ofRun run) = [] := by
  induction run with
  | nil => rfl
  | cons s run ih =>
    rw [ofRun, List.map_cons, idsOf_cons, idsOf_span]
    exact ih

theorem idsOf_inline (content : Inline) : idsOf (ofInline content) = [] := by
  cases content with
  | run spans => exact idsOf_run spans
  | link l => exact idsOf_link l

theorem idsOf_content (content : LineContent) : idsOf [ofContent content] = [] := by
  cases content with
  | link l => exact idsOf_link l
  | comment t => rfl
  | item item =>
    obtain ⟨marker, content⟩ := item
    rw [ofContent, ofItem, idsOf_ofClass, idsOf_cons, idsOf_ofClass, idsOf_text]
    cases content with
    | none => rfl
    | some content =>
      rw [idsOf_cons, idsOf_text]
      exact idsOf_inline content

/-- Only the node of a line has an identifier, and it has the place of the line. -/
theorem idsOf_node (index : Nat) (n : Node) :
    idsOf (ofNode index n) = (Outline.linesFrom index [n]).map fun l => Text.decimal l.1 := by
  cases n with
  | tag t =>
    rw [ofNode, idsOf_ofClass, idsOf_cons, idsOf_text, idsOf_inline]
    rfl
  | line l =>
    rw [ofNode, idsOf_element, idsOf_cons, idsOf_text, idsOf_content]
    rfl
  | text run => exact idsOf_run run
  | blank count =>
    induction count with
    | zero => rfl
    | succ count ih =>
      rw [ofNode, List.replicate_succ, idsOf_cons]
      exact ih

theorem idsOf_nodes (index : Nat) (nodes : List Node) :
    idsOf (ofNodesFrom index nodes) =
      (Outline.linesFrom index nodes).map fun l => Text.decimal l.1 := by
  induction nodes generalizing index with
  | nil => rfl
  | cons n nodes ih =>
    have hsplit := Outline.linesFrom_append index [n] nodes
    rw [ofNodesFrom, idsOf_append, idsOf_node, ih, ← List.map_append]
    exact congrArg _ hsplit.symm

theorem own_pieces (nodes : List Node) : ∀ p ∈ piecesOf (ofNodesFrom 0 nodes), p.Own :=
  (shows_nodes 0 nodes).own

theorem tokens_render (nodes : List Node) :
    tokens (render nodes) = (piecesOf (ofNodesFrom 0 nodes)).flatMap Piece.tokens := by
  rw [render, writeAll_eq, tokens_pieces fun p hp => (own_pieces nodes p hp).named]

theorem ids_render (nodes : List Node) :
    (tokens (render nodes)).flatMap Token.ids =
      (Outline.linesFrom 0 nodes).map fun l => Text.decimal l.1 := by
  rw [tokens_render, ids_pieces fun p hp => (own_pieces nodes p hp).named]
  exact idsOf_nodes 0 nodes

theorem nodup_ids (nodes : List Node) : ((tokens (render nodes)).flatMap Token.ids).Nodup := by
  rw [ids_render, List.Nodup, List.pairwise_map]
  apply (Outline.increasing_linesFrom 0 nodes).1.imp
  intro l m hlt heq
  exact Nat.ne_of_lt hlt (Text.decimal_injective heq)

theorem mem_ids {l : Line} (h : nodes[i]? = some (.line l)) :
    Text.decimal i ∈ (tokens (render nodes)).flatMap Token.ids := by
  rw [ids_render, List.mem_map]
  exact ⟨(i, l.indent), Outline.mem_linesFrom_zero_iff.2 ⟨l, h, rfl⟩, rfl⟩

/-! ### Anchors -/

theorem countP_eq_one {α β : Type} [BEq β] [LawfulBEq β] {l : List α} {ids : α → List β} {id : β}
    (hnodup : (l.flatMap ids).Nodup) (hid : id ∈ l.flatMap ids) :
    l.countP (fun a => id ∈ ids a) = 1 := by
  induction l with
  | nil => cases hid
  | cons a l ih =>
    rw [List.flatMap_cons] at hnodup hid
    obtain ⟨-, hrest, hdisjoint⟩ := List.nodup_append.1 hnodup
    rw [List.countP_cons]
    rcases List.mem_append.1 hid with hfirst | hlater
    · have hnone : l.countP (fun b => id ∈ ids b) = 0 := by
        rw [List.countP_eq_zero]
        intro b hb hmem
        exact hdisjoint id hfirst id (List.mem_flatMap.2 ⟨b, hb, by simpa using hmem⟩) rfl
      simp [hnone, hfirst]
    · have hnot : id ∉ ids a := fun hfirst => hdisjoint id hfirst id hlater rfl
      simp [ih hrest hlater, hnot]

theorem countP_ids_eq_one {l : Line} (h : nodes[i]? = some (.line l)) :
    (tokens (render nodes)).countP (fun t => Text.decimal i ∈ t.ids) = 1 :=
  countP_eq_one (nodup_ids nodes) (mem_ids h)

theorem own_of_mem_render {body : Text} (h : .tag body ∈ tokens (render nodes)) :
    ∃ tag, readTag? body = some tag ∧ tag.Own := by
  rw [tokens_render] at h
  obtain ⟨p, hp, htag⟩ := List.mem_flatMap.1 h
  exact own_of_mem_tokens (own_pieces nodes p hp) htag

/-- **Anchors lead to one place.** All tags of a page can be read, and their identifiers are the
places of the lines in their order. So for each entry of the contents and for each item of the
outline just one tag has the identifier that leads there. -/
theorem anchors_resolve (nodes : List Node) :
    (∀ body, .tag body ∈ tokens (render nodes) → ∃ tag, readTag? body = some tag ∧ tag.Own) ∧
    (∃ places : List Nat, (tokens (render nodes)).flatMap Token.ids = places.map Text.decimal ∧
      places.Pairwise (· < ·) ∧ ∀ i, i ∈ places ↔ ∃ l, nodes[i]? = some (.line l)) ∧
    (∀ entry ∈ contents nodes,
      (tokens (render nodes)).countP (fun t => Text.decimal entry.index ∈ t.ids) = 1) ∧
    ∀ x, Outline.Occurs x (outline nodes) →
      (tokens (render nodes)).countP (fun t => Text.decimal x.index ∈ t.ids) = 1 := by
  refine ⟨fun _ => own_of_mem_render, ⟨(Outline.linesFrom 0 nodes).map (·.1), ?_, ?_, ?_⟩, ?_, ?_⟩
  · rw [ids_render, List.map_map]
    rfl
  · exact List.pairwise_map.2 (Outline.increasing_linesFrom 0 nodes).1
  · intro i
    rw [List.mem_map]
    constructor
    · rintro ⟨⟨i, d⟩, hplace, rfl⟩
      obtain ⟨l, hl, -⟩ := Outline.mem_linesFrom_zero_iff.1 hplace
      exact ⟨l, hl⟩
    · rintro ⟨l, hl⟩
      exact ⟨(i, l.indent), Outline.mem_linesFrom_zero_iff.2 ⟨l, hl, rfl⟩, rfl⟩
  · intro entry hentry
    obtain ⟨l, -, hl, -⟩ := Contents.mem_contents_iff.1 hentry
    exact countP_ids_eq_one hl
  · intro x hx
    obtain ⟨l, hl, -⟩ := Outline.exists_line_of_occurs hx
    exact countP_ids_eq_one hl

/-- A target that tries to give its own element the identifier of the line leaves it alone. -/
theorem anchors_resolve_beside_quote :
    let deeper : Node := .line ⟨4, .item ⟨['-'], none⟩⟩
    let nodes : List Node := [.line ⟨0, .link ⟨['q'], some "\" id=\"0".toList⟩⟩, .blank 1, deeper]
    let entry : Contents.Entry := ⟨0, 0, ['q']⟩
    let body : Text :=
      "a href=\"&quot; id=&quot;0\" target=\"_blank\" class=\"z-link\"".toList
    .tag body ∈ tokens (render nodes) ∧ (∃ tag, readTag? body = some tag ∧ tag.Own) ∧
    entry ∈ contents nodes ∧
    (tokens (render nodes)).countP (fun t => Text.decimal 0 ∈ t.ids) = 1 ∧
    Outline.Occurs (.mk 2 4 []) (outline nodes) ∧
    (tokens (render nodes)).countP (fun t => Text.decimal 2 ∈ t.ids) = 1 := by
  intro deeper nodes entry body
  have hbody : .tag body ∈ tokens (render nodes) := by decide
  have hentry : entry ∈ contents nodes := by decide
  have hitem : Outline.Occurs (.mk 2 4 []) (outline nodes) := by
    have houtline : outline nodes = [.mk 0 0 [.mk 2 4 []]] := by
      simp [nodes, deeper, outline, Outline.linesFrom, Outline.forest]
    rw [houtline]
    exact .inside .here
  obtain ⟨howns, -, hentries, hitems⟩ := anchors_resolve nodes
  exact ⟨hbody, howns body hbody, hentry, hentries entry hentry, hitem, hitems _ hitem⟩

end Html
end Slipbox
