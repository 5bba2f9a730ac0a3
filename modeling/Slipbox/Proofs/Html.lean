import Slipbox.Html
import Slipbox.Proofs.Text

/-!
# What a page says

A page is read back as it is shown: `tokens` splits it into tags, each from `<` up to the next
`>`, and the characters between them, `readTag?` takes a tag apart, `nest?` keeps the stack of
open elements, and `decode` undoes the escaping.

Trees are compared with what is read by way of their pieces: writing a tree is writing its pieces
one after the other (`write_eq`), and a page of pieces is read piece by piece (`tokens_pieces`).
-/

namespace Slipbox

open Slipbox.Markup

namespace Html

variable {name t u : Text}

/-! ### Reading a page -/

inductive Token where
  | char (c : Char)
  | tag (body : Text)
deriving DecidableEq, Repr

/-- The tokens of a page after the part of a tag that has no end so far, if there is one. A tag
without an end is no tag. -/
def tokensFrom : Option Text → Text → List Token
  | none, [] => []
  | some body, [] => .char '<' :: body.map .char
  | none, c :: page =>
    if c = '<' then tokensFrom (some []) page else .char c :: tokensFrom none page
  | some body, c :: page =>
    if c = '>' then .tag body :: tokensFrom none page else tokensFrom (some (body ++ [c])) page

def tokens (page : Text) : List Token := tokensFrom none page

inductive Tag where
  | opening (name : Text) (attributes : List (Text × Text))
  | closing (name : Text)
deriving DecidableEq, Repr

/-- Attributes from the parts of a tag between double quotes: before each value stand a blank, the
name of the attribute and an equals sign. -/
def attributesOf? : List Text → Option (List (Text × Text))
  | [[]] => some []
  | (' ' :: lead) :: value :: parts =>
    match Text.dropTail? ['='] lead, attributesOf? parts with
    | some name, some attributes => some ((name, value) :: attributes)
    | _, _ => none
  | _ => none

/-- A tag from what stands between `<` and `>`, with the values of its attributes as they stand
there. -/
def readTag? : Text → Option Tag
  | '/' :: name => some (.closing name)
  | body =>
    (attributesOf? (Text.splitAtChar '"' (body.dropWhile (· ≠ ' ')))).map
      (.opening (body.takeWhile (· ≠ ' ')))

/-- The name of the element that has neither content nor a closing tag. -/
def voidName : Text := "br".toList

/-- The elements that are open after the tokens, innermost first, unless a tag is none or closes
another element than the innermost. -/
def nest? : List Text → List Token → Option (List Text)
  | opened, [] => some opened
  | opened, .char _ :: page => nest? opened page
  | opened, .tag body :: page =>
    match readTag? body with
    | some (.opening name _) => nest? (if name = voidName then opened else name :: opened) page
    | some (.closing name) =>
      match opened with
      | innermost :: opened => if innermost = name then nest? opened page else none
      | [] => none
    | none => none

def Token.char? : Token → Option Char
  | .char c => some c
  | .tag _ => none

/-- The characters outside of tags. -/
def plain (page : List Token) : Text := page.filterMap Token.char?

/-- Replaces the entities by their characters, from left to right. -/
def decode (entities : List (Text × Char)) : Text → Text
  | [] => []
  | c :: t =>
    match entities.find? fun e => e.1.isPrefixOf (c :: t) with
    | some e => e.2 :: decode entities (t.drop (e.1.length - 1))
    | none => c :: decode entities t
termination_by t => t.length

def textEntities : List (Text × Char) :=
  [("&lt;".toList, '<'), ("&gt;".toList, '>'), ("&amp;".toList, '&')]

def attributeEntities : List (Text × Char) := ("&quot;".toList, '"') :: textEntities

/-- Where the token leads if it opens a link. -/
def Token.href? : Token → Option (Option Text)
  | .tag body =>
    match readTag? body with
    | some (.opening name attributes) =>
      if name = ['a'] then some ((attributes.lookup "href".toList).map (decode attributeEntities))
      else none
    | _ => none
  | .char _ => none

/-! ### Pieces of trees -/

/-- What is written at a time when a tree is written from its start to its end. -/
inductive Piece where
  | text (t : Text)
  | lineBreak
  | opening (name : Text) (attributes : List (Text × Text))
  | closing (name : Text)

namespace Piece

def write : Piece → Text
  | .text t => escape t
  | .lineBreak => "<br>".toList
  | .opening name attributes => openTag name attributes
  | .closing name => closeTag name

def tokens : Piece → List Token
  | .text t => (escape t).map .char
  | .lineBreak => [.tag voidName]
  | .opening name attributes => [.tag (name ++ attributes.flatMap writeAttribute)]
  | .closing name => [.tag ('/' :: name)]

def content : Piece → Text
  | .text t => t
  | _ => []

def href? : Piece → Option (Option Text)
  | .opening name attributes =>
    if name = ['a'] then some (attributes.lookup "href".toList) else none
  | _ => none

end Piece

mutual

/-- The pieces of a tree in the order in which they are written. -/
def pieces : Html → List Piece
  | .text t => [.text t]
  | .lineBreak => [.lineBreak]
  | .element name attributes content =>
    .opening name attributes :: (piecesOf content ++ [.closing name])

def piecesOf : List Html → List Piece
  | [] => []
  | h :: trees => pieces h ++ piecesOf trees

end

mutual

theorem write_eq : (h : Html) → write h = (pieces h).flatMap Piece.write
  | .text t => by simp [write, pieces, Piece.write]
  | .lineBreak => by simp [write, pieces, Piece.write]
  | .element name attributes content => by
    simp [write, pieces, Piece.write, writeAll_eq content]

theorem writeAll_eq : (trees : List Html) → writeAll trees = (piecesOf trees).flatMap Piece.write
  | [] => rfl
  | h :: trees => by simp [writeAll, piecesOf, write_eq h, writeAll_eq trees]

end

theorem piecesOf_append (f g : List Html) : piecesOf (f ++ g) = piecesOf f ++ piecesOf g := by
  induction f with
  | nil => rfl
  | cons h f ih => simp [piecesOf, ih]

/-! ### Escaping -/

theorem escapeChar_cases (c : Char) :
    (c = '&' ∧ escapeChar c = "&amp;".toList) ∨ (c = '<' ∧ escapeChar c = "&lt;".toList) ∨
      (c = '>' ∧ escapeChar c = "&gt;".toList) ∨
      (c ≠ '&' ∧ c ≠ '<' ∧ c ≠ '>' ∧ escapeChar c = [c]) := by
  by_cases hamp : c = '&'
  · exact .inl ⟨hamp, by rw [hamp]; rfl⟩
  by_cases hlt : c = '<'
  · exact .inr (.inl ⟨hlt, by rw [hlt]; rfl⟩)
  by_cases hgt : c = '>'
  · exact .inr (.inr (.inl ⟨hgt, by rw [hgt]; rfl⟩))
  · exact .inr (.inr (.inr ⟨hamp, hlt, hgt, by simp [escapeChar, hamp, hlt, hgt]⟩))

theorem escapeAttributeChar_of_ne {c : Char} (h : c ≠ '"') :
    escapeAttributeChar c = escapeChar c := if_neg h

theorem escapeChar_clean (c : Char) : ∀ x ∈ escapeChar c, x ≠ '<' ∧ x ≠ '>' := by
  rcases escapeChar_cases c with ⟨-, hc⟩ | ⟨-, hc⟩ | ⟨-, hc⟩ | ⟨-, hlt, hgt, hc⟩ <;> rw [hc]
  · decide
  · decide
  · decide
  · simpa using ⟨hlt, hgt⟩

theorem escape_clean (t : Text) : ∀ x ∈ escape t, x ≠ '<' ∧ x ≠ '>' := by
  intro x hx
  obtain ⟨c, -, hc⟩ := List.mem_flatMap.1 hx
  exact escapeChar_clean c x hc

theorem escapeAttributeChar_clean (c : Char) :
    ∀ x ∈ escapeAttributeChar c, x ≠ '>' ∧ x ≠ '"' := by
  by_cases hquote : c = '"'
  · subst hquote
    decide
  rw [escapeAttributeChar_of_ne hquote]
  rcases escapeChar_cases c with ⟨-, hc⟩ | ⟨-, hc⟩ | ⟨-, hc⟩ | ⟨-, -, hgt, hc⟩ <;> rw [hc]
  · decide
  · decide
  · decide
  · simpa using ⟨hgt, hquote⟩

theorem escapeAttribute_clean (t : Text) : ∀ x ∈ escapeAttribute t, x ≠ '>' ∧ x ≠ '"' := by
  intro x hx
  obtain ⟨c, -, hc⟩ := List.mem_flatMap.1 hx
  exact escapeAttributeChar_clean c x hc

theorem decode_cons_of_ne {entities : List (Text × Char)} {c : Char}
    (hentities : ∀ e ∈ entities, e.1.head? = some '&') (hc : c ≠ '&') (t : Text) :
    decode entities (c :: t) = c :: decode entities t := by
  have hnone : entities.find? (fun e => e.1.isPrefixOf (c :: t)) = none := by
    -- an entity that stands here would begin with the character
    rw [List.find?_eq_none]
    intro e he hprefix
    obtain ⟨rest, hrest⟩ := List.isPrefixOf_iff_prefix.1 hprefix
    have hhead := hentities e he
    cases hname : e.1 with
    | nil => simp [hname] at hhead
    | cons x name =>
      rw [hname] at hhead hrest
      cases hhead
      exact hc (List.cons.inj hrest).1.symm
  rw [decode, hnone]

theorem decode_flatMap {entities : List (Text × Char)} {f : Char → Text}
    (h : ∀ c u, decode entities (f c ++ u) = c :: decode entities u) (t : Text) :
    decode entities (t.flatMap f) = t := by
  induction t with
  | nil => simp [decode]
  | cons c t ih => rw [List.flatMap_cons, h, ih]

theorem decode_escapeChar {entities : List (Text × Char)}
    (hentities : entities = textEntities ∨ entities = attributeEntities) (c : Char) (u : Text) :
    decode entities (escapeChar c ++ u) = c :: decode entities u := by
  have hlead : ∀ e ∈ entities, e.1.head? = some '&' := by
    rcases hentities with rfl | rfl <;> decide
  rcases escapeChar_cases c with ⟨rfl, hc⟩ | ⟨rfl, hc⟩ | ⟨rfl, hc⟩ | ⟨hamp, -, -, hc⟩ <;> rw [hc]
  · rcases hentities with rfl | rfl <;>
      simp [decode, attributeEntities, textEntities, List.isPrefixOf]
  · rcases hentities with rfl | rfl <;>
      simp [decode, attributeEntities, textEntities, List.isPrefixOf]
  · rcases hentities with rfl | rfl <;>
      simp [decode, attributeEntities, textEntities, List.isPrefixOf]
  · exact decode_cons_of_ne hlead hamp u

theorem decode_escape (t : Text) : decode textEntities (escape t) = t :=
  decode_flatMap (decode_escapeChar (.inl rfl)) t

theorem decode_escapeAttribute (t : Text) :
    decode attributeEntities (escapeAttribute t) = t := by
  refine decode_flatMap (fun c u => ?_) t
  by_cases hquote : c = '"'
  · subst hquote
    simp [escapeAttributeChar, decode, attributeEntities, List.isPrefixOf]
  · rw [escapeAttributeChar_of_ne hquote]
    exact decode_escapeChar (.inr rfl) c u

/-! ### Reading what is written -/

theorem tokens_text (h : '<' ∉ t) (page : Text) :
    tokens (t ++ page) = t.map .char ++ tokens page := by
  induction t with
  | nil => rfl
  | cons c t ih =>
    obtain ⟨hc, ht⟩ : '<' ≠ c ∧ '<' ∉ t := by simpa using h
    rw [tokens, List.cons_append, tokensFrom, if_neg hc.symm]
    exact congrArg _ (ih ht)

theorem tokensFrom_tag (h : '>' ∉ t) (start page : Text) :
    tokensFrom (some start) (t ++ '>' :: page) = .tag (start ++ t) :: tokens page := by
  induction t generalizing start with
  | nil => simp [tokensFrom, tokens]
  | cons c t ih =>
    obtain ⟨hc, ht⟩ : '>' ≠ c ∧ '>' ∉ t := by simpa using h
    rw [List.cons_append, tokensFrom, if_neg hc.symm, ih ht, List.append_assoc]
    rfl

theorem tokens_tag (h : '>' ∉ t) (page : Text) :
    tokens ('<' :: t ++ '>' :: page) = .tag t :: tokens page := by
  rw [tokens, List.cons_append, tokensFrom, if_pos rfl, tokensFrom_tag h, List.nil_append]

/-- The names that may stand in a tag as they are. -/
def isName (name : Text) : Bool := name.all Char.isAlpha

theorem not_mem_of_isName {c : Char} (hname : isName name = true) (hc : c.isAlpha = false) :
    c ∉ name := by
  intro hmem
  have := List.all_eq_true.1 hname c hmem
  simp [hc] at this

/-- Names are names, and no element has the name of the one without content. -/
def Piece.Named : Piece → Prop
  | .opening name attributes =>
    isName name = true ∧ name ≠ voidName ∧ ∀ a ∈ attributes, isName a.1 = true
  | .closing name => isName name = true
  | _ => True

theorem writeAttributes_clean {attributes : List (Text × Text)}
    (h : ∀ a ∈ attributes, isName a.1 = true) : '>' ∉ attributes.flatMap writeAttribute := by
  intro hmem
  obtain ⟨a, ha, hwritten⟩ := List.mem_flatMap.1 hmem
  have hname := not_mem_of_isName (h a ha) (c := '>') rfl
  have hvalue : '>' ∉ escapeAttribute a.2 := fun hx => (escapeAttribute_clean a.2 _ hx).1 rfl
  simp [writeAttribute, hname, hvalue] at hwritten

theorem tokens_piece {p : Piece} (h : p.Named) (page : Text) :
    tokens (p.write ++ page) = p.tokens ++ tokens page := by
  cases p with
  | text t => exact tokens_text (fun hlt => (escape_clean t _ hlt).1 rfl) page
  | lineBreak =>
    have hclean : '>' ∉ voidName := by decide
    exact tokens_tag hclean page
  | opening name attributes =>
    obtain ⟨hname, -, hattributes⟩ := h
    have hclean : '>' ∉ name ++ attributes.flatMap writeAttribute := by
      rw [List.mem_append]
      exact not_or.2 ⟨not_mem_of_isName hname rfl, writeAttributes_clean hattributes⟩
    simpa [Piece.write, Piece.tokens, openTag] using tokens_tag hclean page
  | closing name =>
    have hclean : '>' ∉ '/' :: name := by
      simpa using not_mem_of_isName h (c := '>') rfl
    simpa [Piece.write, Piece.tokens, closeTag] using tokens_tag hclean page

theorem tokens_pieces {ps : List Piece} (h : ∀ p ∈ ps, p.Named) :
    tokens (ps.flatMap Piece.write) = ps.flatMap Piece.tokens := by
  induction ps with
  | nil => rfl
  | cons p ps ih =>
    rw [List.forall_mem_cons] at h
    rw [List.flatMap_cons, List.flatMap_cons, tokens_piece h.1, ih h.2]

theorem attributesOf?_written {attributes : List (Text × Text)}
    (h : ∀ a ∈ attributes, isName a.1 = true) :
    attributesOf? (Text.splitAtChar '"' (attributes.flatMap writeAttribute)) =
      some (attributes.map fun a => (a.1, escapeAttribute a.2)) := by
  induction attributes with
  | nil => rfl
  | cons a attributes ih =>
    rw [List.forall_mem_cons] at h
    have hlead : '"' ∉ ' ' :: (a.1 ++ ['=']) := by
      simpa using not_mem_of_isName h.1 (c := '"') rfl
    have hvalue : '"' ∉ escapeAttribute a.2 := fun hx => (escapeAttribute_clean a.2 _ hx).2 rfl
    have hsplit : (a :: attributes).flatMap writeAttribute =
        (' ' :: (a.1 ++ ['='])) ++ '"' ::
          (escapeAttribute a.2 ++ '"' :: attributes.flatMap writeAttribute) := by
      simp [writeAttribute]
    rw [hsplit, Text.splitAtChar_append hlead, Text.splitAtChar_append hvalue, attributesOf?,
      Text.dropTail?_eq_some_iff.2 rfl, ih h.2]
    rfl

theorem readTag?_opening {attributes : List (Text × Text)} (hname : isName name = true)
    (h : ∀ a ∈ attributes, isName a.1 = true) :
    readTag? (name ++ attributes.flatMap writeAttribute) =
      some (.opening name (attributes.map fun a => (a.1, escapeAttribute a.2))) := by
  have hblank : ∀ c ∈ name, decide (c ≠ ' ') = true := by
    intro c hc
    have hne : c ≠ ' ' := fun h => not_mem_of_isName hname rfl (h ▸ hc)
    simpa using hne
  have hstop : ∀ p : Char → Bool, p ' ' = false →
      (attributes.flatMap writeAttribute).takeWhile p = [] ∧
        (attributes.flatMap writeAttribute).dropWhile p = attributes.flatMap writeAttribute := by
    intro p hp
    cases attributes with
    | nil => simp
    | cons a attributes => simp [writeAttribute, hp]
  -- the name is no closing tag, as it has letters only
  have hbody : ∀ rest, name ++ attributes.flatMap writeAttribute ≠ '/' :: rest := by
    intro rest hrest
    cases name with
    | nil => cases attributes <;> simp [writeAttribute] at hrest
    | cons c name =>
      obtain ⟨rfl, -⟩ := List.cons.inj hrest
      exact not_mem_of_isName hname rfl List.mem_cons_self
  rw [readTag?]
  · rw [List.dropWhile_append_of_pos hblank, List.takeWhile_append_of_pos hblank,
      (hstop _ rfl).1, (hstop _ rfl).2, attributesOf?_written h, List.append_nil]
    rfl
  · exact hbody

theorem nest?_chars (t : Text) (opened : List Text) (page : List Token) :
    nest? opened (t.map .char ++ page) = nest? opened page := by
  induction t with
  | nil => rfl
  | cons c t ih => simpa [nest?] using ih

mutual

/-- Reading a tree leaves the elements open that were open before. -/
theorem nest?_pieces : (h : Html) → (∀ p ∈ pieces h, p.Named) → ∀ (opened : List Text)
    (page : List Token), nest? opened ((pieces h).flatMap Piece.tokens ++ page) = nest? opened page
  | .text t, _, opened, page => by
    rw [pieces, List.flatMap_singleton]
    exact nest?_chars (escape t) opened page
  | .lineBreak, _, opened, page => by
    have hread : readTag? voidName = some (.opening voidName []) := by decide
    simp [pieces, Piece.tokens, nest?, hread]
  | .element name attributes content, hnamed, opened, page => by
    rw [pieces, List.forall_mem_cons, List.forall_mem_append] at hnamed
    obtain ⟨⟨hname, hvoid, hattributes⟩, hcontent, -⟩ := hnamed
    have hopening := readTag?_opening hname hattributes
    have hclosing : readTag? ('/' :: name) = some (.closing name) := rfl
    simp [pieces, Piece.tokens, nest?, hopening, hclosing, hvoid,
      nest?_piecesOf content hcontent]

theorem nest?_piecesOf : (trees : List Html) → (∀ p ∈ piecesOf trees, p.Named) →
    ∀ (opened : List Text) (page : List Token),
      nest? opened ((piecesOf trees).flatMap Piece.tokens ++ page) = nest? opened page
  | [], _, _, _ => rfl
  | h :: trees, hnamed, opened, page => by
    rw [piecesOf, List.forall_mem_append] at hnamed
    rw [piecesOf, List.flatMap_append, List.append_assoc, nest?_pieces h hnamed.1,
      nest?_piecesOf trees hnamed.2]

end

theorem plain_pieces (ps : List Piece) :
    plain (ps.flatMap Piece.tokens) = escape (ps.flatMap Piece.content) := by
  induction ps with
  | nil => rfl
  | cons p ps ih =>
    have hp : plain p.tokens = escape p.content := by
      cases p with
      | text t =>
        rw [plain, Piece.tokens, Piece.content, List.filterMap_map]
        exact List.filterMap_some
      | _ => rfl
    rw [plain] at hp ih
    rw [List.flatMap_cons, List.flatMap_cons, plain, List.filterMap_append, hp, ih, escape, escape,
      escape, List.flatMap_append]

theorem lookup_escaped (attributes : List (Text × Text)) (key : Text) :
    ((attributes.map fun a => (a.1, escapeAttribute a.2)).lookup key).map
      (decode attributeEntities) = attributes.lookup key := by
  induction attributes with
  | nil => rfl
  | cons a attributes ih =>
    obtain ⟨name, value⟩ := a
    rw [List.map_cons, List.lookup_cons, List.lookup_cons]
    cases key == name with
    | true => simp [decode_escapeAttribute]
    | false => exact ih

theorem hrefs_pieces {ps : List Piece} (h : ∀ p ∈ ps, p.Named) :
    (ps.flatMap Piece.tokens).filterMap Token.href? = ps.filterMap Piece.href? := by
  induction ps with
  | nil => rfl
  | cons p ps ih =>
    rw [List.forall_mem_cons] at h
    have hp : p.tokens.filterMap Token.href? = p.href?.toList := by
      cases p with
      | text t =>
        rw [Piece.tokens, List.filterMap_map]
        exact List.filterMap_eq_nil_iff.2 fun _ _ => rfl
      | lineBreak => decide
      | opening name attributes =>
        obtain ⟨hname, -, hattributes⟩ := h.1
        have hopening : Token.href? (.tag (name ++ attributes.flatMap writeAttribute)) =
            Piece.href? (.opening name attributes) := by
          simp only [Token.href?, readTag?_opening hname hattributes, lookup_escaped, Piece.href?]
        rw [Piece.tokens, List.filterMap_cons, hopening]
        cases Piece.href? (.opening name attributes) <;> rfl
      | closing name => rfl
    rw [List.flatMap_cons, List.filterMap_append, hp, ih h.2, List.filterMap_cons]
    cases p.href? <;> rfl

/-! ### Pages of nodes -/

def elementNames : List Text := ["div", "span", "a", "q", "code"].map String.toList

def attributeNames : List Text := ["id", "class", "href", "target"].map String.toList

/-- The tags that pages of nodes are made of. -/
def Tag.Own : Tag → Prop
  | .opening name attributes =>
    (name ∈ elementNames ∧ ∀ a ∈ attributes, a.1 ∈ attributeNames) ∨
      (name = voidName ∧ attributes = [])
  | .closing name => name ∈ elementNames

def Piece.Own : Piece → Prop
  | .opening name attributes => name ∈ elementNames ∧ ∀ a ∈ attributes, a.1 ∈ attributeNames
  | .closing name => name ∈ elementNames
  | _ => True

theorem Piece.Own.named {p : Piece} (h : p.Own) : p.Named := by
  have helements : ∀ name ∈ elementNames, isName name = true ∧ name ≠ voidName := by decide
  have hattributes : ∀ name ∈ attributeNames, isName name = true := by decide
  cases p with
  | opening name attributes =>
    exact ⟨(helements name h.1).1, (helements name h.1).2, fun a ha => hattributes a.1 (h.2 a ha)⟩
  | closing name => exact (helements name h).1
  | _ => trivial

theorem own_of_mem_tokens {p : Piece} (h : p.Own) {body : Text} (hbody : .tag body ∈ p.tokens) :
    ∃ tag, readTag? body = some tag ∧ tag.Own := by
  cases p with
  | text t => simp [Piece.tokens] at hbody
  | lineBreak =>
    cases List.mem_singleton.1 hbody
    exact ⟨.opening voidName [], by decide, .inr ⟨rfl, rfl⟩⟩
  | opening name attributes =>
    cases List.mem_singleton.1 hbody
    obtain ⟨hname, -, hattributes⟩ := h.named
    refine ⟨_, readTag?_opening hname hattributes, .inl ⟨h.1, ?_⟩⟩
    intro a ha
    obtain ⟨written, hmem, rfl⟩ := List.mem_map.1 ha
    exact h.2 written hmem
  | closing name =>
    cases List.mem_singleton.1 hbody
    exact ⟨.closing name, rfl, h⟩

/-- The text of a span as it is shown: an operator stands between blanks. -/
def shownSpan (s : Span) : Text := if s.kind = .operator then ' ' :: s.text ++ [' '] else s.text

def shownInline : Inline → Text
  | .run spans => spans.flatMap shownSpan
  | .link l => l.display

def shownContent : LineContent → Text
  | .link l => l.display
  | .comment t => "> ".toList ++ t
  | .item i => i.marker ++ (i.content.map fun content => ' ' :: shownInline content).getD []

def shownNode : Node → Text
  | .tag t => List.replicate t.depth '@' ++ shownInline t.label
  | .line l => List.replicate l.indent ' ' ++ shownContent l.content
  | .text run => run.flatMap shownSpan
  | .blank _ => []

def linksOfInline : Inline → List Link
  | .run _ => []
  | .link l => [l]

def linksOfContent : LineContent → List Link
  | .link l => [l]
  | .comment _ => []
  | .item i => (i.content.map linksOfInline).getD []

def linksOf : Node → List Link
  | .tag t => linksOfInline t.label
  | .line l => linksOfContent l.content
  | _ => []

/-- The trees have no foreign tags, show the text and lead where the links do. -/
structure Shows (trees : List Html) (shown : Text) (links : List Link) : Prop where
  own : ∀ p ∈ piecesOf trees, p.Own
  content : (piecesOf trees).flatMap Piece.content = shown
  hrefs : (piecesOf trees).filterMap Piece.href? = links.map fun l => some (destination l)

section

variable {f g : List Html} {shown : Text} {links : List Link}

theorem Shows.nil : Shows [] [] [] := ⟨by simp [piecesOf], rfl, rfl⟩

theorem Shows.append (hf : Shows f t links) {links' : List Link} (hg : Shows g u links') :
    Shows (f ++ g) (t ++ u) (links ++ links') where
  own := by
    rw [piecesOf_append, List.forall_mem_append]
    exact ⟨hf.own, hg.own⟩
  content := by rw [piecesOf_append, List.flatMap_append, hf.content, hg.content]
  hrefs := by rw [piecesOf_append, List.filterMap_append, hf.hrefs, hg.hrefs, List.map_append]

theorem shows_text (t : Text) : Shows [.text t] t [] where
  own := by simp [piecesOf, pieces, Piece.Own]
  content := by simp [piecesOf, pieces, Piece.content]
  hrefs := rfl

theorem own_element (h : ∀ p ∈ piecesOf f, p.Own) (hname : name ∈ elementNames)
    {attributes : List (Text × Text)} (hattributes : ∀ a ∈ attributes, a.1 ∈ attributeNames) :
    ∀ p ∈ piecesOf [.element name attributes f], p.Own := by
  simp only [piecesOf, pieces, List.append_nil, List.forall_mem_cons, List.forall_mem_append]
  exact ⟨⟨hname, hattributes⟩, h, hname, by simp⟩

theorem Shows.element (h : Shows f t links) (hname : name ∈ elementNames) (hlink : name ≠ ['a'])
    {attributes : List (Text × Text)} (hattributes : ∀ a ∈ attributes, a.1 ∈ attributeNames) :
    Shows [.element name attributes f] t links where
  own := own_element h.own hname hattributes
  content := by simp [piecesOf, pieces, Piece.content, ← h.content]
  hrefs := by simp [piecesOf, pieces, Piece.href?, hlink, ← h.hrefs]

theorem Shows.ofClass (h : Shows f t links) {name : String} (hname : name.toList ∈ elementNames)
    (hlink : name.toList ≠ ['a']) (cssClass : String) :
    Shows [ofClass name cssClass f] t links := by
  refine h.element hname hlink ?_
  simp only [List.forall_mem_singleton]
  decide

theorem shows_link (l : Link) : Shows [ofLink l] l.display [l] where
  own := by
    refine own_element (shows_text l.display).own (by decide) ?_
    simp only [List.forall_mem_cons]
    decide
  content := by simp [ofLink, piecesOf, pieces, Piece.content]
  hrefs := by simp [ofLink, piecesOf, pieces, Piece.href?]

theorem shows_span (s : Span) : Shows [ofSpan s] (shownSpan s) [] := by
  obtain ⟨kind, text⟩ := s
  cases kind with
  | plain => exact shows_text text
  | operator => exact (shows_text _).ofClass (by decide) (by decide) _
  | quote => exact (shows_text text).ofClass (by decide) (by decide) _
  | code => exact (shows_text text).element (by decide) (by decide) (by simp)
  | inlineMath => exact (shows_text text).ofClass (by decide) (by decide) _
  | blockMath => exact (shows_text text).ofClass (by decide) (by decide) _
  | bold => exact (shows_text text).ofClass (by decide) (by decide) _
  | struck => exact (shows_text text).ofClass (by decide) (by decide) _

theorem shows_run (run : Run) : Shows (ofRun run) (run.flatMap shownSpan) [] := by
  induction run with
  | nil => exact .nil
  | cons s run ih => exact (shows_span s).append ih

theorem shows_inline (i : Inline) : Shows (ofInline i) (shownInline i) (linksOfInline i) := by
  cases i with
  | run spans => exact shows_run spans
  | link l => exact shows_link l

theorem shows_item (i : ListItem) :
    Shows [ofItem i] (shownContent (.item i)) (linksOfContent (.item i)) := by
  obtain ⟨marker, content⟩ := i
  have hmarker : Shows [ofClass "span" "z-listitem" [.text marker]] marker [] :=
    (shows_text marker).ofClass (by decide) (by decide) _
  cases content with
  | none => exact (hmarker.append .nil).ofClass (by decide) (by decide) _
  | some content =>
    have hcontent := (shows_text [' ']).append (shows_inline content)
    exact (hmarker.append hcontent).ofClass (by decide) (by decide) _

theorem shows_content (content : LineContent) :
    Shows [ofContent content] (shownContent content) (linksOfContent content) := by
  cases content with
  | link l => exact shows_link l
  | comment t => exact (shows_text _).ofClass (by decide) (by decide) _
  | item i => exact shows_item i

theorem shows_breaks (count : Nat) : Shows (List.replicate count .lineBreak) [] [] := by
  induction count with
  | zero => exact .nil
  | succ count ih =>
    have hbreak : Shows [.lineBreak] [] [] :=
      ⟨by simp [piecesOf, pieces, Piece.Own], rfl, rfl⟩
    exact hbreak.append ih

theorem shows_node (index : Nat) (n : Node) : Shows (ofNode index n) (shownNode n) (linksOf n) := by
  cases n with
  | tag t => exact ((shows_text _).append (shows_inline t.label)).ofClass (by decide) (by decide) _
  | line l =>
    refine ((shows_text _).append (shows_content l.content)).element (by decide) (by decide) ?_
    simp only [List.forall_mem_cons]
    decide
  | text run => exact shows_run run
  | blank count => exact shows_breaks count

theorem shows_nodes (index : Nat) (nodes : List Node) :
    Shows (ofNodesFrom index nodes) (nodes.flatMap shownNode) (nodes.flatMap linksOf) := by
  induction nodes generalizing index with
  | nil => exact .nil
  | cons n nodes ih => exact (shows_node index n).append (ih (index + 1))

end

theorem tokens_raw (body : Text) :
    tokens (write (ofClass "pre" "z-raw" [.text body])) =
      .tag "pre class=\"z-raw\"".toList :: ((escape body).map .char ++ [.tag "/pre".toList]) := by
  have hopening : '>' ∉ "pre class=\"z-raw\"".toList := by decide
  have hclosing : '>' ∉ "/pre".toList := by decide
  have hwritten : write (ofClass "pre" "z-raw" [.text body]) =
      '<' :: "pre class=\"z-raw\"".toList ++
        '>' :: (escape body ++ ('<' :: "/pre".toList ++ '>' :: [])) := by
    simp [ofClass, write, writeAll, openTag, closeTag, writeAttribute, escapeAttribute,
      escapeAttributeChar, escapeChar]
  rw [hwritten, tokens_tag hopening, tokens_text fun hlt => (escape_clean body _ hlt).1 rfl,
    tokens_tag hclosing]
  rfl

/-- **Pages are well formed, whatever the notes say.** All tags are tags of the page itself with
values in double quotes, every element is closed where it should be, and no `<` or `>` stands
outside a tag. What is read is the text of the nodes, and links lead where they should. A body
that could not be parsed is read from one element. -/
theorem page_safe (nodes : List Node) (note : Note) :
    (∀ body, .tag body ∈ tokens (render nodes) → ∃ tag, readTag? body = some tag ∧ tag.Own) ∧
    nest? [] (tokens (render nodes)) = some [] ∧
    (∀ c ∈ plain (tokens (render nodes)), c ≠ '<' ∧ c ≠ '>') ∧
    decode textEntities (plain (tokens (render nodes))) = nodes.flatMap shownNode ∧
    (tokens (render nodes)).filterMap Token.href? =
      (nodes.flatMap linksOf).map (fun l => some (destination l)) ∧
    match note.error with
    | none => renderNote note = render note.nodes
    | some _ => ∃ raw, tokens (renderNote note) =
        .tag "pre class=\"z-raw\"".toList :: (raw.map .char ++ [.tag "/pre".toList]) ∧
      (∀ c ∈ raw, c ≠ '<' ∧ c ≠ '>') ∧ decode textEntities raw = note.body := by
  have hshows := shows_nodes 0 nodes
  have hnamed : ∀ p ∈ piecesOf (ofNodesFrom 0 nodes), p.Named := fun p hp => (hshows.own p hp).named
  have hpage : tokens (render nodes) = (piecesOf (ofNodesFrom 0 nodes)).flatMap Piece.tokens := by
    rw [render, writeAll_eq, tokens_pieces hnamed]
  have hplain : plain (tokens (render nodes)) = escape (nodes.flatMap shownNode) := by
    rw [hpage, plain_pieces, hshows.content]
  refine ⟨?_, ?_, ?_, ?_, ?_, ?_⟩
  · intro body hbody
    rw [hpage] at hbody
    obtain ⟨p, hp, htag⟩ := List.mem_flatMap.1 hbody
    exact own_of_mem_tokens (hshows.own p hp) htag
  · rw [hpage]
    simpa [nest?] using nest?_piecesOf _ hnamed [] []
  · rw [hplain]
    exact escape_clean _
  · rw [hplain, decode_escape]
  · rw [hpage, hrefs_pieces hnamed, hshows.hrefs]
  · cases herror : note.error with
    | none => simp [renderNote, Note.isParsed, herror]
    | some e =>
      rw [renderNote, Note.isParsed, herror, if_neg (by simp)]
      exact ⟨escape note.body, tokens_raw note.body, escape_clean _, decode_escape _⟩

/-- A target that tries to end its attribute and its tag stays the value of the attribute. -/
theorem page_safe_of_quote :
    let nodes : List Node :=
      [.text [⟨.plain, "<b>&lt;".toList⟩], .line ⟨0, .link ⟨['q'], some "\"><b".toList⟩⟩]
    let body : Text := "a href=\"&quot;&gt;&lt;b\" target=\"_blank\" class=\"z-link\"".toList
    .tag body ∈ tokens (render nodes) ∧ (∃ tag, readTag? body = some tag ∧ tag.Own) ∧
    decode textEntities (plain (tokens (render nodes))) = "<b>&lt;q".toList := by
  intro nodes body
  obtain ⟨howns, -, -, hplain, -⟩ := page_safe nodes (.ofBody ⟨[]⟩ [])
  have hbody : .tag body ∈ tokens (render nodes) := by decide
  exact ⟨hbody, howns body hbody, hplain.trans rfl⟩

end Html
end Slipbox
