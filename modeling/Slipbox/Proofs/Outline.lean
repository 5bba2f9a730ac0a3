import Slipbox.Outline

/-!
# The outline is the forest of indents

A forest is described by its pre-order: for every item in that order the item above it, its
position and its indent (`listed`). The lines of a document, each with the nearest line before it
that is indented less (`parented`), form such a description. The main result,
`outline_unique`, is that the outline is the one forest which this describes, and that its
items lie strictly deeper than their parents while siblings never lie deeper than those
before them.

Between the two stands `Nested`, which says the same of a forest without its lines: splitting
the list of lines gives a nested forest (`nested_forest`), a nested forest is what splitting gives
back from its list (`Nested.forest_listing`), and the description by parents forces nesting
(`nested_of_listed`). Therefore any other way to build a nested forest of the lines gives the
outline too; one pass with a stack of open items is such a way (`gather_eq`).
-/

namespace Slipbox

open Slipbox.Markup

namespace Outline

variable {x : Item} {f : List Item} {before lines : List (Nat × Nat)} {parent : Option Nat}
  {i d e : Nat}

/-! ### Descriptions of forests -/

/-- The positions and indents of the items of a forest in pre-order. -/
def listing : List Item → List (Nat × Nat)
  | [] => []
  | .mk index indent children :: items =>
    (index, indent) :: (listing children ++ listing items)

/-- The same with the position of the item above each; `parent` is above the roots. -/
def listed (parent : Option Nat) : List Item → List (Option Nat × Nat × Nat)
  | [] => []
  | .mk index indent children :: items =>
    (parent, index, indent) :: (listed (some index) children ++ listed parent items)

/-- The position of the last line that is indented less. -/
def nearest? (before : List (Nat × Nat)) (indent : Nat) : Option Nat :=
  (before.reverse.find? fun l => l.2 < indent).map (·.1)

/-- The lines with the nearest line before each that is indented less. -/
def parented (before : List (Nat × Nat)) : List (Nat × Nat) → List (Option Nat × Nat × Nat)
  | [] => []
  | l :: lines => (nearest? before l.2, l) :: parented (before ++ [l]) lines

/-- The lines of a document by position and indent. -/
def linesOf (nodes : List Node) : List (Nat × Nat) :=
  nodes.zipIdx.filterMap fun
    | (.line l, index) => some (index, l.indent)
    | _ => none

/-- The item is one of the forest, at whatever depth. -/
inductive Occurs (x : Item) : List Item → Prop where
  | here {items : List Item} : Occurs x (x :: items)
  | inside {index indent : Nat} {children items : List Item} (h : Occurs x children) :
    Occurs x (.mk index indent children :: items)
  | later {y : Item} {items : List Item} (h : Occurs x items) : Occurs x (y :: items)

/-- What lies below an item is indented more, and no later sibling is. -/
inductive Nested : List Item → Prop where
  | nil : Nested []
  | cons {index indent : Nat} {children items : List Item}
    (deeper : ∀ l ∈ listing children, indent < l.2) (lower : ∀ y ∈ items, y.indent ≤ indent)
    (inner : Nested children) (rest : Nested items) :
    Nested (.mk index indent children :: items)

/-! ### Splitting gives nested forests -/

theorem Nested.lower_of_listing (h : Nested f) (hd : ∀ l ∈ (listing f).head?, l.2 ≤ d) :
    ∀ y ∈ f, y.indent ≤ d := by
  cases h with
  | nil => simp
  | @cons index indent children items _ lower _ _ =>
    rw [listing] at hd
    have hindent : indent ≤ d := hd (index, indent) rfl
    intro y hy
    rcases List.mem_cons.1 hy with rfl | hy
    · exact hindent
    · exact Nat.le_trans (lower y hy) hindent

theorem nested_forest (lines : List (Nat × Nat)) :
    listing (forest lines) = lines ∧ Nested (forest lines) := by
  induction lines using forest.induct with
  | case1 => exact ⟨by simp [forest, listing], by rw [forest]; exact .nil⟩
  | case2 index indent lines ihc ihi =>
    rw [forest]
    refine ⟨?_, .cons ?_ ?_ ihc.2 ihi.2⟩
    · rw [listing, ihc.1, ihi.1, List.takeWhile_append_dropWhile]
    · rw [ihc.1]
      simpa using List.all_eq_true.1 (List.all_takeWhile (p := fun l => indent < l.2) (l := lines))
    · apply ihi.2.lower_of_listing
      rw [ihi.1]
      intro l hl
      have hstop := List.head?_dropWhile_not (fun l : Nat × Nat => decide (indent < l.2)) lines
      rw [Option.mem_def.1 hl] at hstop
      simpa using hstop

/-- A nested forest is what splitting gives back from its list. -/
theorem Nested.forest_listing (h : Nested f) : forest (listing f) = f := by
  induction h with
  | nil => simp [listing, forest]
  | @cons index indent children items deeper lower inner rest ihc ihi =>
    have hall : ∀ l ∈ listing children, decide (indent < l.2) = true := by
      simpa using deeper
    have hstop : (listing items).takeWhile (fun l => indent < l.2) = [] ∧
        (listing items).dropWhile (fun l => indent < l.2) = listing items := by
      cases rest with
      | nil => simp [listing]
      | cons =>
        have := lower _ List.mem_cons_self
        simp only [Item.indent] at this
        simp [listing, Nat.not_lt.2 this]
    rw [listing, forest, List.takeWhile_append_of_pos hall, List.dropWhile_append_of_pos hall,
      hstop.1, hstop.2, List.append_nil, ihc, ihi]

/-! ### The nearest line that is indented less -/

theorem nearest?_append (xs ys : List (Nat × Nat)) (indent : Nat) :
    nearest? (xs ++ ys) indent = (nearest? ys indent).or (nearest? xs indent) := by
  simp [nearest?, List.find?_append, Option.map_or]

theorem nearest?_eq_none_iff {indent : Nat} :
    nearest? before indent = none ↔ ∀ l ∈ before, indent ≤ l.2 := by
  simp [nearest?]

theorem nearest?_eq_some_iff {indent : Nat} :
    nearest? before indent = some i ↔
      ∃ xs d ys, before = xs ++ (i, d) :: ys ∧ d < indent ∧ ∀ l ∈ ys, indent ≤ l.2 := by
  simp only [nearest?, Option.map_eq_some_iff, List.find?_eq_some_iff_append]
  constructor
  · rintro ⟨⟨j, d⟩, ⟨hd, ys, xs, hsplit, hys⟩, rfl⟩
    refine ⟨xs.reverse, d, ys.reverse, ?_, by simpa using hd, by simpa using hys⟩
    rw [← List.reverse_reverse before, hsplit]
    simp
  · rintro ⟨xs, d, ys, rfl, hd, hys⟩
    exact ⟨(i, d), ⟨by simpa using hd, ys.reverse, xs.reverse, by simp, by simpa using hys⟩, rfl⟩

theorem exists_mem_of_nearest? {indent : Nat} (h : nearest? before indent = some i) :
    ∃ d, (i, d) ∈ before := by
  obtain ⟨xs, d, ys, rfl, -, -⟩ := nearest?_eq_some_iff.1 h
  exact ⟨d, List.mem_append_right _ List.mem_cons_self⟩

theorem parented_append (before xs ys : List (Nat × Nat)) :
    parented before (xs ++ ys) = parented before xs ++ parented (before ++ xs) ys := by
  induction xs generalizing before with
  | nil => simp [parented]
  | cons l xs ih => simp [parented, ih]

theorem map_snd_parented (before lines : List (Nat × Nat)) :
    (parented before lines).map (·.2) = lines := by
  induction lines generalizing before with
  | nil => rfl
  | cons l lines ih => simp [parented, ih]

theorem map_snd_listed (parent : Option Nat) (f : List Item) :
    (listed parent f).map (·.2) = listing f := by
  induction f using listing.induct generalizing parent with
  | case1 => simp [listed, listing]
  | case2 index indent children items ihc ihi => simp [listed, listing, ihc, ihi]

theorem mem_listing {y : Item} (h : y ∈ f) : (y.index, y.indent) ∈ listing f := by
  induction f with
  | nil => simp at h
  | cons x items ih =>
    obtain ⟨index, indent, children⟩ := x
    rw [listing]
    rcases List.mem_cons.1 h with rfl | h
    · exact List.mem_cons_self
    · exact List.mem_cons_of_mem _ (List.mem_append_right _ (ih h))

/-- In a nested forest the item above each is the nearest line that is indented less. -/
theorem Nested.listed_eq (h : Nested f) (hparent : ∀ y ∈ f, nearest? before y.indent = parent) :
    listed parent f = parented before (listing f) := by
  induction h generalizing before parent with
  | nil => simp [listed, listing, parented]
  | @cons index indent children items deeper lower inner rest ihc ihi =>
    rw [List.forall_mem_cons] at hparent
    have hchildren : ∀ y ∈ children,
        nearest? (before ++ [(index, indent)]) y.indent = some index := by
      intro y hy
      have hlt := deeper _ (mem_listing hy)
      simp [nearest?, hlt]
    have hitems : ∀ y ∈ items,
        nearest? (before ++ [(index, indent)] ++ listing children) y.indent = parent := by
      intro y hy
      have hle := lower y hy
      have hskip : nearest? ((index, indent) :: listing children) y.indent = none := by
        rw [nearest?_eq_none_iff, List.forall_mem_cons]
        exact ⟨hle, fun l hl => Nat.le_of_lt (Nat.lt_of_le_of_lt hle (deeper l hl))⟩
      rw [List.append_assoc, List.singleton_append, nearest?_append, hskip, hparent.2 y hy]
      rfl
    rw [listing, listed, parented, parented_append, ihc hchildren, ihi hitems]
    rw [show nearest? before indent = parent from hparent.1]

/-! ### Forests with the right parents are nested -/

def Increasing (lines : List (Nat × Nat)) : Prop := lines.Pairwise fun l m => l.1 < m.1

theorem Increasing.unique (h : Increasing lines) (hd : (i, d) ∈ lines) (he : (i, e) ∈ lines) :
    d = e := by
  induction h with
  | nil => simp at hd
  | @cons l lines hl _ ih =>
    rcases List.mem_cons.1 hd with hfirst | hlater <;>
      rcases List.mem_cons.1 he with hfirst' | hlater'
    · exact congrArg Prod.snd (hfirst.trans hfirst'.symm)
    · subst hfirst
      exact absurd (hl (i, e) hlater') (Nat.lt_irrefl i)
    · subst hfirst'
      exact absurd (hl (i, d) hlater) (Nat.lt_irrefl i)
    · exact ih hlater hlater'

/-- The parts of a description: it starts with the first item, goes on with what lies below it,
and ends with its later siblings. -/
theorem listed_cons_iff {index indent : Nat} {children items : List Item} :
    listed parent (.mk index indent children :: items) =
        parented before (listing (.mk index indent children :: items)) ↔
      nearest? before indent = parent ∧
      listed (some index) children =
        parented (before ++ [(index, indent)]) (listing children) ∧
      listed parent items =
        parented (before ++ (index, indent) :: listing children) (listing items) := by
  have hlength : (listed (some index) children).length =
      (parented (before ++ [(index, indent)]) (listing children)).length := by
    have hl := congrArg List.length (map_snd_listed (some index) children)
    have hr := congrArg List.length
      (map_snd_parented (before ++ [(index, indent)]) (listing children))
    rw [List.length_map] at hl hr
    exact hl.trans hr.symm
  rw [listing, listed, parented, parented_append, List.cons.injEq, Prod.mk.injEq,
    List.append_assoc, List.singleton_append]
  constructor
  · rintro ⟨⟨hfirst, -⟩, hrest⟩
    exact ⟨hfirst.symm, List.append_inj hrest hlength⟩
  · rintro ⟨hfirst, hchildren, hitems⟩
    exact ⟨⟨hfirst.symm, rfl⟩, by rw [hchildren, hitems]⟩

/-- Positions that increase along a forest do so up to its first children and up to its later
items. -/
theorem Increasing.parts {index indent : Nat} {children items : List Item}
    (h : Increasing (before ++ listing (.mk index indent children :: items))) :
    Increasing (before ++ [(index, indent)] ++ listing children) ∧
      Increasing (before ++ (index, indent) :: listing children ++ listing items) := by
  have hitems : before ++ listing (.mk index indent children :: items) =
      before ++ (index, indent) :: listing children ++ listing items := by
    simp [listing]
  rw [hitems] at h
  refine ⟨?_, h⟩
  rw [List.append_assoc, List.singleton_append]
  exact (List.pairwise_append.1 h).1

theorem deeper_of_listed (hincreasing : Increasing (before ++ listing f)) (hi : (i, d) ∈ before)
    (h : listed (some i) f = parented before (listing f)) : ∀ l ∈ listing f, d < l.2 := by
  induction f using listing.induct generalizing before i d with
  | case1 => simp [listing]
  | case2 index indent children items ihc ihi =>
    obtain ⟨hfirst, hchildren, hitems⟩ := listed_cons_iff.1 h
    have hparts := hincreasing.parts
    have hindent : d < indent := by
      obtain ⟨xs, c, ys, rfl, hc, -⟩ := nearest?_eq_some_iff.1 hfirst
      have hsame : c = d := by
        refine Increasing.unique (List.pairwise_append.1 hincreasing).1 ?_ hi
        exact List.mem_append_right _ List.mem_cons_self
      exact hsame ▸ hc
    have hinner := ihc hparts.1 (List.mem_append_right _ List.mem_cons_self) hchildren
    have hrest := ihi hparts.2 (List.mem_append_left _ hi) hitems
    rw [listing, List.forall_mem_cons, List.forall_mem_append]
    exact ⟨hindent, fun l hl => Nat.lt_trans hindent (hinner l hl), hrest⟩

/-- A forest whose items have the right parents is nested. -/
theorem nested_of_listed (hincreasing : Increasing (before ++ listing f))
    (h : listed parent f = parented before (listing f)) : Nested f := by
  induction f using listing.induct generalizing before parent with
  | case1 => exact .nil
  | case2 index indent children items ihc ihi =>
    obtain ⟨hfirst, hchildren, hitems⟩ := listed_cons_iff.1 h
    have hparts := hincreasing.parts
    have hrest := ihi hparts.2 hitems
    have hinner := deeper_of_listed hparts.1 (List.mem_append_right _ List.mem_cons_self) hchildren
    refine .cons hinner ?_ (ihc hparts.1 hchildren) hrest
    -- a next sibling that is indented more would have its parent among the lines since this one
    apply hrest.lower_of_listing
    cases items with
    | nil => simp [listing]
    | cons y items =>
      obtain ⟨j, e, inner⟩ := y
      rw [listing]
      intro l hl
      cases hl
      refine Nat.not_lt.1 fun hlt => ?_
      have hnext := (listed_cons_iff.1 hitems).1
      rw [nearest?_append] at hnext
      cases hk : nearest? ((index, indent) :: listing children) e with
      | none => exact Nat.not_le.2 hlt (nearest?_eq_none_iff.1 hk _ List.mem_cons_self)
      | some k =>
        rw [hk, Option.some_or] at hnext
        rw [← hnext] at hfirst
        obtain ⟨c, hc⟩ := exists_mem_of_nearest? hfirst
        obtain ⟨c', hc'⟩ := exists_mem_of_nearest? hk
        have hsplit := (List.pairwise_append.1 hparts.2).1
        exact Nat.lt_irrefl k ((List.pairwise_append.1 hsplit).2.2 _ hc _ hc')

/-! ### One pass over the lines

The outline can be gathered with a stack of open items, each of which is indented more than the one
below it. A line closes the open items that are not indented less, and an item that is closed
becomes the last child of the item below it on the stack.
-/

def Item.adopt (parent child : Item) : Item :=
  .mk parent.index parent.indent (parent.children ++ [child])

/-- Closes the open items, innermost first, that are indented at least `indent`. -/
def closeUntil (indent : Nat) : List Item → List Item → List Item × List Item
  | [], roots => ([], roots)
  | [item], roots => if item.indent < indent then ([item], roots) else ([], roots ++ [item])
  | item :: parent :: opened, roots =>
    if item.indent < indent then (item :: parent :: opened, roots)
    else closeUntil indent (parent.adopt item :: opened) roots
termination_by opened => opened.length

/-- The open items and the closed roots after one more node. -/
def openNode (state : List Item × List Item) : Node × Nat → List Item × List Item
  | (.line l, index) =>
    let (opened, roots) := closeUntil l.indent state.1 state.2
    (.mk index l.indent [] :: opened, roots)
  | _ => state

def gather (nodes : List Node) : List Item :=
  let (opened, roots) := nodes.zipIdx.foldl openNode ([], [])
  (closeUntil 0 opened roots).2

/-- The lines of the closed roots and of the open items. -/
def linesRead : List Item → List Item → List (Nat × Nat)
  | [], roots => listing roots
  | item :: opened, roots =>
    linesRead opened roots ++ (item.index, item.indent) :: listing item.children

/-- What is closed is nested, the open items lie ever deeper, and an item of the given indent fits
behind what is closed already on the innermost level. -/
def Fits (indent : Nat) : List Item → List Item → Prop
  | [], roots => Nested roots ∧ ∀ z ∈ roots, indent ≤ z.indent
  | item :: opened, roots =>
    (∀ l ∈ listing item.children, item.indent < l.2) ∧ Nested item.children ∧
      (∀ z ∈ item.children, indent ≤ z.indent) ∧
      (∀ y ∈ opened.head?, y.indent < item.indent) ∧ Fits item.indent opened roots

theorem listing_append (f g : List Item) : listing (f ++ g) = listing f ++ listing g := by
  induction f with
  | nil => simp [listing]
  | cons x f ih =>
    obtain ⟨index, indent, children⟩ := x
    simp [listing, ih]

theorem listing_single (x : Item) : listing [x] = (x.index, x.indent) :: listing x.children := by
  obtain ⟨index, indent, children⟩ := x
  simp [listing, Item.index, Item.indent, Item.children]

theorem Nested.append {g : List Item} (hf : Nested f) (hg : Nested g)
    (hlower : ∀ z ∈ f, ∀ y ∈ g, y.indent ≤ z.indent) : Nested (f ++ g) := by
  induction hf with
  | nil => exact hg
  | cons deeper lower inner _ _ ih =>
    rw [List.forall_mem_cons] at hlower
    refine .cons deeper ?_ inner (ih hlower.2)
    intro y hy
    rcases List.mem_append.1 hy with hy | hy
    · exact lower y hy
    · exact hlower.1 y hy

theorem Nested.snoc (hf : Nested f) (hlower : ∀ z ∈ f, x.indent ≤ z.indent)
    (hdeeper : ∀ l ∈ listing x.children, x.indent < l.2) (hinner : Nested x.children) :
    Nested (f ++ [x]) := by
  have hsingle : Nested [x] := by
    obtain ⟨index, indent, children⟩ := x
    exact .cons hdeeper (by simp) hinner .nil
  refine hf.append hsingle ?_
  intro z hz y hy
  rw [List.mem_singleton.1 hy]
  exact hlower z hz

theorem le_indent_snoc (hlower : ∀ z ∈ f, x.indent ≤ z.indent) (hd : d ≤ x.indent) :
    ∀ z ∈ f ++ [x], d ≤ z.indent := by
  intro z hz
  rcases List.mem_append.1 hz with hz | hz
  · exact Nat.le_trans hd (hlower z hz)
  · rw [List.mem_singleton.1 hz]
    exact hd

theorem Fits.adopt {item above : Item} {opened roots : List Item}
    (h : Fits d (item :: above :: opened) roots) (hd : d ≤ item.indent) :
    Fits d (above.adopt item :: opened) roots := by
  obtain ⟨hdeeper, hinner, -, hhead, habove, hchildren, hlower, hopened, hrest⟩ := h
  have hitem : above.indent < item.indent := hhead above rfl
  have hbelow : ∀ l ∈ listing (above.children ++ [item]), above.indent < l.2 := by
    intro l hl
    rw [listing_append, listing_single, List.mem_append, List.mem_cons] at hl
    rcases hl with hl | rfl | hl
    · exact habove l hl
    · exact hitem
    · exact Nat.lt_trans hitem (hdeeper l hl)
  exact ⟨hbelow, hchildren.snoc hlower hdeeper hinner, le_indent_snoc hlower hd, hopened, hrest⟩

/-- Closing loses no line and keeps what fits; what stays open is indented less. -/
theorem closeUntil_fits (indent : Nat) (opened roots : List Item) (h : Fits indent opened roots) :
    Fits indent (closeUntil indent opened roots).1 (closeUntil indent opened roots).2 ∧
      (∀ y ∈ (closeUntil indent opened roots).1.head?, y.indent < indent) ∧
      linesRead (closeUntil indent opened roots).1 (closeUntil indent opened roots).2 =
        linesRead opened roots := by
  fun_induction closeUntil indent opened roots with
  | case1 roots => exact ⟨h, by simp, rfl⟩
  | case2 item roots hlt => exact ⟨h, by simpa using hlt, rfl⟩
  | case3 item roots hle =>
    obtain ⟨hdeeper, hinner, -, -, hroots, hlower⟩ := h
    have hclosed : ∀ z ∈ roots ++ [item], indent ≤ z.indent :=
      le_indent_snoc hlower (Nat.not_lt.1 hle)
    refine ⟨⟨hroots.snoc hlower hdeeper hinner, hclosed⟩, by simp, ?_⟩
    rw [linesRead, linesRead, linesRead, listing_append, listing_single]
  | case4 item above opened roots hlt => exact ⟨h, by simpa using hlt, rfl⟩
  | case5 item above opened roots hle ih =>
    obtain ⟨hfits, hopened, hlines⟩ := ih (h.adopt (Nat.not_lt.1 hle))
    refine ⟨hfits, hopened, hlines.trans ?_⟩
    simp [linesRead, Item.adopt, Item.index, Item.indent, Item.children, listing_append,
      listing_single]

theorem openNode_fits (state : List Item × List Item) (n : Node) (index : Nat)
    (h : ∀ d, Fits d state.1 state.2) :
    (∀ d, Fits d (openNode state (n, index)).1 (openNode state (n, index)).2) ∧
      linesRead (openNode state (n, index)).1 (openNode state (n, index)).2 =
        linesRead state.1 state.2 ++ linesFrom index [n] := by
  cases n with
  | line l =>
    obtain ⟨hfits, hopened, hlines⟩ := closeUntil_fits l.indent _ _ (h l.indent)
    -- the new item has no children, so that whatever comes next fits
    refine ⟨fun d => ⟨?_, .nil, ?_, hopened, hfits⟩, ?_⟩
    · simp [Item.children, listing]
    · simp [Item.children]
    · rw [← hlines]
      simp [openNode, linesRead, linesFrom, Item.index, Item.indent, Item.children, listing]
  | _ => exact ⟨h, by simp [openNode, linesFrom]⟩

theorem openNodes_fits (state : List Item × List Item) (nodes : List Node) (index : Nat)
    (h : ∀ d, Fits d state.1 state.2) :
    (∀ d, Fits d ((nodes.zipIdx index).foldl openNode state).1
        ((nodes.zipIdx index).foldl openNode state).2) ∧
      linesRead ((nodes.zipIdx index).foldl openNode state).1
          ((nodes.zipIdx index).foldl openNode state).2 =
        linesRead state.1 state.2 ++ linesFrom index nodes := by
  induction nodes generalizing state index with
  | nil => exact ⟨h, by simp [linesFrom]⟩
  | cons n nodes ih =>
    obtain ⟨hnode, hline⟩ := openNode_fits state n index h
    obtain ⟨hfits, hlines⟩ := ih _ (index + 1) hnode
    refine ⟨hfits, hlines.trans ?_⟩
    rw [hline, List.append_assoc]
    cases n <;> rfl

theorem gather_eq (nodes : List Node) : gather nodes = outline nodes := by
  obtain ⟨hfits, hlines⟩ := openNodes_fits ([], []) nodes 0 fun _ => ⟨.nil, by simp⟩
  obtain ⟨hclosed, hopened, hall⟩ := closeUntil_fits 0 _ _ (hfits 0)
  rw [hlines, linesRead, listing, List.nil_append] at hall
  -- no item is indented less than nothing, so the last closing leaves none open
  have hnone : (closeUntil 0 _ _).1 = [] := List.head?_eq_none_iff.1 <|
    Option.eq_none_iff_forall_not_mem.2 fun y hy => Nat.not_lt_zero _ (hopened y hy)
  rw [hnone] at hclosed hall
  rw [gather, outline, ← hall]
  exact hclosed.1.forest_listing.symm

/-! ### The outline -/

theorem linesFrom_eq (index : Nat) (nodes : List Node) :
    linesFrom index nodes = (nodes.zipIdx index).filterMap fun
      | (.line l, index) => some (index, l.indent)
      | _ => none := by
  induction nodes generalizing index with
  | nil => rfl
  | cons n nodes ih =>
    cases n <;> simp [linesFrom, List.zipIdx_cons, ih]

theorem increasing_linesFrom (index : Nat) (nodes : List Node) :
    Increasing (linesFrom index nodes) ∧ ∀ l ∈ linesFrom index nodes, index ≤ l.1 := by
  induction nodes generalizing index with
  | nil => exact ⟨.nil, by simp [linesFrom]⟩
  | cons n nodes ih =>
    obtain ⟨hrest, hlater⟩ := ih (index + 1)
    cases n with
    | line l =>
      rw [linesFrom, List.forall_mem_cons]
      exact ⟨.cons hlater hrest, Nat.le_refl index,
        fun l hl => Nat.le_of_succ_le (hlater l hl)⟩
    | _ => exact ⟨hrest, fun l hl => Nat.le_of_succ_le (hlater l hl)⟩

theorem Nested.occurs (h : Nested f) (hx : Occurs x f) :
    Nested x.children ∧ ∀ y ∈ x.children, x.indent < y.indent := by
  induction hx with
  | here =>
    cases h with
    | cons deeper _ inner _ => exact ⟨inner, fun y hy => deeper _ (mem_listing hy)⟩
  | inside _ ih =>
    cases h with
    | cons _ _ inner _ => exact ih inner
  | later _ ih =>
    cases h with
    | cons _ _ _ rest => exact ih rest

theorem Nested.siblings (h : Nested f) : f.Pairwise fun y z => z.indent ≤ y.indent := by
  induction h with
  | nil => exact .nil
  | cons _ lower _ _ _ ihi => exact .cons lower ihi

/-- **The outline is the forest of indents.** A forest is the outline of a document exactly when
its items in pre-order are the lines of the document in their order, each below the nearest
line before it that is indented less, or a root if there is none. So positions increase in
pre-order, children are indented more than their parent, and neither a root nor a child is
indented more than the one before it. One pass with a stack of open items gathers it. -/
theorem outline_unique (nodes : List Node) :
    (∀ f : List Item, listed none f = parented [] (linesOf nodes) ↔ f = outline nodes) ∧
    gather nodes = outline nodes ∧
    listing (outline nodes) = linesOf nodes ∧ Increasing (listing (outline nodes)) ∧
    (outline nodes).Pairwise (fun y z => z.indent ≤ y.indent) ∧
    ∀ x, Occurs x (outline nodes) →
      (∀ y ∈ x.children, x.indent < y.indent) ∧
      x.children.Pairwise fun y z => z.indent ≤ y.indent := by
  have hlines : linesFrom 0 nodes = linesOf nodes := linesFrom_eq 0 nodes
  have hincreasing := (increasing_linesFrom 0 nodes).1
  have houtline : listing (outline nodes) = linesFrom 0 nodes ∧ Nested (outline nodes) :=
    nested_forest (linesFrom 0 nodes)
  rw [hlines] at hincreasing houtline
  obtain ⟨hlisting, hnested⟩ := houtline
  refine ⟨?_, gather_eq nodes, hlisting, hlisting ▸ hincreasing, hnested.siblings, ?_⟩
  · intro f
    constructor
    · intro h
      have hf : listing f = linesOf nodes := by
        rw [← map_snd_listed none f, h, map_snd_parented]
      rw [← hf] at h hincreasing hlisting
      rw [← (nested_of_listed hincreasing h).forest_listing, ← hlisting, hnested.forest_listing]
    · rintro rfl
      have hroots : ∀ y ∈ outline nodes, nearest? [] y.indent = none := fun _ _ => rfl
      rw [hnested.listed_eq hroots, hlisting]
  · intro x hx
    obtain ⟨hinner, hdeeper⟩ := hnested.occurs hx
    exact ⟨hdeeper, hinner.siblings⟩

/-- Uneven indents: the third line is below the first, as the second is indented more. -/
theorem outline_unique_of_uneven :
    let comment (indent : Nat) : Node := .line ⟨indent, .comment []⟩
    let nodes := [comment 2, comment 6, .blank 0, comment 4, comment 0]
    let first : Item := .mk 0 2 [.mk 1 6 [], .mk 3 4 []]
    outline nodes = [first, .mk 4 0 []] ∧ Occurs first (outline nodes) ∧
    (∀ y ∈ first.children, first.indent < y.indent) ∧
    first.children.Pairwise fun y z => z.indent ≤ y.indent := by
  intro comment nodes first
  obtain ⟨hunique, -, -, -, -, hitems⟩ := outline_unique nodes
  have houtline : outline nodes = [first, .mk 4 0 []] := by
    refine ((hunique _).1 ?_).symm
    simp [nodes, comment, first, listed, parented, linesOf, nearest?]
  have hfirst : Occurs first (outline nodes) := houtline ▸ .here
  exact ⟨houtline, hfirst, hitems first hfirst⟩

end Outline
end Slipbox
