import Mathlib.Data.List.Basic
import Mathlib.Data.List.TakeWhile
import Slipbox.Contents
import Slipbox.Proofs.Outline

/-!
# The contents in the outline

The table of contents looks two nodes ahead, the outline at all lines. They meet in what a place of
the document says of each: an entry is a line that is followed there by a deeper one
(`mem_contents_iff`), and an item is a line together with the outline of the deeper lines right
behind it (`exists_line_of_occurs`). The first of these lines is the first child of the item, so if
no other line comes between, a line stands at the place after the next and is deeper just when it
is that child (`exists_first_child_iff`). This is what the contents and the outline agree on
(`contents_agree`).
-/

namespace Slipbox

open Slipbox.Markup

namespace Outline

variable {x y : Item} {lines : List (Nat × Nat)} {nodes : List Node} {k i j d e : Nat}

/-! ### Items of a forest -/

theorem mem_listing_iff {f : List Item} :
    (i, d) ∈ listing f ↔ ∃ x, Occurs x f ∧ x.index = i ∧ x.indent = d := by
  constructor
  · intro h
    induction f using listing.induct with
    | case1 => simp [listing] at h
    | case2 index indent children items ihc ihi =>
      rw [listing, List.mem_cons, List.mem_append] at h
      rcases h with heq | hchild | hitem
      · cases heq
        exact ⟨.mk i d children, .here, rfl, rfl⟩
      · obtain ⟨x, hx, hplace⟩ := ihc hchild
        exact ⟨x, .inside hx, hplace⟩
      · obtain ⟨x, hx, hplace⟩ := ihi hitem
        exact ⟨x, .later hx, hplace⟩
  · rintro ⟨x, hx, rfl, rfl⟩
    induction hx with
    | here => exact mem_listing List.mem_cons_self
    | inside _ ih =>
      rw [listing]
      exact List.mem_cons_of_mem _ (List.mem_append_left _ ih)
    | @later y items _ ih =>
      obtain ⟨index, indent, children⟩ := y
      rw [listing]
      exact List.mem_cons_of_mem _ (List.mem_append_right _ ih)

/-- The deeper lines at the beginning are the same before a line that is not deeper. -/
theorem takeWhile_deeper_append {rest : List (Nat × Nat)} (h : ∀ l ∈ rest.head?, l.2 ≤ d) :
    (lines ++ rest).takeWhile (fun l => d < l.2) = lines.takeWhile fun l => d < l.2 := by
  have hstop : rest.takeWhile (fun l => decide (d < l.2)) = [] := by
    cases rest with
    | nil => rfl
    | cons l rest => exact List.takeWhile_cons_of_neg (by simpa using h l rfl)
  rw [List.takeWhile_append, hstop, List.append_nil]
  split
  · next hall => exact ((List.takeWhile_prefix _).eq_of_length hall).symm
  · rfl

/-- Below an item stand the lines right behind its own that are indented more. -/
theorem exists_lines_of_occurs (h : Occurs x (forest lines)) :
    ∃ before after, lines = before ++ (x.index, x.indent) :: after ∧
      x.children = forest (after.takeWhile fun l => x.indent < l.2) := by
  induction lines using forest.induct with
  | case1 =>
    rw [forest] at h
    cases h
  | case2 index indent lines ihc ihi =>
    rw [forest] at h
    have hsplit : lines.takeWhile (fun l => indent < l.2) ++
        lines.dropWhile (fun l => indent < l.2) = lines := List.takeWhile_append_dropWhile
    have hstop := List.head?_dropWhile_not (fun l : Nat × Nat => decide (indent < l.2)) lines
    cases h with
    | here => exact ⟨[], lines, rfl, rfl⟩
    | inside h =>
      obtain ⟨before, after, hlines, hchildren⟩ := ihc h
      have hdeeper : indent < x.indent := by
        have hmem : (x.index, x.indent) ∈ lines.takeWhile fun l => indent < l.2 :=
          hlines ▸ List.mem_append_right before List.mem_cons_self
        simpa using List.mem_takeWhile_imp hmem
      refine ⟨(index, indent) :: before, after ++ lines.dropWhile fun l => indent < l.2, ?_, ?_⟩
      · calc (index, indent) :: lines
            = (index, indent) :: (lines.takeWhile (fun l => indent < l.2) ++
                lines.dropWhile fun l => indent < l.2) := by rw [hsplit]
          _ = _ := by rw [hlines, List.append_assoc]; rfl
      · rw [hchildren, takeWhile_deeper_append]
        intro l hl
        rw [Option.mem_def.1 hl] at hstop
        have hle : l.2 ≤ indent := by simpa using hstop
        omega
    | later h =>
      obtain ⟨before, after, hlines, hchildren⟩ := ihi h
      refine ⟨(index, indent) :: lines.takeWhile (fun l => indent < l.2) ++ before, after, ?_,
        hchildren⟩
      rw [List.append_assoc, ← hlines, List.cons_append, hsplit]

/-! ### Items of the outline -/

theorem linesFrom_append (k : Nat) (nodes rest : List Node) :
    linesFrom k (nodes ++ rest) = linesFrom k nodes ++ linesFrom (k + nodes.length) rest := by
  induction nodes generalizing k with
  | nil => rfl
  | cons n nodes ih =>
    have hnext : k + (n :: nodes).length = k + 1 + nodes.length := by
      rw [List.length_cons]
      omega
    cases n <;> simp only [List.cons_append, linesFrom, ih, hnext]

theorem mem_linesFrom_zero_iff : (i, d) ∈ linesFrom 0 nodes ↔
    ∃ l, nodes[i]? = some (.line l) ∧ l.indent = d := by
  rw [linesFrom_eq, List.mem_filterMap]
  constructor
  · rintro ⟨⟨n, place⟩, hn, hline⟩
    cases n with
    | line l =>
      cases hline
      exact ⟨l, List.mem_zipIdx_iff_getElem?.1 hn, rfl⟩
    | _ => cases hline
  · rintro ⟨l, hl, rfl⟩
    exact ⟨(.line l, i), List.mem_zipIdx_iff_getElem?.2 hl, rfl⟩

theorem linesFrom_split {l : Line} (h : nodes[i]? = some (.line l)) :
    linesFrom 0 nodes =
      linesFrom 0 (nodes.take i) ++ (i, l.indent) :: linesFrom (i + 1) (nodes.drop (i + 1)) := by
  obtain ⟨hi, hline⟩ := List.getElem?_eq_some_iff.1 h
  have hsplit : nodes = nodes.take i ++ .line l :: nodes.drop (i + 1) := by
    rw [← hline, List.getElem_cons_drop, List.take_append_drop]
  have hlength : (nodes.take i).length = i := by
    rw [List.length_take]
    omega
  calc linesFrom 0 nodes
      = linesFrom 0 (nodes.take i ++ .line l :: nodes.drop (i + 1)) := by rw [← hsplit]
    _ = _ := by rw [linesFrom_append, hlength, Nat.zero_add, linesFrom]

/-- The place of a line stands once among lines in their order. -/
theorem Increasing.not_mem {before after : List (Nat × Nat)}
    (h : Increasing (before ++ (i, d) :: after)) : (i, d) ∉ before ∧ (i, d) ∉ after := by
  obtain ⟨-, hafter, hbefore⟩ := List.pairwise_append.1 h
  constructor
  · intro hmem
    exact Nat.lt_irrefl i (hbefore _ hmem _ List.mem_cons_self)
  · intro hmem
    exact Nat.lt_irrefl i ((List.pairwise_cons.1 hafter).1 _ hmem)

theorem Item.eq_of_parts (hindex : x.index = y.index) (hindent : x.indent = y.indent)
    (hchildren : x.children = y.children) : x = y := by
  obtain ⟨i, d, children⟩ := x
  obtain ⟨j, e, children'⟩ := y
  cases hindex
  cases hindent
  cases hchildren
  rfl

theorem exists_line_of_occurs (h : Occurs x (outline nodes)) :
    ∃ l, nodes[x.index]? = some (.line l) ∧ x.indent = l.indent ∧
      x.children = forest ((linesFrom (x.index + 1) (nodes.drop (x.index + 1))).takeWhile
        fun m => x.indent < m.2) := by
  obtain ⟨before, after, hlines, hchildren⟩ := exists_lines_of_occurs h
  have hmem : (x.index, x.indent) ∈ linesFrom 0 nodes :=
    hlines ▸ List.mem_append_right before List.mem_cons_self
  obtain ⟨l, hl, hindent⟩ := mem_linesFrom_zero_iff.1 hmem
  have hsplit := linesFrom_split hl
  have hincreasing := (increasing_linesFrom 0 nodes).1
  rw [hlines] at hsplit hincreasing
  rw [hindent] at hsplit
  obtain ⟨hbefore, hafter⟩ := hincreasing.not_mem
  obtain ⟨-, -, rfl⟩ := (List.append_cons_inj_of_notMem hbefore hafter).1 hsplit
  exact ⟨l, hl, hindent.symm, hchildren⟩

/-- Every line has its item. -/
theorem exists_item {l : Line} (h : nodes[i]? = some (.line l)) :
    ∃ x, Occurs x (outline nodes) ∧ x.index = i ∧ x.indent = l.indent := by
  rw [← mem_listing_iff, outline, (nested_forest _).1]
  exact mem_linesFrom_zero_iff.2 ⟨l, h, rfl⟩

/-- No two items have the same place. -/
theorem Occurs.eq_of_index (hx : Occurs x (outline nodes)) (hy : Occurs y (outline nodes))
    (h : x.index = y.index) : x = y := by
  obtain ⟨l, hl, hindent, hchildren⟩ := exists_line_of_occurs hx
  obtain ⟨m, hm, hindent', hchildren'⟩ := exists_line_of_occurs hy
  obtain rfl : l = m := by
    rw [h, hm] at hl
    cases hl
    rfl
  apply Item.eq_of_parts h (hindent.trans hindent'.symm)
  rw [hchildren, hchildren', h, hindent, hindent']

/-- The first child of an item stands at the first line behind its own, if that is deeper. -/
theorem head?_children (h : Occurs x (outline nodes)) :
    x.children.head?.map (fun y => (y.index, y.indent)) =
      (linesFrom (x.index + 1) (nodes.drop (x.index + 1))).head?.filter
        fun m => x.indent < m.2 := by
  obtain ⟨l, -, -, hchildren⟩ := exists_line_of_occurs h
  have hhead : ∀ lines : List (Nat × Nat),
      (forest lines).head?.map (fun y => (y.index, y.indent)) = lines.head? := by
    intro lines
    cases lines with
    | nil => rw [forest]; rfl
    | cons m lines => rw [forest]; rfl
  rw [hchildren, hhead, List.head?_takeWhile]

theorem head?_linesFrom_iff :
    (linesFrom k nodes).head? = some (k, d) ↔ ∃ l, nodes[0]? = some (.line l) ∧ l.indent = d := by
  cases nodes with
  | nil => simp [linesFrom]
  | cons n nodes =>
    cases n with
    | line l => simp [linesFrom]
    | _ =>
      -- all lines that follow have later places
      have hlater := (increasing_linesFrom (k + 1) nodes).2
      have hnone : (linesFrom (k + 1) nodes).head? ≠ some (k, d) := fun h =>
        Nat.lt_irrefl k (hlater _ (List.mem_of_head? h))
      simpa [linesFrom] using hnone

/-- A line at the place after the next is the first of the lines unless there is one before it. -/
theorem head?_linesFrom_succ_iff (hnext : ∀ l, nodes[0]? ≠ some (.line l)) :
    (linesFrom k nodes).head? = some (k + 1, d) ↔
      ∃ l, nodes[1]? = some (.line l) ∧ l.indent = d := by
  cases nodes with
  | nil => simp [linesFrom]
  | cons n nodes =>
    have hskip : linesFrom k (n :: nodes) = linesFrom (k + 1) nodes := by
      cases n with
      | line l => exact absurd rfl (hnext l)
      | _ => rfl
    rw [hskip, head?_linesFrom_iff]
    simp

/-- If no line stands at the next place, a deeper line at the place after it is the first child. -/
theorem exists_first_child_iff (hx : Occurs x (outline nodes))
    (hnext : ∀ l, nodes[x.index + 1]? ≠ some (.line l)) (hdeeper : x.indent < d) :
    (∃ y, x.children.head? = some y ∧ y.index = x.index + 2 ∧ y.indent = d) ↔
      ∃ l, nodes[x.index + 2]? = some (.line l) ∧ l.indent = d := by
  have hnext' : ∀ l, (nodes.drop (x.index + 1))[0]? ≠ some (.line l) := by
    simpa [List.getElem?_drop] using hnext
  have hchild : (∃ y, x.children.head? = some y ∧ y.index = x.index + 2 ∧ y.indent = d) ↔
      x.children.head?.map (fun y => (y.index, y.indent)) = some (x.index + 2, d) := by
    simp [Option.map_eq_some_iff]
  rw [hchild, head?_children hx, Option.filter_eq_some_iff, head?_linesFrom_succ_iff hnext',
    List.getElem?_drop]
  simp [hdeeper]

end Outline

namespace Contents

variable {nodes rest : List Node} {n : Node} {entry : Entry} {k i : Nat}

/-! ### Entries of the contents -/

theorem isLineAt_iff {indent : Nat} {n : Option Node} :
    isLineAt indent n = true ↔ ∃ l, n = some (.line l) ∧ l.indent = indent := by
  unfold isLineAt
  split <;> simp_all

/-- An entry is a line with a title that is not too deep, and a line one step deeper follows it at
the place after the next. -/
theorem entry?_eq_some_iff : entry? i n rest = some entry ↔
    ∃ l m, n = .line l ∧ rest[1]? = some (.line m) ∧ l.indent ≤ 4 ∧ m.indent = l.indent + 4 ∧
      title? l.content = some entry.title ∧ entry.index = i ∧ entry.indent = l.indent := by
  cases n with
  | line l =>
    unfold entry?
    rw [Option.ite_none_right_eq_some, Option.map_eq_some_iff, isLineAt_iff]
    constructor
    · rintro ⟨⟨hdepth, m, hm, hstep⟩, title, htitle, rfl⟩
      exact ⟨l, m, rfl, hm, hdepth, hstep, htitle, rfl, rfl⟩
    · rintro ⟨_, m, hl, hm, hdepth, hstep, htitle, rfl, hindent⟩
      cases hl
      exact ⟨⟨hdepth, m, hm, hstep⟩, entry.title, htitle, by rw [← hindent]⟩
  | _ =>
    unfold entry?
    simp

theorem entriesFrom_cons (k : Nat) (n : Node) (nodes : List Node) :
    entriesFrom k (n :: nodes) =
      (Option.toList <| entry? k n nodes) ++ entriesFrom (k + 1) nodes := by
  rw [entriesFrom]
  cases entry? k n nodes <;> rfl

theorem mem_entriesFrom_iff : entry ∈ entriesFrom k nodes ↔
    ∃ i n, nodes[i]? = some n ∧ entry? (k + i) n (nodes.drop (i + 1)) = some entry := by
  induction nodes generalizing k with
  | nil => simp [entriesFrom]
  | cons n nodes ih =>
    rw [entriesFrom_cons, List.mem_append, Option.mem_toList, ih]
    constructor
    · rintro (hfirst | ⟨i, m, hm, hentry⟩)
      · exact ⟨0, n, rfl, hfirst⟩
      · refine ⟨i + 1, m, hm, ?_⟩
        rwa [List.drop_succ_cons, ← Nat.add_assoc, Nat.add_right_comm]
    · rintro ⟨i, m, hm, hentry⟩
      cases i with
      | zero =>
        cases hm
        exact .inl hentry
      | succ i =>
        rw [List.drop_succ_cons, ← Nat.add_assoc, Nat.add_right_comm] at hentry
        exact .inr ⟨i, m, hm, hentry⟩

theorem mem_contents_iff : entry ∈ contents nodes ↔
    ∃ l m, nodes[entry.index]? = some (.line l) ∧ nodes[entry.index + 2]? = some (.line m) ∧
      l.indent ≤ 4 ∧ m.indent = l.indent + 4 ∧
      title? l.content = some entry.title ∧ entry.indent = l.indent := by
  simp only [contents, mem_entriesFrom_iff, Nat.zero_add, entry?_eq_some_iff, List.getElem?_drop]
  constructor
  · rintro ⟨i, n, hn, l, m, rfl, hm, hdepth, hstep, htitle, rfl, hindent⟩
    exact ⟨l, m, hn, hm, hdepth, hstep, htitle, hindent⟩
  · rintro ⟨l, m, hl, hm, hdepth, hstep, htitle, hindent⟩
    exact ⟨_, _, hl, l, m, rfl, hm, hdepth, hstep, htitle, rfl, hindent⟩

theorem increasing_entriesFrom (k : Nat) (nodes : List Node) :
    (entriesFrom k nodes).Pairwise (fun a b => a.index < b.index) ∧
      ∀ entry ∈ entriesFrom k nodes, k ≤ entry.index := by
  induction nodes generalizing k with
  | nil => simp [entriesFrom]
  | cons n nodes ih =>
    obtain ⟨hrest, hlater⟩ := ih (k + 1)
    rw [entriesFrom_cons]
    cases hentry : entry? k n nodes with
    | none => exact ⟨hrest, fun entry h => Nat.le_of_succ_le (hlater entry h)⟩
    | some first =>
      obtain ⟨-, -, -, -, -, -, -, rfl, -⟩ := entry?_eq_some_iff.1 hentry
      rw [Option.toList_some, List.singleton_append, List.forall_mem_cons]
      exact ⟨.cons hlater hrest, Nat.le_refl _, fun entry h => Nat.le_of_succ_le (hlater entry h)⟩

/-! ### Sections -/

open Outline

theorem exists_title_iff {content : LineContent} :
    (∃ title, title? content = some title) ↔ ∀ t, content ≠ .comment t := by
  cases content <;> simp [title?]

/-- **The contents agree with the outline.** If no line stands at the next place, a line is an
entry just when it is no comment, not indented more than four, and has its first child at the
place after the next and four deeper. Entries come in the order of their places, each is about
one item of the outline, and has its indent. -/
theorem contents_agree (nodes : List Node) :
    (∀ i, (∀ l, nodes[i + 1]? ≠ some (.line l)) →
      ((∃ entry ∈ contents nodes, entry.index = i) ↔
        ∃ x, Occurs x (outline nodes) ∧ x.index = i ∧
          (∃ l, nodes[i]? = some (.line l) ∧ ∀ t, l.content ≠ .comment t) ∧ x.indent ≤ 4 ∧
          ∃ y, x.children.head? = some y ∧ y.index = i + 2 ∧ y.indent = x.indent + 4)) ∧
    (contents nodes).Pairwise (fun a b => a.index < b.index) ∧
    ∀ entry ∈ contents nodes, ∃ x, Occurs x (outline nodes) ∧ x.index = entry.index ∧
      x.indent = entry.indent ∧ ∀ y, Occurs y (outline nodes) → y.index = entry.index → y = x := by
  refine ⟨fun i hnext => ⟨?_, ?_⟩, (increasing_entriesFrom 0 nodes).1, ?_⟩
  · rintro ⟨entry, hentry, rfl⟩
    obtain ⟨l, m, hl, hm, hdepth, hstep, htitle, -⟩ := mem_contents_iff.1 hentry
    obtain ⟨x, hx, hindex, hindent⟩ := exists_item hl
    rw [← hindex] at hm hnext
    rw [← hindent] at hstep hdepth
    have hchild := (exists_first_child_iff hx hnext (by omega)).2 ⟨m, hm, hstep⟩
    exact ⟨x, hx, hindex, ⟨l, hl, exists_title_iff.1 ⟨_, htitle⟩⟩, hdepth, hindex ▸ hchild⟩
  · rintro ⟨x, hx, rfl, ⟨l, hl, hcomment⟩, hdepth, hchild⟩
    obtain ⟨title, htitle⟩ := exists_title_iff.2 hcomment
    obtain ⟨m, hm, hstep⟩ := (exists_first_child_iff hx hnext (by omega)).1 hchild
    obtain ⟨l', hl', hindent, -⟩ := exists_line_of_occurs hx
    cases hl.symm.trans hl'
    rw [hindent] at hstep hdepth
    refine ⟨⟨x.index, l.indent, title⟩, ?_, rfl⟩
    exact mem_contents_iff.2 ⟨l, m, hl, hm, hdepth, hstep, htitle, rfl⟩
  · intro entry hentry
    obtain ⟨l, -, hl, -, -, -, -, hindent⟩ := mem_contents_iff.1 hentry
    obtain ⟨x, hx, hindex, hindent'⟩ := exists_item hl
    refine ⟨x, hx, hindex, hindent'.trans hindent.symm, ?_⟩
    intro y hy hplace
    exact hy.eq_of_index hx (hplace.trans hindex.symm)

/-- The comment has a first child four deeper as well, but only the line above it is an entry. -/
theorem contents_agree_above_comment :
    let item (indent : Nat) (text : Text) : Node :=
      .line ⟨indent, .item ⟨['-'], some (.run [⟨.plain, text⟩])⟩⟩
    let nodes := [item 0 ['a'], .blank 0, .line ⟨4, .comment ['b']⟩, .blank 1, item 8 ['c']]
    let entry : Entry := ⟨0, 0, ['a']⟩
    (∀ l, nodes[1]? ≠ some (.line l)) ∧ contents nodes = [entry] ∧ entry ∈ contents nodes ∧
    ∃ x, Occurs x (outline nodes) ∧ x.index = 0 ∧ x.indent = 0 ∧
      ∃ y, x.children.head? = some y ∧ y.index = 2 ∧ y.indent = 4 := by
  intro item nodes entry
  have hnext : ∀ l, nodes[1]? ≠ some (.line l) := by simp [nodes]
  have hcontents : contents nodes = [entry] := by decide
  have hentry : entry ∈ contents nodes := hcontents ▸ List.mem_singleton.2 rfl
  obtain ⟨hsections, -, hitems⟩ := contents_agree nodes
  obtain ⟨x, hx, hindex, -, -, hchild⟩ := (hsections 0 hnext).1 ⟨entry, hentry, rfl⟩
  obtain ⟨z, -, -, hindent, hunique⟩ := hitems entry hentry
  obtain rfl := hunique x hx hindex
  have hindent : x.indent = 0 := hindent
  rw [hindent] at hchild
  exact ⟨hnext, hcontents, hentry, x, hx, hindex, hindent, hchild⟩

end Contents

end Slipbox
