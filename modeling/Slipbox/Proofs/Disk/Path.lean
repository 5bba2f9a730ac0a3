import Slipbox.Disk.Path
import Slipbox.Proofs.Text

/-!
# Components of paths

How the components of a path change when the path is put together or taken apart, and where
components lead from a location.
-/

namespace Slipbox.Path

variable {path base relative name : Text} {names : List Text}

/-- A text that may stand between two slashes and counts there. -/
structure IsComponent (name : Text) : Prop where
  nonempty : name ≠ []
  notHere : name ≠ ['.']
  noSlash : '/' ∉ name

/-! ### Taking apart -/

/-- Components count, so that all of them are kept. -/
theorem filter_isComponent (h : ∀ name ∈ names, IsComponent name) :
    names.filter (fun name => name ≠ [] ∧ name ≠ ['.']) = names :=
  List.filter_eq_self.2 fun name hname =>
    decide_eq_true ⟨(h name hname).nonempty, (h name hname).notHere⟩

theorem isComponent_of_mem (h : name ∈ components path) : IsComponent name := by
  obtain ⟨hpiece, hcounts⟩ := List.mem_filter.1 h
  obtain ⟨hne, hdot⟩ := of_decide_eq_true hcounts
  exact ⟨hne, hdot, Text.not_mem_of_mem_splitAtChar hpiece⟩

theorem components_of_isComponent (h : IsComponent name) : components name = [name] := by
  rw [components, Text.splitAtChar_of_not_mem h.noSlash]
  exact filter_isComponent (List.forall_mem_singleton.2 h)

theorem components_append_slash (base path : Text) :
    components (base ++ '/' :: path) = components base ++ components path := by
  rw [components, Text.splitAtChar_append_cons, List.filter_append]
  rfl

theorem components_slash (path : Text) : components ('/' :: path) = components path :=
  components_append_slash [] path

theorem components_join (h : ∀ name ∈ names, IsComponent name) :
    components (Text.join ['/'] names) = names := by
  induction names with
  | nil => rfl
  | cons name names ih =>
    rw [List.forall_mem_cons] at h
    cases names with
    | nil => exact components_of_isComponent h.1
    | cons next names =>
      have hjoin : Text.join ['/'] (name :: next :: names) =
          name ++ '/' :: Text.join ['/'] (next :: names) := by simp [Text.join]
      rw [hjoin, components_append_slash, components_of_isComponent h.1, ih h.2]
      rfl

theorem components_ofComponents (h : ∀ name ∈ names, IsComponent name) :
    components (ofComponents names) = names := components_join h

/-- All characters of a path but the slashes and dots are found in its components. -/
theorem mem_iff_of_ne {c : Char} (hslash : c ≠ '/') (hdot : c ≠ '.') :
    c ∈ path ↔ ∃ name ∈ components path, c ∈ name := by
  rw [Text.mem_iff_of_ne hslash]
  constructor
  · rintro ⟨piece, hpiece, hc⟩
    have hcounts : decide (piece ≠ [] ∧ piece ≠ ['.']) = true := by
      refine decide_eq_true ⟨List.ne_nil_of_mem hc, ?_⟩
      rintro rfl
      exact hdot (List.mem_singleton.1 hc)
    exact ⟨piece, List.mem_filter.2 ⟨hpiece, hcounts⟩, hc⟩
  · rintro ⟨name, hname, hc⟩
    exact ⟨name, (List.mem_filter.1 hname).1, hc⟩

theorem isAbsolute_iff : isAbsolute path = true ↔ ∃ rest, path = '/' :: rest := by
  rw [isAbsolute, Text.startsWith_iff]
  constructor
  · rintro ⟨rest, rfl⟩
    exact ⟨rest, rfl⟩
  · rintro ⟨rest, rfl⟩
    exact ⟨rest, rfl⟩

theorem isAbsolute_eq_false (h : '/' ∉ name) : isAbsolute name = false := by
  rw [← Bool.not_eq_true, isAbsolute_iff]
  rintro ⟨rest, rfl⟩
  simp at h

/-! ### The place above -/

theorem components_parent (path : Text) : components (parent path) = (components path).dropLast := by
  have hnames : ∀ name ∈ (components path).dropLast, IsComponent name :=
    fun name hname => isComponent_of_mem (List.dropLast_subset _ hname)
  rw [parent]
  split
  · rw [components_slash, components_join hnames]
  · exact components_join hnames

theorem isAbsolute_parent (path : Text) : isAbsolute (parent path) = isAbsolute path := by
  rw [parent]
  split
  · rename_i habsolute
    rw [habsolute, isAbsolute_iff]
    exact ⟨_, rfl⟩
  · rename_i hrelative
    rw [Bool.not_eq_true] at hrelative
    rw [hrelative]
    cases hnames : (components path).dropLast with
    | nil => rfl
    | cons name names =>
      have hname : IsComponent name :=
        isComponent_of_mem (List.dropLast_subset _ (hnames ▸ List.mem_cons_self))
      obtain ⟨c, rest, rfl⟩ := List.exists_cons_of_ne_nil hname.nonempty
      have hc : c ≠ '/' := fun h => hname.noSlash (h ▸ List.mem_cons_self)
      rw [← Bool.not_eq_true, isAbsolute_iff]
      cases names with
      | nil => simp [Text.join, hc]
      | cons next names => simp [Text.join, hc]

/-! ### Putting together -/

theorem components_push (base : Text) (h : IsComponent name) :
    components (push base name) = components base ++ [name] := by
  rw [push]
  split
  · rename_i hempty
    rw [List.isEmpty_iff.1 hempty, components_of_isComponent h]
    rfl
  · rw [components_append_slash, components_of_isComponent h]

theorem isAbsolute_push (base : Text) (h : IsComponent name) :
    isAbsolute (push base name) = isAbsolute base := by
  cases base with
  | nil => exact isAbsolute_eq_false h.noSlash
  | cons c base =>
    rw [Bool.eq_iff_iff, isAbsolute_iff, isAbsolute_iff]
    simp [push]

theorem components_pushAll (base : Text) (h : ∀ name ∈ names, IsComponent name) :
    components (names.foldl push base) = components base ++ names := by
  induction names generalizing base with
  | nil => simp
  | cons name names ih =>
    rw [List.forall_mem_cons] at h
    rw [List.foldl_cons, ih _ h.2, components_push base h.1, List.append_assoc]
    rfl

theorem isAbsolute_pushAll (base : Text) (h : ∀ name ∈ names, IsComponent name) :
    isAbsolute (names.foldl push base) = isAbsolute base := by
  induction names generalizing base with
  | nil => rfl
  | cons name names ih =>
    rw [List.forall_mem_cons] at h
    rw [List.foldl_cons, ih _ h.2, isAbsolute_push base h.1]

@[simp] theorem components_under (base relative : Text) :
    components (under base relative) = components base ++ components relative :=
  components_pushAll base fun _ => isComponent_of_mem

@[simp] theorem isAbsolute_under (base relative : Text) :
    isAbsolute (under base relative) = isAbsolute base :=
  isAbsolute_pushAll base fun _ => isComponent_of_mem

/-! ### How paths end -/

theorem endsAsDirectory_iff {last : Text}
    (h : (Text.splitAtChar '/' path).getLast? = some last) :
    endsAsDirectory path = false ↔ IsComponent last ∧ last ≠ up := by
  have hlast : last ∈ Text.splitAtChar '/' path := List.mem_of_getLast? h
  simp only [endsAsDirectory, h, Bool.or_eq_false_iff, decide_eq_false_iff_not]
  constructor
  · rintro ⟨⟨hne, hdot⟩, hup⟩
    exact ⟨⟨hne, hdot, Text.not_mem_of_mem_splitAtChar hlast⟩, hup⟩
  · rintro ⟨hcomponent, hup⟩
    exact ⟨⟨hcomponent.nonempty, hcomponent.notHere⟩, hup⟩

theorem exists_last_piece (path : Text) :
    ∃ last, (Text.splitAtChar '/' path).getLast? = some last :=
  ⟨_, List.getLast?_eq_some_getLast (Text.splitAtChar_ne_nil '/' path)⟩

/-- A path that may lead to a file ends with the name of that file. -/
theorem exists_name (h : endsAsDirectory path = false) :
    ∃ names name, components path = names ++ [name] ∧ IsComponent name ∧ name ≠ up := by
  obtain ⟨last, hlast⟩ := exists_last_piece path
  obtain ⟨hcomponent, hup⟩ := (endsAsDirectory_iff hlast).1 h
  obtain ⟨pieces, hpieces⟩ := List.getLast?_eq_some_iff.1 hlast
  refine ⟨pieces.filter fun name => name ≠ [] ∧ name ≠ ['.'], last, ?_, hcomponent, hup⟩
  rw [components, hpieces, List.filter_append,
    filter_isComponent (List.forall_mem_singleton.2 hcomponent)]

theorem endsAsDirectory_push (base : Text) (h : IsComponent name) :
    endsAsDirectory (push base name) = decide (name = up) := by
  have hlast : (Text.splitAtChar '/' (push base name)).getLast? = some name := by
    rw [push]
    split
    · simp [Text.splitAtChar_of_not_mem h.noSlash]
    · simp [Text.splitAtChar_append_cons, Text.splitAtChar_of_not_mem h.noSlash]
  by_cases hup : name = up
  · rw [decide_eq_true hup, ← Bool.not_eq_false, endsAsDirectory_iff hlast]
    exact fun hend => hend.2 hup
  · rw [decide_eq_false hup, endsAsDirectory_iff hlast]
    exact ⟨h, hup⟩

/-- A relative path that ends with a name leads to no directory because of its end. -/
theorem endsAsDirectory_under (base : Text) (hne : components relative ≠ [])
    (hup : up ∉ components relative) : endsAsDirectory (under base relative) = false := by
  obtain ⟨names, name, hnames⟩ : ∃ names name, components relative = names ++ [name] :=
    ⟨_, _, (List.dropLast_concat_getLast hne).symm⟩
  have hname : name ∈ components relative := by simp [hnames]
  have hnotUp : name ≠ up := fun heq => hup (heq ▸ hname)
  rw [under, hnames, List.foldl_append]
  exact (endsAsDirectory_push _ (isComponent_of_mem hname)).trans (decide_eq_false hnotUp)

/-! ### Where components lead -/

variable {place : List Text}

@[simp] theorem resolve_nil (place : List Text) : resolve place [] = place := rfl

theorem resolve_append (place names others : List Text) :
    resolve place (names ++ others) = resolve (resolve place names) others := List.foldl_append

theorem resolve_cons (place : List Text) (name : Text) (names : List Text) :
    resolve place (name :: names) =
      resolve (if name = up then place.dropLast else place ++ [name]) names := rfl

/-- Without going up, components lead straight down. -/
theorem resolve_of_up_not_mem (place : List Text) (h : up ∉ names) :
    resolve place names = place ++ names := by
  induction names generalizing place with
  | nil => simp
  | cons name names ih =>
    obtain ⟨hname, hnames⟩ : up ≠ name ∧ up ∉ names := by simpa using h
    rw [resolve_cons, if_neg hname.symm, ih _ hnames, List.append_assoc]
    rfl

theorem resolve_concat (place names : List Text) (h : name ≠ up) :
    resolve place (names ++ [name]) = resolve place names ++ [name] := by
  rw [resolve_append, resolve_cons, if_neg h]
  rfl

end Slipbox.Path
