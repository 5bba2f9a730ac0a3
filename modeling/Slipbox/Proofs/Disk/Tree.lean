import Mathlib.Data.List.Induction
import Mathlib.Data.List.Nodup
import Slipbox.Disk.Tree
import Slipbox.Proofs.Disk.Path

/-!
# The disk as a tree

A disk is sound when its entries make a tree: each location is listed once, names are names, and
everything stands in a directory. All operations keep a disk sound. Components are followed through
directories only (`Passes`). Making the directories on a way only ever grows the tree (`Grows`),
so no file is touched by it, and it succeeds when the way meets no file (`makeWay_ok_iff`).
-/

namespace Slipbox.Disk

variable {d d' made : Disk} {p q place : Location} {e : Entry} {path : Text}
  {name : Text} {names : List Text} {bytes : ByteArray} {fault : Fault}

/-! ### Entries -/

/-- The bytes of the file at a location. -/
def file? (d : Disk) (place : Location) : Option ByteArray :=
  match d.entry? place with
  | some (.file bytes) => some bytes
  | _ => none

theorem file?_eq_some_iff : d.file? p = some bytes ↔ d.entry? p = some (.file bytes) := by
  rw [file?]
  split
  · rename_i bytes' h
    simp [h]
  · rename_i h
    constructor
    · exact nofun
    · intro hfile
      exact absurd hfile (h bytes)

theorem file?_of_directory (h : d.entry? p = some .directory) : d.file? p = none := by
  rw [file?, h]

theorem file?_of_none (h : d.entry? p = none) : d.file? p = none := by
  rw [file?, h]

/-- What stands at a location is a file or a directory, or nothing does. -/
theorem entry_cases (d : Disk) (p : Location) :
    d.entry? p = none ∨ d.entry? p = some .directory ∨ ∃ bytes, d.entry? p = some (.file bytes) := by
  rcases h : d.entry? p with - | - | bytes
  · exact .inl rfl
  · exact .inr (.inl rfl)
  · exact .inr (.inr ⟨bytes, rfl⟩)

theorem entry?_of_ne (hp : p ≠ []) :
    d.entry? p = (d.entries.find? (·.1 == p)).map (·.2) := by
  cases p with
  | nil => exact absurd rfl hp
  | cons name rest => rfl

theorem find?_filter_key (keep : Location → Bool) (entries : List (Location × Entry))
    (p : Location) : (entries.filter (keep ·.1)).find? (·.1 == p) =
      if keep p then entries.find? (·.1 == p) else none := by
  rw [List.find?_filter]
  split
  · rename_i hkeep
    congr 1
    funext x
    by_cases hx : x.1 = p
    · simp [hx, hkeep]
    · simp [hx]
  · rename_i hkeep
    rw [List.find?_eq_none]
    intro x _
    by_cases hx : x.1 = p
    · simp [hx, hkeep]
    · simp [hx]

/-- The disk with only those entries whose locations are kept. -/
def keeping (d : Disk) (keep : Location → Bool) : Disk :=
  { d with entries := d.entries.filter (keep ·.1) }

theorem entry?_keeping {keep : Location → Bool} (hp : p ≠ []) :
    Disk.entry? (d.keeping keep) p = if keep p then d.entry? p else none := by
  have hfind := find?_filter_key keep d.entries p
  rw [entry?_of_ne hp, entry?_of_ne hp]
  by_cases hkeep : keep p = true
  · simp only [if_pos hkeep] at hfind ⊢
    exact congrArg (Option.map (·.2)) hfind
  · simp only [if_neg hkeep] at hfind ⊢
    exact congrArg (Option.map (·.2)) hfind

theorem erase_eq (d : Disk) (place : Location) : d.erase place = d.keeping (· != place) := rfl

theorem entry?_set (hplace : place ≠ []) :
    Disk.entry? (d.set place e) p = if p = place then some e else d.entry? p := by
  by_cases hp : p = []
  · subst hp
    rw [if_neg hplace.symm]
    rfl
  · rw [entry?_of_ne hp, set, List.find?_cons]
    by_cases h : p = place
    · simp [h]
    · have hne : (place == p) = false := by simp [Ne.symm h]
      simp only [hne, if_neg h]
      rw [← entry?_of_ne (d := d.erase place) hp, erase_eq, entry?_keeping hp]
      simp [h]

theorem file?_set (hplace : place ≠ []) :
    (d.set place (.file bytes)).file? p = if p = place then some bytes else d.file? p := by
  by_cases hp : p = place
  · simp [file?, entry?_set hplace, hp]
  · simp [file?, entry?_set hplace, hp]

/-! ### Sound disks -/

/-- A text that may name an entry. -/
structure IsName (name : Text) : Prop extends Path.IsComponent name where
  notUp : name ≠ Path.up
  noNull : '\x00' ∉ name
  short : name.byteLength ≤ maxNameLength

/-- The entries make a tree below the top. -/
structure Sound (d : Disk) : Prop where
  once : (d.entries.map (·.1)).Nodup
  noFileAtTop : ∀ bytes, ([], Entry.file bytes) ∉ d.entries
  named : ∀ place e, d.entry? place = some e → ∀ name ∈ place, IsName name
  above : ∀ place name e, d.entry? (place ++ [name]) = some e → d.entry? place = some .directory

namespace Sound

/-- Everything on the way to an entry is a directory. -/
theorem above_append (hd : d.Sound) (hne : names ≠ [])
    (h : d.entry? (place ++ names) = some e) : d.entry? place = some .directory := by
  induction names using List.reverseRecOn generalizing e with
  | nil => exact absurd rfl hne
  | append_singleton names name ih =>
    rw [← List.append_assoc] at h
    have hdir := hd.above _ _ _ h
    by_cases hnames : names = []
    · simpa [hnames] using hdir
    · exact ih hnames hdir

/-- Going up from a directory leads to a directory. -/
theorem dropLast (hd : d.Sound) (h : d.entry? place = some .directory) :
    d.entry? place.dropLast = some .directory := by
  by_cases hplace : place = []
  · subst hplace
    rfl
  · rw [← List.dropLast_concat_getLast hplace] at h
    exact hd.above _ _ _ h

theorem mem_entries_iff (hd : d.Sound) (hp : p ≠ []) :
    (p, e) ∈ d.entries ↔ d.entry? p = some e := by
  rw [entry?_of_ne hp, Option.map_eq_some_iff]
  constructor
  · intro hmem
    cases hfind : d.entries.find? (·.1 == p) with
    | none => simpa using List.find?_eq_none.1 hfind _ hmem
    | some x =>
      have hx : x ∈ d.entries := List.mem_of_find?_eq_some hfind
      have hkey : x.1 = p := by simpa using List.find?_some hfind
      exact ⟨x, rfl, congrArg Prod.snd (List.inj_on_of_nodup_map hd.once hx hmem hkey)⟩
  · rintro ⟨x, hfind, rfl⟩
    have hkey : x.1 = p := by simpa using List.find?_some hfind
    exact hkey ▸ List.mem_of_find?_eq_some hfind

theorem file_mem_iff (hd : d.Sound) : (p, .file bytes) ∈ d.entries ↔ d.file? p = some bytes := by
  by_cases hp : p = []
  · subst hp
    exact ⟨fun h => absurd h (hd.noFileAtTop bytes), nofun⟩
  · rw [hd.mem_entries_iff hp, file?_eq_some_iff]

/-- An entry may be put into a directory, unless it would replace a directory by a file. -/
theorem set (hd : d.Sound) (habove : d.entry? place = some .directory) (hname : IsName name)
    (hkeep : d.entry? (place ++ [name]) = some .directory → e = .directory) :
    (d.set (place ++ [name]) e).Sound := by
  have hne : place ++ [name] ≠ [] := by simp
  constructor
  · have herased : ∀ x ∈ (d.erase (place ++ [name])).entries, x.1 ≠ place ++ [name] := by
      intro x hx
      simpa using (List.mem_filter.1 hx).2
    have hsub : ((d.erase (place ++ [name])).entries.map (·.1)).Nodup :=
      hd.once.sublist (List.filter_sublist.map _)
    simp only [Disk.set, List.map_cons, List.nodup_cons, List.mem_map, not_exists, not_and]
    exact ⟨herased, hsub⟩
  · intro bytes hmem
    rcases List.mem_cons.1 hmem with heq | hrest
    · exact hne (congrArg Prod.fst heq).symm
    · exact hd.noFileAtTop bytes (List.mem_filter.1 hrest).1
  · intro p e' hentry
    rw [entry?_set hne] at hentry
    split at hentry
    · rename_i hp
      subst hp
      intro n hn
      rcases List.mem_append.1 hn with hn | hn
      · exact hd.named _ _ habove n hn
      · exact List.mem_singleton.1 hn ▸ hname
    · exact hd.named _ _ hentry
  · intro p n e' hentry
    rw [entry?_set hne] at hentry
    have hdir : d.entry? p = some .directory := by
      split at hentry
      · rename_i hp
        exact (List.append_inj' hp rfl).1 ▸ habove
      · exact hd.above _ _ _ hentry
    rw [entry?_set hne]
    split
    · rename_i hp
      rw [hkeep (hp ▸ hdir)]
    · exact hdir

/-- Entries may be taken away with all that stands below them. -/
theorem keeping (hd : d.Sound) {keep : Location → Bool}
    (hkeep : ∀ p n, d.entry? p = some .directory → keep (p ++ [n]) = true → p ≠ [] →
      keep p = true) : (d.keeping keep).Sound := by
  have hentry : ∀ p e, p ≠ [] → Disk.entry? (d.keeping keep) p = some e →
      keep p = true ∧ d.entry? p = some e := by
    intro p e hp h
    rw [entry?_keeping hp] at h
    split at h
    · rename_i hkept
      exact ⟨hkept, h⟩
    · exact nomatch h
  constructor
  · exact hd.once.sublist (List.filter_sublist.map _)
  · exact fun bytes hmem => hd.noFileAtTop bytes (List.mem_filter.1 hmem).1
  · intro place e h
    by_cases hplace : place = []
    · simp [hplace]
    · exact hd.named _ _ (hentry _ _ hplace h).2
  · intro place name e h
    obtain ⟨hkept, hstands⟩ := hentry _ _ (by simp) h
    have hdir := hd.above _ _ _ hstands
    by_cases hplace : place = []
    · rw [hplace]
      rfl
    · rw [entry?_keeping hplace, if_pos (hkeep _ _ hdir hkept hplace)]
      exact hdir

end Sound

/-! ### Following components -/

/-- Everything that the components pass through is a directory, and all of them are short enough. -/
def Passes (d : Disk) (place : Location) (names : List Text) : Prop :=
  ∀ init name, init ++ [name] <+: names →
    d.entry? (Path.resolve place init) = some .directory ∧ name.byteLength ≤ maxNameLength

/-- Where one component leads. -/
theorem resolve_single (place : Location) (name : Text) :
    Path.resolve place [name] = if name = Path.up then place.dropLast else place ++ [name] := rfl

theorem passes_nil (d : Disk) (place : Location) : d.Passes place [] := by
  intro init name hpart
  simpa using hpart.length_le

theorem passes_cons : d.Passes place (name :: names) ↔
    d.entry? place = some .directory ∧ name.byteLength ≤ maxNameLength ∧
      d.Passes (Path.resolve place [name]) names := by
  constructor
  · intro h
    obtain ⟨hdir, hshort⟩ := h [] name (by simp)
    refine ⟨hdir, hshort, ?_⟩
    intro init next hpart
    have hlonger : (name :: init) ++ [next] <+: name :: names := by simpa using hpart
    exact h (name :: init) next hlonger
  · rintro ⟨hdir, hshort, hrest⟩ init next hpart
    cases init with
    | nil =>
      obtain rfl : next = name := by simpa using hpart
      exact ⟨hdir, hshort⟩
    | cons first init =>
      obtain ⟨rfl, htail⟩ : first = name ∧ init ++ [next] <+: names := by simpa using hpart
      exact hrest init next htail

theorem walk_eq_ok_iff :
    d.walk place names = .ok q ↔ q = Path.resolve place names ∧ d.Passes place names := by
  induction names generalizing place with
  | nil =>
    simp only [walk, Except.ok.injEq, Path.resolve_nil, passes_nil, and_true]
    exact eq_comm
  | cons name names ih =>
    rw [passes_cons, Path.resolve_cons, ← resolve_single, walk]
    rcases d.entry_cases place with h | h | ⟨bytes, h⟩
    · simp [h]
    · have hup : Path.up.byteLength ≤ maxNameLength := by decide
      simp only [h, true_and, resolve_single]
      by_cases hname : name = Path.up
      · simp only [hname, if_true, ih, hup, true_and]
      · by_cases hshort : maxNameLength < name.byteLength
        · simp [hname, hshort, Nat.not_le.2 hshort]
        · simp only [hname, if_false, hshort, ih, Nat.not_lt.1 hshort, true_and]
    · simp [h]

/-- A walk goes on wherever the directories stay. -/
theorem Passes.mono (h : d.Passes place names)
    (hdirs : ∀ p, d.entry? p = some .directory → d'.entry? p = some .directory) :
    d'.Passes place names := by
  intro init name hpart
  obtain ⟨hdir, hshort⟩ := h init name hpart
  exact ⟨hdirs _ hdir, hshort⟩

theorem Passes.append {others : List Text} (h : d.Passes place names)
    (h' : d.Passes (Path.resolve place names) others) : d.Passes place (names ++ others) := by
  induction names generalizing place with
  | nil => exact h'
  | cons name names ih =>
    obtain ⟨hdir, hshort, hrest⟩ := passes_cons.1 h
    exact passes_cons.2 ⟨hdir, hshort, ih hrest h'⟩

theorem Passes.of_append {others : List Text} (h : d.Passes place (names ++ others)) :
    d.Passes place names := by
  intro init name hpart
  exact h init name (hpart.trans (List.prefix_append _ _))

/-- The way to an entry can be followed. -/
theorem Sound.passes (hd : d.Sound) (h : d.entry? (place ++ names) = some e) :
    d.Passes place names := by
  have hup : Path.up ∉ names := fun hmem =>
    (hd.named _ _ h _ (List.mem_append_right _ hmem)).notUp rfl
  rintro init name ⟨rest, rfl⟩
  constructor
  · rw [Path.resolve_of_up_not_mem _ fun hmem => hup (by simp [hmem])]
    have hbelow : d.entry? ((place ++ init) ++ name :: rest) = some e := by simpa using h
    exact hd.above_append (List.cons_ne_nil _ _) hbelow
  · exact (hd.named _ _ h name (by simp)).short

/-! ### Growing -/

/-- Directories have been added, and nothing else has happened. -/
structure Grows (d d' : Disk) : Prop where
  here : d'.here = d.here
  entries : ∀ p, d'.entry? p = d.entry? p ∨
    d.entry? p = none ∧ d'.entry? p = some .directory

namespace Grows

theorem refl (d : Disk) : d.Grows d := ⟨rfl, fun _ => .inl rfl⟩

theorem trans (h : d.Grows made) (h' : made.Grows d') : d.Grows d' := by
  refine ⟨h'.here.trans h.here, fun p => ?_⟩
  rcases h'.entries p with hsame | ⟨hnone, hdir⟩
  · rw [hsame]
    exact h.entries p
  · rcases h.entries p with hsame | ⟨-, hmade⟩
    · exact .inr ⟨hsame ▸ hnone, hdir⟩
    · exact nomatch hmade.symm.trans hnone

theorem entry (h : d.Grows d') (he : d.entry? p = some e) : d'.entry? p = some e := by
  rcases h.entries p with hsame | ⟨hnone, -⟩
  · rw [hsame, he]
  · exact nomatch hnone.symm.trans he

theorem file?_eq (h : d.Grows d') (p : Location) : d'.file? p = d.file? p := by
  rcases h.entries p with hsame | ⟨hnone, hdir⟩
  · rw [file?, file?, hsame]
  · rw [file?_of_none hnone, file?_of_directory hdir]

end Grows

theorem grows_set (hplace : place ≠ []) (h : d.entry? place = none) :
    d.Grows (d.set place .directory) := by
  refine ⟨rfl, fun p => ?_⟩
  rw [entry?_set hplace]
  split
  · rename_i hp
    exact .inr ⟨hp ▸ h, rfl⟩
  · exact .inl rfl

/-! ### Making the way -/

theorem resolve_single_of_ne (h : name ≠ Path.up) : Path.resolve place [name] = place ++ [name] := by
  rw [resolve_single, if_neg h]

/-- A component that leads down to a directory or up leads to a directory. -/
theorem Sound.step (hd : d.Sound) (hplace : d.entry? place = some .directory)
    (hdown : name ≠ Path.up → d.entry? (Path.resolve place [name]) = some .directory) :
    d.entry? (Path.resolve place [name]) = some .directory := by
  by_cases hup : name = Path.up
  · rw [resolve_single, if_pos hup]
    exact hd.dropLast hplace
  · exact hdown hup

/-- What making the way does at its first component. -/
inductive MakesWay (d : Disk) (place : Location) (name : Text) (names : List Text) :
    Disk × Option Fault → Prop where
  | stopped {fault : Fault} (blocked : d.entry? place ≠ some .directory ∨
      maxNameLength < name.byteLength ∨ (d.file? (Path.resolve place [name])).isSome = true) :
      MakesWay d place name names (d, some fault)
  | passed {outcome : Disk × Option Fault} (from_ : d.entry? place = some .directory)
      (short : name.byteLength ≤ maxNameLength)
      (rest : outcome = d.makeWay (Path.resolve place [name]) names)
      (reaches : name ≠ Path.up → d.entry? (Path.resolve place [name]) = some .directory) :
      MakesWay d place name names outcome
  | made {outcome : Disk × Option Fault} (from_ : d.entry? place = some .directory)
      (short : name.byteLength ≤ maxNameLength) (down : name ≠ Path.up)
      (missing : d.entry? (place ++ [name]) = none)
      (rest : outcome = (d.set (place ++ [name]) .directory).makeWay (place ++ [name]) names) :
      MakesWay d place name names outcome

theorem makesWay (d : Disk) (place : Location) (name : Text) (names : List Text) :
    MakesWay d place name names (d.makeWay place (name :: names)) := by
  rw [makeWay]
  rcases d.entry_cases place with h | h | ⟨bytes, h⟩
  · simp only [h]
    exact .stopped (.inl (by simp [h]))
  · simp only [h]
    by_cases hup : name = Path.up
    · rw [if_pos hup]
      refine .passed h (hup ▸ by decide) ?_ (fun hne => absurd hup hne)
      rw [resolve_single, if_pos hup]
    · have hto : Path.resolve place [name] = place ++ [name] := resolve_single_of_ne hup
      rw [if_neg hup]
      by_cases hshort : maxNameLength < name.byteLength
      · rw [if_pos hshort]
        exact .stopped (.inr (.inl hshort))
      · rw [if_neg hshort]
        rcases d.entry_cases (place ++ [name]) with h' | h' | ⟨bytes, h'⟩
        · simp only [h']
          exact .made h (Nat.not_lt.1 hshort) hup h' rfl
        · simp only [h']
          exact .passed h (Nat.not_lt.1 hshort) (hto ▸ rfl) fun _ => hto ▸ h'
        · simp only [h']
          refine .stopped (.inr (.inr ?_))
          rw [hto, file?_eq_some_iff.2 h']
          rfl
  · simp only [h]
    exact .stopped (.inl (by simp [h]))

theorem makeWay_grows (d : Disk) (place : Location) (names : List Text) :
    d.Grows (d.makeWay place names).1 := by
  induction names generalizing d place with
  | nil => exact .refl d
  | cons name names ih =>
    have hstep := d.makesWay place name names
    generalize d.makeWay place (name :: names) = outcome at hstep ⊢
    cases hstep with
    | stopped => exact .refl d
    | passed _ _ rest => exact rest ▸ ih d _
    | made _ _ _ missing rest => exact rest ▸ (grows_set (by simp) missing).trans (ih _ _)

/-- Only places on the way are changed. -/
theorem makeWay_entry? (d : Disk) (place : Location) (names : List Text) (p : Location) :
    Disk.entry? (d.makeWay place names).1 p = d.entry? p ∨
      ∃ init, init <+: names ∧ p = Path.resolve place init := by
  induction names generalizing d place with
  | nil => exact .inl rfl
  | cons name names ih =>
    have hlater : ∀ {init : List Text}, init <+: names →
        ∃ longer, longer <+: name :: names ∧
          Path.resolve (Path.resolve place [name]) init = Path.resolve place longer := by
      intro init hinit
      exact ⟨name :: init, by simpa using hinit, rfl⟩
    have hstep := d.makesWay place name names
    generalize d.makeWay place (name :: names) = outcome at hstep ⊢
    cases hstep with
    | stopped => exact .inl rfl
    | passed _ _ rest =>
      subst rest
      rcases ih d (Path.resolve place [name]) with hsame | ⟨init, hinit, rfl⟩
      · exact .inl hsame
      · exact .inr (hlater hinit)
    | made _ _ down missing rest =>
      subst rest
      have hnext : place ++ [name] = Path.resolve place [name] := (resolve_single_of_ne down).symm
      rcases ih (d.set (place ++ [name]) .directory) (place ++ [name]) with hsame | ⟨init, hinit, rfl⟩
      · by_cases hp : p = place ++ [name]
        · exact .inr ⟨[name], by simp, hp.trans hnext⟩
        · rw [entry?_set (by simp), if_neg hp] at hsame
          exact .inl hsame
      · rw [hnext]
        exact .inr (hlater hinit)

/-- On a sound disk the way that was made goes through directories to its end. -/
theorem makeWay_directory (hd : d.Sound) (hplace : d.entry? place = some .directory)
    (hnames : ∀ name ∈ names, Path.IsComponent name ∧ '\x00' ∉ name)
    (h : (d.makeWay place names).2 = none) {init : List Text} (hinit : init <+: names) :
    Disk.entry? (d.makeWay place names).1 (Path.resolve place init) = some .directory := by
  induction names generalizing d place init with
  | nil =>
    obtain rfl := List.prefix_nil.1 hinit
    exact hplace
  | cons name names ih =>
    rw [List.forall_mem_cons] at hnames
    have hgrows := d.makeWay_grows place (name :: names)
    have hstep := d.makesWay place name names
    generalize d.makeWay place (name :: names) = outcome at h hgrows hstep ⊢
    cases init with
    | nil => exact hgrows.entry hplace
    | cons first init =>
      obtain ⟨rfl, htail⟩ : first = name ∧ init <+: names := by simpa using hinit
      cases hstep with
      | stopped => exact nomatch h
      | passed from_ short rest reaches =>
        subst rest
        exact ih hd (hd.step from_ reaches) hnames.2 h htail
      | made from_ short down missing rest =>
        subst rest
        have hname : IsName first := { hnames.1.1 with notUp := down, noNull := hnames.1.2, short }
        have hsound := hd.set (e := .directory) from_ hname fun _ => rfl
        have hnext : Disk.entry? (d.set (place ++ [first]) .directory) (place ++ [first]) =
            some .directory := by simp [entry?_set]
        rw [Path.resolve_cons, if_neg down]
        exact ih hsound hnext hnames.2 h htail

theorem entry?_of_makeWay (h : (d.makeWay place (name :: names)).2 = none) :
    d.entry? place = some .directory := by
  have hstep := d.makesWay place name names
  generalize d.makeWay place (name :: names) = outcome at h hstep
  cases hstep with
  | stopped => exact nomatch h
  | passed from_ => exact from_
  | made from_ => exact from_

/-- Making the way succeeds when it goes through no file and all names are short enough. -/
theorem makeWay_ok_iff (hd : d.Sound) (hplace : d.entry? place = some .directory)
    (hnames : ∀ name ∈ names, Path.IsComponent name ∧ '\x00' ∉ name) :
    (d.makeWay place names).2 = none ↔
      (∀ name ∈ names, name.byteLength ≤ maxNameLength) ∧
        ∀ init, init <+: names → d.file? (Path.resolve place init) = none := by
  induction names generalizing d place with
  | nil =>
    have hfile := file?_of_directory hplace
    simp [makeWay, hfile]
  | cons name names ih =>
    rw [List.forall_mem_cons] at hnames
    have hstep := d.makesWay place name names
    generalize d.makeWay place (name :: names) = outcome at hstep ⊢
    have hways : ∀ {d : Disk}, d.file? place = none →
        ((∀ init, init <+: name :: names → d.file? (Path.resolve place init) = none) ↔
          ∀ init, init <+: names → d.file? (Path.resolve (Path.resolve place [name]) init) = none) := by
      intro d hfile
      constructor
      · intro h init hpart
        exact h (name :: init) (by simpa using hpart)
      · intro h init hpart
        cases init with
        | nil => exact hfile
        | cons first init =>
          obtain ⟨rfl, htail⟩ : first = name ∧ init <+: names := by simpa using hpart
          exact h init htail
    cases hstep with
    | stopped blocked =>
      constructor
      · exact nofun
      · rintro ⟨hshort, hfree⟩
        rcases blocked with hdir | hlong | hfile
        · exact absurd hplace hdir
        · exact absurd (hshort name List.mem_cons_self) (Nat.not_le.2 hlong)
        · rw [hfree [name] (by simp)] at hfile
          exact nomatch hfile
    | passed from_ short rest reaches =>
      subst rest
      rw [ih hd (hd.step from_ reaches) hnames.2, List.forall_mem_cons, hways (file?_of_directory hplace)]
      simp [short]
    | made from_ short down missing rest =>
      subst rest
      have hname : IsName name := { hnames.1.1 with notUp := down, noNull := hnames.1.2, short }
      have hsound := hd.set (e := .directory) from_ hname fun _ => rfl
      have hnext : Disk.entry? (d.set (place ++ [name]) .directory) (place ++ [name]) =
          some .directory := by simp [entry?_set]
      have hsame := (grows_set (by simp) missing).file?_eq
      rw [ih hsound hnext hnames.2, List.forall_mem_cons, hways (file?_of_directory hplace),
        resolve_single_of_ne down]
      simp [short, hsame]

theorem Sound.makeWay (hd : d.Sound) (hnames : ∀ name ∈ names, Path.IsComponent name ∧ '\x00' ∉ name) :
    (d.makeWay place names).1.Sound := by
  induction names generalizing d place with
  | nil => exact hd
  | cons name names ih =>
    rw [List.forall_mem_cons] at hnames
    have hstep := d.makesWay place name names
    generalize d.makeWay place (name :: names) = outcome at hstep ⊢
    cases hstep with
    | stopped => exact hd
    | passed _ _ rest => exact rest ▸ ih hd hnames.2
    | made from_ short down missing rest =>
      have hname : IsName name := { hnames.1.1 with notUp := down, noNull := hnames.1.2, short }
      exact rest ▸ ih (hd.set from_ hname fun _ => rfl) hnames.2

end Slipbox.Disk
