import Slipbox.Proofs.Disk.Tree

/-!
# Files by their paths

A path leads to one place (`target`), whatever stands there. A write makes directories and then
puts the file exactly there, or it fails and has only made directories (`putFile_cases`). Whether
it succeeds is seen from the disk before it (`Writable`, `putFile_ok_iff`), and what was written
is read again. All operations keep a disk sound.
-/

namespace Slipbox.Disk

variable {d d' made : Disk} {p q place : Location} {e : Entry} {path : Text}
  {name root relative : Text} {names : List Text} {bytes : ByteArray} {fault : Fault}

/-! ### Following paths -/

/-- Where the components of a path lead if all that they pass through are directories. -/
def target (d : Disk) (path : Text) : Location :=
  Path.resolve (d.origin path) (Path.components path)

theorem origin_congr (h : d'.here = d.here) (path : Text) : d'.origin path = d.origin path := by
  rw [origin, origin, h]

theorem target_congr (h : d'.here = d.here) (path : Text) : d'.target path = d.target path := by
  rw [target, target, origin_congr h]

/-- The path can be followed to the place where it leads. -/
structure Leads (d : Disk) (path : Text) : Prop where
  noNull : '\x00' ∉ path
  nonempty : path ≠ []
  passes : d.Passes (d.origin path) (Path.components path)
  directory : Path.endsAsDirectory path = true → d.file? (d.target path) = none

theorem leads_iff : d.Leads path ↔ '\x00' ∉ path ∧ path ≠ [] ∧
    d.Passes (d.origin path) (Path.components path) ∧
    (Path.endsAsDirectory path = true → d.file? (d.target path) = none) :=
  ⟨fun h => ⟨h.noNull, h.nonempty, h.passes, h.directory⟩,
    fun ⟨noNull, nonempty, passes, directory⟩ => ⟨noNull, nonempty, passes, directory⟩⟩

theorem locate_eq_ok_iff : d.locate path = .ok q ↔ q = d.target path ∧ d.Leads path := by
  rw [leads_iff, locate]
  by_cases hnull : '\x00' ∈ path
  · simp [hnull]
  by_cases hempty : path = []
  · simp [hempty]
  have hisEmpty : path.isEmpty = false := by simpa using hempty
  simp only [hnull, hempty, hisEmpty, if_false, Bool.false_eq_true, not_false_eq_true, ne_eq,
    true_and]
  cases hwalk : d.walk (d.origin path) (Path.components path) with
  | error fault =>
    have hstuck : ¬ d.Passes (d.origin path) (Path.components path) := by
      intro hpasses
      exact nomatch hwalk.symm.trans (walk_eq_ok_iff.2 ⟨rfl, hpasses⟩)
    simp [bind, Except.bind, hstuck]
  | ok place =>
    obtain ⟨hplace, hpasses⟩ := walk_eq_ok_iff.1 hwalk
    simp only [bind, Except.bind, hpasses, true_and, target, ← hplace, eq_comm (a := q)]
    rcases d.entry_cases place with h | h | ⟨bytes, h⟩
    · simp [h, file?_of_none h]
    · simp [h, file?_of_directory h]
    · by_cases hends : Path.endsAsDirectory path = true
      · simp [h, file?_eq_some_iff.2 h, hends]
      · simp [h, hends]

theorem leads_of_locate_error (h : d.locate path = .error fault) : ¬ d.Leads path := fun hleads =>
  nomatch h.symm.trans (locate_eq_ok_iff.2 ⟨rfl, hleads⟩)

theorem look_eq_ok_iff :
    d.look path = .ok e ↔ d.Leads path ∧ d.entry? (d.target path) = some e := by
  rw [look]
  cases hlocate : d.locate path with
  | error fault => simp [bind, Except.bind, leads_of_locate_error hlocate]
  | ok place =>
    obtain ⟨hplace, hleads⟩ := locate_eq_ok_iff.1 hlocate
    simp only [bind, Except.bind, hleads, true_and, ← hplace]
    cases d.entry? place with
    | none => simp
    | some e' => simp

theorem exists?_iff :
    d.exists? path = true ↔ d.Leads path ∧ (d.entry? (d.target path)).isSome = true := by
  rw [Option.isSome_iff_exists, exists?]
  cases hlook : d.look path with
  | error fault =>
    simp only [Bool.false_eq_true, false_iff, not_and, not_exists]
    intro hleads e he
    exact nomatch hlook.symm.trans (look_eq_ok_iff.2 ⟨hleads, he⟩)
  | ok e =>
    obtain ⟨hleads, he⟩ := look_eq_ok_iff.1 hlook
    simp [hleads, he]

theorem isDirectory_iff :
    d.isDirectory path = true ↔ d.Leads path ∧ d.entry? (d.target path) = some .directory := by
  rw [← look_eq_ok_iff, isDirectory]
  split
  · rename_i h
    simp [h]
  · rename_i h
    simpa using h

theorem readText_eq_ok_iff {t : Text} :
    d.readText path = .ok t ↔
      d.Leads path ∧ ∃ bytes, d.file? (d.target path) = some bytes ∧ decodeText? bytes = some t := by
  have hread : d.readText path = .ok t ↔
      ∃ bytes, d.look path = .ok (.file bytes) ∧ decodeText? bytes = some t := by
    rw [readText, readBytes]
    rcases d.look path with fault | - | bytes
    · simp [bind, Except.bind]
    · simp [bind, Except.bind]
    · cases hdecode : decodeText? bytes with
      | none => simp [bind, Except.bind, hdecode]
      | some t' => simp [bind, Except.bind, hdecode]
  rw [hread]
  simp only [look_eq_ok_iff, file?_eq_some_iff]
  constructor
  · rintro ⟨bytes, ⟨hleads, he⟩, hdecode⟩
    exact ⟨hleads, bytes, he, hdecode⟩
  · rintro ⟨hleads, bytes, he, hdecode⟩
    exact ⟨bytes, ⟨hleads, he⟩, hdecode⟩

/-! ### Writing -/

/-- A path that names a file needs no more than that it can be passed. -/
theorem leads_iff_of_name (hends : Path.endsAsDirectory path = false) :
    d.Leads path ↔ '\x00' ∉ path ∧ d.Passes (d.origin path) (Path.components path) := by
  constructor
  · exact fun h => ⟨h.noNull, h.passes⟩
  · rintro ⟨hnull, hpasses⟩
    refine ⟨hnull, ?_, hpasses, by simp [hends]⟩
    rintro rfl
    exact absurd hends (by decide)

/-- A file is written to the path, which names it. -/
structure Writes (d : Disk) (path : Text) (bytes : ByteArray) (d' : Disk) : Prop where
  named : Path.endsAsDirectory path = false
  leads : d.Leads path
  free : d.entry? (d.target path) ≠ some .directory
  written : d' = d.set (d.target path) (.file bytes)

theorem writeFile_eq_ok_iff : d.writeFile path bytes = .ok d' ↔ d.Writes path bytes d' := by
  have hwrites : d.Writes path bytes d' ↔ Path.endsAsDirectory path = false ∧ d.Leads path ∧
      d.entry? (d.target path) ≠ some .directory ∧ d' = d.set (d.target path) (.file bytes) :=
    ⟨fun h => ⟨h.named, h.leads, h.free, h.written⟩,
      fun ⟨named, leads, free, written⟩ => ⟨named, leads, free, written⟩⟩
  rw [hwrites, writeFile]
  cases hlocate : d.locate path with
  | error fault => simp [bind, Except.bind, leads_of_locate_error hlocate]
  | ok place =>
    obtain ⟨hplace, hleads⟩ := locate_eq_ok_iff.1 hlocate
    simp only [bind, Except.bind, hleads, true_and, ← hplace, eq_comm (a := d')]
    rcases d.entry_cases place with h | h | ⟨bytes', h⟩
    · by_cases hends : Path.endsAsDirectory path = true
      · simp [h, hends]
      · simp [h, hends]
    · simp [h]
    · have hends : Path.endsAsDirectory path = false := by
        by_contra hends
        have hfile := hleads.directory (by simpa using hends)
        rw [← hplace, file?_eq_some_iff.2 h] at hfile
        exact nomatch hfile
      simp [h, hends]

namespace Writes

theorem target_ne_nil (h : d.Writes path bytes d') : d.target path ≠ [] := by
  obtain ⟨names, name, hcomponents, -, hup⟩ := Path.exists_name h.named
  rw [target, hcomponents, Path.resolve_concat _ _ hup]
  simp

theorem file?_eq (h : d.Writes path bytes d') (p : Location) :
    d'.file? p = if p = d.target path then some bytes else d.file? p := by
  rw [h.written, file?_set h.target_ne_nil]

theorem here (h : d.Writes path bytes d') : d'.here = d.here := by
  rw [h.written]
  rfl

theorem directory (h : d.Writes path bytes d') (hdir : d.entry? p = some .directory) :
    d'.entry? p = some .directory := by
  rw [h.written, entry?_set h.target_ne_nil, if_neg]
  · exact hdir
  · rintro rfl
    exact h.free hdir

/-- The path still leads to the file. -/
theorem leads_after (h : d.Writes path bytes d') : d'.Leads path := by
  have hpasses : d'.Passes (d'.origin path) (Path.components path) := by
    rw [origin_congr h.here]
    exact h.leads.passes.mono fun _ => h.directory
  exact (leads_iff_of_name h.named).2 ⟨h.leads.noNull, hpasses⟩

theorem exists? (h : d.Writes path bytes d') : d'.exists? path = true := by
  have hfile := h.file?_eq (d.target path)
  rw [if_pos rfl, file?_eq_some_iff] at hfile
  refine exists?_iff.2 ⟨h.leads_after, ?_⟩
  rw [target_congr h.here, hfile]
  rfl

/-- A file is read again as it was written. -/
theorem readText {t : Text} (h : d.Writes path (encodeText t) d') : d'.readText path = .ok t := by
  refine readText_eq_ok_iff.2 ⟨h.leads_after, encodeText t, ?_, decodeText?_encodeText t⟩
  rw [target_congr h.here, h.file?_eq, if_pos rfl]

end Writes

theorem makeDirectories_grows (d : Disk) (path : Text) : d.Grows (d.makeDirectories path).1 := by
  rw [makeDirectories]
  split
  · exact .refl d
  · exact d.makeWay_grows _ _

/-- Putting a file makes directories, and then either fails or writes the file. -/
theorem putFile_cases (d : Disk) (path : Text) (bytes : ByteArray) :
    (∃ fault, d.putFile path bytes = ((d.makeDirectories (Path.parent path)).1, some fault)) ∨
    (d.makeDirectories (Path.parent path)).2 = none ∧
      ∃ written, d.putFile path bytes = (written, none) ∧
        Writes (d.makeDirectories (Path.parent path)).1 path bytes written := by
  rw [putFile]
  generalize d.makeDirectories (Path.parent path) = outcome
  obtain ⟨made, _ | fault⟩ := outcome
  · cases hwrite : made.writeFile path bytes with
    | error fault => exact .inl ⟨fault, by simp [hwrite]⟩
    | ok written =>
      exact .inr ⟨rfl, written, by simp [hwrite], writeFile_eq_ok_iff.1 hwrite⟩
  · exact .inl ⟨fault, rfl⟩

/-- A file that was put stands at the end of the directories that were made. -/
theorem putFile_writes (h : (d.putFile path bytes).2 = none) :
    ∃ made, d.Grows made ∧ made.Writes path bytes (d.putFile path bytes).1 := by
  rcases d.putFile_cases path bytes with ⟨fault, hfails⟩ | ⟨-, written, hok, hwrites⟩
  · exact nomatch h.symm.trans (congrArg Prod.snd hfails)
  · refine ⟨_, d.makeDirectories_grows (Path.parent path), ?_⟩
    rw [hok]
    exact hwrites

/-- Where no file could be put, there may be new directories. -/
theorem putFile_grows (h : (d.putFile path bytes).2 = some fault) :
    d.Grows (d.putFile path bytes).1 := by
  rcases d.putFile_cases path bytes with ⟨fault', hfails⟩ | ⟨-, written, hok, -⟩
  · exact hfails ▸ d.makeDirectories_grows _
  · exact nomatch (congrArg Prod.snd hok).symm.trans h

/-! ### What can be written -/

/-- A file can be written at the path: it ends with a name, no name is too long, the way meets no
file and not the place of the file itself, and no directory stands there. Directories that are
missing on the way are no obstacle. -/
structure Writable (d : Disk) (path : Text) : Prop where
  noNull : '\x00' ∉ path
  named : Path.endsAsDirectory path = false
  short : ∀ name ∈ Path.components path, name.byteLength ≤ maxNameLength
  started : d.entry? (d.origin path) = some .directory
  way : ∀ init, init <+: (Path.components path).dropLast →
    d.file? (Path.resolve (d.origin path) init) = none ∧
      Path.resolve (d.origin path) init ≠ d.target path
  free : d.entry? (d.target path) ≠ some .directory

theorem isComponent_and_noNull (h : '\x00' ∉ path) :
    ∀ name ∈ Path.components path, Path.IsComponent name ∧ '\x00' ∉ name := by
  intro name hname
  refine ⟨Path.isComponent_of_mem hname, fun hmem => h ?_⟩
  exact (Path.mem_iff_of_ne (by decide) (by decide)).2 ⟨name, hname, hmem⟩

theorem noNull_parent (h : '\x00' ∉ path) : '\x00' ∉ Path.parent path := by
  rw [Path.mem_iff_of_ne (by decide) (by decide), Path.components_parent]
  rintro ⟨name, hname, hmem⟩
  exact (isComponent_and_noNull h name (List.dropLast_subset _ hname)).2 hmem

theorem makeDirectories_parent (h : '\x00' ∉ path) :
    d.makeDirectories (Path.parent path) =
      d.makeWay (d.origin path) (Path.components path).dropLast := by
  rw [makeDirectories, if_neg (noNull_parent h), origin, Path.isAbsolute_parent,
    Path.components_parent, ← origin]

theorem makeWay_passes_iff (hd : d.Sound) (hplace : d.entry? place = some .directory)
    (hnames : ∀ name ∈ names, Path.IsComponent name ∧ '\x00' ∉ name)
    (h : (d.makeWay place names).2 = none) :
    Passes (d.makeWay place names).1 place (names ++ [name]) ↔
      name.byteLength ≤ maxNameLength := by
  have hshort := ((makeWay_ok_iff hd hplace hnames).1 h).1
  constructor
  · exact fun hpasses => (hpasses names name (List.prefix_refl _)).2
  · intro hname init next hpart
    rcases List.prefix_concat_iff.1 hpart with heq | hbefore
    · obtain ⟨rfl, hnext⟩ := List.append_inj' heq rfl
      obtain rfl : next = name := by simpa using hnext
      exact ⟨makeWay_directory hd hplace hnames h (List.prefix_refl _), hname⟩
    · have hinit : init <+: names := (List.prefix_append init [next]).trans hbefore
      exact ⟨makeWay_directory hd hplace hnames h hinit,
        hshort next (hbefore.subset (by simp))⟩

/-- **When a write succeeds.** -/
theorem putFile_ok_iff (hd : d.Sound) : (d.putFile path bytes).2 = none ↔ d.Writable path := by
  constructor
  · intro h
    rcases d.putFile_cases path bytes with ⟨fault, hfails⟩ | ⟨hway, written, -, hwrites⟩
    · exact nomatch h.symm.trans (congrArg Prod.snd hfails)
    have hnull := hwrites.leads.noNull
    have hgrows := d.makeDirectories_grows (Path.parent path)
    obtain ⟨names, name, hcomponents, -, hup⟩ := Path.exists_name hwrites.named
    have hnames := isComponent_and_noNull hnull
    have hpasses := hwrites.leads.passes
    have hfree := hwrites.free
    rw [target_congr hgrows.here] at hfree
    rw [origin_congr hgrows.here] at hpasses
    rw [makeDirectories_parent hnull, hcomponents, List.dropLast_concat] at hway hpasses hfree hgrows
    rw [hcomponents, List.forall_mem_append] at hnames
    have hstart : d.entry? (d.origin path) = some .directory := by
      cases names with
      | nil => exact (passes_cons.1 hpasses).1
      | cons first names => exact entry?_of_makeWay hway
    obtain ⟨hshort, hfiles⟩ := (makeWay_ok_iff hd hstart hnames.1).1 hway
    have hlast := (makeWay_passes_iff hd hstart hnames.1 hway).1 hpasses
    refine ⟨hnull, hwrites.named, ?_, hstart, ?_, fun hdir => hfree (hgrows.entry hdir)⟩
    · rw [hcomponents]
      exact List.forall_mem_append.2 ⟨hshort, List.forall_mem_singleton.2 hlast⟩
    · rw [hcomponents, List.dropLast_concat]
      intro init hinit
      refine ⟨hfiles init hinit, ?_⟩
      intro hmeets
      exact hfree (hmeets ▸ makeWay_directory hd hstart hnames.1 hway hinit)
  · intro h
    have hnull := h.noNull
    obtain ⟨names, name, hcomponents, -, hup⟩ := Path.exists_name h.named
    have hnames := isComponent_and_noNull hnull
    have hshort := h.short
    have hwayFree := h.way
    rw [hcomponents, List.forall_mem_append] at hnames hshort
    rw [hcomponents, List.dropLast_concat] at hwayFree
    have hway : (d.makeWay (d.origin path) names).2 = none :=
      (makeWay_ok_iff hd h.started hnames.1).2 ⟨hshort.1, fun init hinit => (hwayFree init hinit).1⟩
    have hgrows := d.makeWay_grows (d.origin path) names
    have hwrites : Writes (d.makeWay (d.origin path) names).1 path bytes
        ((d.makeWay (d.origin path) names).1.set (d.target path) (.file bytes)) := by
      refine ⟨h.named, (leads_iff_of_name h.named).2 ⟨hnull, ?_⟩, ?_, ?_⟩
      · rw [origin_congr hgrows.here, hcomponents, makeWay_passes_iff hd h.started hnames.1 hway]
        exact hshort.2 name List.mem_cons_self
      · rw [target_congr hgrows.here]
        rcases d.makeWay_entry? (d.origin path) names (d.target path) with hsame | ⟨init, hinit, hmeets⟩
        · exact hsame ▸ h.free
        · exact absurd hmeets.symm (hwayFree init hinit).2
      · rw [target_congr hgrows.here]
    rw [putFile, makeDirectories_parent hnull, hcomponents, List.dropLast_concat]
    generalize d.makeWay (d.origin path) names = outcome at hway hwrites
    obtain ⟨made, _ | fault⟩ := outcome
    · simp only [writeFile_eq_ok_iff.2 hwrites]
    · exact nomatch hway

/-! ### Below a root -/

@[simp] theorem origin_under (d : Disk) (root relative : Text) :
    d.origin (Path.under root relative) = d.origin root := by
  rw [origin, Path.isAbsolute_under, origin]

theorem target_under (d : Disk) (root relative : Text) :
    d.target (Path.under root relative) =
      Path.resolve (d.target root) (Path.components relative) := by
  rw [target, origin_under, Path.components_under, Path.resolve_append, target]

/-- The root does not go astray: it is a directory, or there is no way up in it. -/
def Straight (d : Disk) (root : Text) : Prop :=
  d.isDirectory root = true ∨ Path.up ∉ Path.components root

/-- A root stays straight as long as the directories stay. -/
theorem Straight.mono (hstraight : d.Straight root) (hhere : d'.here = d.here)
    (hkept : ∀ p, d.entry? p = some .directory → d'.entry? p = some .directory) :
    d'.Straight root := by
  rcases hstraight with hdirectory | hup
  · obtain ⟨hleads, hentry⟩ := isDirectory_iff.1 hdirectory
    have hafter : d'.entry? (d'.target root) = some .directory := by
      rw [target_congr hhere]
      exact hkept _ hentry
    refine .inl (isDirectory_iff.2 ⟨⟨hleads.noNull, hleads.nonempty, ?_, ?_⟩, hafter⟩)
    · rw [origin_congr hhere]
      exact hleads.passes.mono hkept
    · exact fun _ => file?_of_directory hafter
  · exact .inr hup

/-- On the way to the file at a straight root everything is passed. -/
theorem Straight.passes (hstraight : d.Straight root) (hd : d.Sound)
    (hentry : d.entry? (d.target root ++ names) = some e) :
    d.Passes (d.origin root) (Path.components root ++ names) := by
  rcases hstraight with hdirectory | hup
  · exact (isDirectory_iff.1 hdirectory).1.passes.append (hd.passes hentry)
  · rw [target, Path.resolve_of_up_not_mem _ hup, List.append_assoc] at hentry
    exact hd.passes hentry

theorem Straight.noNull (hstraight : d.Straight root) (hd : d.Sound)
    (hentry : d.entry? (d.target root ++ names) = some e) :
    ∀ name ∈ Path.components root ++ names, '\x00' ∉ name := by
  have hnamed := hd.named _ _ hentry
  intro name hname hnull
  rcases List.mem_append.1 hname with hname | hname
  · rcases hstraight with hdirectory | hup
    · refine (isDirectory_iff.1 hdirectory).1.noNull ?_
      exact (Path.mem_iff_of_ne (by decide) (by decide)).2 ⟨name, hname, hnull⟩
    · rw [target, Path.resolve_of_up_not_mem _ hup] at hnamed
      exact (hnamed name (by simp [hname])).noNull hnull
  · exact (hnamed name (List.mem_append_right _ hname)).noNull hnull

/-- At a straight root each file is found by its names. -/
theorem leads_under (hd : d.Sound) (hstraight : d.Straight root)
    (hne : Path.components relative ≠ [])
    (hfile : d.file? (d.target root ++ Path.components relative) = some bytes) :
    d.Leads (Path.under root relative) ∧
      d.target (Path.under root relative) = d.target root ++ Path.components relative := by
  have hentry := file?_eq_some_iff.1 hfile
  have hup : Path.up ∉ Path.components relative := fun hmem =>
    (hd.named _ _ hentry _ (List.mem_append_right _ hmem)).notUp rfl
  have hends := Path.endsAsDirectory_under root hne hup
  refine ⟨(leads_iff_of_name hends).2 ⟨?_, ?_⟩, ?_⟩
  · rw [Path.mem_iff_of_ne (by decide) (by decide), Path.components_under]
    rintro ⟨name, hname, hnull⟩
    exact hstraight.noNull hd hentry name hname hnull
  · rw [origin_under, Path.components_under]
    exact hstraight.passes hd hentry
  · rw [target_under, Path.resolve_of_up_not_mem _ hup]

/-- A root below which a path leads is a directory. -/
theorem isDirectory_of_leads_under (hroot : root ≠ []) (hne : Path.components relative ≠ [])
    (h : d.Leads (Path.under root relative)) : d.isDirectory root = true := by
  have hpasses := h.passes
  have hnull := h.noNull
  rw [Path.mem_iff_of_ne (by decide) (by decide), Path.components_under] at hnull
  rw [origin_under, Path.components_under] at hpasses
  have hdirectory : d.entry? (d.target root) = some .directory := by
    obtain ⟨name, names, hnames⟩ := List.exists_cons_of_ne_nil hne
    exact (hpasses (Path.components root) name (by simp [hnames])).1
  refine isDirectory_iff.2 ⟨⟨?_, hroot, hpasses.of_append, ?_⟩, hdirectory⟩
  · rw [Path.mem_iff_of_ne (by decide) (by decide)]
    rintro ⟨name, hname, hmem⟩
    exact hnull ⟨name, List.mem_append_left _ hname, hmem⟩
  · exact fun _ => file?_of_directory hdirectory

/-! ### Sound disks stay sound -/

namespace Sound

theorem makeDirectories (hd : d.Sound) (path : Text) : (d.makeDirectories path).1.Sound := by
  rw [Disk.makeDirectories]
  split
  · exact hd
  · rename_i hnull
    exact hd.makeWay (isComponent_and_noNull hnull)

theorem writes (hd : d.Sound) (h : d.Writes path bytes d') : d'.Sound := by
  obtain ⟨names, name, hcomponents, hname, hup⟩ := Path.exists_name h.named
  have htarget : d.target path = Path.resolve (d.origin path) names ++ [name] := by
    rw [target, hcomponents, Path.resolve_concat _ _ hup]
  have hpasses := h.leads.passes
  rw [hcomponents] at hpasses
  obtain ⟨hdir, hshort⟩ := hpasses names name (List.prefix_refl _)
  have hnull := (isComponent_and_noNull h.leads.noNull name (by simp [hcomponents])).2
  have hfree := h.free
  rw [h.written]
  rw [htarget] at hfree ⊢
  exact hd.set hdir { hname with notUp := hup, noNull := hnull, short := hshort } fun hdir' =>
    absurd hdir' hfree

theorem putFile (hd : d.Sound) (path : Text) (bytes : ByteArray) :
    (d.putFile path bytes).1.Sound := by
  have hmade := hd.makeDirectories (Path.parent path)
  rcases d.putFile_cases path bytes with ⟨fault, hfails⟩ | ⟨-, written, hok, hwrites⟩
  · exact hfails ▸ hmade
  · exact hok ▸ hmade.writes hwrites

/-- A file has nothing below it, so that it may be removed. -/
theorem removeFile (hd : d.Sound) (path : Text) : (d.removeFile path).Sound := by
  rw [Disk.removeFile]
  split
  · rename_i place _
    rcases d.entry_cases place with h | h | ⟨bytes, h⟩
    · simpa [h] using hd
    · simpa [h] using hd
    · simp only [h]
      rw [erase_eq]
      refine hd.keeping ?_
      intro p n hdir _ _
      rw [bne_iff_ne]
      rintro rfl
      exact nomatch hdir.symm.trans h
  · exact hd

theorem removeAll (hd : d.Sound) (path : Text) : (d.removeAll path).Sound := by
  rw [Disk.removeAll]
  split
  · rename_i place _
    have houtside : Sound (d.keeping fun p => !place.isPrefixOf p) := by
      refine hd.keeping ?_
      intro p n _ hkept _
      rw [Bool.not_eq_true', ← Bool.not_eq_true, List.isPrefixOf_iff_prefix] at hkept ⊢
      exact fun hbelow => hkept (hbelow.trans (List.prefix_append p [n]))
    exact houtside
  · exact hd

end Sound
end Slipbox.Disk
