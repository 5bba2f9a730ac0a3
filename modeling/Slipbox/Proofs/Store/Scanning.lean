import Mathlib.Data.List.Nodup
import Slipbox.Proofs.Markup.Rules
import Slipbox.Proofs.Store.Creation

/-!
# Scanning and loading

A scan lists the note files below the root, all of them, each once, in the order of the bytes of
their components (`Listing`). Loading gives the notes of those files that hold text, in the same
order (`Loading`). The entries of a sound disk are a tree, so that the path of each listed file leads
to that file.
-/

namespace Slipbox

/-! ### Files below a directory -/

namespace Disk

variable {d : Disk} {place : Location} {names : List Text}

/-- The text of the file at a location. -/
def text? (d : Disk) (place : Location) : Option Text := (d.file? place).bind decodeText?

/-- The names of an entry from a directory on, if it is a file below it. -/
def fileBelow? (place : Location) : Location × Entry → Option (List Text)
  | (at_, .file _) => if place.isPrefixOf at_ then some (at_.drop place.length) else none
  | (_, .directory) => none

theorem fileBelow?_eq_some_iff {at_ : Location} {e : Entry} :
    fileBelow? place (at_, e) = some names ↔ at_ = place ++ names ∧ ∃ bytes, e = .file bytes := by
  cases e with
  | directory => simp [fileBelow?]
  | file bytes =>
    simp only [fileBelow?, Option.ite_none_right_eq_some, List.isPrefixOf_iff_prefix,
      Option.some.injEq, Entry.file.injEq, exists_eq', and_true]
    constructor
    · rintro ⟨⟨rest, rfl⟩, hdrop⟩
      rw [← hdrop, List.drop_left]
    · rintro rfl
      exact ⟨List.prefix_append place names, List.drop_left⟩

theorem filesBelow_eq (d : Disk) (place : Location) :
    d.filesBelow place = d.entries.filterMap (fileBelow? place) := by
  rw [filesBelow]
  congr 1
  funext ⟨at_, e⟩
  cases e <;> rfl

theorem mem_filesBelow_iff (hd : d.Sound) :
    names ∈ d.filesBelow place ↔ ∃ bytes, d.file? (place ++ names) = some bytes := by
  simp only [filesBelow_eq, List.mem_filterMap, ← hd.file_mem_iff]
  constructor
  · rintro ⟨⟨at_, e⟩, hmem, hbelow⟩
    obtain ⟨rfl, bytes, rfl⟩ := fileBelow?_eq_some_iff.1 hbelow
    exact ⟨bytes, hmem⟩
  · rintro ⟨bytes, hmem⟩
    exact ⟨_, hmem, fileBelow?_eq_some_iff.2 ⟨rfl, bytes, rfl⟩⟩

/-- No file is met twice. -/
theorem nodup_filesBelow (hd : d.Sound) : (d.filesBelow place).Nodup := by
  rw [filesBelow_eq, List.Nodup, List.pairwise_filterMap]
  refine (List.pairwise_map.1 hd.once).imp ?_
  intro x y hne names hx names' hy heq
  have hat := (fileBelow?_eq_some_iff.1 hx).1
  rw [heq, ← (fileBelow?_eq_some_iff.1 hy).1] at hat
  exact hne hat

end Disk

namespace Store

variable {d : Disk} {root : Text} {names : List Text} {file : NoteFile} {files : List NoteFile}

theorem endsAsNote_iff :
    endsAsNote names = true ↔ ∃ folders stem, names = folders ++ [stem ++ noteExtension] := by
  constructor
  · intro h
    rw [endsAsNote] at h
    split at h
    · rename_i name hname
      obtain ⟨stem, hstem⟩ := Option.isSome_iff_exists.1 h
      obtain ⟨folders, rfl⟩ := List.getLast?_eq_some_iff.1 hname
      exact ⟨folders, stem, by rw [Text.dropTail?_eq_some_iff.1 hstem]⟩
    · exact nomatch h
  · rintro ⟨folders, stem, rfl⟩
    have hstem : Text.dropTail? noteExtension (stem ++ noteExtension) = some stem :=
      Text.dropTail?_eq_some_iff.2 rfl
    simp [endsAsNote, hstem]

/-! ### The order of names -/

theorem namesLe_iff {a b : List Text} : namesLe a b = true ↔ a < b ∨ a = b := by
  rw [namesLe, Bool.not_eq_true', decide_eq_false_iff_not]
  exact List.not_lt.trans List.le_iff_lt_or_eq

theorem namesLe_trans {a b c : List Text} (hab : namesLe a b = true) (hbc : namesLe b c = true) :
    namesLe a c = true := by
  rw [namesLe_iff] at hab hbc ⊢
  rcases hab with hab | rfl
  · rcases hbc with hbc | rfl
    · exact .inl (List.lt_trans hab hbc)
    · exact .inl hab
  · exact hbc

theorem namesLe_total (a b : List Text) : (namesLe a b || namesLe b a) = true := by
  rw [Bool.or_eq_true, namesLe_iff, namesLe_iff]
  exact (List.le_total a b).imp List.le_iff_lt_or_eq.1 List.le_iff_lt_or_eq.1

/-- Names in their order have the bytes of their components in order. -/
theorem map_bytes_lt {a b : List Text} (h : a < b) : a.map Text.bytes < b.map Text.bytes := by
  induction a generalizing b with
  | nil =>
    cases b with
    | nil => exact nomatch h
    | cons name b => exact List.nil_lt_cons _ _
  | cons name a ih =>
    cases b with
    | nil => exact nomatch h
    | cons other b =>
      rw [List.map_cons, List.map_cons, List.cons_lt_cons_iff]
      rcases List.cons_lt_cons_iff.1 h with hlt | ⟨rfl, hrest⟩
      · exact .inl (Text.bytes_lt hlt)
      · exact .inr ⟨rfl, ih hrest⟩

/-! ### Scanning -/

/-- The names of all note files below the root, in their order. -/
def noteNames (d : Disk) (root : Text) : List (List Text) :=
  ((d.filesBelow (d.target root)).filter endsAsNote).mergeSort namesLe

theorem scan_eq (hroot : d.isDirectory root = true) :
    scan d root = .ok ((noteNames d root).map fun names => ⟨Path.ofComponents names⟩) := by
  obtain ⟨hleads, hentry⟩ := Disk.isDirectory_iff.1 hroot
  rw [scan, Disk.locate_eq_ok_iff.2 ⟨rfl, hleads⟩]
  simp [hentry, noteNames]

theorem mem_noteNames_iff (hd : d.Sound) : names ∈ noteNames d root ↔
    endsAsNote names = true ∧ ∃ bytes, d.file? (d.target root ++ names) = some bytes := by
  rw [noteNames, List.mem_mergeSort, List.mem_filter, Disk.mem_filesBelow_iff hd, and_comm]

theorem pairwise_noteNames (hd : d.Sound) : (noteNames d root).Pairwise (· < ·) := by
  have hsorted : (noteNames d root).Pairwise (namesLe · · = true) := by
    refine List.pairwise_mergeSort ?_ namesLe_total _
    exact fun _ _ _ => namesLe_trans
  have hnodup : (noteNames d root).Nodup :=
    (List.mergeSort_perm _ _).nodup_iff.2 ((Disk.nodup_filesBelow hd).filter _)
  refine (hsorted.and hnodup).imp ?_
  rintro a b ⟨hle, hne⟩
  exact (namesLe_iff.1 hle).resolve_right hne

/-- The names of a listed file may stand in a path. -/
theorem isComponent_of_file (hd : d.Sound) {bytes : ByteArray}
    (hfile : d.file? (d.target root ++ names) = some bytes) :
    ∀ name ∈ names, Path.IsComponent name := fun name hname =>
  (hd.named _ _ (Disk.file?_eq_some_iff.1 hfile) name (List.mem_append_right _ hname)).toIsComponent

theorem components_of_file (hd : d.Sound) {bytes : ByteArray}
    (hfile : d.file? (d.target root ++ names) = some bytes) :
    Path.components (Path.ofComponents names) = names :=
  Path.components_ofComponents (isComponent_of_file hd hfile)

/-- The components of a path in bytes. -/
def byteNames (path : Text) : List (List UInt8) := (Path.components path).map Text.bytes

/-- The files are the notes below the root, all of them and each once, in the order of the bytes
of their components. -/
structure Listing (d : Disk) (root : Text) (files : List NoteFile) : Prop where
  mem : ∀ file, file ∈ files ↔ ∃ folders stem bytes,
    file = ⟨Path.ofComponents (folders ++ [stem ++ noteExtension])⟩ ∧
      d.file? (d.target root ++ (folders ++ [stem ++ noteExtension])) = some bytes
  increasing : files.Pairwise fun a b => byteNames a.path < byteNames b.path

/-- What lies in a folder comes before what continues its name. -/
example : byteNames "a/b.zettel".toList < byteNames "a-b.zettel".toList := by decide

theorem listing (hd : d.Sound) :
    Listing d root ((noteNames d root).map fun names => ⟨Path.ofComponents names⟩) := by
  constructor
  · intro file
    simp only [List.mem_map, mem_noteNames_iff hd, endsAsNote_iff]
    constructor
    · rintro ⟨names, ⟨⟨folders, stem, rfl⟩, bytes, hfile⟩, rfl⟩
      exact ⟨folders, stem, bytes, rfl, hfile⟩
    · rintro ⟨folders, stem, bytes, rfl, hfile⟩
      exact ⟨_, ⟨⟨folders, stem, rfl⟩, bytes, hfile⟩, rfl⟩
  · rw [List.pairwise_map]
    refine (pairwise_noteNames hd).imp_of_mem ?_
    intro a b ha hb hlt
    obtain ⟨-, bytes, hfile⟩ := (mem_noteNames_iff hd).1 ha
    obtain ⟨-, bytes', hfile'⟩ := (mem_noteNames_iff hd).1 hb
    rw [byteNames, byteNames, components_of_file hd hfile, components_of_file hd hfile']
    exact map_bytes_lt hlt

/-! ### Loading -/

/-- The text of a note file. -/
def text? (d : Disk) (root : Text) (file : NoteFile) : Option Text :=
  d.text? (d.target root ++ Path.components file.path)

theorem ofBody_spec (file : NoteFile) (body : Text) :
    (Note.ofBody file body).file = file ∧ (Note.ofBody file body).body = body ∧
      Markup.parseDocument body = .ok (Note.ofBody file body).nodes ∧ (Note.ofBody file body).error = none := by
  obtain ⟨nodes, hchain⟩ := Markup.exists_chain_node body
  have hparse : Markup.parseDocument body = .ok nodes := Markup.parseDocument_eq_ok_iff.2 hchain
  simp [Note.ofBody, hparse]

theorem nodes_ofBody {file : NoteFile} {body : Text} {nodes : List Markup.Node}
    (h : Markup.parseDocument body = .ok nodes) : (Note.ofBody file body).nodes = nodes := by
  obtain ⟨-, -, hparse, -⟩ := ofBody_spec file body
  exact Except.ok.inj (hparse.symm.trans h)

/-- A file that stands below the root is read if it holds text. -/
theorem toOption_readNote (hd : d.Sound) (hroot : d.isDirectory root = true)
    (hne : Path.components file.path ≠ []) {bytes : ByteArray}
    (hfile : d.file? (d.target root ++ Path.components file.path) = some bytes) :
    (readNote d root file).toOption = (text? d root file).map (Note.ofBody file) := by
  obtain ⟨hleads, htarget⟩ := Disk.leads_under hd (.inl hroot) hne hfile
  have hexists : d.exists? (Path.under root file.path) = true := by
    refine Disk.exists?_iff.2 ⟨hleads, ?_⟩
    rw [htarget, Disk.file?_eq_some_iff.1 hfile]
    rfl
  have htext : ∀ t, d.readText (Path.under root file.path) = .ok t ↔ decodeText? bytes = some t := by
    intro t
    rw [Disk.readText_eq_ok_iff, htarget, hfile]
    simp [hleads]
  rw [readNote, read, if_pos hexists, text?, Disk.text?, hfile, Option.bind_some]
  cases hread : d.readText (Path.under root file.path) with
  | ok t => simp [(htext t).1 hread, Except.mapError, Except.map, Except.toOption]
  | error fault =>
    cases hdecode : decodeText? bytes with
    | none => rfl
    | some t =>
      rw [(htext t).2 hdecode] at hread
      cases hread

/-- The notes are those of the files that hold text, in the order of the files, each with its text
and the nodes of that text. -/
structure Loading (d : Disk) (root : Text) (files : List NoteFile) (notes : List Note) : Prop where
  files : notes.map (·.file) = files.filter fun file => (text? d root file).isSome
  body : ∀ note ∈ notes, text? d root note.file = some note.body
  nodes : ∀ note ∈ notes, Markup.parseDocument note.body = .ok note.nodes ∧ note.error = none

theorem loading (d : Disk) (root : Text) (files : List NoteFile) :
    Loading d root files (files.filterMap fun file => (text? d root file).map (Note.ofBody file)) := by
  have hnote : ∀ note ∈ files.filterMap fun file => (text? d root file).map (Note.ofBody file),
      ∃ file body, text? d root file = some body ∧ note = Note.ofBody file body := by
    intro note hmem
    obtain ⟨file, -, hnote⟩ := List.mem_filterMap.1 hmem
    obtain ⟨body, hbody, rfl⟩ := Option.map_eq_some_iff.1 hnote
    exact ⟨file, body, hbody, rfl⟩
  constructor
  · rw [List.map_filterMap, ← List.filterMap_eq_filter]
    congr 1
    funext file
    cases hbody : text? d root file with
    | none => simp [Option.guard, hbody]
    | some body => simp [Option.guard, hbody, (ofBody_spec file body).1]
  · intro note hmem
    obtain ⟨file, body, hbody, rfl⟩ := hnote note hmem
    rw [(ofBody_spec file body).1, (ofBody_spec file body).2.1, hbody]
  · intro note hmem
    obtain ⟨file, body, hbody, rfl⟩ := hnote note hmem
    rw [(ofBody_spec file body).2.1]
    exact (ofBody_spec file body).2.2

theorem listed_and_loaded (hd : d.Sound) (hroot : d.isDirectory root = true) :
    ∃ files notes, scan d root = .ok files ∧ loadAll d root = .ok notes ∧ Listing d root files ∧
      Loading d root files notes := by
  have hlisting : Listing d root _ := listing hd
  refine ⟨_, _, scan_eq hroot, ?_, hlisting, loading d root _⟩
  rw [loadAll, scan_eq hroot, Except.map]
  congr 1
  refine List.filterMap_congr fun file hfile => ?_
  obtain ⟨folders, stem, bytes, rfl, hbytes⟩ := (hlisting.mem file).1 hfile
  have hcomponents := components_of_file hd hbytes
  rw [← hcomponents] at hbytes
  exact toOption_readNote hd hroot (by simp [hcomponents]) hbytes

/-- A file is listed once, and loaded once with the given text. -/
structure Found (d : Disk) (root : Text) (file : NoteFile) (body : Text) : Prop where
  listed : ∃ files, scan d root = .ok files ∧ files.count file = 1
  loaded : ∃ notes, loadAll d root = .ok notes ∧ (notes.map (·.file)).count file = 1 ∧
    ∀ note ∈ notes, note.file = file → note.body = body

theorem found (hd : d.Sound) (hroot : d.isDirectory root = true) {folders : List Text}
    {stem body : Text}
    (hfile : d.file? (d.target root ++ (folders ++ [stem ++ noteExtension])) =
      some (encodeText body)) :
    Found d root ⟨Path.ofComponents (folders ++ [stem ++ noteExtension])⟩ body := by
  obtain ⟨files, notes, hscan, hload, hlisting, hloading⟩ := listed_and_loaded hd hroot
  have hnodup : files.Nodup := by
    refine hlisting.increasing.imp ?_
    rintro a b hlt rfl
    exact List.lt_irrefl _ hlt
  have hcount := List.count_eq_one_of_mem hnodup
    ((hlisting.mem _).2 ⟨folders, stem, encodeText body, rfl, hfile⟩)
  have htext : text? d root ⟨Path.ofComponents (folders ++ [stem ++ noteExtension])⟩ = some body := by
    rw [text?, components_of_file hd hfile, Disk.text?, hfile, Option.bind_some,
      decodeText?_encodeText]
  refine ⟨⟨files, hscan, hcount⟩, notes, hload, ?_, ?_⟩
  · rw [hloading.files, List.count_filter (by simp [htext]), hcount]
  · intro note hmem heq
    have hbody := hloading.body note hmem
    rw [heq, htext] at hbody
    exact (Option.some.inj hbody).symm

end Store
end Slipbox
