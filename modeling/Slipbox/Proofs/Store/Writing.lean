import Mathlib.Logic.Function.Basic
import Slipbox.Proofs.Disk.Files
import Slipbox.Store

/-!
# The store over time

The store answers requests, and others change the disk between them. Whatever has happened, the
disk is sound (`Reached.sound`). On every such disk a write is an update of the files at one place,
or it fails and leaves all files as they are (`write_updates`).
-/

namespace Slipbox

namespace Disk

/-- Before anything is on it, a disk is sound. -/
theorem Sound.empty (here : Location) : Sound ⟨[], here⟩ := by
  have hentry : ∀ place e, Disk.entry? ⟨[], here⟩ place = some e → place = [] := by
    intro place e h
    cases place with
    | nil => rfl
    | cons name rest => exact nomatch h
  constructor
  · exact List.nodup_nil
  · exact fun _ => List.not_mem_nil
  · intro place e h
    simp [hentry place e h]
  · intro place name e h
    exact absurd (hentry _ e h) (by simp)

end Disk

namespace Store

variable {d d' : Disk} {root relative content s : Text} {bytes : ByteArray}

/-! ### What a write does to the disk -/

theorem writeBytes_fst :
    (writeBytes d root relative bytes).1 = (d.putFile (Path.under root relative) bytes).1 := by
  rw [writeBytes]
  split
  · rename_i h
    exact (congrArg Prod.fst h).symm
  · rename_i h
    exact (congrArg Prod.fst h).symm

theorem writeBytes_ok_iff : (writeBytes d root relative bytes).2 = .ok () ↔
    (d.putFile (Path.under root relative) bytes).2 = none := by
  rw [writeBytes]
  split
  · rename_i h
    simp [h]
  · rename_i h
    simp [h]

theorem write_fst : (write d root relative content).1 =
    (d.putFile (Path.under root relative) (encodeText content)).1 := writeBytes_fst

/-- **When the store can write.** -/
theorem write_ok_iff (hd : d.Sound) :
    (write d root relative content).2 = .ok () ↔ d.Writable (Path.under root relative) :=
  writeBytes_ok_iff.trans (Disk.putFile_ok_iff hd)

/-- A write that succeeds has made directories and then put the file. -/
theorem write_writes (h : (write d root relative content).2 = .ok ()) :
    ∃ made, d.Grows made ∧
      made.Writes (Path.under root relative) (encodeText content) (write d root relative content).1 := by
  rw [write_fst]
  exact Disk.putFile_writes (writeBytes_ok_iff.1 h)

/-- A write that fails has at most made directories. -/
theorem write_grows {e : StoreError} (h : (write d root relative content).2 = .error e) :
    d.Grows (write d root relative content).1 := by
  rw [write_fst]
  cases hput : (d.putFile (Path.under root relative) (encodeText content)).2 with
  | none => exact nomatch h.symm.trans (writeBytes_ok_iff.2 hput)
  | some fault => exact Disk.putFile_grows hput

/-- A write that succeeds updates the files at the place where its path leads. -/
theorem write_file? (h : (write d root relative content).2 = .ok ()) :
    (write d root relative content).1.file? =
      Function.update d.file? (d.target (Path.under root relative)) (some (encodeText content)) := by
  obtain ⟨made, hgrows, hwrites⟩ := write_writes h
  funext p
  rw [hwrites.file?_eq, Disk.target_congr hgrows.here, hgrows.file?_eq, Function.update_apply]

/-- Writing removes no directory, whether it succeeds or not. -/
theorem write_keeps (d : Disk) (root relative content : Text) :
    (write d root relative content).1.here = d.here ∧
      ∀ p, d.entry? p = some .directory →
        Disk.entry? (write d root relative content).1 p = some .directory := by
  cases houtcome : (write d root relative content).2 with
  | error e =>
    have hgrows := write_grows houtcome
    exact ⟨hgrows.here, fun p => hgrows.entry⟩
  | ok =>
    obtain ⟨made, hgrows, hwrites⟩ := write_writes houtcome
    exact ⟨hwrites.here.trans hgrows.here, fun p hp => hwrites.directory (hgrows.entry hp)⟩

/-! ### What a creation comes to -/

/-- The path of the file of a trimmed tag. -/
def notePath (root s : Text) : Text := Path.under root (s ++ noteExtension)

/-- What the note of a trimmed tag starts as. -/
def firstContent (s : Text) : Text := '@' :: s ++ ['\n']

/-- How the creation of the note of a trimmed tag comes out. -/
inductive Creates (d : Disk) (root s : Text) : Disk × Except StoreError NoteFile → Prop where
  | invalid (invalid : isValidTag s = false) : Creates d root s (d, .error (.invalidTag s))
  | present (valid : isValidTag s = true) (present : d.exists? (notePath root s) = true) :
      Creates d root s (d, .error (.alreadyExists (notePath root s)))
  | failed {e : StoreError} (valid : isValidTag s = true)
      (absent : d.exists? (notePath root s) = false)
      (failed : (write d root (s ++ noteExtension) (firstContent s)).2 = .error e) :
      Creates d root s ((write d root (s ++ noteExtension) (firstContent s)).1, .error e)
  | written (valid : isValidTag s = true) (absent : d.exists? (notePath root s) = false)
      (written : (write d root (s ++ noteExtension) (firstContent s)).2 = .ok ()) :
      Creates d root s
        ((write d root (s ++ noteExtension) (firstContent s)).1, .ok (NoteFile.forTag s))

theorem creates (d : Disk) (root tag : Text) :
    Creates d root (Text.trim tag) (create d root tag) := by
  unfold create
  generalize Text.trim tag = s
  have hpath : Path.under root (NoteFile.forTag s).path = notePath root s := rfl
  have hwrite : write d root (NoteFile.forTag s).path ('@' :: s ++ ['\n']) =
      write d root (s ++ noteExtension) (firstContent s) := rfl
  simp only [hpath, hwrite, Bool.not_eq_true']
  split
  · rename_i hinvalid
    exact .invalid hinvalid
  rename_i hvalid
  rw [Bool.not_eq_false] at hvalid
  split
  · rename_i hpresent
    exact .present hvalid hpresent
  rename_i habsent
  rw [Bool.not_eq_true] at habsent
  cases houtcome : (write d root (s ++ noteExtension) (firstContent s)).2 with
  | error e => exact .failed hvalid habsent houtcome
  | ok => exact .written hvalid habsent houtcome

/-! ### Sound disks -/

theorem write_sound (hd : d.Sound) : (write d root relative content).1.Sound := by
  rw [write_fst]
  exact hd.putFile _ _

theorem create_sound (hd : d.Sound) (tag : Text) : (create d root tag).1.Sound := by
  have hcreates := creates d root tag
  generalize create d root tag = outcome at hcreates ⊢
  cases hcreates with
  | invalid | present => exact hd
  | failed | written => exact write_sound hd

/-! ### Histories -/

/-- What the store is asked for. -/
inductive Request where
  | create (tag : Text)
  | write (relative content : Text)
  | read (relative : Text)
  | readNote (file : NoteFile)
  | scan
  | loadAll
  | validate (path : Text)

/-- What the store answers. -/
inductive Reply where
  | created (outcome : Except StoreError NoteFile)
  | written (outcome : Except StoreError Unit)
  | text (outcome : Except StoreError Text)
  | note (outcome : Except StoreError Note)
  | files (outcome : Except StoreError (List NoteFile))
  | notes (outcome : Except StoreError (List Note))
  | validated (outcome : Except StoreError Unit)

/-- The disk after a request, and the answer. -/
def serve (root : Text) (d : Disk) : Request → Disk × Reply
  | .create tag => ((create d root tag).1, .created (create d root tag).2)
  | .write relative content =>
    ((write d root relative content).1, .written (write d root relative content).2)
  | .read relative => (d, .text (read d root relative))
  | .readNote file => (d, .note (readNote d root file))
  | .scan => (d, .files (scan d root))
  | .loadAll => (d, .notes (loadAll d root))
  | .validate path => (d, .validated (validate d path))

/-- Whether the request only asks for what is there. -/
def Request.isReading : Request → Bool
  | .create _ | .write _ _ => false
  | _ => true

/-- What others do to the disk. -/
inductive Change where
  | putFile (path : Text) (bytes : ByteArray)
  | makeDirectories (path : Text)
  | removeFile (path : Text)
  | removeAll (path : Text)

def Change.apply (d : Disk) : Change → Disk
  | .putFile path bytes => (d.putFile path bytes).1
  | .makeDirectories path => (d.makeDirectories path).1
  | .removeFile path => d.removeFile path
  | .removeAll path => d.removeAll path

/-- The disks that come about when the store serves requests and others change the disk. -/
inductive Reached (root : Text) : Disk → Prop where
  | start {d : Disk} (h : d.Sound) : Reached root d
  | served {d : Disk} (h : Reached root d) (request : Request) : Reached root (serve root d request).1
  | changed {d : Disk} (h : Reached root d) (change : Change) : Reached root (change.apply d)

theorem serve_sound (hd : d.Sound) (request : Request) : (serve root d request).1.Sound := by
  cases request with
  | create tag => exact create_sound hd tag
  | write relative content => exact write_sound hd
  | read | readNote | scan | loadAll | validate => exact hd

theorem Change.apply_sound (hd : d.Sound) (change : Change) : (change.apply d).Sound := by
  cases change with
  | putFile path bytes => exact hd.putFile path bytes
  | makeDirectories path => exact hd.makeDirectories path
  | removeFile path => exact hd.removeFile path
  | removeAll path => exact hd.removeAll path

theorem Reached.sound (h : Reached root d) : d.Sound := by
  induction h with
  | start h => exact h
  | served _ request ih => exact serve_sound ih request
  | changed _ change ih => exact change.apply_sound ih

/-! ### Writing as an update -/

/-- A file that was written is read as it was written. -/
theorem read_of_writes {made : Disk}
    (h : made.Writes (Path.under root relative) (encodeText content) d') :
    read d' root relative = .ok content := by
  rw [read, if_pos h.exists?, h.readText]
  rfl

/-- **Writing updates the files at one place, or leaves all of them as they are.** The place is
where the components lead one by one. A write succeeds when the path can be written; then the
text is read again, and the files are those from before with one update. A write that fails can
only have made directories, and requests that only read leave the disk as it is. -/
theorem write_updates (h : Reached root d) (relative content : Text) :
    let path := Path.under root relative
    let place := Path.resolve (d.origin root) (Path.components root ++ Path.components relative)
    let outcome := write d root relative content
    (outcome.2 = .ok () ↔ d.Writable path) ∧
    (outcome.2 = .ok () → read outcome.1 root relative = .ok content ∧
      outcome.1.file? = Function.update d.file? place (some (encodeText content))) ∧
    (∀ e, outcome.2 = .error e → d.Grows outcome.1 ∧ outcome.1.file? = d.file?) ∧
    ∀ request : Request, request.isReading = true → (serve root d request).1 = d := by
  intro path place outcome
  have hplace : d.target path = place := by
    rw [Disk.target_under, Disk.target, ← Path.resolve_append]
  refine ⟨write_ok_iff h.sound, ?_, ?_, ?_⟩
  · intro hok
    obtain ⟨made, -, hwrites⟩ := write_writes hok
    exact ⟨read_of_writes hwrites, hplace ▸ write_file? hok⟩
  · intro e herror
    have hgrows := write_grows herror
    exact ⟨hgrows, funext hgrows.file?_eq⟩
  · intro request hreading
    cases request with
    | create | write => exact absurd hreading Bool.false_ne_true
    | read | readNote | scan | loadAll | validate => rfl

/-- A path may go through a directory that is missing, and up again to a file that is there. -/
theorem write_updates_behind_missing_directory :
    let root : Text := "/n".toList
    let relative : Text := "b/../a.zettel".toList
    let d := (Change.putFile "/n/a.zettel".toList (encodeText "@a\n".toList)).apply ⟨[], []⟩
    let outcome := write d root relative "@b\n".toList
    Reached root d ∧ outcome.2 = .ok () ∧ read outcome.1 root relative = .ok "@b\n".toList ∧
      outcome.1.file? = Function.update d.file? ["n".toList, "a.zettel".toList]
        (some (encodeText "@b\n".toList)) := by
  intro root relative d outcome
  have hreached : Reached root d := .changed (.start (Disk.Sound.empty [])) _
  have hok : outcome.2 = .ok () := rfl
  obtain ⟨-, hwritten, -, -⟩ := write_updates hreached relative "@b\n".toList
  obtain ⟨hread, hfiles⟩ := hwritten hok
  exact ⟨hreached, hok, hread, hfiles⟩

end Store
end Slipbox
