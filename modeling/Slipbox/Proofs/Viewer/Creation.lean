import Slipbox.Proofs.Store.Creation
import Slipbox.Proofs.Viewer.Session

/-!
# Creating notes by keys

Only one key touches the disk: the one that creates a note while browsing. On a straight root it
never replaces a file, so that a run of keys keeps all files. On a root that goes astray it can
replace one (`creation_replaces_file`).
-/

namespace Slipbox

namespace Viewer

variable {d : Disk} {s after : Session} {root : Text}

namespace Session

/-! ### Moving the selection -/

/-- Nothing changes but the selection and the place from which the list is shown. -/
structure Moves (s after : Session) : Prop where
  root : after.root = s.root
  notes : after.notes = s.notes
  query : after.query = s.query
  unique : after.unique = s.unique
  listed : after.listed = s.listed
  mode : after.mode = s.mode
  status : after.status = s.status

theorem moves_self (s : Session) : s.Moves s := ⟨rfl, rfl, rfl, rfl, rfl, rfl, rfl⟩

theorem moves_select (s : Session) (place : Option Nat) : s.Moves (s.select place) :=
  ⟨rfl, rfl, rfl, rfl, rfl, rfl, rfl⟩

theorem moves_next (s : Session) : s.Moves s.next := by
  rw [next]
  split
  · exact s.moves_self
  · split
    · exact s.moves_select _
    · exact s.moves_select _

theorem moves_previous (s : Session) : s.Moves s.previous := by
  rw [previous]
  split
  · exact s.moves_self
  · split
    · exact s.moves_select _
    · exact s.moves_select _

theorem moves_selectFile (s : Session) (file : NoteFile) : s.Moves (s.selectFile file) := by
  rw [selectFile]
  split
  · exact s.moves_select _
  · exact s.moves_self

/-! ### The root of a session -/

theorem reload_root (d : Disk) (s : Session) : (s.reload d).root = s.root := by
  rw [reload]
  split
  · rfl
  · rfl

theorem finishCreate_root (d : Disk) (s : Session) (file : NoteFile) :
    (s.finishCreate d file).root = s.root := by
  rw [finishCreate]
  split
  · rfl
  · exact (moves_selectFile _ file).root

theorem createNote_root (d : Disk) (s : Session) : (s.createNote d).2.root = s.root := by
  rw [createNote_eq]
  split
  · rfl
  · exact finishCreate_root _ s _

theorem editQuery_root (s : Session) (key : Key) : (s.editQuery key).root = s.root := by
  cases key <;> rfl

theorem press_root (d : Disk) (s : Session) (key : Key) : (s.press d key).2.root = s.root := by
  unfold press
  split
  · exact s.editQuery_root key
  · unfold browse
    split
    · exact (moves_next _).root
    · exact (moves_next _).root
    · exact (moves_previous _).root
    · exact (moves_previous _).root
    · rfl
    · rfl
    · exact createNote_root d _
    · exact reload_root d _
    · rfl

/-! ### The disk of a session -/

theorem createNote_fst (d : Disk) (s : Session) :
    (s.createNote d).1 = (Store.create d s.root (newTag s.query)).1 := by
  rw [createNote_eq]
  split
  · rename_i h
    exact (congrArg Prod.fst h).symm
  · rename_i h
    exact (congrArg Prod.fst h).symm

/-- The tag that a note is created from. -/
def tag (s : Session) : Text := Text.trim (newTag s.query)

/-- Whether the key creates a note. -/
def Creates (s : Session) (key : Key) : Prop := s.mode = .browse ∧ key = .char 'n'

theorem press_fst_of_not_creates {key : Key} (h : ¬ s.Creates key) : (s.press d key).1 = d := by
  unfold press
  split
  · rfl
  · rename_i hmode
    unfold browse
    split
    · rfl
    · rfl
    · rfl
    · rfl
    · rfl
    · rfl
    · exact absurd ⟨hmode, rfl⟩ h
    · rfl
    · rfl

theorem press_fst_of_creates {key : Key} (h : s.Creates key) :
    (s.press d key).1 = (Store.create d s.root (newTag s.query)).1 := by
  obtain ⟨hmode, rfl⟩ := h
  rw [press, hmode]
  exact createNote_fst d _

/-- What a key does to the disk: at most one file is put, and on a straight root it is a new one. -/
theorem press_file? (hd : d.Sound) (s : Session) (key : Key) :
    (s.press d key).1.file? = d.file? ∨ ∃ place bytes,
      (s.press d key).1.file? = Function.update d.file? place (some bytes) ∧
        (d.Straight s.root → d.file? place = none) := by
  by_cases hkey : s.Creates key
  · rw [press_fst_of_creates hkey]
    cases houtcome : (Store.create d s.root (newTag s.query)).2 with
    | error e => exact .inl (Store.file?_of_create_error houtcome)
    | ok file =>
      have hcreated := Store.created_of_create hd houtcome
      exact .inr ⟨_, _, hcreated.files, hcreated.new⟩
  · rw [press_fst_of_not_creates hkey]
    exact .inl rfl

theorem press_sound (hd : d.Sound) (s : Session) (key : Key) : (s.press d key).1.Sound := by
  by_cases hkey : s.Creates key
  · rw [press_fst_of_creates hkey]
    exact Store.create_sound hd _
  · rw [press_fst_of_not_creates hkey]
    exact hd

theorem press_straight (h : d.Straight s.root) (key : Key) :
    (s.press d key).1.Straight (s.press d key).2.root := by
  rw [press_root]
  by_cases hkey : s.Creates key
  · rw [press_fst_of_creates hkey]
    exact Store.create_straight h _
  · rw [press_fst_of_not_creates hkey]
    exact h

/-- Keys one after another. -/
def pressAll (d : Disk) (s : Session) : List Key → Disk × Session
  | [] => (d, s)
  | key :: keys => pressAll (s.press d key).1 (s.press d key).2 keys

/-- On a straight root no run of keys changes or removes a file. -/
theorem file?_pressAll (hd : d.Sound) (h : d.Straight s.root) (keys : List Key) {p : Location}
    {bytes : ByteArray} (hfile : d.file? p = some bytes) :
    (s.pressAll d keys).1.file? p = some bytes := by
  induction keys generalizing d s with
  | nil => exact hfile
  | cons key keys ih =>
    refine ih (press_sound hd s key) (press_straight h key) ?_
    rcases press_file? hd s key with hsame | ⟨place, bytes', hput, hnew⟩
    · rw [hsame, hfile]
    · have hne : p ≠ place := by
        rintro rfl
        exact nomatch (hnew h).symm.trans hfile
      rw [hput, Function.update_of_ne hne, hfile]

end Session

/-! ### Creating -/

/-- **Creating adds one file, directly below the root, or leaves all files as they are.** It
succeeds just when the trimmed tag can name a note, the path of its file leads to nothing and can
be written. While the file is there, the note is not created again. Keys write only to create a
note, one file at most. Files are never replaced, as long as the root does not go astray. -/
theorem creation (h : Store.Reached root d) :
    (∀ tag, let s := Text.trim tag
      let outcome := Store.create d root tag
      ((∃ file, outcome.2 = .ok file) ↔ s ≠ [] ∧ '/' ∉ s ∧ '\\' ∉ s ∧ '\n' ∉ s ∧
        d.exists? (Store.notePath root s) = false ∧ d.Writable (Store.notePath root s)) ∧
      (∀ file, outcome.2 = .ok file → Store.Created d root s file outcome.1 ∧
        ∀ again, Text.trim again = s → Store.create outcome.1 root again =
          (outcome.1, .error (.alreadyExists (Store.notePath root s)))) ∧
      (∀ e, outcome.2 = .error e → outcome.1.file? = d.file?) ∧
      (Store.isValidTag s = true → d.exists? (Store.notePath root s) = true →
        outcome = (d, .error (.alreadyExists (Store.notePath root s)))) ∧
      (Store.isValidTag s = true → (d.file? (Store.notePlace d root s)).isSome = true →
        (d.exists? (Store.notePath root s) = true ↔ d.Straight root))) ∧
    ∀ s : Session, s.root = root →
      (∀ key, ¬ s.Creates key → (s.press d key).1 = d) ∧
      (∀ key, (s.press d key).1.file? = d.file? ∨ ∃ place bytes,
        (s.press d key).1.file? = Function.update d.file? place (some bytes) ∧
          (d.Straight root → d.file? place = none)) ∧
      (d.Straight root → ∀ keys p bytes, d.file? p = some bytes →
        (s.pressAll d keys).1.file? p = some bytes) := by
  have hd := h.sound
  constructor
  · intro tag s outcome
    refine ⟨?_, ?_, fun e => Store.file?_of_create_error, Store.create_of_present, ?_⟩
    · rw [Store.create_ok_iff hd, Store.isValidTag_iff, and_assoc, and_assoc, and_assoc]
    · intro file hok
      have hvalid := ((Store.create_ok_iff hd).1 ⟨file, hok⟩).1
      have hcreated := Store.created_of_create hd hok
      refine ⟨hcreated, fun again hagain => ?_⟩
      have hpath : Store.notePath root s = Store.notePath root (Text.trim again) := by rw [hagain]
      rw [hpath]
      exact Store.create_of_present (hagain ▸ hvalid) (hpath ▸ hcreated.found)
    · intro hvalid hfile
      obtain ⟨bytes, hfile⟩ := Option.isSome_iff_exists.1 hfile
      obtain ⟨-, hslash, -, -⟩ := Store.isValidTag_iff.1 hvalid
      exact ⟨Store.straight_of_exists? hslash,
        fun hstraight => Store.exists?_of_file hd hstraight hslash hfile⟩
  · rintro s rfl
    exact ⟨fun key => Session.press_fst_of_not_creates, Session.press_file? hd s,
      fun hstraight keys p bytes => Session.file?_pressAll hd hstraight keys⟩

/-- The note of a tag with blanks around it stands beside the note that was there. -/
theorem creation_beside_file :
    let root : Text := "/n".toList
    let d := (Store.Change.putFile "/n/a.zettel".toList (encodeText "@a\n".toList)).apply ⟨[], []⟩
    let outcome := Store.create d root " b ".toList
    Store.Reached root d ∧ outcome.2 = .ok ⟨"b.zettel".toList⟩ ∧
      Store.Created d root "b".toList ⟨"b.zettel".toList⟩ outcome.1 ∧
      Store.create outcome.1 root "b\n".toList =
        (outcome.1, .error (.alreadyExists "/n/b.zettel".toList)) := by
  intro root d outcome
  have hreached : Store.Reached root d := .changed (.start (Disk.Sound.empty [])) _
  have hok : outcome.2 = .ok ⟨"b.zettel".toList⟩ := rfl
  obtain ⟨-, hcreated, -⟩ := (creation hreached).1 " b ".toList
  obtain ⟨hfile, hagain⟩ := hcreated _ hok
  exact ⟨hreached, hok, hfile, hagain "b\n".toList rfl⟩

/-- The root goes up from a directory that is missing, and the file of the tag is replaced. -/
theorem creation_replaces_file :
    let root : Text := "/a/../n".toList
    let place : Location := ["n".toList, "tag.zettel".toList]
    let d := (Store.Change.putFile "/n/tag.zettel".toList (encodeText "keep".toList)).apply ⟨[], []⟩
    let s : Session := ⟨root, [], "tag".toList, false, [], none, 0, .browse, none⟩
    Store.Reached root d ∧ d.file? place = some (encodeText "keep".toList) ∧
      (Store.create d root "tag".toList).2 = .ok ⟨"tag.zettel".toList⟩ ∧
      (Store.create d root "tag".toList).1.file? place = some (encodeText "@tag\n".toList) ∧
      (s.press d (.char 'n')).1.file? place = some (encodeText "@tag\n".toList) ∧
      encodeText "keep".toList ≠ encodeText "@tag\n".toList := by
  intro root place d s
  have hreached : Store.Reached root d := .changed (.start (Disk.Sound.empty [])) _
  have hreplaced : (Store.create d root "tag".toList).1.file? place =
      some (encodeText "@tag\n".toList) := rfl
  refine ⟨hreached, rfl, rfl, hreplaced, ?_, by decide⟩
  rw [Session.press_fst_of_creates ⟨rfl, rfl⟩]
  exact hreplaced

end Viewer
end Slipbox
