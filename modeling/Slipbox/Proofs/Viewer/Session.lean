import Slipbox.Proofs.Search
import Slipbox.Viewer.Screen

/-!
# What holds in every state of a session

A session starts on a disk and goes through keys and drawings, while others may change the disk
at any time. In every state that is reached so, the list answers the query over the loaded
notes, a note is selected unless the list is empty, every place of the list has its note, and
nothing stands in the status while the query is edited (`reached_sound`).

The invariant is `Session.Sound`. Listing anew establishes it whatever was listed and selected
before (`relist_sound`), and all else that keys do only moves the selection within the list or
changes the mode and the status.
-/

namespace Slipbox

namespace Viewer

variable {d : Disk} {s : Session} {root : Text} {config : Option Config} {i : Nat}

/-- The list answers the query, a note is selected unless the list is empty, and no status stands
in the way of the query. -/
structure Session.Sound (s : Session) : Prop where
  listed : s.listed = search s.query s.notes s.unique
  unselected : s.selected = none → s.listed = []
  inList : ∀ i, s.selected = some i → i < s.listed.length
  quiet : s.mode = .search → s.status = none

namespace Session

/-! ### The list and the selection -/

theorem clampSelection_eq_none_iff {length : Nat} {selected : Option Nat} :
    clampSelection length selected = none ↔ length = 0 := by
  simp [clampSelection]

theorem lt_of_clampSelection {length : Nat} {selected : Option Nat}
    (h : clampSelection length selected = some i) : i < length := by
  rw [clampSelection] at h
  split at h
  · simp at h
  · simp only [Option.some.injEq] at h
    omega

/-- Listing anew needs nothing of the old list and the old selection. -/
theorem relist_sound (hquiet : s.mode = .search → s.status = none) : s.relist.Sound where
  listed := rfl
  unselected hnone := List.eq_nil_of_length_eq_zero (clampSelection_eq_none_iff.1 hnone)
  inList _ hi := lt_of_clampSelection hi
  quiet := hquiet

namespace Sound

theorem select (h : s.Sound) (hi : i < s.listed.length) : (s.select (some i)).Sound :=
  { h with
    unselected := fun hnone => nomatch hnone
    inList := fun _ hj => Option.some.inj hj ▸ hi }

theorem next (h : s.Sound) : s.next.Sound := by
  rw [Session.next]
  split
  · exact h
  · rename_i hlisted
    have hpos : 0 < s.listed.length := by simpa [List.length_pos_iff] using hlisted
    cases s.selected with
    | none => exact h.select hpos
    | some place => exact h.select (Nat.mod_lt _ hpos)

theorem previous (h : s.Sound) : s.previous.Sound := by
  rw [Session.previous]
  split
  · exact h
  · rename_i hlisted
    have hlast : s.listed.length - 1 < s.listed.length := by
      have : 0 < s.listed.length := by simpa [List.length_pos_iff] using hlisted
      omega
    split
    · rename_i place hplace
      exact h.select (Nat.lt_of_succ_lt (h.inList _ hplace))
    · exact h.select hlast

theorem selectFile (h : s.Sound) (file : NoteFile) : (s.selectFile file).Sound := by
  rw [Session.selectFile]
  split
  · rename_i place hplace
    exact h.select (List.findIdx?_eq_some_iff_getElem.1 hplace).1
  · exact h

/-! ### Keys -/

theorem say (h : s.Sound) (hmode : s.mode = .browse) (message : Text) : (s.say message).Sound :=
  { h with quiet := fun hsearch => nomatch hmode.symm.trans hsearch }

theorem hush (h : s.Sound) : Sound { s with status := none } := { h with quiet := fun _ => rfl }

theorem reload (h : s.Sound) (hmode : s.mode = .browse) : (s.reload d).Sound := by
  rw [Session.reload]
  split
  · exact relist_sound h.quiet
  · exact h.say hmode _

end Sound

/-- What follows the creation of a note in a file. -/
def finishCreate (d : Disk) (s : Session) (file : NoteFile) : Session :=
  match Store.loadAll d s.root with
  | .error e => s.say e.message
  | .ok notes =>
    ({ s with notes := notes }.say ("created ".toList ++ file.shownPath)).relist.selectFile file

theorem createNote_eq (d : Disk) (s : Session) :
    createNote d s =
      match Store.create d s.root (newTag s.query) with
      | (changed, .error e) => (changed, s.say e.message)
      | (changed, .ok file) => (changed, s.finishCreate changed file) := by
  rw [createNote]
  rcases Store.create d s.root (newTag s.query) with ⟨changed, e | file⟩
  · rfl
  · simp only [finishCreate]
    rcases Store.loadAll changed s.root with e | notes <;> rfl

namespace Sound

theorem finishCreate (h : s.Sound) (hmode : s.mode = .browse) (file : NoteFile) :
    (s.finishCreate d file).Sound := by
  rw [Session.finishCreate]
  split
  · exact h.say hmode _
  · refine Sound.selectFile (relist_sound ?_) file
    exact fun hsearch => nomatch hmode.symm.trans hsearch

theorem createNote (h : s.Sound) (hmode : s.mode = .browse) : (createNote d s).2.Sound := by
  rw [createNote_eq]
  split
  · exact h.say hmode _
  · exact h.finishCreate hmode _

theorem editQuery (h : s.Sound) (hmode : s.mode = .search) (key : Key) :
    (s.editQuery key).Sound := by
  have hquiet : s.status = none := h.quiet hmode
  have hleave : Sound { s with mode := .browse } := { h with quiet := fun _ => hquiet }
  cases key with
  | enter => exact hleave
  | escape => exact hleave
  | backspace => exact relist_sound fun _ => hquiet
  | char c => exact relist_sound fun _ => hquiet
  | down => exact h
  | up => exact h
  | other => exact h

theorem browse (h : s.Sound) (hmode : s.mode = .browse) (hquiet : s.status = none) (key : Key) :
    (s.browse d key).2.Sound := by
  unfold Session.browse
  -- down, up, the query, the flag, a new note, loading, and keys without effect
  split
  · exact h.next
  · exact h.next
  · exact h.previous
  · exact h.previous
  · exact { h with quiet := fun _ => hquiet }
  · exact relist_sound fun _ => hquiet
  · exact h.createNote hmode
  · exact h.reload hmode
  · exact h

/-- Every key keeps the session sound, whatever the disk is. -/
theorem press (h : s.Sound) (d : Disk) (key : Key) : (s.press d key).2.Sound := by
  unfold Session.press
  split
  · rename_i hmode
    exact h.editQuery hmode key
  · rename_i hmode
    exact h.hush.browse hmode rfl key

theorem draw (h : s.Sound) : s.draw.1.Sound := by
  show s.scrolled.Sound
  rw [Session.scrolled]
  split
  · rename_i hlisted
    exact
      { h with
        unselected := fun _ => List.isEmpty_iff.1 hlisted
        inList := nofun }
  · exact { h with }

theorem start (h : Session.start d root config = .ok s) : s.Sound := by
  rw [Session.start] at h
  cases hload : Store.loadAll d root with
  | error e => simp [hload, Except.map] at h
  | ok notes =>
    rw [hload] at h
    cases h
    exact relist_sound fun _ => rfl

theorem indices (h : s.Sound) : ∀ index ∈ s.listed, index < s.notes.length := by
  rw [h.listed]
  exact fun index => lt_length_of_mem_search

/-- Every place of the list has its note. -/
theorem exists_rows (h : s.Sound) :
    ∃ rows : List Note, rows.length = s.listed.length ∧ ∀ i, s.noteAt? i = rows[i]? := by
  refine ⟨s.listed.pmap (fun index hindex => s.notes[index]) h.indices, by simp, fun i => ?_⟩
  by_cases hi : i < s.listed.length
  · have hindex := h.indices _ (List.getElem_mem hi)
    simp [noteAt?, hi, hindex]
  · simp [noteAt?, hi]

end Sound
end Session

/-! ### Runs -/

/-- The states that a session goes through, each with the disk at that time. -/
inductive Reached : Disk → Session → Prop where
  | start {d : Disk} {root : Text} {config : Option Config} {s : Session}
    (h : Session.start d root config = .ok s) : Reached d s
  | press {d : Disk} {s : Session} (h : Reached d s) (key : Key) :
    Reached (s.press d key).1 (s.press d key).2
  | draw {d : Disk} {s : Session} (h : Reached d s) : Reached d s.draw.1
  /-- Others change the disk between keys. -/
  | behind {d : Disk} {s : Session} (h : Reached d s) (d' : Disk) : Reached d' s
  /-- Others change the disk within a key, between the creation of a note and the loading. -/
  | amid {d changed : Disk} {s : Session} {file : NoteFile} (h : Reached d s)
    (hmode : s.mode = .browse)
    (hfile : Store.create d s.root (Session.newTag s.query) = (changed, .ok file)) (d' : Disk) :
    Reached d' ({ s with status := none }.finishCreate d' file)

theorem Reached.sound (h : Reached d s) : s.Sound := by
  induction h with
  | start h => exact .start h
  | press _ key ih => exact ih.press _ key
  | draw _ ih => exact ih.draw
  | behind _ _ ih => exact ih
  | amid _ hmode _ d' ih => exact ih.hush.finishCreate hmode _

/-- **The state of the viewer fits together at any time.** The list answers the query, a note is
selected and found just when the list is not empty, all places of the list have their notes, and
while the query is edited nothing stands in the status. -/
theorem reached_sound (h : Reached d s) :
    s.listed = search s.query s.notes s.unique ∧
    (∀ index ∈ s.listed, index < s.notes.length) ∧
    (s.listed = [] → s.selected = none) ∧
    (s.listed ≠ [] → ∃ i < s.listed.length, s.selected = some i) ∧
    (s.selectedNote?.isSome = true ↔ s.listed ≠ []) ∧
    (∃ rows : List Note, rows.length = s.listed.length ∧ ∀ i, s.noteAt? i = rows[i]?) ∧
    (s.mode = .search → s.status = none) := by
  have hsound : s.Sound := h.sound
  obtain ⟨rows, hlength, hrows⟩ := hsound.exists_rows
  have hempty : s.listed = [] → s.selected = none := by
    intro hlisted
    cases hi : s.selected with
    | none => rfl
    | some i => simpa [hlisted] using hsound.inList i hi
  have hselected : s.listed ≠ [] → ∃ i < s.listed.length, s.selected = some i := by
    intro hlisted
    cases hi : s.selected with
    | none => exact absurd (hsound.unselected hi) hlisted
    | some i => exact ⟨i, hsound.inList i hi, rfl⟩
  refine ⟨hsound.listed, hsound.indices, hempty, hselected, ⟨?_, ?_⟩, ⟨rows, hlength, hrows⟩,
    hsound.quiet⟩
  · intro hsome hlisted
    simp [Session.selectedNote?, hempty hlisted] at hsome
  · intro hlisted
    obtain ⟨i, hi, hplace⟩ := hselected hlisted
    simp [Session.selectedNote?, hplace, hrows, hlength, hi]

/-- One note is listed at the start, and none once the query ends in a letter that it lacks. -/
theorem reached_sound_of_no_match :
    let place : Location := ["n".toList, "a.zettel".toList]
    let disk : Disk := ⟨[(place, .file (encodeText "@a\n".toList)), (["n".toList], .directory)], []⟩
    ∃ s, Session.start disk "/n".toList none = .ok s ∧ s.listed = [0] ∧ s.selected = some 0 ∧
      let edited := ((s.press disk (.char '/')).2.press disk (.char 'z')).2
      Reached disk edited ∧ edited.listed = [] ∧ edited.selected = none ∧ edited.status = none := by
  intro place disk
  let edit (s : Session) : Session := ((s.press disk (.char '/')).2.press disk (.char 'z')).2
  have hrun : (Session.start disk "/n".toList none).toOption.map
      (fun s => (s.listed, (edit s).listed, (edit s).mode)) = some ([0], [], .search) := by
    decide +kernel
  obtain ⟨s, hs, hedit⟩ := Option.map_eq_some_iff.1 hrun
  obtain ⟨hlisted, hunlisted, hmode⟩ : s.listed = [0] ∧ (edit s).listed = [] ∧
      (edit s).mode = .search := by
    simpa using hedit
  have hstart : Session.start disk "/n".toList none = .ok s := by
    rcases hstart : Session.start disk "/n".toList none with e | s'
    · rw [hstart] at hs
      cases hs
    · rw [hstart] at hs
      exact congrArg Except.ok (Option.some.inj hs)
  have hreached : Reached disk s := .start hstart
  have hedited : Reached disk (edit s) :=
    .behind (.press (.behind (.press hreached (.char '/')) disk) (.char 'z')) disk
  obtain ⟨-, -, -, hselected, -⟩ := reached_sound hreached
  obtain ⟨-, -, hunselected, -, -, -, hquiet⟩ := reached_sound hedited
  obtain ⟨i, hi, hplace⟩ := hselected (by simp [hlisted])
  have hfirst : i = 0 := by simpa [hlisted] using hi
  exact ⟨s, hstart, hlisted, hfirst ▸ hplace, hedited, hunlisted, hunselected hunlisted,
    hquiet hmode⟩

end Viewer
end Slipbox
