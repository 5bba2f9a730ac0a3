import Slipbox.Proofs.Store.NewNotes
import Slipbox.Proofs.Viewer.Creation

/-!
# What comes of loading and creating

Two keys of the session read the disk: one loads the notes again, the other creates a note and loads
then. Either can fail at any of its steps, and others may change the disk between the last two. What
comes of a key is said once (`ComesTo`): it fails and leaves all but the status as it was, or it
lists the notes that were loaded.
-/

namespace Slipbox

namespace Store

variable {d : Disk} {root s : Text} {outcome : Disk × Except StoreError NoteFile} {e : StoreError}

/-! ### Creating by its steps -/

theorem Creates.error_iff (h : Creates d root s outcome) : outcome.2 = .error e ↔
    isValidTag s = false ∧ e = .invalidTag s ∨
    isValidTag s = true ∧ d.exists? (notePath root s) = true ∧
      e = .alreadyExists (notePath root s) ∨
    isValidTag s = true ∧ d.exists? (notePath root s) = false ∧
      (write d root (s ++ noteExtension) (firstContent s)).2 = .error e := by
  cases h with
  | invalid invalid => simp [invalid, eq_comm (a := e)]
  | present valid present => simp [valid, present, eq_comm (a := e)]
  | failed valid absent failed => simp [valid, absent, failed]
  | written valid absent written => simp [valid, absent, written]

theorem Creates.ok_iff (h : Creates d root s outcome) : (∃ file, outcome.2 = .ok file) ↔
    isValidTag s = true ∧ d.exists? (notePath root s) = false ∧
      (write d root (s ++ noteExtension) (firstContent s)).2 = .ok () := by
  cases h with
  | invalid invalid => simp [invalid]
  | present valid present => simp [present]
  | failed valid absent failed => simp [failed]
  | written valid absent written => simp [valid, absent, written]

end Store

namespace Viewer

variable {d d' : Disk} {s after : Session} {key : Key} {e : StoreError} {note : Note}

namespace Session

/-! ### The selected note -/

/-- The session with notes that were loaded, and what the status says about them. -/
def withNotes (s : Session) (notes : List Note) (status : Option Text) : Session :=
  ({ s with notes := notes, status := status } : Session).relist

theorem press_of_browse (hmode : s.mode = .browse) :
    s.press d key = browse d { s with status := none } key := by
  rw [press]
  split
  · rename_i hsearch
    exact absurd (hsearch.symm.trans hmode) (by decide)
  · rfl

end Session

/-! ### What comes of a key -/

/-- The disk and the session after a key. Others may change the disk within the key that creates a
note, before the notes are loaded. -/
inductive Pressed (d : Disk) (s : Session) : Key → Disk → Session → Prop where
  | alone (key : Key) : Pressed d s key (s.press d key).1 (s.press d key).2
  | amid {changed : Disk} {file : NoteFile}
      (created : Store.create d s.root (Session.newTag s.query) = (changed, .ok file)) (d' : Disk) :
      Pressed d s (.char 'n') d' ({ s with status := none }.finishCreate d' file)

/-- Why a key fails that finds the disk `d` and leaves `d'`. -/
inductive Fails (d : Disk) (s : Session) (d' : Disk) : Key → StoreError → Prop where
  | unloaded {e : StoreError} (load : Store.loadAll d' s.root = .error e) :
      Fails d s d' (.char 'r') e
  | rejected (invalid : Store.isValidTag s.tag = false) :
      Fails d s d' (.char 'n') (.invalidTag s.tag)
  | present (valid : Store.isValidTag s.tag = true)
      (present : d.exists? (Store.notePath s.root s.tag) = true) :
      Fails d s d' (.char 'n') (.alreadyExists (Store.notePath s.root s.tag))
  | unwritten {e : StoreError} (valid : Store.isValidTag s.tag = true)
      (absent : d.exists? (Store.notePath s.root s.tag) = false)
      (write : (Store.write d s.root (s.tag ++ noteExtension) (Store.firstContent s.tag)).2 =
        .error e) :
      Fails d s d' (.char 'n') e
  | unread {e : StoreError} (valid : Store.isValidTag s.tag = true)
      (absent : d.exists? (Store.notePath s.root s.tag) = false)
      (write : (Store.write d s.root (s.tag ++ noteExtension) (Store.firstContent s.tag)).2 =
        .ok ())
      (load : Store.loadAll d' s.root = .error e) :
      Fails d s d' (.char 'n') e

/-- Creating a note fails in the creation, or in the loading after it. -/
theorem fails_create_iff : Fails d s d' (.char 'n') e ↔
    (Store.create d s.root (Session.newTag s.query)).2 = .error e ∨
      (∃ file, (Store.create d s.root (Session.newTag s.query)).2 = .ok file) ∧
        Store.loadAll d' s.root = .error e := by
  have hcreates : Store.Creates d s.root s.tag _ :=
    Store.creates d s.root (Session.newTag s.query)
  rw [hcreates.error_iff, hcreates.ok_iff]
  constructor
  · intro h
    cases h with
    | rejected invalid => exact .inl (.inl ⟨invalid, rfl⟩)
    | present valid present => exact .inl (.inr (.inl ⟨valid, present, rfl⟩))
    | unwritten valid absent write => exact .inl (.inr (.inr ⟨valid, absent, write⟩))
    | unread valid absent write load => exact .inr ⟨⟨valid, absent, write⟩, load⟩
  · rintro ((⟨invalid, rfl⟩ | ⟨valid, present, rfl⟩ | ⟨valid, absent, write⟩) |
      ⟨⟨valid, absent, write⟩, load⟩)
    · exact .rejected invalid
    · exact .present valid present
    · exact .unwritten valid absent write
    · exact .unread valid absent write load

/-- What a key leaves: the reason of its failure in the status of the old session, the notes that
were loaded, or an empty status if it does not read the disk. -/
inductive ComesTo (d : Disk) (s : Session) (d' : Disk) : Key → Session → Prop where
  | failed {key : Key} {e : StoreError} (fails : Fails d s d' key e) :
      ComesTo d s d' key { s with status := some e.message }
  | loaded {notes : List Note} (load : Store.loadAll d' s.root = .ok notes) :
      ComesTo d s d' (.char 'r') (s.withNotes notes none)
  | created {file : NoteFile} {notes : List Note}
      (create : (Store.create d s.root (Session.newTag s.query)).2 = .ok file)
      (load : Store.loadAll d' s.root = .ok notes) :
      ComesTo d s d' (.char 'n')
        ((s.withNotes notes (some ("created ".toList ++ file.shownPath))).selectFile file)
  | silent {key : Key} {after : Session} (create : key ≠ .char 'n') (load : key ≠ .char 'r')
      (status : after.status = none) : ComesTo d s d' key after

theorem comesTo_finishCreate {file : NoteFile}
    (hcreate : (Store.create d s.root (Session.newTag s.query)).2 = .ok file) :
    ComesTo d s d' (.char 'n') ({ s with status := none }.finishCreate d' file) := by
  rw [Session.finishCreate]
  split
  · rename_i e hload
    exact .failed (fails_create_iff.2 (.inr ⟨⟨file, hcreate⟩, hload⟩))
  · rename_i notes hload
    exact .created hcreate hload

theorem comesTo_browse (d : Disk) (s : Session) (key : Key) :
    ComesTo d s (Session.browse d { s with status := none } key).1 key
      (Session.browse d { s with status := none } key).2 := by
  unfold Session.browse
  -- down, up, the query, the flag, a new note, loading, and keys without effect
  split
  · exact .silent nofun nofun (Session.moves_next _).status
  · exact .silent (by decide) (by decide) (Session.moves_next _).status
  · exact .silent nofun nofun (Session.moves_previous _).status
  · exact .silent (by decide) (by decide) (Session.moves_previous _).status
  · exact .silent (by decide) (by decide) rfl
  · exact .silent (by decide) (by decide) rfl
  · rw [Session.createNote_eq]
    split
    · rename_i hcreate
      exact .failed (fails_create_iff.2 (.inl (congrArg Prod.snd hcreate)))
    · rename_i hcreate
      exact comesTo_finishCreate (congrArg Prod.snd hcreate)
  · rw [Session.reload]
    split
    · rename_i hload
      exact .loaded hload
    · rename_i hload
      exact .failed (.unloaded hload)
  · exact .silent ‹_› ‹_› rfl

theorem comesTo (hmode : s.mode = .browse) (h : Pressed d s key d' after) :
    ComesTo d s d' key after := by
  cases h with
  | alone key =>
    rw [Session.press_of_browse hmode]
    exact comesTo_browse d s key
  | amid created => exact comesTo_finishCreate (congrArg Prod.snd created)

/-! ### Keys that fail -/

theorem message_ne_created (e : StoreError) (shown : Text) :
    e.message ≠ "created ".toList ++ shown := by
  intro h
  have hhead : e.message.head? = some 'c' := congrArg List.head? h
  cases e with
  | notFound | alreadyExists | noRoot | notADirectory | invalidTag | fault => exact nomatch hhead

theorem fails_load_iff : Fails d s d' (.char 'r') e ↔ Store.loadAll d' s.root = .error e := by
  constructor
  · rintro ⟨load⟩
    exact load
  · exact .unloaded

/-- A key fails for one reason. -/
theorem Fails.unique {e' : StoreError} (h : Fails d s d' key e) (h' : Fails d s d' key e') :
    e = e' := by
  have hkey : key = .char 'r' ∨ key = .char 'n' := by
    cases h <;> simp
  rcases hkey with rfl | rfl
  · rw [fails_load_iff] at h h'
    exact Except.error.inj (h.symm.trans h')
  · rw [fails_create_iff] at h h'
    rcases h with herror | ⟨⟨file, hok⟩, hload⟩
    · rcases h' with herror' | ⟨⟨file, hok⟩, -⟩
      · exact Except.error.inj (herror.symm.trans herror')
      · exact nomatch herror.symm.trans hok
    · rcases h' with herror' | ⟨-, hload'⟩
      · exact nomatch hok.symm.trans herror'
      · exact Except.error.inj (hload.symm.trans hload')

theorem ComesTo.of_fails (h : ComesTo d s d' key after) (hfails : Fails d s d' key e) :
    after = { s with status := some e.message } := by
  cases h with
  | failed fails => rw [fails.unique hfails]
  | loaded load => exact nomatch load.symm.trans (fails_load_iff.1 hfails)
  | created create load =>
    rcases fails_create_iff.1 hfails with herror | ⟨-, hload⟩
    · exact nomatch create.symm.trans herror
    · exact nomatch load.symm.trans hload
  | silent create load _ =>
    cases hfails with
    | unloaded => exact absurd rfl load
    | rejected | present | unwritten | unread => exact absurd rfl create

/-- The status shows an error just when the key fails. -/
theorem ComesTo.exists_fails_iff (h : ComesTo d s d' key after) :
    (∃ e, Fails d s d' key e) ↔ ∃ e : StoreError, after.status = some e.message := by
  constructor
  · rintro ⟨e, hfails⟩
    rw [h.of_fails hfails]
    exact ⟨e, rfl⟩
  · rintro ⟨e, hstatus⟩
    cases h with
    | failed fails => exact ⟨_, fails⟩
    | loaded => exact nomatch hstatus
    | created =>
      rw [(Session.moves_selectFile _ _).status] at hstatus
      exact absurd (Option.some.inj hstatus).symm (message_ne_created e _)
    | silent _ _ status => exact nomatch status.symm.trans hstatus

/-- Without a creation that succeeds all files stay as they are. -/
theorem Pressed.file?_eq (h : Pressed d s key d' after)
    (hcreate : key = .char 'n' → ∀ file,
      (Store.create d s.root (Session.newTag s.query)).2 ≠ .ok file) : d'.file? = d.file? := by
  cases h with
  | alone key =>
    by_cases hkey : s.Creates key
    · rw [Session.press_fst_of_creates hkey]
      cases houtcome : (Store.create d s.root (Session.newTag s.query)).2 with
      | error e => exact Store.file?_of_create_error houtcome
      | ok file => exact absurd houtcome (hcreate hkey.2 file)
    · rw [Session.press_fst_of_not_creates hkey]
  | amid created => exact absurd (congrArg Prod.snd created) (hcreate rfl _)

/-- **A key that fails leaves the viewer as it was.** Only the status changes, to the reason of the
failure, even if others change the disk between the creation of a note and the loading. The status
shows an error only if the key fails. As long as no note has been created, no file has been added,
removed or changed. -/
theorem failing_key_keeps_session (hmode : s.mode = .browse) (h : Pressed d s key d' after) :
    (∀ e, Fails d s d' key e → after = { s with status := some e.message }) ∧
      ((∃ e, Fails d s d' key e) ↔ ∃ e : StoreError, after.status = some e.message) ∧
      ((key = .char 'n' → ∀ file, (Store.create d s.root (Session.newTag s.query)).2 ≠ .ok file) →
        d'.file? = d.file?) :=
  ⟨fun _ => (comesTo hmode h).of_fails, (comesTo hmode h).exists_fails_iff, h.file?_eq⟩

/-- The notes directory is removed after the note has been written and before it is loaded. -/
theorem failing_key_beside_removal :
    let d : Disk := ⟨[(["n".toList], .directory)], []⟩
    let s : Session := ⟨"/n".toList, [], "x".toList, false, [], none, 0, .browse, none⟩
    Fails d s ⟨[], []⟩ (.char 'n') .noRoot ∧ ∃ after, Pressed d s (.char 'n') ⟨[], []⟩ after ∧
      after = { s with status := some StoreError.noRoot.message } := by
  intro d s
  have htag : Session.newTag s.query = "x".toList := rfl
  have hcreate : (Store.create d s.root (Session.newTag s.query)).2 = .ok ⟨"x.zettel".toList⟩ := by
    rw [htag]
    rfl
  have hfails : Fails d s ⟨[], []⟩ (.char 'n') .noRoot :=
    fails_create_iff.2 (.inr ⟨⟨_, hcreate⟩, rfl⟩)
  have hpressed : Pressed d s (.char 'n') ⟨[], []⟩ _ := .amid (Prod.ext rfl hcreate) ⟨[], []⟩
  exact ⟨hfails, _, hpressed, (failing_key_keeps_session rfl hpressed).1 _ hfails⟩

/-! ### The note that was created -/

end Viewer
end Slipbox
