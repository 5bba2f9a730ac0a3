import Slipbox.Proofs.Store.Writing

/-!
# Creating notes

The note of a tag lives in a file directly below the root (`target_notePath`). Its creation refuses
when the path of the file leads to something, and otherwise writes. So it never replaces a file
as long as the path leads to whatever stands at the place of the file, which is so on a root that
does not go astray (`Disk.Straight`, `exists?_of_file`).

A root goes astray when it goes up again from a directory that is missing: nothing can be found
through it, but a write makes the missing directory first and so finds its way.
-/

namespace Slipbox

namespace Store

variable {d d' : Disk} {root tag s name : Text} {bytes : ByteArray} {file : NoteFile}

/-! ### The file of a tag -/

/-- The place of the note of a tag. -/
def notePlace (d : Disk) (root s : Text) : Location := d.target root ++ [s ++ noteExtension]

theorem isValidTag_iff :
    isValidTag s = true ↔ s ≠ [] ∧ '/' ∉ s ∧ '\\' ∉ s ∧ '\n' ∉ s := by
  have hforbidden : (s.all fun c => c ∉ ['/', '\\', '\n']) = true ↔
      '/' ∉ s ∧ '\\' ∉ s ∧ '\n' ∉ s := by
    simp only [List.all_eq_true, decide_eq_true_eq, List.mem_cons, List.not_mem_nil, or_false]
    constructor
    · intro h
      exact ⟨fun hc => h _ hc (by simp), fun hc => h _ hc (by simp), fun hc => h _ hc (by simp)⟩
    · rintro ⟨hslash, hbackslash, hnewline⟩ c hc (rfl | rfl | rfl)
      · exact hslash hc
      · exact hbackslash hc
      · exact hnewline hc
  rw [isValidTag, Bool.and_eq_true, hforbidden]
  simp

/-- With the extension even dots make a name. -/
theorem isComponent_noteName (h : '/' ∉ s) :
    Path.IsComponent (s ++ noteExtension) ∧ s ++ noteExtension ≠ Path.up := by
  have hlength : 7 ≤ (s ++ noteExtension).length := by
    rw [List.length_append]
    exact Nat.le_add_left 7 _
  refine ⟨⟨?_, ?_, ?_⟩, ?_⟩
  · exact fun hnil => absurd hlength (by simp [hnil])
  · exact fun hdot => absurd hlength (by simp [hdot])
  · rw [List.mem_append, not_or]
    exact ⟨h, by decide⟩
  · exact fun hup => absurd hlength (by simp [hup, Path.up])

theorem components_noteName (h : '/' ∉ s) :
    Path.components (s ++ noteExtension) = [s ++ noteExtension] :=
  Path.components_of_isComponent (isComponent_noteName h).1

theorem target_notePath (h : '/' ∉ s) : d.target (notePath root s) = notePlace d root s := by
  rw [notePath, Disk.target_under, components_noteName h,
    Disk.resolve_single_of_ne (isComponent_noteName h).2]
  rfl

theorem name_forTag (h : '/' ∉ s) : (NoteFile.forTag s).name = s := by
  obtain ⟨hcomponent, hup⟩ := isComponent_noteName h
  have hfile : Path.fileName? (NoteFile.forTag s).path = some (s ++ noteExtension) := by
    rw [Path.fileName?, NoteFile.forTag, Path.components_of_isComponent hcomponent]
    exact if_neg hup
  rw [NoteFile.name, hfile]
  exact NoteFile.stem_append s

/-! ### Straight roots -/

/-- On a straight root the path of a note leads to the file that stands at its place. -/
theorem exists?_of_file (hd : d.Sound) (hstraight : d.Straight root) (hslash : '/' ∉ s)
    (hfile : d.file? (notePlace d root s) = some bytes) : d.exists? (notePath root s) = true := by
  have hcomponents := components_noteName hslash
  rw [notePlace, ← hcomponents] at hfile
  obtain ⟨hleads, htarget⟩ := Disk.leads_under hd hstraight (by simp [hcomponents]) hfile
  refine Disk.exists?_iff.2 ⟨hleads, ?_⟩
  rw [notePath, htarget, Disk.file?_eq_some_iff.1 hfile]
  rfl

/-- A root through which a note is found is straight. -/
theorem straight_of_exists? (hslash : '/' ∉ s) (h : d.exists? (notePath root s) = true) :
    d.Straight root := by
  by_cases hroot : root = []
  · right
    simp [hroot, Path.components, Text.splitAtChar]
  · left
    refine Disk.isDirectory_of_leads_under hroot ?_ (Disk.exists?_iff.1 h).1
    simp [components_noteName hslash]

/-! ### Notes that are created -/

/-- The note of a trimmed tag has been created. -/
structure Created (d : Disk) (root s : Text) (file : NoteFile) (d' : Disk) : Prop where
  path : file.path = s ++ noteExtension
  name : file.name = s
  shownPath : file.shownPath = s
  files : d'.file? = Function.update d.file? (notePlace d root s) (some (encodeText (firstContent s)))
  found : d'.exists? (notePath root s) = true
  new : d.Straight root → d.file? (notePlace d root s) = none

theorem created (hd : d.Sound) (hvalid : isValidTag s = true)
    (habsent : d.exists? (notePath root s) = false)
    (hok : (write d root (s ++ noteExtension) (firstContent s)).2 = .ok ()) :
    Created d root s (NoteFile.forTag s) (write d root (s ++ noteExtension) (firstContent s)).1 := by
  obtain ⟨-, hslash, -, -⟩ := isValidTag_iff.1 hvalid
  obtain ⟨made, -, hwrites⟩ := write_writes hok
  constructor
  · rfl
  · exact name_forTag hslash
  · exact NoteFile.shownPath_forTag s
  · rw [write_file? hok, ← target_notePath hslash, notePath]
  · exact hwrites.exists?
  · intro hstraight
    cases hfile : d.file? (notePlace d root s) with
    | none => rfl
    | some bytes => exact nomatch habsent.symm.trans (exists?_of_file hd hstraight hslash hfile)

/-! ### Creating -/

theorem create_ok_iff (hd : d.Sound) : (∃ file, (create d root tag).2 = .ok file) ↔
    isValidTag (Text.trim tag) = true ∧ d.exists? (notePath root (Text.trim tag)) = false ∧
      d.Writable (notePath root (Text.trim tag)) := by
  have hwritable : ∀ s, (write d root (s ++ noteExtension) (firstContent s)).2 = .ok () ↔
      d.Writable (notePath root s) := fun s => write_ok_iff hd
  have hcreates := creates d root tag
  generalize create d root tag = outcome at hcreates ⊢
  cases hcreates with
  | invalid hinvalid => simp [hinvalid]
  | present hvalid hpresent => simp [hpresent]
  | failed hvalid habsent hfailed => simp [← hwritable, hfailed]
  | written hvalid habsent hwritten => simp [← hwritable, hvalid, habsent, hwritten]

theorem created_of_create (hd : d.Sound) (h : (create d root tag).2 = .ok file) :
    Created d root (Text.trim tag) file (create d root tag).1 := by
  have hcreates := creates d root tag
  generalize create d root tag = outcome at hcreates h ⊢
  cases hcreates with
  | invalid | present | failed => exact nomatch h
  | written hvalid habsent hwritten =>
    obtain rfl := Except.ok.inj h
    exact created hd hvalid habsent hwritten

/-- A creation that fails leaves all files as they are. -/
theorem file?_of_create_error {e : StoreError} (h : (create d root tag).2 = .error e) :
    (create d root tag).1.file? = d.file? := by
  have hcreates := creates d root tag
  generalize create d root tag = outcome at hcreates h ⊢
  cases hcreates with
  | invalid | present => rfl
  | failed _ _ hfailed => exact funext (write_grows hfailed).file?_eq
  | written => exact nomatch h

/-- A note is not created again while its path leads to something. -/
theorem create_of_present (hvalid : isValidTag (Text.trim tag) = true)
    (hpresent : d.exists? (notePath root (Text.trim tag)) = true) :
    create d root tag = (d, .error (.alreadyExists (notePath root (Text.trim tag)))) := by
  have hcreates := creates d root tag
  generalize create d root tag = outcome at hcreates ⊢
  cases hcreates with
  | invalid hinvalid => exact nomatch hinvalid.symm.trans hvalid
  | present => rfl
  | failed _ habsent => exact nomatch habsent.symm.trans hpresent
  | written _ habsent => exact nomatch habsent.symm.trans hpresent

/-- Creating keeps all directories, and so a straight root. -/
theorem create_straight (hstraight : d.Straight root) (tag : Text) :
    (create d root tag).1.Straight root := by
  have hcreates := creates d root tag
  generalize create d root tag = outcome at hcreates ⊢
  cases hcreates with
  | invalid | present => exact hstraight
  | failed | written =>
    have hkeeps := write_keeps d root (Text.trim tag ++ noteExtension) (firstContent (Text.trim tag))
    exact hstraight.mono hkeeps.1 hkeeps.2

end Store
end Slipbox
