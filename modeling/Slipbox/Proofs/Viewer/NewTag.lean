import Slipbox.Proofs.Store.NewNotes
import Slipbox.Proofs.Viewer.Creation

/-!
# The tag of a new note

The tag of a new note is the query without its leading markers, and its blanks are trimmed before
the markers are taken off and after that again. Markers behind a blank that was behind markers come
to the front so (`MarksAgain`), and the tag is then deeper than one, or no tag at all.
-/

namespace Slipbox

open Slipbox.Markup

namespace Viewer

variable {d : Disk} {s : Session} {place : Location} {bytes : ByteArray}

/-! ### Markers behind markers -/

/-- Behind its leading markers and blanks after them the query has another marker. -/
def MarksAgain (query : Text) : Prop :=
  ∃ n blanks rest, Text.trim query = List.replicate (n + 1) '@' ++ (blanks ++ '@' :: rest) ∧
    blanks ≠ [] ∧ ∀ c ∈ blanks, Text.isBlank c = true

/-- The tag of a new note begins with a marker just when the query has one behind others. -/
theorem head?_tag_iff : s.tag.head? = some '@' ↔ MarksAgain s.query := by
  rw [Session.tag, Text.head?_trim_eq_some_iff (by decide)]
  generalize s.query = query
  constructor
  · intro h
    obtain ⟨hhead, n, hquery⟩ := dropWhile_mark_eq_iff.1 (rfl : _ = Session.newTag query)
    obtain ⟨rest, hrest⟩ := List.head?_eq_some_iff.1 h
    obtain ⟨hblanks, -, hsplit⟩ := takeWhile_dropWhile_iff.1 ⟨rfl, hrest⟩
    generalize (Session.newTag query).takeWhile Text.isBlank = blanks at hblanks hsplit
    rw [hsplit] at hhead hquery
    cases blanks with
    | nil => exact absurd rfl hhead
    | cons c blanks =>
      cases n with
      | zero =>
        have hbegins : (Text.trim query).head? = some c := by rw [hquery]; rfl
        exact nomatch (hblanks c List.mem_cons_self).symm.trans (Text.isBlank_head_trim hbegins)
      | succ n => exact ⟨n, c :: blanks, rest, hquery, List.cons_ne_nil _ _, hblanks⟩
  · rintro ⟨n, blanks, rest, hquery, hne, hblanks⟩
    have hhead : (blanks ++ '@' :: rest).head? ≠ some '@' := by
      obtain ⟨c, others, rfl⟩ := List.exists_cons_of_ne_nil hne
      intro hc
      obtain rfl := Option.some.inj hc
      exact nomatch hblanks _ List.mem_cons_self
    have htag : Session.newTag query = blanks ++ '@' :: rest :=
      dropWhile_mark_eq_iff.2 ⟨hhead, _, hquery⟩
    rw [htag, List.dropWhile_append_of_pos hblanks]
    rfl

/-! ### The depth of the tag -/

/-- A new note is what the key puts on the disk, with the tag of the query behind a marker. -/
theorem Session.content_of_press (hmode : s.mode = .browse) (hold : d.file? place ≠ some bytes)
    (hnew : (s.press d (.char 'n')).1.file? place = some bytes) :
    bytes = encodeText (Store.firstContent s.tag) ∧ Store.isValidTag s.tag = true := by
  rw [press_fst_of_creates ⟨hmode, rfl⟩] at hnew
  cases houtcome : (Store.create d s.root (newTag s.query)).2 with
  | error e =>
    rw [Store.file?_of_create_error houtcome] at hnew
    exact absurd hnew hold
  | ok file =>
    obtain ⟨hvalid, -, hwritten, hdisk⟩ := Store.write_of_create houtcome
    rw [hdisk, Store.write_file? hwritten, Function.update_apply] at hnew
    split at hnew
    · exact ⟨(Option.some.inj hnew).symm, hvalid⟩
    · exact absurd hnew hold

/-- **The tag of a new note has depth one unless markers stand behind others and blanks.** Whatever
file the key puts on the disk holds a marker, the trimmed tag of the query and a newline. Its nodes
begin with a tag of depth one just when the query does not have markers again. If it does, `k + 1`
markers that are left add to the depth, and the note has no tag at all if nothing else is left. -/
theorem new_note_depth (hmode : s.mode = .browse) (hold : d.file? place ≠ some bytes)
    (hnew : (s.press d (.char 'n')).1.file? place = some bytes) :
    ∃ nodes, decodeText? bytes = some (Store.firstContent s.tag) ∧
      parseDocument (Store.firstContent s.tag) = .ok nodes ∧
      ((∃ label rest, nodes = .tag ⟨1, label⟩ :: rest) ↔ ¬ MarksAgain s.query) ∧
      (MarksAgain s.query → ∃ k t, s.tag = List.replicate (k + 1) '@' ++ t ∧ t.head? ≠ some '@' ∧
        (t ≠ [] → ∃ label rest, nodes = .tag ⟨k + 2, label⟩ :: rest) ∧
        (t = [] → nodes = [.text [⟨.plain, List.replicate (k + 2) '@'⟩], .blank 0])) := by
  obtain ⟨rfl, hvalid⟩ := Session.content_of_press hmode hold hnew
  obtain ⟨hne, -, -, hline⟩ := Store.isValidTag_iff.1 hvalid
  rw [decodeText?_encodeText, ← head?_tag_iff]
  generalize s.tag = tag at hne hline ⊢
  obtain ⟨hmark, k, hsplit⟩ := dropWhile_mark_eq_iff.1 (rfl : tag.dropWhile (· == '@') = _)
  generalize tag.dropWhile (· == '@') = t at hmark hsplit
  subst hsplit
  rw [Store.firstContent_eq_tagLine]
  cases t with
  | nil =>
    cases k with
    | zero => exact absurd rfl hne
    | succ k =>
      refine ⟨_, rfl, nodes_tagLine_nil _, by simp [List.replicate_succ], fun _ => ?_⟩
      exact ⟨k, [], rfl, hmark, fun h => absurd rfl h, fun _ => rfl⟩
  | cons c t =>
    have hnewline : '\n' ∉ c :: t := fun hc => hline (List.mem_append_right _ hc)
    obtain ⟨label, rest, hnodes⟩ :=
      exists_nodes_tagLine (k := k) (List.cons_ne_nil c t) hnewline hmark
    cases k with
    | zero =>
      exact ⟨_, rfl, hnodes, ⟨fun _ => hmark, fun _ => ⟨label, rest, rfl⟩⟩, fun h => absurd h hmark⟩
    | succ k =>
      refine ⟨_, rfl, hnodes, by simp [List.replicate_succ], fun _ => ?_⟩
      exact ⟨k, c :: t, rfl, hmark, fun _ => ⟨label, rest, rfl⟩, nofun⟩

/-- A link behind two markers and a blank labels a tag of depth one. -/
theorem new_note_depth_of_link :
    let d : Disk := ⟨[(["n".toList], .directory)], []⟩
    let s : Session := ⟨"/n".toList, [], " @@ [a]".toList, false, [], none, 0, .browse, none⟩
    let place := ["n".toList, "[a].zettel".toList]
    let bytes := encodeText "@[a]\n".toList
    d.file? place ≠ some bytes ∧ (s.press d (.char 'n')).1.file? place = some bytes ∧
      ¬ MarksAgain s.query ∧
      ∃ label rest, parseDocument "@[a]\n".toList = .ok (.tag ⟨1, label⟩ :: rest) := by
  intro d s place bytes
  have hold : d.file? place ≠ some bytes := nofun
  have htag : Session.newTag s.query = " [a]".toList := rfl
  have hnew : (s.press d (.char 'n')).1.file? place = some bytes := by
    rw [Session.press_fst_of_creates ⟨rfl, rfl⟩, htag]
    rfl
  have hagain : ¬ MarksAgain s.query := mt head?_tag_iff.2 (by decide)
  obtain ⟨nodes, -, hnodes, hdepth, -⟩ := new_note_depth rfl hold hnew
  obtain ⟨label, rest, rfl⟩ := hdepth.2 hagain
  exact ⟨hold, hnew, hagain, label, rest, hnodes⟩

/-- A marker behind a marker and a blank makes the tag one deeper. -/
theorem new_note_of_depth_two :
    let d : Disk := ⟨[(["n".toList], .directory)], []⟩
    let s : Session := ⟨"/n".toList, [], "@ @x".toList, false, [], none, 0, .browse, none⟩
    let place := ["n".toList, "@x.zettel".toList]
    d.file? place = none ∧
      (s.press d (.char 'n')).1.file? place = some (encodeText "@@x\n".toList) ∧
      parseDocument "@@x\n".toList = .ok [.tag ⟨2, .run [⟨.plain, ['x']⟩]⟩, .blank 0] := by
  intro d s place
  have htag : Session.newTag s.query = " @x".toList := rfl
  refine ⟨rfl, ?_, ?_⟩
  · rw [Session.press_fst_of_creates ⟨rfl, rfl⟩, htag]
    rfl
  · have hrun : textRun (['x'] ++ ['\n']) = .ok ([⟨.plain, ['x']⟩], ['\n']) :=
      textRun_plain (by decide) (by decide) (by decide) (lineEnd_cons.2 rfl)
    exact nodes_tagLine (k := 1) (by decide) (not_opensLink (by decide) (by decide)) hrun

end Viewer
end Slipbox
