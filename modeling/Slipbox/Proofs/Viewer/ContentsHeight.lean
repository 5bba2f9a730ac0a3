import Mathlib.Algebra.BigOperators.Group.List.Basic
import Mathlib.Algebra.GroupWithZero.Nat
import Slipbox.Proofs.Contents
import Slipbox.Proofs.Markup.Canonical
import Slipbox.Proofs.Store.Scanning
import Slipbox.Viewer.Screen

/-!
# The height of the contents

For its table of contents the viewer asks for a row per entry and two more for the border, and
counts them in sixteen bits. That goes well while there are fewer than 65,534 entries, so the
question is how long a text with that many entries must be.

A line takes its indent and two more characters, be it a marker and a newline or a longer content.
An entry is a line together with the deeper one below it, and no line counts twice: a header that is
indented less than a step counts with its room and the line below it with its own, and a header that
is indented a step already leaves it all to the line below (`entries_le_room`). The text has all
this room, except that the last newline may be missing (`room_le_of_chain`). So there is at most one
entry in eight bytes, and texts of bare markers have that many (`entries_shortest`).
-/

namespace Slipbox

open Slipbox.Markup Slipbox.Parsing

variable {s r t : Text}

/-! ### Entries and lines -/

namespace Contents

/-- The characters that a line takes at least, with its end. -/
def room : Node → Nat
  | .line l => l.indent + 2
  | _ => 0

/-- The room of a line that is indented less than a step. -/
def shallowRoom : Node → Nat
  | .line l => if l.indent < indentStep then l.indent + 2 else 0
  | _ => 0

/-- The room of a line that is indented a step or more. -/
def deepRoom : Node → Nat
  | .line l => if l.indent < indentStep then 0 else l.indent + 2
  | _ => 0

theorem shallowRoom_add_deepRoom (n : Node) : shallowRoom n + deepRoom n = room n := by
  cases n with
  | line l =>
    rw [shallowRoom, deepRoom, room]
    split
    · exact Nat.add_zero _
    · exact Nat.zero_add _
  | _ => rfl

/-- The two lines of an entry have room for eight characters. -/
theorem entry?_le_room (k : Nat) (n : Node) (nodes : List Node) :
    8 * (Option.toList <| entry? k n nodes).length ≤
      shallowRoom n + (nodes[1]?.map deepRoom).getD 0 := by
  cases hentry : entry? k n nodes with
  | none => exact Nat.zero_le _
  | some entry =>
    obtain ⟨l, below, rfl, hbelow, hdepth, hstep, -⟩ := entry?_eq_some_iff.1 hentry
    have hdeep : ¬ below.indent < indentStep := by
      rw [hstep, indentStep]
      omega
    rw [hbelow, Option.map_some, Option.getD_some, deepRoom, if_neg hdeep, shallowRoom, hstep,
      Option.toList_some, List.length_singleton, indentStep]
    split <;> omega

theorem sum_deepRoom_drop (nodes : List Node) :
    ((nodes.drop 1).map deepRoom).sum =
      (nodes[1]?.map deepRoom).getD 0 + ((nodes.drop 2).map deepRoom).sum := by
  match nodes with
  | [] => rfl
  | [_] => rfl
  | _ :: m :: nodes => rfl

/-- Lines above count when they are shallow; lines below stand two places on and count when they
are deep. -/
theorem entries_le_room (k : Nat) (nodes : List Node) :
    8 * (entriesFrom k nodes).length ≤
      (nodes.map shallowRoom).sum + ((nodes.drop 2).map deepRoom).sum := by
  induction nodes generalizing k with
  | nil => exact Nat.le_refl 0
  | cons n nodes ih =>
    have hfirst := entry?_le_room k n nodes
    have hrest := ih (k + 1)
    have hdrop := sum_deepRoom_drop nodes
    rw [entriesFrom_cons, List.length_append, List.map_cons, List.sum_cons, List.drop_succ_cons]
    omega

theorem contents_le_room (nodes : List Node) :
    8 * (contents nodes).length ≤ (nodes.map room).sum := by
  have hdeep : ((nodes.drop 2).map deepRoom).sum ≤ (nodes.map deepRoom).sum := by
    calc ((nodes.drop 2).map deepRoom).sum
        ≤ ((nodes.take 2).map deepRoom).sum + ((nodes.drop 2).map deepRoom).sum :=
          Nat.le_add_left ..
      _ = (nodes.map deepRoom).sum := by
          rw [← List.sum_append, ← List.map_append, List.take_append_drop]
  calc 8 * (contents nodes).length
      ≤ (nodes.map shallowRoom).sum + ((nodes.drop 2).map deepRoom).sum :=
        entries_le_room 0 nodes
    _ ≤ (nodes.map shallowRoom).sum + (nodes.map deepRoom).sum := Nat.add_le_add_left hdeep _
    _ = (nodes.map room).sum := by
        rw [← List.sum_map_add]
        simp only [shallowRoom_add_deepRoom]

end Contents

/-! ### Lines and characters -/

namespace Markup

/-- Only a list glyph is a marker of one character. -/
theorem ReadsMarker.separated {marker : Text} (h : ReadsMarker s marker r)
    (hshort : s.length = r.length + 1) : Next (fun d => d = ' ' ∨ d = '\n') r := by
  cases h with
  | glyph _ separated => exact separated
  | label shape =>
    obtain ⟨segments, hne, hall, rfl⟩ := shape
    obtain ⟨segment, segments, rfl⟩ := List.exists_cons_of_ne_nil hne
    obtain ⟨a, hane, -, rfl⟩ := hall segment List.mem_cons_self
    have hpos := List.length_pos_iff.2 hane
    simp only [List.flatten_cons, List.length_append, List.length_singleton] at hshort
    omega

/-- Nothing stands between a lone marker and the end of the line, so no line begins there. -/
theorem line_fails_of_separated (hseparated : Next (fun d => d = ' ' ∨ d = '\n') r)
    (hbare : ∀ x, r = ' ' :: x → LineEnd x) : Fails line r := by
  rw [fails_iff]
  rintro ⟨indent, content⟩ r' hok
  obtain ⟨m, rfl, hcontent⟩ := line_eq_ok_iff.1 hok
  obtain ⟨c, w, rfl, hspace, hnewline, -⟩ := hcontent.head_ne
  match indent with
  | 0 =>
    rcases (next_cons _ _ _).1 hseparated with hc | hc
    · exact hspace hc
    · exact hnewline hc
  | 1 => exact hnewline (lineEnd_cons.1 (hbare _ rfl))
  | _ + 2 => exact absurd (lineEnd_cons.1 (hbare _ rfl)) (by decide)

/-- Behind a content of one character no line follows at once. -/
theorem ReadsLineContent.line_fails {content : LineContent} (h : ReadsLineContent s content r)
    (hshort : s.length = r.length + 1) : Fails line r := by
  cases h with
  | link hlink =>
    cases hlink with
    | targeted | bracketed =>
      simp only [List.length_append, List.length_cons] at hshort
      omega
    | bare address =>
      have hletters := address.1.length_le
      simp only [List.length_append, String.length_toList] at hshort hletters
      have : "http".length = 4 := rfl
      omega
  | comment =>
    simp only [List.length_append, List.length_cons] at hshort
    omega
  | @item _ m _ i _ marker hcontent =>
    obtain ⟨_, content⟩ := i
    have hmarker := marker.length_lt
    cases hcontent with
    | some hinline =>
      have := advances_inline hinline
      simp only [List.length_cons] at hmarker
      omega
    | none bare => exact line_fails_of_separated (marker.separated hshort) bare

end Markup

namespace Contents

/-- What is read has the room of its lines but for one character, and all of it if it does not begin
with a line. The second part carries the induction. -/
theorem room_le_of_chain {nodes : List Node} (h : Chain node s nodes r) :
    (nodes.map room).sum + r.length ≤ s.length + 1 ∧
      (Fails line s → (nodes.map room).sum + r.length ≤ s.length) := by
  induction h with
  | stop s => simp
  | @step s m r n nodes head shorter _ ih =>
    obtain ⟨hle, hunlined⟩ := ih
    rw [List.map_cons, List.sum_cons]
    cases node_eq_ok_iff.1 head with
    | @line _ _ l hline =>
      refine ⟨?_, fun hfails => absurd hfails (not_fails_of_ok hline)⟩
      obtain ⟨c, rfl, hcontent⟩ := line_eq_ok_iff.1 hline
      have hlt := hcontent.length_lt
      rw [List.length_append, List.length_replicate, room]
      -- two characters are room enough; behind a single one there is no line to make up for
      by_cases hshort : c.length = m.length + 1
      · have hrest := hunlined (hcontent.line_fails hshort)
        omega
      · omega
    | tag | blank | text =>
      simp only [room]
      omega

/-- There is at most one entry in eight bytes, where the last newline may be missing. -/
theorem entries_le_byteLength {nodes : List Node} (h : parseDocument t = .ok nodes) :
    8 * (contents nodes).length ≤ t.byteLength + 1 := by
  have hroom := (room_le_of_chain (parseDocument_eq_ok_iff.1 h)).1
  calc 8 * (contents nodes).length
      ≤ (nodes.map room).sum := contents_le_room nodes
    _ ≤ t.length + 1 := hroom
    _ ≤ t.byteLength + 1 := Nat.succ_le_succ (Text.length_le_byteLength t)

/-! ### The shortest texts -/

/-- The shortest text with a number of entries: bare markers, each with one below it. -/
def shortest (count : Nat) : Text := Text.join ['\n'] (List.replicate count "-\n    -".toList)

/-- A line with nothing but a marker. -/
def bareLine (indent : Nat) : Node := .line ⟨indent, .item ⟨['-'], none⟩⟩

/-- The nodes of the shortest text with one entry and `more`. -/
def pairs : Nat → List Node
  | 0 => [bareLine 0, .blank 0, bareLine 4]
  | more + 1 => bareLine 0 :: .blank 0 :: bareLine 4 :: .blank 0 :: pairs more

theorem exists_pairs_eq (more : Nat) : ∃ rest, pairs more = bareLine 0 :: .blank 0 :: rest := by
  cases more with
  | zero => exact ⟨_, rfl⟩
  | succ more => exact ⟨_, rfl⟩

theorem shortest_succ_succ (more : Nat) :
    shortest (more + 2) = "-\n    -\n".toList ++ shortest (more + 1) := rfl

theorem unparse_pairs (more : Nat) : unparse (pairs more) = shortest (more + 1) := by
  induction more with
  | zero => rfl
  | succ more ih =>
    rw [shortest_succ_succ, ← ih]
    rfl

theorem byteLength_shortest (count : Nat) : (shortest count).byteLength = 8 * count - 1 := by
  match count with
  | 0 => rfl
  | more + 1 =>
    induction more with
    | zero => rfl
    | succ more ih =>
      have hpair : Text.byteLength "-\n    -\n".toList = 8 := rfl
      rw [shortest_succ_succ, Text.byteLength_append, ih, hpair]
      omega

theorem canonical_pairs (more : Nat) : Canonical (pairs more) := by
  have hbare : ∀ indent, (bareLine indent).Canonical := by
    intro indent
    refine ⟨.inl ⟨'-', by decide, rfl⟩, ?_⟩
    rintro content ⟨⟩
  induction more with
  | zero =>
    refine ⟨?_, rfl, rfl, trivial⟩
    simp only [pairs, List.forall_mem_cons]
    exact ⟨hbare 0, trivial, hbare 4, List.forall_mem_nil _⟩
  | succ more ih =>
    obtain ⟨heach, halternate⟩ := ih
    constructor
    · simp only [pairs, List.forall_mem_cons]
      exact ⟨hbare 0, trivial, hbare 4, trivial, heach⟩
    · obtain ⟨rest, hrest⟩ := exists_pairs_eq more
      rw [hrest] at halternate
      rw [pairs, hrest]
      exact ⟨rfl, rfl, rfl, rfl, halternate⟩

theorem length_entriesFrom_pairs (k more : Nat) :
    (entriesFrom k (pairs more)).length = more + 1 := by
  induction more generalizing k with
  | zero => rfl
  | succ more ih =>
    obtain ⟨rest, hrest⟩ := exists_pairs_eq more
    have hblank : ∀ k nodes, entry? k (.blank 0) nodes = none := fun _ _ => rfl
    have habove : entry? k (bareLine 0) (.blank 0 :: bareLine 4 :: .blank 0 :: pairs more) =
        some ⟨k, 0, []⟩ := rfl
    -- the line below is followed by the next one above, which is not indented
    have hbelow : entry? (k + 1 + 1) (bareLine 4) (.blank 0 :: pairs more) = none := by
      rw [hrest]
      rfl
    simp only [pairs, entriesFrom_cons, habove, hbelow, hblank, Option.toList_some,
      Option.toList_none, List.nil_append, List.singleton_append, List.length_cons, ih]

/-- The shortest text with a number of entries has them. -/
theorem entries_shortest (file : NoteFile) (count : Nat) :
    (contents (Note.ofBody file (shortest count)).nodes).length = count := by
  cases count with
  | zero =>
    have hparse : parseDocument (shortest 0) = .ok [] := parseDocument_eq_ok_iff.2 (.stop [])
    rw [Store.nodes_ofBody hparse]
    rfl
  | succ more =>
    have hparse : parseDocument (shortest (more + 1)) = .ok (pairs more) := by
      rw [← unparse_pairs]
      exact parseDocument_eq_ok_iff.2 (canonical_pairs more).chain
    rw [Store.nodes_ofBody hparse]
    exact length_entriesFrom_pairs 0 more

end Contents

/-! ### Sixteen bits -/

namespace Viewer

open Contents

theorem length_contentsRows (note : Note) :
    (contentsRows note).length = (contents note.nodes).length := List.length_map _

theorem toNat_contentsHeight (entries : Nat) :
    (contentsHeight entries).toNat = (entries + 2) % 2 ^ 16 := by
  rw [contentsHeight, UInt16.toNat_add, UInt16.toNat_ofNat']
  exact (Nat.add_mod entries 2 (2 ^ 16)).symm

/-- **The contents are given enough rows in short texts, but not in long ones.** The height that
is asked for is two more than the number of entries modulo 65,536, so it is right just if there are
fewer than 65,534; the cast alone loses nothing just if there are fewer than 65,536. A text has at
most one entry in eight bytes, a missing newline at its end aside, so each text of less than 524,271
bytes is given enough. Any number of entries is reached by a text as short as that. -/
theorem contents_height (file : NoteFile) :
    (∀ t, let note := Note.ofBody file t
      let entries := (contents note.nodes).length
      let height := contentsHeight (contentsRows note).length
      height.toNat = (entries + 2) % 2 ^ 16 ∧
        ((UInt16.ofNat entries).toNat = entries ↔ entries < 65536) ∧
        (height.toNat = entries + 2 ↔ entries < 65534) ∧
        8 * entries ≤ t.byteLength + 1 ∧
        (t.byteLength < 524271 → height.toNat = entries + 2)) ∧
      ∀ count, (contents (Note.ofBody file (shortest count)).nodes).length = count ∧
        (shortest count).byteLength = 8 * count - 1 := by
  refine ⟨fun t => ?_, fun count => ⟨entries_shortest file count, byteLength_shortest count⟩⟩
  intro note entries height
  have hheight : height.toNat = (entries + 2) % 2 ^ 16 := by
    calc height.toNat
        = ((contentsRows note).length + 2) % 2 ^ 16 := toNat_contentsHeight _
      _ = (entries + 2) % 2 ^ 16 := by rw [length_contentsRows]
  have hbytes : 8 * entries ≤ t.byteLength + 1 :=
    entries_le_byteLength (Store.ofBody_spec file t).2.2.1
  refine ⟨hheight, ?_, ?_, hbytes, ?_⟩
  · rw [UInt16.toNat_ofNat']
    omega
  · omega
  · omega

/-- A box of two rows is its border. -/
theorem box_two (width : Nat) (base : Style) (title : Text) (rows : Block) :
    box width 2 base title rows = box width 2 base title [] := by
  simp [box, fitRows]

/-- If the entries fill the sixteen bits, their box is a border around nothing. -/
theorem noteBoxes_of_dvd {note : Note} (hpos : 0 < (contents note.nodes).length)
    (hdvd : 65536 ∣ (contents note.nodes).length) :
    (contentsHeight (contentsRows note).length).toNat = 2 ∧
      noteBoxes note = box mainWidth 2 .plain "Contents".toList [] ++
        box mainWidth 17 .plain note.file.shownPath
          (wrappedRows (mainWidth - 2) (rowsOfNote note)) := by
  have hheight : (contentsHeight (contentsRows note).length).toNat = 2 := by
    rw [toNat_contentsHeight, length_contentsRows]
    omega
  have hrows : ¬ (contentsRows note).isEmpty = true := by
    simpa [contentsRows, List.length_pos_iff] using hpos
  refine ⟨hheight, ?_⟩
  rw [noteBoxes, if_neg hrows, hheight]
  exact congrArg (· ++ _) (box_two ..)

/-- The contents of 65,536 entries are shown without any. -/
theorem contents_height_wraps :
    let note := Note.ofBody ⟨"a.zettel".toList⟩ (shortest 65536)
    (contents note.nodes).length = 65536 ∧
      (contentsHeight (contentsRows note).length).toNat = 2 ∧
      noteBoxes note = box mainWidth 2 .plain "Contents".toList [] ++
        box mainWidth 17 .plain note.file.shownPath
          (wrappedRows (mainWidth - 2) (rowsOfNote note)) := by
  have hentries := entries_shortest ⟨"a.zettel".toList⟩ 65536
  have hpos := Nat.lt_of_lt_of_eq (by decide : 0 < 65536) hentries.symm
  exact ⟨hentries, noteBoxes_of_dvd hpos ⟨1, hentries⟩⟩

end Viewer
end Slipbox
