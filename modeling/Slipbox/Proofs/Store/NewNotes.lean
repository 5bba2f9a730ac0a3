import Slipbox.Proofs.Markup.TagLine
import Slipbox.Proofs.Search
import Slipbox.Proofs.Store.Scanning

/-!
# What a new note reads as

A note that has been created is read from its file as the tag with a marker before it and a newline
after it. That is one tag line, whatever else the tag holds: no delimiter in it reaches over the
newline. A tag that begins with a marker makes the line deeper, and one that begins with a link is
read as that link.
-/

namespace Slipbox

open Slipbox.Markup

namespace Store

variable {d : Disk} {root tag : Text} {file : NoteFile} {note : Note} {notes : List Note}

/-! ### Reading a new note -/

theorem write_of_create (h : (create d root tag).2 = .ok file) :
    isValidTag (Text.trim tag) = true ∧ file = NoteFile.forTag (Text.trim tag) ∧
      (write d root (Text.trim tag ++ noteExtension) (firstContent (Text.trim tag))).2 = .ok () ∧
      (create d root tag).1 =
        (write d root (Text.trim tag ++ noteExtension) (firstContent (Text.trim tag))).1 := by
  have hcreates := creates d root tag
  generalize create d root tag = outcome at hcreates h ⊢
  cases hcreates with
  | invalid | present | failed => exact nomatch h
  | written hvalid _ hwritten => exact ⟨hvalid, (Except.ok.inj h).symm, hwritten, rfl⟩

/-- A new note is read as it was written, on every disk and below every root. -/
theorem readNote_create (h : (create d root tag).2 = .ok file) :
    readNote (create d root tag).1 root file =
      .ok (Note.ofBody file (firstContent (Text.trim tag))) := by
  obtain ⟨-, rfl, hwritten, hdisk⟩ := write_of_create h
  obtain ⟨made, -, hwrites⟩ := write_writes hwritten
  have hread := read_of_writes hwrites
  rw [hdisk, readNote, NoteFile.forTag, hread]
  rfl

/-- A marker before the tag and a newline after it make a tag line. -/
theorem firstContent_eq_tagLine (k : Nat) (t : Text) :
    firstContent (List.replicate k '@' ++ t) = tagLine k t := by
  simp [firstContent, tagLine, List.replicate_succ]

/-! ### Finding a new note -/

/-- The tag marker is a word that every note with a marker in its body has. -/
theorem admitted_marker (hbody : '@' ∈ note.body) (htags : note.nodes.countP Search.isTag = 1) :
    Search.Admitted ['@'] true note := by
  refine ⟨?_, fun _ => htags⟩
  intro word hword
  obtain rfl := (Search.isWord_self (by decide) (by decide)).1 hword
  have hoccurs : Search.Occurs ['@'] note.body := by
    obtain ⟨before, after, hsplit⟩ := List.append_of_mem hbody
    rw [Search.Occurs, if_neg (by decide)]
    exact ⟨['@'], ⟨before, after, by simp [hsplit]⟩, rfl⟩
  exact hoccurs

/-- **A new note reads back as one tag.** Unless the trimmed tag begins with a marker or with what
begins a link, what is read from its file is a tag of depth one with a run, and a blank run. The
note has this one label, and a search for the marker finds it among the notes with one tag. A tag
without delimiters and operators is the label as it is, and its beginning is the preview. -/
theorem new_note_reads_back (h : (create d root tag).2 = .ok file)
    (hmark : (Text.trim tag).head? ≠ some '@') (hbracket : (Text.trim tag).head? ≠ some '[')
    (haddress : ¬ "http".toList <+: Text.trim tag) :
    ∃ note run, readNote (create d root tag).1 root file = .ok note ∧ note.file = file ∧
      note.nodes = [.tag ⟨1, .run run⟩, .blank 0] ∧
      note.tags = [⟨1, run.text⟩] ∧ note.preview = run.text.take 35 ∧
      (∀ notes i, notes[i]? = some note → i ∈ search ['@'] notes true) ∧
      (Avoids ['$', '~', '\x60', '"', '*'] (Text.trim tag) → ¬ HoldsOperator (Text.trim tag) →
        run.text = Text.trim tag) := by
  have hread := readNote_create h
  obtain ⟨hvalid, -⟩ := write_of_create h
  generalize Text.trim tag = s at *
  obtain ⟨hne, -, -, hline⟩ := isValidTag_iff.1 hvalid
  obtain ⟨run, hrun⟩ := textRun_line hne hline
  have hnodes : (Note.ofBody file (firstContent s)).nodes = [.tag ⟨1, .run run⟩, .blank 0] :=
    nodes_ofBody (nodes_tagLine (k := 0) hmark (not_opensLink hbracket haddress) hrun)
  obtain ⟨hfile, hbody, -⟩ := ofBody_spec file (firstContent s)
  generalize Note.ofBody file (firstContent s) = note at hread hnodes hfile hbody
  have htags : note.tags = [⟨1, run.text⟩] := by
    rw [Note.tags, hnodes]
    rfl
  refine ⟨note, run, hread, hfile, hnodes, htags, ?_, ?_, ?_⟩
  · rw [Note.preview, htags]
    simp [Text.join, Note.previewLength]
  · intro notes i hnote
    refine (Search.mem_search_iff_admitted hnote).2 (admitted_marker ?_ ?_)
    · simp [hbody, firstContent]
    · rw [hnodes]
      rfl
  · intro havoids hfree
    have hstops : Avoids SpanKind.plain.stops s := by
      intro c hc hstop
      rcases List.mem_cons.1 hstop with rfl | hstop
      · exact hline hc
      · exact havoids c hc hstop
    rw [textRun_plain hne hstops hfree (lineEnd_cons.2 rfl)] at hrun
    obtain ⟨rfl, -⟩ := Prod.mk.inj (Except.ok.inj hrun)
    exact List.append_nil s

/-- Blanks around the tag are left out, and half an operator in it is part of the label. -/
theorem new_note_reads_back_trimmed :
    let root : Text := "/n".toList
    let outcome := create ⟨[], []⟩ root " so :=x ".toList
    outcome.2 = .ok ⟨"so :=x.zettel".toList⟩ ∧
      ∃ note, readNote outcome.1 root ⟨"so :=x.zettel".toList⟩ = .ok note ∧
        note.tags = [⟨1, "so :=x".toList⟩] ∧ note.preview = "so :=x".toList ∧
        0 ∈ search ['@'] [note] true := by
  intro root outcome
  have hok : outcome.2 = .ok ⟨"so :=x.zettel".toList⟩ := rfl
  obtain ⟨note, run, hread, -, -, htags, hpreview, hfound, hlabel⟩ :=
    new_note_reads_back hok (by decide) (by decide) (by decide)
  have htext : run.text = "so :=x".toList := hlabel (by decide) (by decide)
  rw [htext] at htags hpreview
  exact ⟨hok, note, hread, htags, hpreview, hfound _ 0 rfl⟩

end Store
end Slipbox
