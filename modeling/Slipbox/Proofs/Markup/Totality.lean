import Slipbox.Html
import Slipbox.Proofs.Markup.Spellings
import Slipbox.Proofs.Parsing.Suffix
import Slipbox.Viewer.Lines

/-!
# Every text parses

A node can be read at every place but the end and takes something there, so the
chain of nodes reaches the end of every text. `Tiles` puts this in terms of byte
offsets: the nodes of a text occupy ranges that are not empty and follow one
another without gaps from the start of the parse to the end of the text. A note
therefore never carries an error, and its body is never shown raw.
-/

namespace Slipbox.Markup

open Slipbox.Parsing

/-! ### Tilings -/

/-- A node and the range of bytes that it was read from. -/
structure Segment where
  start : Nat
  stop : Nat
  node : Node

/-- Nodes read one after another from a byte offset to the end of the text: each range starts
where the one before it stops, and none is empty. -/
inductive Tiles (t : Text) : Nat → List Segment → Prop where
  | done : Tiles t t.byteLength []
  | next {g : Segment} {others : List Segment} (nonempty : g.start < g.stop)
      (reads : node.parseAt? t g.start = some (.ok (g.node, ⟨t, g.stop⟩)))
      (tiles : Tiles t g.stop others) : Tiles t g.start (g :: others)

/-- What a node takes is the first range of a tiling whose others lie behind it. -/
theorem Tiles.read {s w m : Text} {n : Node} {others : List Segment}
    (h : node (w ++ m) = .ok (n, m))
    (tiles : Tiles (s ++ (w ++ m)) (s ++ w).byteLength others) :
    Tiles (s ++ (w ++ m)) s.byteLength (⟨s.byteLength, (s ++ w).byteLength, n⟩ :: others) := by
  have hpos := advances_node h
  have hlt : s.byteLength < (s ++ w).byteLength := by
    have hbytes := Text.length_le_byteLength w
    rw [List.length_append] at hpos
    rw [Text.byteLength_append]
    omega
  exact .next (g := ⟨s.byteLength, (s ++ w).byteLength, n⟩) hlt (parseAt?_of_ok h) tiles

/-- A chain of nodes that reaches the end of the text tiles it. -/
theorem exists_tiles_of_chain {s r : Text} {nodes : List Node} (h : Chain node r nodes []) :
    ∃ segments : List Segment,
      segments.map Segment.node = nodes ∧ Tiles (s ++ r) s.byteLength segments := by
  generalize hend : ([] : Text) = e at h
  induction h generalizing s with
  | stop r =>
    subst hend
    refine ⟨[], rfl, ?_⟩
    rw [List.append_nil]
    exact .done
  | @step r m _ n _ head _ _ ih =>
    obtain ⟨w, -, rfl⟩ := node_spells head
    obtain ⟨segments, hnodes, htiles⟩ := ih (s := s ++ w) hend
    rw [List.append_assoc] at htiles
    exact ⟨⟨s.byteLength, (s ++ w).byteLength, n⟩ :: segments, congrArg (n :: ·) hnodes,
      Tiles.read head htiles⟩

/-- **Every text parses, completely.** From every place between two characters the document rule
reaches the end, with nodes that tile what it read; so a note has no error and is never shown
raw. -/
theorem parse_tiles (file : NoteFile) (t : Text) :
    (∃ segments, parseDocument t = .ok (segments.map Segment.node) ∧ Tiles t 0 segments) ∧
    (∀ offset, (Position.rest? ⟨t, offset⟩).isSome →
      ∃ segments, Tiles t offset segments ∧
        document.parseAt? t offset =
          some (.ok (segments.map Segment.node, ⟨t, t.byteLength⟩))) ∧
    (Note.ofBody file t).error = none ∧
    Html.renderNote (Note.ofBody file t) = Html.render (Note.ofBody file t).nodes ∧
    Viewer.rowsOfNote (Note.ofBody file t) = Viewer.rowsOfNodes (Note.ofBody file t).nodes := by
  obtain ⟨nodes, hchain⟩ := exists_chain_node t
  have hparse := parseDocument_eq_ok_iff.2 hchain
  have hnote : Note.ofBody file t = ⟨file, t, nodes, none⟩ := by rw [Note.ofBody, hparse]
  refine ⟨?_, ?_, by rw [hnote], by rw [hnote]; rfl, by rw [hnote]; rfl⟩
  · obtain ⟨segments, rfl, htiles⟩ := exists_tiles_of_chain (s := []) hchain
    exact ⟨segments, hparse, htiles⟩
  · intro offset hplace
    obtain ⟨r, hr⟩ := Option.isSome_iff_exists.1 hplace
    obtain ⟨s, rfl, rfl⟩ := Position.rest?_eq_some_iff.1 hr
    obtain ⟨nodes, hchain⟩ := exists_chain_node r
    obtain ⟨segments, rfl, htiles⟩ := exists_tiles_of_chain (s := s) hchain
    refine ⟨segments, htiles, ?_⟩
    rw [parseAt?_append, document_eq_ok_iff.2 ⟨hchain, rfl⟩]
    rfl

/-- Parsing may start behind a letter of two bytes, in front of an unfinished bold text. -/
theorem parse_tiles_inside :
    ∃ segments, Tiles "é*b\n@c".toList 2 segments ∧
      document.parseAt? "é*b\n@c".toList 2 =
        some (.ok (segments.map Segment.node,
          ⟨"é*b\n@c".toList, Text.byteLength "é*b\n@c".toList⟩)) := by
  have hrest : Position.rest? ⟨"é*b\n@c".toList, 2⟩ = some "*b\n@c".toList :=
    Position.rest?_eq_some_iff.2 ⟨"é".toList, rfl, rfl⟩
  have hplace : (Position.rest? ⟨"é*b\n@c".toList, 2⟩).isSome := by
    rw [hrest]
    rfl
  exact (parse_tiles ⟨[]⟩ "é*b\n@c".toList).2.1 2 hplace

end Slipbox.Markup
