import Slipbox.Proofs.Markup.Resumption
import Slipbox.Proofs.Markup.Shape

/-!
# Where structured nodes start

A line or a tag is tried wherever the node before it stopped. That is the start of a line,
unless the node stopped early, at the end of a link or of an item without content. What is
left of the line then opens a line or a tag of its own whenever it begins like one, as in
`[a]@b`. So structured nodes start at the start of a line exactly if no node that stopped
early is followed by such an opening. The main result is `line_starts`.
-/

namespace Slipbox.Markup

open Slipbox.Parsing

variable {s w m r t : Text} {n n' : Node} {f g : Segment} {after : List Segment} {offset : Nat}

/-! ### Starts of lines -/

/-- The offset is that of the first character, or lies directly behind a newline. -/
def AtLineStart (t : Text) (offset : Nat) : Prop :=
  offset = 0 ∨ ∃ u v, t = u ++ '\n' :: v ∧ offset = Text.byteLength (u ++ ['\n'])

/-- Behind a character a line starts exactly if that is a newline. -/
theorem atLineStart_iff {start stop : Nat} {c : Char}
    (hstart : Position.rest? ⟨t, start⟩ = some (w ++ c :: m))
    (hstop : Position.rest? ⟨t, stop⟩ = some m) : AtLineStart t stop ↔ c = '\n' := by
  obtain ⟨x, rfl, rfl⟩ := Position.rest?_eq_some_iff.1 hstop
  obtain ⟨y, ht, -⟩ := Position.rest?_eq_some_iff.1 hstart
  have hx : x ++ m = y ++ w ++ [c] ++ m := by simp [ht]
  obtain rfl := List.append_cancel_right hx
  constructor
  · rintro (hzero | ⟨u, v, hsplit, hoffset⟩)
    · have hpos := c.utf8Size_pos
      simp only [Text.byteLength_append, Text.byteLength_cons] at hzero
      omega
    · rw [List.append_cons u] at hsplit
      obtain ⟨hsame, -⟩ := Text.append_inj_of_byteLength hsplit hoffset
      exact List.singleton_inj.1 (List.append_inj' hsame rfl).2
  · rintro rfl
    exact .inr ⟨y ++ w, m, by simp, rfl⟩

/-! ### Nodes that stop early -/

theorem exists_last (hne : w ≠ []) (hw : '\n' ∉ w) (m : Text) :
    ∃ v c, c ≠ '\n' ∧ w ++ m = v ++ c :: m := by
  rcases List.eq_nil_or_concat w with rfl | ⟨v, c, rfl⟩
  · exact absurd rfl hne
  · refine ⟨v, c, ?_, by simp⟩
    rintro rfl
    exact hw (by simp)

theorem ReadsLink.exists_last {l : Link} (h : ReadsLink s l m) :
    ∃ w c, c ≠ '\n' ∧ s = w ++ c :: m := by
  cases h with
  | @targeted display target =>
    exact ⟨'[' :: display ++ ']' :: '(' :: target, ')', by decide, by simp⟩
  | @bracketed display => exact ⟨'[' :: display, ']', by decide, rfl⟩
  | bare address =>
    obtain ⟨v, hv⟩ := address.exists_cons
    apply Markup.exists_last
    · rw [hv]
      exact List.cons_ne_nil _ _
    · intro hmem
      exact absurd (address.2 '\n' hmem) (by decide)

theorem ReadsMarker.exists_last {marker : Text} (h : ReadsMarker s marker m) :
    ∃ w c, c ≠ '\n' ∧ s = w ++ c :: m := by
  cases h with
  | @glyph c _ known =>
    refine ⟨[], c, ?_, rfl⟩
    rintro rfl
    exact absurd known (by decide)
  | label shape =>
    apply Markup.exists_last
    · obtain ⟨c, v, -, rfl⟩ := shape.exists_cons
      exact List.cons_ne_nil _ _
    · obtain ⟨parts, -, hparts, rfl⟩ := shape
      intro hmem
      obtain ⟨part, hpart, hnewline⟩ := List.mem_flatten.1 hmem
      exact (hparts part hpart).newline_not_mem hnewline

theorem inline_last {content : Inline} (h : inline s = .ok (content, m))
    (hstops : content.stopsEarly = true) : ∃ w c, c ≠ '\n' ∧ s = w ++ c :: m := by
  rcases inline_eq_ok_iff.1 h with ⟨l, -, hl⟩ | ⟨-, run, rfl, -⟩
  · exact (link_eq_ok_iff.1 hl).exists_last
  · exact nomatch hstops

theorem ReadsLineContent.exists_last {content : LineContent} (h : ReadsLineContent s content m)
    (hstops : content.stopsEarly = true) : ∃ w c, c ≠ '\n' ∧ s = w ++ c :: m := by
  cases h with
  | link hlink => exact hlink.exists_last
  | comment => exact nomatch hstops
  | @item _ _ _ i _ marker content =>
    obtain ⟨mark, inner⟩ := i
    obtain ⟨v, d, hd, rfl⟩ := marker.exists_last
    cases content with
    | none => exact ⟨v, d, hd, rfl⟩
    | some hinline =>
      obtain ⟨w, c, hc, rfl⟩ := inline_last hinline (by simpa [LineContent.stopsEarly] using hstops)
      exact ⟨v ++ d :: ' ' :: w, c, hc, by simp⟩

/-- A node that may stop early stops behind a character other than a newline. -/
theorem node_last (h : node s = .ok (n, m)) (hstops : n.stopsEarly = true) :
    ∃ w c, c ≠ '\n' ∧ s = w ++ c :: m := by
  cases node_eq_ok_iff.1 h with
  | @line _ _ l hline =>
    obtain ⟨x, rfl, hcontent⟩ := line_eq_ok_iff.1 hline
    obtain ⟨w, c, hc, rfl⟩ := hcontent.exists_last hstops
    exact ⟨List.replicate l.indent ' ' ++ w, c, hc, by simp⟩
  | @tag _ _ g htag =>
    obtain ⟨-, x, rfl, -, hlabel⟩ := tag_eq_ok_iff.1 htag
    obtain ⟨w, c, hc, rfl⟩ := inline_last hlabel hstops
    exact ⟨List.replicate g.depth '@' ++ w, c, hc, by simp⟩
  | blank => exact nomatch hstops
  | text => exact nomatch hstops

/-! ### Structured nodes -/

/-- The node is a line or a tag. -/
def Node.isStructured : Node → Bool
  | .tag _ => true
  | .line _ => true
  | .text _ => false
  | .blank _ => false

theorem isStructured_iff (h : node s = .ok (n, r)) :
    n.isStructured = true ↔ OpensLine s ∨ OpensTag s := by
  cases node_eq_ok_iff.1 h with
  | line hline => exact ⟨fun _ => .inl (line_succeeds_iff.2 ⟨_, _, hline⟩), fun _ => rfl⟩
  | tag htag => exact ⟨fun _ => .inr (tag_succeeds_iff.2 ⟨_, _, htag⟩), fun _ => rfl⟩
  | @blank count =>
    obtain ⟨hline, htag⟩ := fails_of_newline (s := List.replicate count '\n' ++ r)
    rw [line_fails_iff] at hline
    rw [tag_fails_iff] at htag
    simp [Node.isStructured, List.replicate_succ, hline, htag]
  | text unlined untagged =>
    simp [Node.isStructured, line_fails_iff.1 unlined, tag_fails_iff.1 untagged]

/-- Before a structured node, what reaches the end of its line is a blank run. -/
theorem node_last_newline (hfirst : node s = .ok (n, m)) (hnext : node m = .ok (n', r))
    (hstructured : n'.isStructured = true) (hstops : n.stopsEarly = false) :
    ∃ w, s = w ++ '\n' :: m := by
  have hblank' : n'.isBlank = false := by
    cases n' with
    | blank => exact nomatch hstructured
    | _ => rfl
  have hblank : n.isBlank = true := by
    by_cases hblank : n.isBlank = true
    · exact hblank
    · rw [Bool.not_eq_true] at hblank
      have hend := (node_leads hfirst hnext).ended hblank hstops
      exact nomatch hend.symm.trans hblank'
  cases node_eq_ok_iff.1 hfirst with
  | @blank count => exact ⟨List.replicate count '\n', by simp [List.replicate_succ']⟩
  | _ => exact nomatch hblank

/-- A structured node starts a line unless the node before it stops early. -/
theorem Tiles.atLineStart_iff (h : Tiles t offset (f :: g :: after))
    (hstructured : g.node.isStructured = true) :
    AtLineStart t g.start ↔ f.node.stopsEarly = false := by
  obtain ⟨w, m, hstart, hstop, hfirst⟩ := h.exists_read
  obtain ⟨v, r, hstart', -, hnext⟩ := h.tail.exists_read
  obtain rfl := Option.some.inj (hstop.symm.trans hstart')
  rw [h.tail.start_eq]
  by_cases hstops : f.node.stopsEarly = true
  · obtain ⟨u, c, hc, hsplit⟩ := node_last hfirst hstops
    rw [hsplit] at hstart
    rw [Markup.atLineStart_iff hstart hstop]
    simp [hc, hstops]
  · rw [Bool.not_eq_true] at hstops
    obtain ⟨u, hsplit⟩ := node_last_newline hfirst hnext hstructured hstops
    rw [hsplit] at hstart
    rw [Markup.atLineStart_iff hstart hstop]
    simp [hstops]

/-- A line or a tag opens at the stop of a node exactly if the next node is one. -/
theorem Tiles.opens_iff (h : Tiles t offset (f :: after))
    (hrest : Position.rest? ⟨t, f.stop⟩ = some r) :
    OpensLine r ∨ OpensTag r ↔ ∃ g ∈ after.head?, g.node.isStructured = true := by
  cases after with
  | nil =>
    obtain ⟨r', hrest', hchain⟩ := h.tail.exists_chain
    obtain rfl := Option.some.inj (hrest'.symm.trans hrest)
    cases hchain with
    | stop =>
      constructor
      · rintro (hline | htag)
        · obtain ⟨l, r, hok⟩ := line_succeeds_iff.1 hline
          obtain ⟨c, w, heq, -⟩ := line_head_ne hok
          exact nomatch heq
        · obtain ⟨g, r, hok⟩ := tag_succeeds_iff.1 htag
          obtain ⟨w, heq⟩ := tag_head_eq hok
          exact nomatch heq
      · rintro ⟨g, hg, -⟩
        exact nomatch hg
  | cons g after =>
    obtain ⟨w, m, hstart, -, hread⟩ := h.tail.exists_read
    obtain rfl := Option.some.inj (hstart.symm.trans hrest)
    simp [isStructured_iff hread]

/-- **Where structured nodes start.** A line or a tag starts a line unless the node before it
stops early. So all of them start lines exactly if no line or tag opens where a node stops
early. -/
theorem line_starts (t : Text) :
    (∃ segments, Tiles t 0 segments ∧ parseDocument t = .ok (segments.map Segment.node)) ∧
    ∀ segments, Tiles t 0 segments →
      (∀ before f g after, segments = before ++ f :: g :: after → g.node.isStructured = true →
        (AtLineStart t g.start ↔ f.node.stopsEarly = false)) ∧
      ((∀ g ∈ segments, g.node.isStructured = true → AtLineStart t g.start) ↔
        ∀ f ∈ segments, f.node.stopsEarly = true →
          ∀ rest, Position.rest? ⟨t, f.stop⟩ = some rest → ¬ (OpensLine rest ∨ OpensTag rest)) := by
  constructor
  · obtain ⟨nodes, hchain⟩ := exists_chain_node t
    obtain ⟨segments, rfl, htiles⟩ := exists_tiles_of_chain (s := []) hchain
    exact ⟨segments, htiles, parseDocument_eq_ok_iff.2 hchain⟩
  · intro segments htiles
    refine ⟨?_, ?_, ?_⟩
    · rintro before f g after rfl hstructured
      exact htiles.drop.atLineStart_iff hstructured
    · intro hall f hf hstops rest hrest hopens
      obtain ⟨before, after, rfl⟩ := List.append_of_mem hf
      obtain ⟨g, hhead, hstructured⟩ := (htiles.drop.opens_iff hrest).1 hopens
      obtain ⟨after, rfl⟩ := List.head?_eq_some_iff.1 hhead
      have hstart := hall g (by simp) hstructured
      rw [htiles.drop.atLineStart_iff hstructured, hstops] at hstart
      exact nomatch hstart
    · intro hall g hg hstructured
      obtain ⟨before, after, rfl⟩ := List.append_of_mem hg
      rcases List.eq_nil_or_concat before with rfl | ⟨before, f, rfl⟩
      · exact .inl htiles.start_eq
      · rw [List.concat_append] at htiles hall
        rw [htiles.drop.atLineStart_iff hstructured, ← Bool.not_eq_true]
        intro hstops
        obtain ⟨w, m, hrest, -, -⟩ := htiles.drop.tail.exists_read
        apply hall f (by simp) hstops _ hrest
        exact (htiles.drop.opens_iff hrest).2 ⟨g, rfl, hstructured⟩

/-- A link behind a newline starts a line. -/
theorem line_starts_behind_newline : AtLineStart "[a]\n[b]".toList 4 := by
  have hlast : Tiles "[a]\n[b]".toList 4 [⟨4, 7, .line ⟨0, .link ⟨['b'], none⟩⟩⟩] :=
    Tiles.read (s := "[a]\n".toList) (w := "[b]".toList) (m := []) rfl .done
  have hblank : Tiles "[a]\n[b]".toList 3 [⟨3, 4, .blank 0⟩, _] :=
    Tiles.read (s := "[a]".toList) (w := ['\n']) (m := "[b]".toList) rfl hlast
  have htiles : Tiles "[a]\n[b]".toList 0 [⟨0, 3, .line ⟨0, .link ⟨['a'], none⟩⟩⟩, _, _] :=
    Tiles.read (s := []) (w := "[a]".toList) (m := "\n[b]".toList) rfl hblank
  exact ((line_starts _).2 _ htiles).1 [_] _ _ [] rfl rfl |>.2 rfl

/-- A tag directly behind a link does not start a line. -/
theorem tag_starts_within_line : ∃ segments, Tiles "[a]@[b]".toList 0 segments ∧
    ∃ g ∈ segments, g.node.isStructured = true ∧ ¬ AtLineStart "[a]@[b]".toList g.start := by
  have htag : Tiles "[a]@[b]".toList 3 [⟨3, 7, .tag ⟨1, .link ⟨['b'], none⟩⟩⟩] :=
    Tiles.read (s := "[a]".toList) (w := "@[b]".toList) (m := []) rfl .done
  have htiles : Tiles "[a]@[b]".toList 0 [⟨0, 3, .line ⟨0, .link ⟨['a'], none⟩⟩⟩, _] :=
    Tiles.read (s := []) (w := "[a]".toList) (m := "@[b]".toList) rfl htag
  refine ⟨_, htiles, _, List.mem_cons_of_mem _ List.mem_cons_self, rfl, ?_⟩
  rw [htiles.atLineStart_iff rfl]
  decide

end Slipbox.Markup
