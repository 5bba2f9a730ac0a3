import Slipbox.Proofs.Markup.Rules
import Slipbox.Proofs.Text

/-!
# How lines and tags open

Whether a link, a line or a tag can be read at a place depends on a short opening
only, which lies within one line. So these rules fail or succeed alike on a text
and on the same text followed by the end of its line.
-/

namespace Slipbox.Markup

open Slipbox.Parsing

variable {s r : Text}

/-! ### Links -/

/-- A display in brackets, or the beginning of an address. -/
inductive OpensLink : Text → Prop where
  | bracket {display s : Text} (avoids : Avoids [']', '\n'] display) :
      OpensLink ('[' :: display ++ ']' :: s)
  | address (s : Text) : OpensLink ("http".toList ++ s)

theorem link_succeeds_iff : OpensLink s ↔ ∃ l r, link s = .ok (l, r) := by
  constructor
  · intro h
    cases h with
    | @bracket display s avoids =>
      cases hp : parenthesised s with
      | error e => exact ⟨_, _, link_eq_ok_iff.2 (.bracketed avoids ⟨e, hp⟩)⟩
      | ok x =>
        obtain ⟨havoids, rfl⟩ := parenthesised_eq_ok_iff.1 (hp : parenthesised s = .ok (x.1, x.2))
        have hread := ReadsLink.targeted (r := x.2) avoids havoids
        exact ⟨⟨display, some x.1⟩, x.2, link_eq_ok_iff.2 (by simpa using hread)⟩
    | address s =>
      have hrest := takeWhile_dropWhile_iff.1 (⟨rfl, rfl⟩ :
        s.takeWhile (!Text.isBlank ·) = _ ∧ s.dropWhile (!Text.isBlank ·) = _)
      obtain ⟨hword, hend, hs⟩ := hrest
      have haddress : IsAddress ("http".toList ++ s.takeWhile (!Text.isBlank ·)) := by
        refine ⟨List.prefix_append _ _, ?_⟩
        intro c hc
        rcases List.mem_append.1 hc with hc | hc
        · exact (by decide : ∀ d ∈ "http".toList, Text.isBlank d = false) c hc
        · simpa using hword c hc
      have hread := ReadsLink.bare haddress
        (r := s.dropWhile (!Text.isBlank ·)) (by simpa using hend)
      rw [List.append_assoc, ← hs] at hread
      exact ⟨_, _, link_eq_ok_iff.2 hread⟩
  · rintro ⟨l, r, hok⟩
    cases link_eq_ok_iff.1 hok with
    | targeted display_avoids => simpa using OpensLink.bracket display_avoids
    | bracketed display_avoids => exact .bracket display_avoids
    | bare address =>
      obtain ⟨w, rfl⟩ := address.1
      rw [List.append_assoc]
      exact .address _

theorem link_fails_iff : Fails link s ↔ ¬ OpensLink s := by
  rw [link_succeeds_iff, ← not_fails_iff, Decidable.not_not]

/-! ### Lines -/

/-- Spaces, then a link, a comment marker, a separated glyph or a segment of a label. -/
inductive OpensLine : Text → Prop where
  | link {s : Text} (link : OpensLink s) : OpensLine s
  | comment (s : Text) : OpensLine ('>' :: ' ' :: s)
  | glyph {c : Char} {s : Text} (known : c ∈ listGlyphs)
      (separated : Next (fun d => d = ' ' ∨ d = '\n') s) : OpensLine (c :: s)
  | label {segment : Text} (shape : IsSegment segment) (s : Text) : OpensLine (segment ++ s)
  | indented {s : Text} (opens : OpensLine s) : OpensLine (' ' :: s)

theorem exists_content (s : Text) : ∃ content r, ReadsContent s content r := by
  by_cases h : Fails (optional (preceded space inline)) s
  · obtain ⟨e, he⟩ := h
    simp only [Parsing.optional] at he
    split at he <;> exact nomatch he
  · obtain ⟨content, r, hok⟩ := not_fails_iff.1 h
    exact ⟨content, r, optional_content_eq_ok_iff.1 hok⟩

theorem exists_readsLineContent {m : Text} (h : OpensLink m ∨ ∃ marker r, ReadsMarker m marker r) :
    ∃ content r, ReadsLineContent m content r := by
  by_cases hlink : Fails link m
  · rcases h with h | ⟨marker, r, hmarker⟩
    · exact absurd h (link_fails_iff.1 hlink)
    · obtain ⟨content, r', hcontent⟩ := exists_content r
      have hitem : ReadsLineContent m (.item ⟨marker, content⟩) r' := .item hlink hmarker hcontent
      exact ⟨_, r', hitem⟩
  · obtain ⟨l, r, hok⟩ := not_fails_iff.1 hlink
    exact ⟨_, r, .link (link_eq_ok_iff.1 hok)⟩

theorem OpensLine.exists_readsLineContent (h : OpensLine s) :
    ∃ n m content r, s = List.replicate n ' ' ++ m ∧ ReadsLineContent m content r := by
  induction h with
  | @link s link =>
    obtain ⟨content, r, h⟩ := Markup.exists_readsLineContent (.inl link)
    exact ⟨0, s, content, r, rfl, h⟩
  | comment s =>
    have hrest := takeWhile_dropWhile_iff.1 (⟨rfl, rfl⟩ :
      s.takeWhile (· != '\n') = _ ∧ s.dropWhile (· != '\n') = _)
    obtain ⟨ht, hr, hs⟩ := hrest
    have hread := ReadsLineContent.comment (t := s.takeWhile (· != '\n'))
      (r := s.dropWhile (· != '\n')) (by simpa [Avoids] using ht) (by simpa using hr)
    rw [List.cons_append, List.cons_append, ← hs] at hread
    exact ⟨0, _, _, _, rfl, hread⟩
  | @glyph c s known separated =>
    obtain ⟨content, r, h⟩ := Markup.exists_readsLineContent (.inr ⟨_, _, .glyph known separated⟩)
    exact ⟨0, c :: s, content, r, rfl, h⟩
  | @label segment shape s =>
    have hlabel : ¬ Fails Markup.label (segment ++ s) := by
      rw [label_fails_iff]
      exact not_fails_of_ok (labelSegment_eq_ok_iff.2 ⟨shape, rfl⟩)
    obtain ⟨marker, r, hok⟩ := not_fails_iff.1 hlabel
    obtain ⟨hshape, heq, hcomplete⟩ := label_eq_ok_iff.1 hok
    have hmarker : ReadsMarker (segment ++ s) marker r := by
      rw [heq]
      exact .label hshape hcomplete
    obtain ⟨content, r, h⟩ := Markup.exists_readsLineContent (.inr ⟨_, _, hmarker⟩)
    exact ⟨0, segment ++ s, content, r, rfl, h⟩
  | @indented s _ ih =>
    -- the indent grows with the spaces before the opening
    obtain ⟨n, m, content, r, rfl, h⟩ := ih
    exact ⟨n + 1, m, content, r, rfl, h⟩

theorem ReadsLineContent.opensLine {content : LineContent} (h : ReadsLineContent s content r) :
    OpensLine s := by
  cases h with
  | link hlink => exact .link (link_succeeds_iff.2 ⟨_, _, link_eq_ok_iff.2 hlink⟩)
  | comment => exact .comment _
  | @item _ _ _ i _ marker =>
    obtain ⟨mark, inner⟩ := i
    cases marker with
    | glyph known separated => exact .glyph known separated
    | label shape =>
      obtain ⟨segments, hne, hall, hmarker⟩ := shape
      obtain ⟨segment, segments, rfl⟩ := List.exists_cons_of_ne_nil hne
      rw [hmarker, List.flatten_cons, List.append_assoc]
      exact .label (hall segment List.mem_cons_self) _

theorem OpensLine.indent (h : OpensLine s) (n : Nat) : OpensLine (List.replicate n ' ' ++ s) := by
  induction n with
  | zero => exact h
  | succ n ih => exact .indented ih

theorem line_succeeds_iff : OpensLine s ↔ ∃ l r, line s = .ok (l, r) := by
  constructor
  · intro h
    obtain ⟨n, m, content, r, rfl, hread⟩ := h.exists_readsLineContent
    exact ⟨⟨n, content⟩, r, line_eq_ok_iff.2 ⟨m, rfl, hread⟩⟩
  · rintro ⟨l, r, hok⟩
    obtain ⟨m, rfl, hcontent⟩ := line_eq_ok_iff.1 hok
    exact hcontent.opensLine.indent l.indent

theorem line_fails_iff : Fails line s ↔ ¬ OpensLine s := by
  rw [line_succeeds_iff, ← not_fails_iff, Decidable.not_not]

/-! ### Tags -/

/-- Tag markers and something after them on the line. -/
inductive OpensTag : Text → Prop where
  | label {c : Char} (s : Text) (marked : c ≠ '@') (inline : c ≠ '\n') : OpensTag ('@' :: c :: s)
  | deeper {s : Text} (opens : OpensTag s) : OpensTag ('@' :: s)

theorem tag_succeeds_iff : OpensTag s ↔ ∃ t r, tag s = .ok (t, r) := by
  constructor
  · intro h
    suffices hlabel : ∃ n m label r, 0 < n ∧ s = List.replicate n '@' ++ m ∧ Next (· ≠ '@') m ∧
        inline m = .ok (label, r) by
      obtain ⟨n, m, label, r, hpos, rfl, hm, hok⟩ := hlabel
      exact ⟨⟨n, label⟩, r, tag_eq_ok_iff.2 ⟨hpos, m, rfl, hm, hok⟩⟩
    induction h with
    | @label c s marked hline =>
      have hinline : ¬ Fails inline (c :: s) := by
        rw [inline_fails_iff, lineEnd_cons]
        exact hline
      obtain ⟨label, r, hok⟩ := not_fails_iff.1 hinline
      exact ⟨1, c :: s, label, r, Nat.one_pos, rfl, by simpa using marked, hok⟩
    | deeper _ ih =>
      obtain ⟨n, m, label, r, -, rfl, hm, hok⟩ := ih
      exact ⟨n + 1, m, label, r, Nat.succ_pos n, rfl, hm, hok⟩
  · rintro ⟨⟨depth, label⟩, r, hok⟩
    obtain ⟨hpos, m, rfl, hm, hlabel⟩ := tag_eq_ok_iff.1 hok
    have hline : ¬ LineEnd m := by
      rw [← inline_fails_iff]
      exact not_fails_of_ok hlabel
    cases m with
    | nil => exact absurd lineEnd_nil hline
    | cons c m =>
      rw [lineEnd_cons] at hline
      clear hok hlabel
      induction depth with
      | zero => exact absurd hpos (Nat.lt_irrefl 0)
      | succ n ih =>
        cases n with
        | zero => exact .label m (by simpa using hm) hline
        | succ n => exact .deeper (ih (Nat.succ_pos n))

theorem tag_fails_iff : Fails tag s ↔ ¬ OpensTag s := by
  rw [tag_succeeds_iff, ← not_fails_iff, Decidable.not_not]

/-! ### Openings lie within a line -/

/-- A part does not reach beyond a character of a kind that it does not hold. -/
theorem prefix_of_next {P : Char → Prop} {w : Text} (hw : ∀ c ∈ w, ¬ P c) (hr : Next P r)
    (h : w <+: s ++ r) : w <+: s := by
  induction w generalizing s with
  | nil => exact List.nil_prefix
  | cons c w ih =>
    rw [List.forall_mem_cons] at hw
    cases s with
    | nil =>
      obtain ⟨x, rfl⟩ := h
      exact absurd ((next_cons _ _ _).1 hr) hw.1
    | cons d s =>
      rw [List.cons_append, List.cons_prefix_cons] at h
      rw [List.cons_prefix_cons]
      exact ⟨h.1, ih hw.2 h.2⟩

theorem prefix_of_lineEnd {w : Text} (hw : '\n' ∉ w) (hr : LineEnd r) (h : w <+: s ++ r) :
    w <+: s := by
  refine prefix_of_next ?_ hr h
  rintro c hc rfl
  exact hw hc

theorem opensLink_iff_exists :
    OpensLink s ↔ (∃ display, Avoids [']', '\n'] display ∧ '[' :: display ++ [']'] <+: s) ∨
      "http".toList <+: s := by
  constructor
  · intro h
    cases h with
    | @bracket display s avoids => exact .inl ⟨display, avoids, s, by simp⟩
    | address s => exact .inr (List.prefix_append _ _)
  · rintro (⟨display, havoids, x, rfl⟩ | ⟨x, rfl⟩)
    · simpa using OpensLink.bracket havoids
    · exact .address x

theorem opensLink_append_iff (hr : LineEnd r) : OpensLink (s ++ r) ↔ OpensLink s := by
  rw [opensLink_iff_exists, opensLink_iff_exists]
  constructor
  · rintro (⟨display, havoids, h⟩ | h)
    · refine .inl ⟨display, havoids, prefix_of_lineEnd ?_ hr h⟩
      intro hmem
      simp only [List.cons_append, List.mem_cons, List.mem_append, List.not_mem_nil] at hmem
      rcases hmem with hmem | hmem | hmem | hmem
      · exact absurd hmem (by decide)
      · exact havoids _ hmem (by simp)
      · exact absurd hmem (by decide)
      · exact hmem
    · exact .inr (prefix_of_lineEnd (by decide) hr h)
  · rintro (⟨display, havoids, h⟩ | h)
    · exact .inl ⟨display, havoids, h.trans (List.prefix_append _ _)⟩
    · exact .inr (h.trans (List.prefix_append _ _))

theorem IsSegment.newline_not_mem {segment : Text} (h : IsSegment segment) : '\n' ∉ segment := by
  intro hmem
  exact absurd (h.of_mem hmem) (by decide)

theorem opensLine_append_iff (hr : LineEnd r) : OpensLine (s ++ r) ↔ OpensLine s := by
  constructor
  · intro h
    generalize ht : s ++ r = t at h
    induction h generalizing s with
    | link link =>
      subst ht
      exact .link ((opensLink_append_iff hr).1 link)
    | comment x =>
      have hlead : ['>', ' '] <+: s ++ r := ht ▸ ⟨x, rfl⟩
      obtain ⟨y, rfl⟩ := prefix_of_lineEnd (by decide) hr hlead
      exact .comment y
    | @glyph c x known separated =>
      have hlead : [c] <+: s ++ r := ht ▸ ⟨x, rfl⟩
      have hc : '\n' ∉ [c] := by
        rw [List.mem_singleton]
        rintro rfl
        exact absurd known (by decide)
      obtain ⟨y, rfl⟩ := prefix_of_lineEnd hc hr hlead
      refine .glyph known ?_
      cases y with
      | nil => exact next_nil _
      | cons d y =>
        obtain rfl := (List.cons.inj ht).2
        exact (next_cons _ _ _).2 ((next_cons _ _ _).1 separated)
    | label shape x =>
      obtain ⟨y, rfl⟩ := prefix_of_lineEnd shape.newline_not_mem hr (ht ▸ List.prefix_append _ x)
      exact .label shape y
    | @indented x _ ih =>
      have hlead : [' '] <+: s ++ r := ht ▸ ⟨x, rfl⟩
      obtain ⟨y, rfl⟩ := prefix_of_lineEnd (by decide) hr hlead
      exact .indented (ih (List.cons.inj ht).2)
  · intro h
    induction h with
    | link link => exact .link ((opensLink_append_iff hr).2 link)
    | comment x => exact .comment _
    | @glyph c x known separated =>
      refine .glyph known ?_
      cases x with
      | nil => exact fun d hd => .inr (hr d hd)
      | cons d x => exact (next_cons _ _ _).2 ((next_cons _ _ _).1 separated)
    | label shape x =>
      rw [List.append_assoc]
      exact .label shape _
    | indented _ ih => exact .indented ih

theorem opensTag_append_iff (hr : LineEnd r) : OpensTag (s ++ r) ↔ OpensTag s := by
  constructor
  · intro h
    generalize ht : s ++ r = t at h
    induction h generalizing s with
    | @label c x marked hline =>
      have hlead : ['@', c] <+: s ++ r := ht ▸ ⟨x, rfl⟩
      have hc : '\n' ∉ ['@', c] := by
        simpa using Ne.symm hline
      obtain ⟨y, rfl⟩ := prefix_of_lineEnd hc hr hlead
      exact .label y marked hline
    | @deeper x _ ih =>
      have hlead : ['@'] <+: s ++ r := ht ▸ ⟨x, rfl⟩
      obtain ⟨y, rfl⟩ := prefix_of_lineEnd (by decide) hr hlead
      exact .deeper (ih (List.cons.inj ht).2)
  · intro h
    induction h with
    | label x marked hline => exact .label _ marked hline
    | deeper _ ih => exact .deeper ih

end Slipbox.Markup
