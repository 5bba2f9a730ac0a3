import Slipbox.Markup.Document
import Slipbox.Proofs.Markup.Spans

/-!
# What the rules of lines and nodes read

Links, lines, tags and nodes by the text that they take. The lexeme or rule that
is tried first often excludes the later ones by its first character; where it does
not, the equivalence keeps the condition that the first one fails.
-/

namespace Slipbox.Markup

open Slipbox.Parsing

variable {s r : Text}

/-! ### Links -/

theorem bracketed_eq_ok_iff {t : Text} :
    bracketed s = .ok (t, r) ↔ Avoids [']', '\n'] t ∧ s = '[' :: t ++ ']' :: r := by
  rw [bracketed, linkText, region_run_eq_ok_iff (by decide)]
  simp [Avoids]

theorem parenthesised_eq_ok_iff {t : Text} :
    parenthesised s = .ok (t, r) ↔ Avoids [')', '\n'] t ∧ s = '(' :: t ++ ')' :: r := by
  rw [parenthesised, linkTarget, region_run_eq_ok_iff (by decide)]
  simp [Avoids]

/-- The text is written as an address: it begins with `http` and holds no white space. -/
def IsAddress (t : Text) : Prop := "http".toList <+: t ∧ ∀ c ∈ t, Text.isBlank c = false

instance (t : Text) : Decidable (IsAddress t) :=
  inferInstanceAs (Decidable ("http".toList <+: t ∧ ∀ c ∈ t, Text.isBlank c = false))

/-- The text ends here, or goes on with white space. -/
abbrev Ended (s : Text) : Prop := Next (Text.isBlank · = true) s

/-- A link: in brackets with or without a target, or a bare address. -/
inductive ReadsLink : Text → Link → Text → Prop where
  | targeted {display target r : Text} (display_avoids : Avoids [']', '\n'] display)
      (target_avoids : Avoids [')', '\n'] target) :
      ReadsLink ('[' :: display ++ ']' :: '(' :: target ++ ')' :: r) ⟨display, some target⟩ r
  | bracketed {display r : Text} (display_avoids : Avoids [']', '\n'] display)
      (untargeted : Fails parenthesised r) :
      ReadsLink ('[' :: display ++ ']' :: r) ⟨display, none⟩ r
  | bare {display r : Text} (address : IsAddress display) (ended : Ended r) :
      ReadsLink (display ++ r) ⟨display, none⟩ r

/-- An address begins with the letter h. -/
theorem IsAddress.exists_cons {t : Text} (h : IsAddress t) : ∃ w, t = 'h' :: w := by
  obtain ⟨w, rfl⟩ := h.1
  exact ⟨"ttp".toList ++ w, rfl⟩

theorem Ended.parenthesised_fails (h : Ended r) : Fails parenthesised r := by
  rw [fails_iff]
  intro t r' hok
  obtain ⟨-, rfl⟩ := parenthesised_eq_ok_iff.1 hok
  exact absurd ((next_cons _ _ _).1 h) (by decide)

theorem optional_parenthesised_eq_ok_iff {target : Option Text} :
    optional parenthesised s = .ok (target, r) ↔
      (∃ t, target = some t ∧ Avoids [')', '\n'] t ∧ s = '(' :: t ++ ')' :: r) ∨
        target = none ∧ r = s ∧ Fails parenthesised s := by
  rw [optional_eq_ok_iff]
  simp only [parenthesised_eq_ok_iff]

theorem link_eq_ok_iff {l : Link} : link s = .ok (l, r) ↔ ReadsLink s l r := by
  simp only [link, bind_eq_ok_iff, Parser.pure_apply, alternation_eq_ok_iff, alternation_nil,
    optional_parenthesised_eq_ok_iff]
  constructor
  · rintro ⟨display, m, hdisplay, target, r', htarget, heq⟩
    cases heq
    rcases hdisplay with hbracketed | ⟨-, hbare⟩
    · obtain ⟨havoids, rfl⟩ := bracketed_eq_ok_iff.1 hbracketed
      rcases htarget with ⟨t, rfl, ht, rfl⟩ | ⟨rfl, rfl, hfails⟩
      · simpa using ReadsLink.targeted (r := r) havoids ht
      · exact .bracketed havoids hfails
    · obtain ⟨hhttp, hblank, hm, rfl⟩ := bareUrl_eq_ok_iff.1 hbare
      rcases htarget with ⟨t, rfl, ht, rfl⟩ | ⟨rfl, rfl, -⟩
      · exact absurd ((next_cons _ _ _).1 hm) (by decide)
      · exact .bare ⟨hhttp, hblank⟩ hm
  · intro h
    cases h with
    | @targeted display target _ display_avoids target_avoids =>
      refine ⟨display, '(' :: target ++ ')' :: r, .inl ?_, some target, r,
        .inl ⟨target, rfl, target_avoids, rfl⟩, rfl⟩
      exact bracketed_eq_ok_iff.2 ⟨display_avoids, by simp⟩
    | @bracketed display _ display_avoids untargeted =>
      exact ⟨display, r, .inl (bracketed_eq_ok_iff.2 ⟨display_avoids, rfl⟩), none, r,
        .inr ⟨rfl, rfl, untargeted⟩, rfl⟩
    | @bare display _ address ended =>
      have hbracketed : Fails Markup.bracketed (display ++ r) := by
        rw [fails_iff]
        intro t r' hok
        obtain ⟨-, heq⟩ := bracketed_eq_ok_iff.1 hok
        obtain ⟨w, rfl⟩ := address.exists_cons
        exact absurd (List.cons.inj heq).1 (by decide)
      exact ⟨display, r, .inr ⟨hbracketed, bareUrl_eq_ok_iff.2 ⟨address.1, address.2, ended, rfl⟩⟩,
        none, r, .inr ⟨rfl, rfl, ended.parenthesised_fails⟩, rfl⟩

/-- A link begins with a bracket or the letter h. -/
theorem ReadsLink.exists_cons {l : Link} (h : ReadsLink s l r) :
    ∃ c w, (c = '[' ∨ c = 'h') ∧ s = c :: w := by
  cases h with
  | targeted => exact ⟨'[', _, .inl rfl, rfl⟩
  | bracketed => exact ⟨'[', _, .inl rfl, rfl⟩
  | bare address =>
    obtain ⟨w, rfl⟩ := address.exists_cons
    exact ⟨'h', _, .inr rfl, rfl⟩

theorem advances_link : Advances link := by
  intro s l r h
  cases link_eq_ok_iff.1 h with
  | targeted => simp; omega
  | bracketed => simp; omega
  | bare address =>
    obtain ⟨w, rfl⟩ := address.exists_cons
    simp only [List.cons_append, List.length_cons, List.length_append]
    omega

theorem link_fails_of_head {c : Char} {w : Text} (hb : c ≠ '[') (hh : c ≠ 'h') :
    Fails link (c :: w) := by
  rw [fails_iff]
  intro l r hok
  obtain ⟨d, w', hd, heq⟩ := (link_eq_ok_iff.1 hok).exists_cons
  cases heq
  rcases hd with rfl | rfl
  · exact hb rfl
  · exact hh rfl

/-! ### Inline content -/

theorem inline_eq_ok_iff {content : Inline} :
    inline s = .ok (content, r) ↔
      (∃ l, content = .link l ∧ link s = .ok (l, r)) ∨
        Fails link s ∧ ∃ run, content = .run run ∧ textRun s = .ok (run, r) := by
  simp only [inline, alternation_eq_ok_iff, alternation_nil, map_eq_ok_iff, map_fails_iff]
  grind

theorem inline_fails_iff : Fails inline s ↔ LineEnd s := by
  simp only [inline, alternation_fails_iff, alternation_nil, map_fails_iff, textRun_fails_iff]
  constructor
  · rintro ⟨-, h⟩
    exact h
  · intro h
    refine ⟨?_, h⟩
    cases s with
    | nil =>
      rw [fails_iff]
      intro l r hok
      obtain ⟨c, w, -, heq⟩ := (link_eq_ok_iff.1 hok).exists_cons
      exact nomatch heq
    | cons c s =>
      obtain rfl := lineEnd_cons.1 h
      exact link_fails_of_head (by decide) (by decide)

theorem advances_textRun : Advances textRun := by
  intro s run r h
  rw [textRun, map_eq_ok_iff] at h
  obtain ⟨raw, h, -⟩ := h
  exact advances_span.many1 h

theorem advances_inline : Advances inline := by
  intro s content r h
  rcases inline_eq_ok_iff.1 h with ⟨l, -, hl⟩ | ⟨-, run, -, hrun⟩
  · exact advances_link hl
  · exact advances_textRun hrun

/-! ### Lines -/

theorem comment_eq_ok_iff {t : Text} :
    comment s = .ok (t, r) ↔ Avoids ['\n'] t ∧ LineEnd r ∧ s = '>' :: ' ' :: t ++ r := by
  simp only [comment, bind_eq_ok_iff, commentMarker, literal_eq_ok_iff, restOfLine,
    run_eq_ok_iff]
  constructor
  · rintro ⟨_, m, ⟨-, rfl⟩, ht, hr, rfl⟩
    exact ⟨by simpa [Avoids] using ht, by simpa using hr, rfl⟩
  · rintro ⟨ht, hr, rfl⟩
    exact ⟨_, t ++ r, ⟨rfl, rfl⟩, by simpa [Avoids] using ht, by simpa using hr, rfl⟩

/-- A marker of a list item: a glyph with a space or the end of the line after it, or a label
that does not go on. -/
inductive ReadsMarker : Text → Text → Text → Prop where
  | glyph {c : Char} {r : Text} (known : c ∈ listGlyphs)
      (separated : Next (fun d => d = ' ' ∨ d = '\n') r) : ReadsMarker (c :: r) [c] r
  | label {marker r : Text} (shape : IsLabel marker) (complete : Fails labelSegment r) :
      ReadsMarker (marker ++ r) marker r

/-- A label begins with a letter or a digit. -/
theorem IsLabel.exists_cons {t : Text} (h : IsLabel t) :
    ∃ c w, c.isAlphanum = true ∧ t = c :: w := by
  obtain ⟨segments, hne, hall, rfl⟩ := h
  obtain ⟨segment, segments, rfl⟩ := List.exists_cons_of_ne_nil hne
  obtain ⟨a, hane, ha, rfl⟩ := hall segment List.mem_cons_self
  obtain ⟨c, a, rfl⟩ := List.exists_cons_of_ne_nil hane
  exact ⟨c, _, ha c List.mem_cons_self, rfl⟩

theorem listMarker_eq_ok_iff {marker : Text} :
    listMarker s = .ok (marker, r) ↔ ReadsMarker s marker r := by
  simp only [listMarker, alternation_eq_ok_iff, alternation_nil, glyph_eq_ok_iff, label_eq_ok_iff]
  constructor
  · rintro (⟨c, rfl, hc, rfl, hr⟩ | ⟨-, hshape, rfl, hr⟩)
    · exact .glyph hc hr
    · exact .label hshape hr
  · intro h
    cases h with
    | glyph known separated => exact .inl ⟨_, rfl, known, rfl, separated⟩
    | label shape complete =>
      refine .inr ⟨?_, shape, rfl, complete⟩
      rw [fails_iff]
      intro v m hok
      obtain ⟨c, -, hc, heq, -⟩ := glyph_eq_ok_iff.1 hok
      obtain ⟨d, w, hd, rfl⟩ := shape.exists_cons
      cases heq
      revert hd
      exact (by decide : ∀ g ∈ listGlyphs, ¬ g.isAlphanum = true) c hc

theorem ReadsMarker.length_lt {marker : Text} (h : ReadsMarker s marker r) :
    r.length < s.length := by
  cases h with
  | glyph => simp
  | label shape =>
    obtain ⟨c, w, -, rfl⟩ := shape.exists_cons
    simp only [List.cons_append, List.length_cons, List.length_append]
    omega

/-- What follows the marker of a list item. -/
inductive ReadsContent : Text → Option Inline → Text → Prop where
  | some {s r : Text} {content : Inline} (inline : Markup.inline s = .ok (content, r)) :
      ReadsContent (' ' :: s) (.some content) r
  | none {r : Text} (bare : ∀ x, r = ' ' :: x → LineEnd x) : ReadsContent r .none r

theorem optional_content_eq_ok_iff {content : Option Inline} :
    optional (preceded space inline) s = .ok (content, r) ↔ ReadsContent s content r := by
  have hfails : Fails (preceded space inline) s ↔ ∀ x, s = ' ' :: x → LineEnd x := by
    rw [fails_iff]
    constructor
    · rintro h x rfl
      rw [← inline_fails_iff, fails_iff]
      intro content r hok
      exact h content r (preceded_eq_ok_iff.2 ⟨_, x, literal_eq_ok_iff.2 ⟨rfl, rfl⟩, hok⟩)
    · intro h content r hok
      obtain ⟨_, x, hspace, hinline⟩ := preceded_eq_ok_iff.1 hok
      obtain ⟨-, rfl⟩ := literal_eq_ok_iff.1 hspace
      exact not_fails_of_ok hinline (inline_fails_iff.2 (h x rfl))
  rw [optional_eq_ok_iff, hfails]
  simp only [preceded_eq_ok_iff]
  constructor
  · rintro (⟨c, rfl, _, x, hspace, hinline⟩ | ⟨rfl, rfl, h⟩)
    · obtain ⟨-, rfl⟩ := literal_eq_ok_iff.1 hspace
      exact .some hinline
    · exact .none h
  · intro h
    cases h with
    | some hinline => exact .inl ⟨_, rfl, _, _, literal_eq_ok_iff.2 ⟨rfl, rfl⟩, hinline⟩
    | none bare => exact .inr ⟨rfl, rfl, bare⟩

theorem ReadsContent.length_le {content : Option Inline} (h : ReadsContent s content r) :
    r.length ≤ s.length := by
  cases h with
  | some hinline =>
    have := advances_inline hinline
    simp only [List.length_cons]
    omega
  | none => exact Nat.le_refl _

theorem listItem_eq_ok_iff {item : ListItem} :
    listItem s = .ok (item, r) ↔
      ∃ m, ReadsMarker s item.marker m ∧ ReadsContent m item.content r := by
  simp only [listItem, bind_eq_ok_iff, Parser.pure_apply, listMarker_eq_ok_iff,
    optional_content_eq_ok_iff]
  constructor
  · rintro ⟨marker, m, hmarker, content, r', hcontent, heq⟩
    cases heq
    exact ⟨m, hmarker, hcontent⟩
  · rintro ⟨m, hmarker, hcontent⟩
    exact ⟨item.marker, m, hmarker, item.content, r, hcontent, rfl⟩

/-- What a line holds after its indent. -/
inductive ReadsLineContent : Text → LineContent → Text → Prop where
  | link {s r : Text} {l : Link} (link : ReadsLink s l r) : ReadsLineContent s (.link l) r
  | comment {t r : Text} (avoids : Avoids ['\n'] t) (ends : LineEnd r) :
      ReadsLineContent ('>' :: ' ' :: t ++ r) (.comment t) r
  | item {s m r : Text} {item : ListItem} (unlinked : Fails Markup.link s)
      (marker : ReadsMarker s item.marker m) (content : ReadsContent m item.content r) :
      ReadsLineContent s (.item item) r

theorem ReadsMarker.head_ne {marker : Text} (h : ReadsMarker s marker r) :
    ∃ c w, s = c :: w ∧ c ≠ '>' ∧ c ≠ ' ' ∧ c ≠ '\n' ∧ c ≠ '@' := by
  cases h with
  | glyph known =>
    exact ⟨_, r, rfl, (by decide : ∀ c ∈ listGlyphs, c ≠ '>' ∧ c ≠ ' ' ∧ c ≠ '\n' ∧ c ≠ '@') _
      known⟩
  | label shape =>
    obtain ⟨c, w, hc, rfl⟩ := shape.exists_cons
    refine ⟨c, w ++ r, rfl, ?_, ?_, ?_, ?_⟩ <;> rintro rfl <;> exact absurd hc (by decide)

theorem lineContent_eq_ok_iff {content : LineContent} :
    lineContent s = .ok (content, r) ↔ ReadsLineContent s content r := by
  simp only [lineContent, alternation_eq_ok_iff, alternation_nil, map_eq_ok_iff, map_fails_iff]
  constructor
  · rintro (⟨l, hl, rfl⟩ | ⟨hlink, ⟨t, ht, rfl⟩ | ⟨-, item, hitem, rfl⟩⟩)
    · exact .link (link_eq_ok_iff.1 hl)
    · obtain ⟨havoids, hr, rfl⟩ := comment_eq_ok_iff.1 ht
      exact .comment havoids hr
    · obtain ⟨m, hmarker, hcontent⟩ := listItem_eq_ok_iff.1 hitem
      exact .item hlink hmarker hcontent
  · intro h
    cases h with
    | link hlink => exact .inl ⟨_, link_eq_ok_iff.2 hlink, rfl⟩
    | comment avoids ends =>
      exact .inr ⟨link_fails_of_head (by decide) (by decide),
        .inl ⟨_, comment_eq_ok_iff.2 ⟨avoids, ends, rfl⟩, rfl⟩⟩
    | item unlinked marker content =>
      refine .inr ⟨unlinked, .inr ⟨?_, _, listItem_eq_ok_iff.2 ⟨_, marker, content⟩, rfl⟩⟩
      rw [fails_iff]
      intro t m hok
      obtain ⟨-, -, heq⟩ := comment_eq_ok_iff.1 hok
      obtain ⟨c, w, rfl, hc, -⟩ := marker.head_ne
      exact hc (List.cons.inj heq).1

/-- The content of a line begins with neither a space, a newline nor a tag marker. -/
theorem ReadsLineContent.head_ne {content : LineContent} (h : ReadsLineContent s content r) :
    ∃ c w, s = c :: w ∧ c ≠ ' ' ∧ c ≠ '\n' ∧ c ≠ '@' := by
  cases h with
  | link hlink =>
    obtain ⟨c, w, hc, rfl⟩ := hlink.exists_cons
    refine ⟨c, w, rfl, ?_⟩
    rcases hc with rfl | rfl <;> decide
  | comment => exact ⟨'>', _, rfl, by decide⟩
  | item _ marker =>
    obtain ⟨c, w, rfl, -, hc⟩ := marker.head_ne
    exact ⟨c, w, rfl, hc⟩

theorem ReadsLineContent.length_lt {content : LineContent} (h : ReadsLineContent s content r) :
    r.length < s.length := by
  cases h with
  | link hlink => exact advances_link (link_eq_ok_iff.2 hlink)
  | comment => simp; omega
  | item _ marker content => exact Nat.lt_of_le_of_lt content.length_le marker.length_lt

/-- Marks of one character at the beginning of a text. -/
theorem eq_replicate_of_all {c : Char} {t : Text} (h : ∀ d ∈ t, (d == c) = true) :
    t = List.replicate t.length c :=
  List.eq_replicate_iff.2 ⟨rfl, fun d hd => by simpa using h d hd⟩

theorem line_eq_ok_iff {l : Line} :
    line s = .ok (l, r) ↔
      ∃ m, s = List.replicate l.indent ' ' ++ m ∧ ReadsLineContent m l.content r := by
  simp only [line, bind_eq_ok_iff, Parser.pure_apply, indent, spaces, run_eq_ok_iff,
    lineContent_eq_ok_iff]
  constructor
  · rintro ⟨blanks, m, ⟨hblanks, -, rfl⟩, content, r', hcontent, heq⟩
    cases heq
    exact ⟨m, congrArg (· ++ m) (eq_replicate_of_all hblanks), hcontent⟩
  · rintro ⟨m, rfl, hcontent⟩
    obtain ⟨c, w, rfl, hc, -⟩ := hcontent.head_ne
    refine ⟨List.replicate l.indent ' ', c :: w, ⟨by simp, by simpa using hc, rfl⟩, l.content, r,
      hcontent, ?_⟩
    rw [List.length_replicate]

/-- A line begins with neither a newline nor a tag marker. -/
theorem line_head_ne {l : Line} (h : line s = .ok (l, r)) :
    ∃ c w, s = c :: w ∧ c ≠ '\n' ∧ c ≠ '@' := by
  obtain ⟨m, rfl, hcontent⟩ := line_eq_ok_iff.1 h
  obtain ⟨c, w, rfl, -, hc⟩ := hcontent.head_ne
  cases l.indent with
  | zero => exact ⟨c, w, rfl, hc⟩
  | succ n => exact ⟨' ', _, rfl, by decide⟩

/-! ### Tags -/

theorem tag_eq_ok_iff {t : Tag} :
    tag s = .ok (t, r) ↔
      0 < t.depth ∧ ∃ m, s = List.replicate t.depth '@' ++ m ∧ Next (· ≠ '@') m ∧
        inline m = .ok (t.label, r) := by
  simp only [tag, bind_eq_ok_iff, Parser.pure_apply, tagMarkers, run1_eq_ok_iff]
  constructor
  · rintro ⟨markers, m, ⟨hne, hmarkers, hm, rfl⟩, label, r', hlabel, heq⟩
    cases heq
    refine ⟨List.length_pos_iff.2 hne, m, congrArg (· ++ m) (eq_replicate_of_all hmarkers), ?_,
      hlabel⟩
    simpa using hm
  · rintro ⟨hpos, m, rfl, hm, hlabel⟩
    refine ⟨List.replicate t.depth '@', m, ⟨?_, by simp, by simpa using hm, rfl⟩, t.label, r,
      hlabel, ?_⟩
    · simp only [ne_eq, List.replicate_eq_nil_iff]
      omega
    · rw [List.length_replicate]

theorem tag_head_eq {t : Tag} (h : tag s = .ok (t, r)) : ∃ w, s = '@' :: w := by
  obtain ⟨hpos, m, rfl, -, -⟩ := tag_eq_ok_iff.1 h
  obtain ⟨k, hk⟩ := Nat.exists_eq_succ_of_ne_zero (Nat.pos_iff_ne_zero.1 hpos)
  rw [hk]
  exact ⟨_, rfl⟩

theorem line_fails_of_tag {t : Tag} (h : tag s = .ok (t, r)) : Fails line s := by
  rw [fails_iff]
  intro l r' hok
  obtain ⟨w, rfl⟩ := tag_head_eq h
  obtain ⟨c, w', heq, -, hc⟩ := line_head_ne hok
  exact hc (List.cons.inj heq).1.symm

/-! ### Nodes -/

/-- A node. Runs come last, so nothing else can stand where one is read. -/
inductive ReadsNode : Text → Node → Text → Prop where
  | line {s r : Text} {l : Line} (line : Markup.line s = .ok (l, r)) : ReadsNode s (.line l) r
  | tag {s r : Text} {t : Tag} (tag : Markup.tag s = .ok (t, r)) : ReadsNode s (.tag t) r
  | blank {count : Nat} {r : Text} (ends : Next (· ≠ '\n') r) :
      ReadsNode (List.replicate (count + 1) '\n' ++ r) (.blank count) r
  | text {s r : Text} {run : Run} (unlined : Fails Markup.line s) (untagged : Fails Markup.tag s)
      (textRun : Markup.textRun s = .ok (run, r)) : ReadsNode s (.text run) r

theorem blankRun_eq_ok_iff {count : Nat} :
    blankRun s = .ok (count, r) ↔
      s = List.replicate (count + 1) '\n' ++ r ∧ Next (· ≠ '\n') r := by
  simp only [blankRun, map_eq_ok_iff, newlines, run1_eq_ok_iff]
  constructor
  · rintro ⟨run, ⟨hne, hrun, hr, rfl⟩, rfl⟩
    have hpos := List.length_pos_iff.2 hne
    refine ⟨?_, by simpa using hr⟩
    rw [Nat.sub_add_cancel hpos, ← eq_replicate_of_all hrun]
  · rintro ⟨rfl, hr⟩
    exact ⟨List.replicate (count + 1) '\n', ⟨by simp, by simp, by simpa using hr, rfl⟩, by simp⟩

/-- Neither a line nor a tag stands at a newline. -/
theorem fails_of_newline : Fails line ('\n' :: s) ∧ Fails tag ('\n' :: s) := by
  constructor
  · rw [fails_iff]
    intro l r hok
    obtain ⟨c, w, heq, hc, -⟩ := line_head_ne hok
    exact hc (List.cons.inj heq).1.symm
  · rw [fails_iff]
    intro t r hok
    obtain ⟨w, heq⟩ := tag_head_eq hok
    exact absurd (List.cons.inj heq).1 (by decide)

theorem node_eq_ok_iff {n : Node} : node s = .ok (n, r) ↔ ReadsNode s n r := by
  simp only [node, alternation_eq_ok_iff, alternation_nil, map_eq_ok_iff, map_fails_iff]
  constructor
  · rintro (⟨l, hl, rfl⟩ | ⟨hline, ⟨t, ht, rfl⟩ | ⟨htag, ⟨count, hcount, rfl⟩ |
      ⟨-, run, hrun, rfl⟩⟩⟩)
    · exact .line hl
    · exact .tag ht
    · obtain ⟨rfl, hr⟩ := blankRun_eq_ok_iff.1 hcount
      exact .blank hr
    · exact .text hline htag hrun
  · intro h
    cases h with
    | line hline => exact .inl ⟨_, hline, rfl⟩
    | tag htag => exact .inr ⟨line_fails_of_tag htag, .inl ⟨_, htag, rfl⟩⟩
    | blank ends =>
      rw [List.replicate_succ, List.cons_append]
      refine .inr ⟨fails_of_newline.1, .inr ⟨fails_of_newline.2, .inl ⟨_, ?_, rfl⟩⟩⟩
      exact blankRun_eq_ok_iff.2 ⟨rfl, ends⟩
    | text unlined untagged hrun =>
      refine .inr ⟨unlined, .inr ⟨untagged, .inr ⟨?_, _, hrun, rfl⟩⟩⟩
      rw [fails_iff]
      intro count m hok
      obtain ⟨rfl, -⟩ := blankRun_eq_ok_iff.1 hok
      exact not_fails_of_ok hrun (textRun_fails_iff.2 (lineEnd_cons.2 rfl))

theorem advances_node : Advances node := by
  intro s n r h
  cases node_eq_ok_iff.1 h with
  | line hline =>
    obtain ⟨m, rfl, hcontent⟩ := line_eq_ok_iff.1 hline
    have := hcontent.length_lt
    simp only [List.length_append]
    omega
  | tag htag =>
    obtain ⟨-, m, rfl, -, hlabel⟩ := tag_eq_ok_iff.1 htag
    have := advances_inline hlabel
    simp only [List.length_append]
    omega
  | blank =>
    simp only [List.length_append, List.length_replicate]
    omega
  | text _ _ hrun => exact advances_textRun hrun

/-- A node can be read everywhere but at the end of the text. -/
theorem node_fails_iff : Fails node s ↔ s = [] := by
  constructor
  · intro h
    simp only [node, alternation_fails_iff, alternation_nil, map_fails_iff, textRun_fails_iff] at h
    obtain ⟨-, -, hblank, hrun⟩ := h
    cases s with
    | nil => rfl
    | cons c s =>
      obtain rfl := lineEnd_cons.1 hrun
      rw [blankRun, map_fails_iff, newlines, run1_fails_iff, next_cons] at hblank
      exact absurd hblank (by decide)
  · rintro rfl
    rw [fails_iff]
    intro n r hok
    exact absurd (advances_node hok) (Nat.not_lt_zero _)

/-- A document is the chain of nodes that reaches the end of the text. -/
theorem document_eq_ok_iff {nodes : List Node} :
    document s = .ok (nodes, r) ↔ Chain node s nodes r ∧ r = [] := by
  rw [document, many_eq_ok_iff advances_node, node_fails_iff]

theorem parseDocument_eq_ok_iff {nodes : List Node} :
    parseDocument s = .ok nodes ↔ Chain node s nodes [] := by
  have hdocument : document s = .ok (repeated node s) := rfl
  constructor
  · intro h
    have hall : document s = .ok (nodes, []) := by
      simp only [parseDocument, Parser.parse, allConsuming, hdocument, bind, Except.bind] at h
      rw [hdocument]
      cases hr : (repeated node s).2 with
      | nil =>
        simp only [hr, Except.ok.injEq] at h
        rw [← h, ← hr]
      | cons c rest =>
        simp only [hr] at h
        cases h
    exact (document_eq_ok_iff.1 hall).1
  · intro h
    have hall := document_eq_ok_iff.2 ⟨h, rfl⟩
    simp [parseDocument, Parser.parse, allConsuming, hall, bind, Except.bind]

/-- Every text has nodes. -/
theorem exists_chain_node (s : Text) : ∃ nodes, Chain node s nodes [] := by
  have h := document_eq_ok_iff.1 (rfl : document s = .ok (repeated node s))
  rw [h.2] at h
  exact ⟨_, h.1⟩

end Slipbox.Markup
