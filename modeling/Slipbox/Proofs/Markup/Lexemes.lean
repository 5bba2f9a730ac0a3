import Slipbox.Markup.Lexeme
import Slipbox.Markup.Spelling
import Slipbox.Proofs.Parsing.Repetition
import Slipbox.Proofs.Text

/-!
# What lexemes read

Every lexeme takes a part of the text that can be described without the text: the
symbol itself, the longest run of a class, or a body between two delimiters. The
equivalences below give that part together with the condition on the character
that follows it, so that they serve for reading and for reading back.
-/

namespace Slipbox.Markup

open Slipbox.Parsing

variable {s v r : Text} {source : Text} {member : Char → Bool}

/-- The text ends here, or its next character satisfies the predicate. -/
def Next (P : Char → Prop) (s : Text) : Prop := ∀ c ∈ s.head?, P c

@[simp] theorem next_nil (P : Char → Prop) : Next P [] := by simp [Next]

@[simp] theorem next_cons (P : Char → Prop) (c : Char) (s : Text) : Next P (c :: s) ↔ P c := by
  simp [Next]

theorem next_append {P : Char → Prop} (hne : v ≠ []) (hv : ∀ c ∈ v, P c) (r : Text) :
    Next P (v ++ r) := by
  obtain ⟨c, v, rfl⟩ := List.exists_cons_of_ne_nil hne
  exact (next_cons _ _ _).2 (hv c List.mem_cons_self)

theorem Next.append {P : Char → Prop} (hs : Next P s) (hr : s = [] → Next P r) :
    Next P (s ++ r) := by
  cases s with
  | nil => exact hr rfl
  | cons c s => exact (next_cons _ _ _).2 ((next_cons _ _ _).1 hs)

instance (P : Char → Prop) [DecidablePred P] : (s : Text) → Decidable (Next P s)
  | [] => .isTrue (next_nil P)
  | c :: s => decidable_of_iff (P c) (next_cons P c s).symm

/-- The text ends here, or its line does. -/
abbrev LineEnd (s : Text) : Prop := Next (· = '\n') s

theorem lineEnd_nil : LineEnd [] := next_nil _

theorem lineEnd_cons {c : Char} : LineEnd (c :: s) ↔ c = '\n' := next_cons _ _ _

/-- The text holds none of the characters. -/
def Avoids (stops : List Char) (t : Text) : Prop := ∀ c ∈ t, c ∉ stops

instance (stops : List Char) (t : Text) : Decidable (Avoids stops t) :=
  inferInstanceAs (Decidable (∀ c ∈ t, c ∉ stops))

@[simp] theorem avoids_nil (stops : List Char) : Avoids stops [] := by simp [Avoids]

@[simp] theorem avoids_cons (stops : List Char) (c : Char) (t : Text) :
    Avoids stops (c :: t) ↔ c ∉ stops ∧ Avoids stops t := by simp [Avoids]

@[simp] theorem avoids_append (stops : List Char) (t u : Text) :
    Avoids stops (t ++ u) ↔ Avoids stops t ∧ Avoids stops u := by
  simp only [Avoids, List.mem_append]
  constructor
  · intro h
    exact ⟨fun c hc => h c (.inl hc), fun c hc => h c (.inr hc)⟩
  · rintro ⟨ht, hu⟩ c (hc | hc)
    · exact ht c hc
    · exact hu c hc

/-! ### Longest runs -/

theorem takeWhile_append_of_next {p : Char → Bool} (hv : ∀ c ∈ v, p c)
    (hr : Next (p · = false) r) :
    (v ++ r).takeWhile p = v ∧ (v ++ r).dropWhile p = r := by
  rw [List.takeWhile_append_of_pos hv, List.dropWhile_append_of_pos hv]
  cases r with
  | nil => simp
  | cons c r =>
    rw [next_cons] at hr
    simp [hr]

theorem takeWhile_dropWhile_iff :
    (s.takeWhile member = v ∧ s.dropWhile member = r) ↔
      (∀ c ∈ v, member c) ∧ Next (member · = false) r ∧ s = v ++ r := by
  constructor
  · rintro ⟨rfl, rfl⟩
    refine ⟨List.all_eq_true.1 List.all_takeWhile, ?_, List.takeWhile_append_dropWhile.symm⟩
    intro c hc
    have := List.head?_dropWhile_not member s
    rw [Option.mem_def] at hc
    rwa [hc] at this
  · rintro ⟨hv, hr, rfl⟩
    exact takeWhile_append_of_next hv hr

/-- A text is cut in one way only at the first of some marks. -/
theorem cut_unique {d : Char} {u v x y : Text} (hu : d ∉ u) (hv : d ∉ v)
    (h : u ++ d :: x = v ++ d :: y) : u = v ∧ x = y := by
  have hcut : ∀ (w z : Text), d ∉ w → (w ++ d :: z).takeWhile (· != d) = w := by
    intro w z hw
    have hall : ∀ c ∈ w, (c != d) = true := by
      intro c hc
      rw [bne_iff_ne]
      rintro rfl
      exact hw hc
    exact (takeWhile_append_of_next hall (by simp)).1
  have huv : u = v := by rw [← hcut u x hu, h, hcut v y hv]
  subst huv
  exact ⟨rfl, (List.cons.inj (List.append_cancel_left h)).2⟩

/-- Equal marks at the beginning of a text can be counted. -/
theorem replicate_append_inj {d : Char} {a b : Nat} {u v : Text} (hu : Next (· ≠ d) u)
    (hv : Next (· ≠ d) v) (h : List.replicate a d ++ u = List.replicate b d ++ v) :
    a = b ∧ u = v := by
  have hcut : ∀ (n : Nat) (x : Text), Next (· ≠ d) x →
      (List.replicate n d ++ x).takeWhile (· == d) = List.replicate n d := by
    intro n x hx
    exact (takeWhile_append_of_next (by simp) (by simpa [Next] using hx)).1
  have hlen := congrArg List.length (hcut a u hu)
  rw [h, hcut b v hv, List.length_replicate, List.length_replicate] at hlen
  subst hlen
  exact ⟨rfl, List.append_cancel_left h⟩

theorem run_eq_ok_iff :
    pattern (.run source member) s = .ok (v, r) ↔
      (∀ c ∈ v, member c) ∧ Next (member · = false) r ∧ s = v ++ r := by
  rw [pattern_eq_ok_iff, ← takeWhile_dropWhile_iff]
  simp [Recogniser.run]

theorem run1_eq_ok_iff :
    pattern (.run1 source member) s = .ok (v, r) ↔
      v ≠ [] ∧ (∀ c ∈ v, member c) ∧ Next (member · = false) r ∧ s = v ++ r := by
  rw [pattern_eq_ok_iff, ← takeWhile_dropWhile_iff]
  simp only [Recogniser.run1]
  cases h : s.takeWhile member with
  | nil => simp; grind
  | cons c run => simp; grind

theorem run1_fails_iff :
    Fails (pattern (.run1 source member)) s ↔ Next (member · = false) s := by
  constructor
  · intro h
    by_cases hs : s.takeWhile member = []
    · have := (takeWhile_dropWhile_iff.1 ⟨hs, rfl⟩).2
      rw [List.nil_append] at this
      exact this.2 ▸ this.1
    · have hok : pattern (.run1 source member) s = .ok (_, _) :=
        run1_eq_ok_iff.2 ⟨hs, takeWhile_dropWhile_iff.1 ⟨rfl, rfl⟩⟩
      exact absurd h (not_fails_of_ok hok)
  · intro h
    rw [fails_iff]
    intro v r hok
    obtain ⟨hne, hv, -, rfl⟩ := run1_eq_ok_iff.1 hok
    obtain ⟨c, v, rfl⟩ := List.exists_cons_of_ne_nil hne
    have hc := (next_cons _ _ _).1 h
    rw [hv c List.mem_cons_self] at hc
    exact nomatch hc

theorem one_eq_ok_iff :
    pattern (.one source member) s = .ok (v, r) ↔
      ∃ c, v = [c] ∧ member c ∧ s = c :: r := by
  rw [pattern_eq_ok_iff]
  cases s with
  | nil => simp [Recogniser.one]
  | cons c s => simp [Recogniser.one]; grind

theorem led_eq_ok_iff {lead : Text} :
    pattern (.led source lead member) s = .ok (v, r) ↔
      ∃ w, v = lead ++ w ∧ (∀ c ∈ w, member c) ∧ Next (member · = false) r ∧
        s = lead ++ (w ++ r) := by
  rw [pattern_eq_ok_iff]
  simp only [Recogniser.led, Option.map_eq_some_iff, Text.dropLead?_eq_some_iff]
  constructor
  · rintro ⟨rest, rfl, heq⟩
    cases heq
    refine ⟨rest.takeWhile member, rfl, ?_⟩
    obtain ⟨hw, hr, hs⟩ := takeWhile_dropWhile_iff.1
      (⟨rfl, rfl⟩ : rest.takeWhile member = _ ∧ rest.dropWhile member = _)
    exact ⟨hw, hr, congrArg (lead ++ ·) hs⟩
  · rintro ⟨w, rfl, hw, hr, rfl⟩
    refine ⟨w ++ r, rfl, ?_⟩
    obtain ⟨htake, hdrop⟩ := takeWhile_append_of_next hw hr
    rw [htake, hdrop]

/-! ### Bodies between delimiters -/

/-- A body that excludes the first character of its delimiter ends exactly where the
delimiter stands again. -/
theorem enclosed_eq_ok_iff {d : Char} {ds : Text} (hd : member d = false) :
    enclosed (d :: ds) (pattern (.run1 source member)) s = .ok (v, r) ↔
      v ≠ [] ∧ (∀ c ∈ v, member c) ∧ s = delimited (d :: ds) v ++ r := by
  simp only [enclosed, region_eq_ok_iff, literal_eq_ok_iff, run1_eq_ok_iff, delimited]
  constructor
  · rintro ⟨_, x, y, _, ⟨-, rfl⟩, ⟨hne, hv, -, rfl⟩, -, rfl⟩
    exact ⟨hne, hv, by simp⟩
  · rintro ⟨hne, hv, rfl⟩
    exact ⟨_, v ++ (d :: ds ++ r), d :: ds ++ r, _, ⟨rfl, by simp⟩,
      ⟨hne, hv, by simpa using hd, rfl⟩, rfl, rfl⟩

/-- A region between two marks, the second of which its body excludes. -/
theorem region_run_eq_ok_iff {opening closing : Char} (hc : member closing = false) :
    region (literal [opening]) (pattern (.run source member)) (literal [closing]) s =
        .ok (v, r) ↔
      (∀ c ∈ v, member c) ∧ s = opening :: v ++ closing :: r := by
  simp only [region_eq_ok_iff, literal_eq_ok_iff, run_eq_ok_iff]
  constructor
  · rintro ⟨_, x, y, _, ⟨-, rfl⟩, ⟨hv, -, rfl⟩, -, rfl⟩
    exact ⟨hv, by simp⟩
  · rintro ⟨hv, rfl⟩
    exact ⟨_, v ++ closing :: r, closing :: r, _, ⟨rfl, by simp⟩,
      ⟨hv, by simpa using hc, rfl⟩, rfl, by simp⟩

/-! ### Operators and list markers -/

/-- No operator symbol holds a space, so at most one of them stands before a space. -/
theorem symbol_unique {a b : Text} {x y : Text} (ha : a ∈ operators) (hb : b ∈ operators)
    (h : a ++ ' ' :: x = b ++ ' ' :: y) : a = b := by
  have hspace : ∀ t ∈ operators, ∀ c ∈ t, (c != ' ') = true := by decide
  have hcut : ∀ t ∈ operators, ∀ z, (t ++ ' ' :: z).takeWhile (· != ' ') = t := by
    intro t ht z
    exact (takeWhile_append_of_next (hspace t ht) (by simp)).1
  rw [← hcut a ha x, h, hcut b hb y]

theorem leadingOperator?_eq_some_iff {symbol : Text} :
    leadingOperator? s = some (symbol, r) ↔
      symbol ∈ operators ∧ ∃ x, s = symbol ++ ' ' :: x ∧ r = ' ' :: x := by
  simp only [leadingOperator?]
  constructor
  · intro h
    obtain ⟨a, ha, hfound⟩ := List.exists_of_findSome?_eq_some h
    obtain ⟨x, hx, heq⟩ := Option.map_eq_some_iff.1 hfound
    cases heq
    rw [Text.dropLead?_eq_some_iff] at hx
    exact ⟨ha, x, by simpa using hx, rfl⟩
  · rintro ⟨hmem, x, rfl, rfl⟩
    cases h : operators.findSome? fun symbol' =>
        (Text.dropLead? (symbol' ++ [' ']) (symbol ++ ' ' :: x)).map fun rest =>
          (symbol', ' ' :: rest) with
    | none =>
      rw [List.findSome?_eq_none_iff] at h
      have := h symbol hmem
      rw [show symbol ++ ' ' :: x = (symbol ++ [' ']) ++ x by simp,
        Text.dropLead?_append] at this
      exact nomatch this
    | some found =>
      obtain ⟨a, ha, hfound⟩ := List.exists_of_findSome?_eq_some h
      obtain ⟨y, hy, rfl⟩ := Option.map_eq_some_iff.1 hfound
      rw [Text.dropLead?_eq_some_iff, List.append_assoc, List.singleton_append] at hy
      have hsame := symbol_unique hmem ha hy
      subst hsame
      rw [List.append_cancel_left_eq, List.cons.injEq] at hy
      rw [hy.2]

theorem operator_eq_ok_iff :
    operator s = .ok (v, r) ↔ v ∈ operators ∧ s = ' ' :: v ++ r ∧ r.head? = some ' ' := by
  unfold operator
  split
  · next s =>
    cases h : leadingOperator? s with
    | none =>
      constructor
      · intro hok
        exact nomatch hok
      · rintro ⟨hmem, heq, hhead⟩
        obtain ⟨x, rfl⟩ := List.head?_eq_some_iff.1 hhead
        rw [List.cons_append, List.cons.injEq] at heq
        have := leadingOperator?_eq_some_iff.2 ⟨hmem, x, heq.2, rfl⟩
        rw [h] at this
        exact nomatch this
    | some found =>
      rw [Except.ok.injEq]
      constructor
      · rintro rfl
        obtain ⟨hmem, x, rfl, rfl⟩ := leadingOperator?_eq_some_iff.1 h
        exact ⟨hmem, by simp, by simp⟩
      · rintro ⟨hmem, heq, hhead⟩
        obtain ⟨x, rfl⟩ := List.head?_eq_some_iff.1 hhead
        rw [List.cons_append, List.cons.injEq] at heq
        have := leadingOperator?_eq_some_iff.2 ⟨hmem, x, heq.2, rfl⟩
        rw [h] at this
        exact Option.some.inj this
  · next hne =>
    constructor
    · intro hok
      exact nomatch hok
    · rintro ⟨-, heq, -⟩
      exact absurd (by simpa using heq) (hne _)

theorem glyph_eq_ok_iff :
    glyph s = .ok (v, r) ↔
      ∃ c, v = [c] ∧ c ∈ listGlyphs ∧ s = c :: r ∧ Next (fun d => d = ' ' ∨ d = '\n') r := by
  unfold glyph
  cases h : pattern (.one "^[\\-\\+!\\*¿\\?✘★✓]".toList listGlyphs.contains) s with
  | error e =>
    constructor
    · intro hok
      exact nomatch hok
    · rintro ⟨c, rfl, hc, rfl, -⟩
      exact absurd (one_eq_ok_iff.2 ⟨c, rfl, List.contains_iff_mem.2 hc, rfl⟩)
        (fails_iff.1 ⟨e, h⟩ [c] r)
  | ok x =>
    obtain ⟨mark, rest⟩ := x
    obtain ⟨c, rfl, hc, rfl⟩ := one_eq_ok_iff.1 h
    rw [List.contains_iff_mem] at hc
    cases rest with
    | nil => simp [bind, Except.bind]; grind [next_nil]
    | cons d rest =>
      by_cases hd : d = ' ' ∨ d = '\n'
      · simp [bind, Except.bind, hd]; grind [next_cons]
      · simp [bind, Except.bind, hd]; grind [next_cons]

theorem alphanumeric_eq_ok_iff :
    alphanumeric s = .ok (v, r) ↔
      v ≠ [] ∧ (∀ c ∈ v, c.isAlphanum) ∧ Next (·.isAlphanum = false) r ∧ s = v ++ r :=
  run1_eq_ok_iff

/-- A segment of a label: letters or digits and a dot. -/
def IsSegment (t : Text) : Prop := ∃ a, a ≠ [] ∧ (∀ c ∈ a, c.isAlphanum) ∧ t = a ++ ['.']

theorem IsSegment.of_mem {segment : Text} {c : Char} (h : IsSegment segment) (hc : c ∈ segment) :
    c.isAlphanum = true ∨ c = '.' := by
  obtain ⟨a, -, ha, rfl⟩ := h
  rcases List.mem_append.1 hc with hc | hc
  · exact .inl (ha c hc)
  · exact .inr (List.mem_singleton.1 hc)

theorem labelSegment_eq_ok_iff :
    labelSegment s = .ok (v, r) ↔ IsSegment v ∧ s = v ++ r := by
  simp only [labelSegment, Parsing.sequence, bind_eq_ok_iff, Parser.pure_apply, Except.ok.injEq,
    Prod.mk.injEq, alphanumeric_eq_ok_iff, literal_eq_ok_iff]
  constructor
  · rintro ⟨a, m, ⟨hne, ha, -, rfl⟩, _, _, ⟨_, _, ⟨rfl, rfl⟩, _, _, ⟨rfl, rfl⟩, rfl, rfl⟩,
      rfl, rfl⟩
    exact ⟨⟨a, hne, ha, by simp⟩, by simp⟩
  · rintro ⟨⟨a, hne, ha, rfl⟩, rfl⟩
    refine ⟨a, '.' :: r, ⟨hne, ha, by simp, by simp⟩, ['.'], r, ?_, rfl, rfl⟩
    exact ⟨['.'], r, ⟨rfl, rfl⟩, [], r, ⟨rfl, rfl⟩, rfl, rfl⟩

theorem advances_labelSegment : Advances labelSegment := by
  intro s a m h
  obtain ⟨⟨b, hne, -, rfl⟩, rfl⟩ := labelSegment_eq_ok_iff.1 h
  simp only [List.length_append, List.length_singleton]
  omega

/-- A dotted label: one segment or more. -/
def IsLabel (t : Text) : Prop :=
  ∃ segments : List Text, segments ≠ [] ∧ (∀ segment ∈ segments, IsSegment segment) ∧
    t = segments.flatten

theorem readsBack_segments {segments : List Text} (h : ∀ segment ∈ segments, IsSegment segment)
    (r : Text) : ReadsBack labelSegment id segments r := by
  induction segments with
  | nil => exact .stop r
  | cons segment segments ih =>
    rw [List.forall_mem_cons] at h
    exact .step (labelSegment_eq_ok_iff.2 ⟨h.1, rfl⟩) (ih h.2)

theorem segments_of_chain {segments : List Text} (h : Chain labelSegment s segments r) :
    (∀ segment ∈ segments, IsSegment segment) ∧ s = segments.flatten ++ r := by
  induction h with
  | stop s => simp
  | step head _ _ ih =>
    obtain ⟨hsegment, rfl⟩ := labelSegment_eq_ok_iff.1 head
    obtain ⟨hall, rfl⟩ := ih
    exact ⟨List.forall_mem_cons.2 ⟨hsegment, hall⟩, by simp⟩

theorem label_eq_ok_iff :
    label s = .ok (v, r) ↔ IsLabel v ∧ s = v ++ r ∧ Fails labelSegment r := by
  simp only [label, map_eq_ok_iff, many1_eq_ok_iff advances_labelSegment]
  constructor
  · rintro ⟨segments, ⟨hne, hchain, hr⟩, rfl⟩
    obtain ⟨hall, hs⟩ := segments_of_chain hchain
    exact ⟨⟨segments, hne, hall, rfl⟩, hs, hr⟩
  · rintro ⟨⟨segments, hne, hall, rfl⟩, rfl, hr⟩
    have hchain := (readsBack_segments hall r).chain advances_labelSegment
    rw [List.flatMap_id] at hchain
    exact ⟨segments, ⟨hne, hchain, hr⟩, rfl⟩

theorem label_fails_iff : Fails label s ↔ Fails labelSegment s := by
  rw [label, map_fails_iff, many1_fails_iff]

/-! ### Addresses -/

theorem bareUrl_eq_ok_iff :
    bareUrl s = .ok (v, r) ↔
      "http".toList <+: v ∧ (∀ c ∈ v, Text.isBlank c = false) ∧ Next (Text.isBlank · = true) r ∧
        s = v ++ r := by
  have hlead : ∀ c ∈ "http".toList, Text.isBlank c = false := by decide
  simp only [bareUrl, led_eq_ok_iff, Bool.not_eq_eq_eq_not, Bool.not_true, Bool.not_false]
  constructor
  · rintro ⟨w, rfl, hw, hr, rfl⟩
    refine ⟨List.prefix_append _ _, ?_, hr, by simp⟩
    intro c hc
    rcases List.mem_append.1 hc with hc | hc
    · exact hlead c hc
    · exact hw c hc
  · rintro ⟨⟨w, rfl⟩, hv, hr, rfl⟩
    exact ⟨w, rfl, fun c hc => hv c (List.mem_append_right _ hc), hr, by simp⟩

end Slipbox.Markup
