import Slipbox.Markup.Inline
import Slipbox.Proofs.Markup.Lexemes

/-!
# What spans and runs read

`ReadsSpan` describes a span by the text it takes: an operator, a body between
equal delimiters, a piece of plain text, or a stray character at which no styled
span can be read. The delimiters are kept apart by their characters, so the order
in which the styled spans are tried does not matter (`styled_eq_ok_iff`). A span
can be read everywhere but at the end of a line, so a run always extends to there
(`textRun_eq_ok_iff`).
-/

namespace Slipbox.Markup

open Slipbox.Parsing

variable {s r : Text} {x : Span}

/-! ### Delimiters -/

/-- A span of the kind stands between two such delimiters and holds none of the stops. -/
inductive Encloses : SpanKind → Text → List Char → Prop where
  | bold : Encloses .bold ['*'] ['*', '\n']
  | struck : Encloses .struck ['~', '~'] ['~', '\n']
  | fence : Encloses .code ['\x60', '\x60', '\x60'] ['\x60']
  | code : Encloses .code ['\x60'] ['\x60', '\n']
  | quote : Encloses .quote ['"'] ['"', '\n']
  | blockMath : Encloses .blockMath ['$', '$'] ['$']
  | inlineMath : Encloses .inlineMath ['$'] ['$', '\n']

/-- A delimiter repeats one special character, which its body excludes. -/
theorem Encloses.delimiter_eq {kind : SpanKind} {delimiter : Text} {stops : List Char}
    (h : Encloses kind delimiter stops) :
    ∃ d n, delimiter = List.replicate (n + 1) d ∧ d ∈ stops ∧ d ∈ specials ∧ d ≠ ' ' ∧
      ∀ c ∈ stops, c = d ∨ c = '\n' := by
  cases h with
  | bold => exact ⟨'*', 0, by decide⟩
  | struck => exact ⟨'~', 1, by decide⟩
  | fence => exact ⟨'\x60', 2, by decide⟩
  | code => exact ⟨'\x60', 0, by decide⟩
  | quote => exact ⟨'"', 0, by decide⟩
  | blockMath => exact ⟨'$', 1, by decide⟩
  | inlineMath => exact ⟨'$', 0, by decide⟩

/-- The mark and the length of the delimiter determine the kind of span. -/
theorem Encloses.unique {kind kind' : SpanKind} {delimiter : Text} {stops stops' : List Char}
    (h : Encloses kind delimiter stops) (h' : Encloses kind' delimiter stops') :
    kind = kind' ∧ stops = stops' := by
  cases h <;> cases h' <;> exact ⟨rfl, rfl⟩

/-- A text begins with at most one delimiter, body and delimiter. -/
theorem delimited_unique {kind kind' : SpanKind} {delimiter delimiter' : Text}
    {stops stops' : List Char} {t t' r' : Text} (h : Encloses kind delimiter stops)
    (h' : Encloses kind' delimiter' stops') (ht : t ≠ []) (ht' : t' ≠ [])
    (hstops : Avoids stops t) (hstops' : Avoids stops' t')
    (heq : delimited delimiter t ++ r = delimited delimiter' t' ++ r') :
    kind = kind' ∧ t = t' ∧ r = r' := by
  obtain ⟨d, n, hdel, hd, -⟩ := h.delimiter_eq
  obtain ⟨d', n', hdel', hd', -⟩ := h'.delimiter_eq
  subst hdel hdel'
  have hsame : d = d' := by simpa [delimited, List.replicate_succ] using congrArg List.head? heq
  subst hsame
  have hmem : d ∉ t := fun hmem => hstops d hmem hd
  have hmem' : d ∉ t' := fun hmem => hstops' d hmem hd'
  have hnext : ∀ x, Next (· ≠ d) (t ++ x) := next_append ht (List.forall_mem_ne'.2 hmem)
  have hnext' : ∀ x, Next (· ≠ d) (t' ++ x) := next_append ht' (List.forall_mem_ne'.2 hmem')
  -- the leading marks are counted, and the first mark after the body ends it
  rw [delimited, delimited, List.append_assoc, List.append_assoc, List.append_assoc,
    List.append_assoc] at heq
  obtain ⟨hcount, hbody⟩ := replicate_append_inj (hnext _) (hnext' _) heq
  obtain rfl := Nat.succ.inj hcount
  obtain ⟨rfl, hrest⟩ := cut_unique hmem hmem' hbody
  exact ⟨(h.unique h').1, rfl, List.append_cancel_left hrest⟩

/-! ### Styled spans -/

/-- A styled span: an operator, or a body between delimiters. -/
inductive ReadsStyled : Text → Span → Text → Prop where
  | operator {symbol r : Text} (known : symbol ∈ operators) (spaced : r.head? = some ' ') :
      ReadsStyled (' ' :: symbol ++ r) ⟨.operator, symbol⟩ r
  | enclosed {kind : SpanKind} {delimiter : Text} {stops : List Char} {t r : Text}
      (encloses : Encloses kind delimiter stops) (nonempty : t ≠ []) (avoids : Avoids stops t) :
      ReadsStyled (delimited delimiter t ++ r) ⟨kind, t⟩ r

theorem spanOf_eq_ok_iff {kind : SpanKind} {p : Parser Text} :
    spanOf kind p s = .ok (x, r) ↔ ∃ t, x = ⟨kind, t⟩ ∧ p s = .ok (t, r) := by
  rw [spanOf, map_eq_ok_iff]
  constructor
  · rintro ⟨t, hp, rfl⟩
    exact ⟨t, rfl, hp⟩
  · rintro ⟨t, rfl, hp⟩
    exact ⟨t, hp, rfl⟩

/-- What a delimited rule reads, given the class of its body. -/
theorem enclosed_avoids_iff (d : Char) (ds : Text) {source t : Text} {member : Char → Bool}
    {stops : List Char} (hmember : ∀ c, member c = true ↔ c ∉ stops) (hd : d ∈ stops) :
    enclosed (d :: ds) (pattern (.run1 source member)) s = .ok (t, r) ↔
      t ≠ [] ∧ Avoids stops t ∧ s = delimited (d :: ds) t ++ r := by
  have hout : member d = false := by
    rw [← Bool.not_eq_true, hmember]
    exact not_not_intro hd
  rw [enclosed_eq_ok_iff hout]
  simp only [hmember, Avoids]

theorem bold_eq_ok_iff : bold s = .ok (x, r) ↔
    ∃ t, x = ⟨.bold, t⟩ ∧ t ≠ [] ∧ Avoids ['*', '\n'] t ∧ s = delimited ['*'] t ++ r := by
  rw [bold, spanOf_eq_ok_iff]
  refine exists_congr fun t => and_congr_right fun _ => ?_
  exact enclosed_avoids_iff '*' [] (by simp) (by simp)

theorem struck_eq_ok_iff : struck s = .ok (x, r) ↔
    ∃ t, x = ⟨.struck, t⟩ ∧ t ≠ [] ∧ Avoids ['~', '\n'] t ∧ s = delimited ['~', '~'] t ++ r := by
  rw [struck, spanOf_eq_ok_iff]
  refine exists_congr fun t => and_congr_right fun _ => ?_
  exact enclosed_avoids_iff '~' ['~'] (by simp) (by simp)

theorem fencedCode_eq_ok_iff {t : Text} : fencedCode s = .ok (t, r) ↔
    t ≠ [] ∧ Avoids ['\x60'] t ∧ s = delimited ['\x60', '\x60', '\x60'] t ++ r :=
  enclosed_avoids_iff '\x60' ['\x60', '\x60'] (by simp) (by simp)

theorem singleCode_eq_ok_iff {t : Text} : singleCode s = .ok (t, r) ↔
    t ≠ [] ∧ Avoids ['\x60', '\n'] t ∧ s = delimited ['\x60'] t ++ r :=
  enclosed_avoids_iff '\x60' [] (by simp) (by simp)

theorem quote_eq_ok_iff : quote s = .ok (x, r) ↔
    ∃ t, x = ⟨.quote, t⟩ ∧ t ≠ [] ∧ Avoids ['"', '\n'] t ∧ s = delimited ['"'] t ++ r := by
  rw [quote, spanOf_eq_ok_iff]
  refine exists_congr fun t => and_congr_right fun _ => ?_
  exact enclosed_avoids_iff '"' [] (by simp) (by simp)

theorem blockMath_eq_ok_iff : blockMath s = .ok (x, r) ↔
    ∃ t, x = ⟨.blockMath, t⟩ ∧ t ≠ [] ∧ Avoids ['$'] t ∧ s = delimited ['$', '$'] t ++ r := by
  rw [blockMath, spanOf_eq_ok_iff]
  refine exists_congr fun t => and_congr_right fun _ => ?_
  exact enclosed_avoids_iff '$' ['$'] (by simp) (by simp)

theorem inlineMath_eq_ok_iff : inlineMath s = .ok (x, r) ↔
    ∃ t, x = ⟨.inlineMath, t⟩ ∧ t ≠ [] ∧ Avoids ['$', '\n'] t ∧ s = delimited ['$'] t ++ r := by
  rw [inlineMath, spanOf_eq_ok_iff]
  refine exists_congr fun t => and_congr_right fun _ => ?_
  exact enclosed_avoids_iff '$' [] (by simp) (by simp)

/-- A styled span is an operator or has the shape of its kind, whichever rule found it. -/
theorem readsStyled_of_ok (h : styled s = .ok (x, r)) : ReadsStyled s x r := by
  simp only [styled, alternation_eq_ok_iff, alternation_nil] at h
  rcases h with h | ⟨-, h | ⟨-, h | ⟨-, h | ⟨-, h | ⟨-, h | ⟨-, h⟩⟩⟩⟩⟩⟩
  · obtain ⟨t, rfl, hop⟩ := spanOf_eq_ok_iff.1 h
    obtain ⟨hmem, rfl, hhead⟩ := operator_eq_ok_iff.1 hop
    exact .operator hmem hhead
  · obtain ⟨t, rfl, hne, havoids, rfl⟩ := bold_eq_ok_iff.1 h
    exact .enclosed .bold hne havoids
  · obtain ⟨t, rfl, hne, havoids, rfl⟩ := struck_eq_ok_iff.1 h
    exact .enclosed .struck hne havoids
  · obtain ⟨t, rfl, hcode⟩ := spanOf_eq_ok_iff.1 h
    rw [alternation_eq_ok_iff, alternation_nil] at hcode
    rcases hcode with hcode | ⟨-, hcode⟩
    · obtain ⟨hne, havoids, rfl⟩ := fencedCode_eq_ok_iff.1 hcode
      exact .enclosed .fence hne havoids
    · obtain ⟨hne, havoids, rfl⟩ := singleCode_eq_ok_iff.1 hcode
      exact .enclosed .code hne havoids
  · obtain ⟨t, rfl, hne, havoids, rfl⟩ := quote_eq_ok_iff.1 h
    exact .enclosed .quote hne havoids
  · obtain ⟨t, rfl, hne, havoids, rfl⟩ := blockMath_eq_ok_iff.1 h
    exact .enclosed .blockMath hne havoids
  · obtain ⟨t, rfl, hne, havoids, rfl⟩ := inlineMath_eq_ok_iff.1 h
    exact .enclosed .inlineMath hne havoids

/-- Where a styled span of some shape stands, one of the rules succeeds. -/
theorem ReadsStyled.not_fails (h : ReadsStyled s x r) : ¬ Fails styled s := by
  simp only [styled, alternation_fails_iff, alternation_nil]
  rintro ⟨hop, hbold, hstruck, hcode, hquote, hblock, hinline⟩
  cases h with
  | operator known spaced =>
    exact not_fails_of_ok
      (spanOf_eq_ok_iff.2 ⟨_, rfl, operator_eq_ok_iff.2 ⟨known, rfl, spaced⟩⟩) hop
  | enclosed encloses nonempty avoids =>
    rw [code, spanOf, map_fails_iff, alternation_fails_iff] at hcode
    cases encloses with
    | bold => exact not_fails_of_ok (bold_eq_ok_iff.2 ⟨_, rfl, nonempty, avoids, rfl⟩) hbold
    | struck => exact not_fails_of_ok (struck_eq_ok_iff.2 ⟨_, rfl, nonempty, avoids, rfl⟩) hstruck
    | fence => exact not_fails_of_ok (fencedCode_eq_ok_iff.2 ⟨nonempty, avoids, rfl⟩) hcode.1
    | code => exact not_fails_of_ok (singleCode_eq_ok_iff.2 ⟨nonempty, avoids, rfl⟩) hcode.2
    | quote => exact not_fails_of_ok (quote_eq_ok_iff.2 ⟨_, rfl, nonempty, avoids, rfl⟩) hquote
    | blockMath =>
      exact not_fails_of_ok (blockMath_eq_ok_iff.2 ⟨_, rfl, nonempty, avoids, rfl⟩) hblock
    | inlineMath =>
      exact not_fails_of_ok (inlineMath_eq_ok_iff.2 ⟨_, rfl, nonempty, avoids, rfl⟩) hinline

/-- At most one styled span can stand at the beginning of a text. -/
theorem ReadsStyled.unique {y : Span} {r' : Text} (h : ReadsStyled s x r)
    (h' : ReadsStyled s y r') : x = y ∧ r = r' := by
  generalize hs : s = s' at h'
  cases h with
  | operator known spaced =>
    cases h' with
    | operator known' spaced' =>
      obtain ⟨z, rfl⟩ := List.head?_eq_some_iff.1 spaced
      obtain ⟨z', rfl⟩ := List.head?_eq_some_iff.1 spaced'
      rw [List.cons_append, List.cons_append, List.cons.injEq] at hs
      have hsame := symbol_unique known known' hs.2
      subst hsame
      exact ⟨rfl, List.append_cancel_left hs.2⟩
    | enclosed encloses =>
      obtain ⟨d, n, rfl, -, -, hspace, -⟩ := encloses.delimiter_eq
      have : ' ' = d := by simpa [delimited, List.replicate_succ] using congrArg List.head? hs
      exact absurd this.symm hspace
  | enclosed encloses nonempty avoids =>
    cases h' with
    | operator =>
      obtain ⟨d, n, rfl, -, -, hspace, -⟩ := encloses.delimiter_eq
      have : d = ' ' := by simpa [delimited, List.replicate_succ] using congrArg List.head? hs
      exact absurd this hspace
    | enclosed encloses' nonempty' avoids' =>
      obtain ⟨rfl, rfl, rfl⟩ :=
        delimited_unique encloses encloses' nonempty nonempty' avoids avoids' hs
      exact ⟨rfl, rfl⟩

theorem styled_eq_ok_iff : styled s = .ok (x, r) ↔ ReadsStyled s x r := by
  constructor
  · exact readsStyled_of_ok
  · intro h
    obtain ⟨y, r', hok⟩ := not_fails_iff.1 h.not_fails
    obtain ⟨rfl, rfl⟩ := h.unique (readsStyled_of_ok hok)
    exact hok

/-- A styled span begins with a special character. -/
theorem ReadsStyled.head_special (h : ReadsStyled s x r) : ∃ c ∈ specials, s.head? = some c := by
  cases h with
  | operator => exact ⟨' ', by decide, rfl⟩
  | enclosed encloses =>
    obtain ⟨d, n, rfl, -, hd, -⟩ := encloses.delimiter_eq
    exact ⟨d, hd, by simp [delimited, List.replicate_succ]⟩

/-! ### Spans -/

/-- The characters at which a piece of plain text ends. -/
abbrev plainStops : List Char := '\n' :: specials

/-- A span: styled, a piece of plain text, or a stray character. -/
inductive ReadsSpan : Text → Span → Text → Prop where
  | styled {s r : Text} {x : Span} (styled : ReadsStyled s x r) : ReadsSpan s x r
  | plain {t r : Text} (nonempty : t ≠ []) (avoids : Avoids plainStops t)
      (ends : Next (· ∈ plainStops) r) : ReadsSpan (t ++ r) ⟨.plain, t⟩ r
  | stray {c : Char} {r : Text} (special : c ∈ specials)
      (unclaimed : Fails Markup.styled (c :: r)) : ReadsSpan (c :: r) ⟨.plain, [c]⟩ r

theorem plainSpan_eq_ok_iff : plainSpan s = .ok (x, r) ↔
    ∃ t, x = ⟨.plain, t⟩ ∧ t ≠ [] ∧ Avoids plainStops t ∧ Next (· ∈ plainStops) r ∧
      s = t ++ r := by
  rw [plainSpan, spanOf_eq_ok_iff]
  refine exists_congr fun t => and_congr_right fun _ => ?_
  have hin : ∀ c, (!isSpecial c && c != '\n') = true ↔ c ∉ plainStops := by
    simp [isSpecial, plainStops, and_comm]
  have hout : ∀ c, (!isSpecial c && c != '\n') = false ↔ c ∈ plainStops := by
    intro c
    rw [← Bool.not_eq_true, hin, Decidable.not_not]
  rw [plainText, run1_eq_ok_iff]
  simp only [hin, hout, Avoids]

theorem straySpan_eq_ok_iff : straySpan s = .ok (x, r) ↔
    ∃ c, x = ⟨.plain, [c]⟩ ∧ c ∈ specials ∧ s = c :: r := by
  rw [straySpan, spanOf_eq_ok_iff]
  simp only [stray, one_eq_ok_iff, isSpecial, List.contains_iff_mem]
  constructor
  · rintro ⟨t, rfl, c, rfl, hc, rfl⟩
    exact ⟨c, rfl, hc, rfl⟩
  · rintro ⟨c, rfl, hc, rfl⟩
    exact ⟨[c], rfl, c, rfl, hc, rfl⟩

theorem styled_fails_of_plain {t : Text} (hne : t ≠ []) (ht : Avoids plainStops t) :
    Fails styled (t ++ r) := by
  rw [fails_iff]
  intro y m hok
  obtain ⟨c, hc, hhead⟩ := (styled_eq_ok_iff.1 hok).head_special
  obtain ⟨d, t, rfl⟩ := List.exists_cons_of_ne_nil hne
  cases hhead
  exact ht c List.mem_cons_self (List.mem_cons_of_mem _ hc)

theorem span_eq_ok_iff : span s = .ok (x, r) ↔ ReadsSpan s x r := by
  simp only [span, alternation_eq_ok_iff, alternation_nil, plainSpan_eq_ok_iff,
    straySpan_eq_ok_iff]
  constructor
  · rintro (h | ⟨hstyled, ⟨t, rfl, hne, havoids, hr, rfl⟩ | ⟨-, c, rfl, hc, rfl⟩⟩)
    · exact .styled (styled_eq_ok_iff.1 h)
    · exact .plain hne havoids hr
    · exact .stray hc hstyled
  · intro h
    cases h with
    | styled styled => exact .inl (styled_eq_ok_iff.2 styled)
    | plain nonempty avoids ends =>
      exact .inr ⟨styled_fails_of_plain nonempty avoids, .inl ⟨_, rfl, nonempty, avoids, ends, rfl⟩⟩
    | stray special unclaimed =>
      refine .inr ⟨unclaimed, .inr ⟨?_, _, rfl, special, rfl⟩⟩
      rw [fails_iff]
      intro y m hok
      obtain ⟨t, -, hne, havoids, -, heq⟩ := plainSpan_eq_ok_iff.1 hok
      obtain ⟨d, t, rfl⟩ := List.exists_cons_of_ne_nil hne
      cases heq
      exact havoids _ List.mem_cons_self (List.mem_cons_of_mem _ special)

/-- What a span takes is not empty and does not begin with a newline. -/
theorem ReadsSpan.exists_head (h : ReadsSpan s x r) :
    ∃ c w, c ≠ '\n' ∧ s = c :: (w ++ r) := by
  cases h with
  | styled styled =>
    cases styled with
    | operator => exact ⟨' ', _, by decide, rfl⟩
    | @enclosed _ _ _ t _ encloses =>
      obtain ⟨d, n, rfl, -, hd, -⟩ := encloses.delimiter_eq
      refine ⟨d, List.replicate n d ++ (t ++ List.replicate (n + 1) d), ?_, ?_⟩
      · rintro rfl
        exact absurd hd (by decide)
      · simp [delimited, List.replicate_succ]
  | plain nonempty avoids =>
    obtain ⟨d, t, rfl⟩ := List.exists_cons_of_ne_nil nonempty
    refine ⟨d, t, ?_, rfl⟩
    rintro rfl
    exact avoids _ List.mem_cons_self List.mem_cons_self
  | stray special =>
    refine ⟨_, [], ?_, rfl⟩
    rintro rfl
    exact absurd special (by decide)

theorem advances_span : Advances span := by
  intro s x r h
  obtain ⟨c, w, -, rfl⟩ := (span_eq_ok_iff.1 h).exists_head
  simp only [List.length_cons, List.length_append]
  omega

/-- A span can be read everywhere but at the end of a line. -/
theorem span_fails_iff : Fails span s ↔ LineEnd s := by
  constructor
  · intro h
    cases s with
    | nil => exact lineEnd_nil
    | cons c s =>
      simp only [span, alternation_fails_iff, alternation_nil] at h
      obtain ⟨-, hplain, hstray⟩ := h
      rw [plainSpan, spanOf, map_fails_iff, plainText, run1_fails_iff, next_cons] at hplain
      by_cases hc : c ∈ specials
      · exact absurd hstray (not_fails_of_ok (straySpan_eq_ok_iff.2 ⟨c, rfl, hc, rfl⟩))
      · rw [lineEnd_cons]
        simpa [isSpecial, hc] using hplain
  · intro h
    rw [fails_iff]
    intro x r hok
    obtain ⟨c, w, hc, rfl⟩ := (span_eq_ok_iff.1 hok).exists_head
    exact hc (lineEnd_cons.1 h)

/-! ### Runs -/

theorem textRun_eq_ok_iff {run : Run} : textRun s = .ok (run, r) ↔
    ∃ raw, raw ≠ [] ∧ Chain span s raw r ∧ LineEnd r ∧ flatten raw = run := by
  simp only [textRun, map_eq_ok_iff, many1_eq_ok_iff advances_span, span_fails_iff]
  constructor
  · rintro ⟨raw, ⟨hne, hchain, hr⟩, rfl⟩
    exact ⟨raw, hne, hchain, hr, rfl⟩
  · rintro ⟨raw, hne, hchain, hr, rfl⟩
    exact ⟨raw, ⟨hne, hchain, hr⟩, rfl⟩

/-- A run reaches the end of its line. -/
theorem textRun_end {run : Run} (h : textRun s = .ok (run, r)) : LineEnd r := by
  obtain ⟨raw, -, -, hr, -⟩ := textRun_eq_ok_iff.1 h
  exact hr

theorem textRun_fails_iff : Fails textRun s ↔ LineEnd s := by
  rw [textRun, map_fails_iff, many1_fails_iff, span_fails_iff]

end Slipbox.Markup
