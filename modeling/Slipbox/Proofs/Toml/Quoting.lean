import Mathlib.Tactic.SplitIfs
import Slipbox.Proofs.Text
import Slipbox.Toml.Quoting

/-!
# Quoted strings are read back

Every text is read back from its quoted form, whichever of the four forms is taken for it
(`read_write`). Escapes are undone one character at a time. A body between three quotes may hold
bare quotes and may end with up to two of them, which then stand directly before the closing ones:
the reader sees the first three quotes in a row as the closing ones and takes those that are left
as text (`readQuote`). This is right since neither form leaves three bare quotes in a row.

After a quoted string no quote of the same kind may follow.
-/

namespace Slipbox.Toml.Quoting

variable {c quote : Char} {s t u w rest : Text} {n quotes : Nat}

/-! ### Escapes -/

theorem hexValue?_upperDigit : ∀ n < 16, hexValue? (upperDigit n) = some n := by decide

theorem scalar?_toNat (c : Char) : scalar? c.toNat = some c := by
  have hvalid : c.toNat.isValidChar := c.valid
  rw [scalar?, if_pos hvalid, Char.ofNat_toNat]

theorem coded?_upperDigits (hc : c.toNat < 256) (s : Text) :
    coded? 4 ('0' :: '0' :: upperDigit (c.toNat / 16) :: upperDigit (c.toNat % 16) :: s) =
      some c := by
  have hzero : hexValue? '0' = some 0 := rfl
  have hhigh := hexValue?_upperDigit (c.toNat / 16) (by omega)
  have hlow := hexValue?_upperDigit (c.toNat % 16) (by omega)
  have hvalue : 16 * (c.toNat / 16) + c.toNat % 16 = c.toNat := Nat.div_add_mod _ _
  simp [coded?, hexNumber?, hzero, hhigh, hlow, hvalue, scalar?_toNat]

theorem toNat_lt_of_not_isTextual (h : isTextual c = false) : c.toNat < 128 := by
  simp only [isTextual, Bool.or_eq_false_iff, Bool.and_eq_false_iff, decide_eq_false_iff_not,
    bne_eq_false_iff_eq] at h
  omega

/-- What a character is escaped to is read as that character. -/
theorem exists_of_escapeOf? (h : escapeOf? c = some w) :
    ∃ letters, w = '\\' :: letters ∧ ∀ s, escape? (letters ++ s) = some (c, letters.length) := by
  unfold escapeOf? at h
  split_ifs at h with hb ht hf hr hbackslash htextual
  · subst hb
    exact ⟨['b'], (Option.some.inj h).symm, fun _ => rfl⟩
  · subst ht
    exact ⟨['t'], (Option.some.inj h).symm, fun _ => rfl⟩
  · subst hf
    exact ⟨['f'], (Option.some.inj h).symm, fun _ => rfl⟩
  · subst hr
    exact ⟨['r'], (Option.some.inj h).symm, fun _ => rfl⟩
  · subst hbackslash
    exact ⟨['\\'], (Option.some.inj h).symm, fun _ => rfl⟩
  · rw [Bool.not_eq_true, Bool.or_eq_false_iff] at htextual
    have hsmall := toNat_lt_of_not_isTextual htextual.1
    refine ⟨_, (Option.some.inj h).symm, fun s => ?_⟩
    have hcode : ∀ digits, escape? ('u' :: digits) = (coded? 4 digits).map fun c => (c, 5) :=
      fun _ => rfl
    have hcoded := coded?_upperDigits (show c.toNat < 256 by omega) s
    simp only [List.cons_append, List.nil_append, hcode, hcoded]
    rfl

theorem of_escapeOf?_eq_none (h : escapeOf? c = none) :
    c ≠ '\\' ∧ c ≠ '\r' ∧ (isTextual c = true ∨ c = '\n') := by
  unfold escapeOf? at h
  split_ifs at h with hb ht hf hr hbackslash htextual
  simpa [hr, hbackslash] using htextual

theorem endsLine_of_escape? {p : Char × Nat} (h : escape? s = some p) : endsLine s = false := by
  fun_cases endsLine s with
  | case1 => exact nomatch h
  | case2 => exact nomatch h
  | case3 => exact nomatch h
  | case4 => exact nomatch h
  | case5 => rfl

/-! ### Forms of one line -/

theorem readBasic_escape (h : ∀ s, escape? (w ++ s) = some (c, w.length)) (s : Text) :
    readBasic ('\\' :: (w ++ s)) = (readBasic s).map fun (t, rest) => (c :: t, rest) := by
  rw [readBasic]
  simp [h]

theorem readBasic_basicChar (c : Char) (s : Text) :
    readBasic (basicChar c ++ s) = (readBasic s).map fun (t, rest) => (c :: t, rest) := by
  by_cases hquote : c = '"'
  · subst hquote
    exact readBasic_escape (w := ['"']) (fun _ => rfl) s
  by_cases hline : c = '\n'
  · subst hline
    exact readBasic_escape (w := ['n']) (fun _ => rfl) s
  rw [basicChar, if_neg hquote, if_neg hline]
  cases hescape : escapeOf? c with
  | none =>
    obtain ⟨hbackslash, -, htextual⟩ := of_escapeOf?_eq_none hescape
    have htextual := htextual.resolve_right hline
    rw [Option.getD_none, List.singleton_append, readBasic]
    simp [hquote, hbackslash, htextual]
  | some w =>
    obtain ⟨letters, rfl, hread⟩ := exists_of_escapeOf? hescape
    exact readBasic_escape hread s

theorem readBasic_body (t rest : Text) :
    readBasic (t.flatMap basicChar ++ '"' :: rest) = some (t, rest) := by
  induction t with
  | nil => simp [readBasic]
  | cons c t ih =>
    rw [List.flatMap_cons, List.append_assoc, readBasic_basicChar, ih]
    rfl

theorem readLiteral_body (h : ∀ c ∈ t, isTextual c = true ∧ c ≠ '\'') (rest : Text) :
    readLiteral (t ++ '\'' :: rest) = some (t, rest) := by
  induction t with
  | nil => rfl
  | cons c t ih =>
    obtain ⟨⟨htextual, hquote⟩, hothers⟩ := List.forall_mem_cons.1 h
    rw [List.cons_append, readLiteral, if_neg hquote, if_pos htextual, ih hothers]
    rfl

/-- A string of one line is not taken for one of several lines. -/
theorem dropLead?_line (hbody : u.head? ≠ some quote) (hrest : rest.head? ≠ some quote) :
    Text.dropLead? [quote, quote, quote] (quote :: (u ++ quote :: rest)) = none := by
  cases u with
  | nil =>
    cases rest with
    | nil => simp [Text.dropLead?]
    | cons d rest =>
      have hd : ¬ quote = d := fun h => hrest (h ▸ rfl)
      simp [Text.dropLead?, hd]
  | cons d u =>
    have hd : ¬ quote = d := fun h => hbody (h ▸ rfl)
    simp [Text.dropLead?, hd]

theorem head?_basicChars (t : Text) : (t.flatMap basicChar).head? ≠ some '"' := by
  cases t with
  | nil => simp
  | cons c t =>
    rw [List.flatMap_cons]
    fun_cases basicChar c with
    | case1 => simp
    | case2 => simp
    | case3 hquote hline =>
      cases hescape : escapeOf? c with
      | none => simpa using hquote
      | some w =>
        obtain ⟨letters, rfl, -⟩ := exists_of_escapeOf? hescape
        simp

/-! ### Forms of several lines -/

theorem close_quotes (hu : u = [] ∨ u = [quote] ∨ u = [quote, quote])
    (hrest : rest.head? ≠ some quote) : close quote (u ++ rest) = (u, rest) := by
  cases rest with
  | nil => rcases hu with rfl | rfl | rfl <;> simp [close]
  | cons d rest =>
    have hd : d ≠ quote := fun h => hrest (h ▸ rfl)
    cases rest <;> rcases hu with rfl | rfl | rfl <;> simp [close, hd]

theorem close_nil (hrest : rest.head? ≠ some quote) : close quote rest = ([], rest) :=
  close_quotes (.inl rfl) hrest

theorem dropLead?_body (hnil : u ≠ []) (hone : u ≠ [quote]) (htwo : ¬ [quote, quote] <+: u)
    (rest : Text) : Text.dropLead? [quote, quote] (u ++ rest) = none := by
  rcases u with - | ⟨c, - | ⟨d, u⟩⟩
  · exact absurd rfl hnil
  · have hc : ¬ quote = c := fun h => hone (h ▸ rfl)
    simp [Text.dropLead?, hc]
  · have hcd : quote = c → ¬ quote = d := fun hc hd => htwo (hc ▸ hd ▸ ⟨u, rfl⟩)
    simpa [Text.dropLead?] using hcd

/-- What both readers do at a bare quote before the body `u` and the closing quotes. -/
theorem readQuote {reader : Text → Option (Text × Text)} (htwo : ¬ [quote, quote] <+: u)
    (hshort : u = [] ∨ u = [quote] → u = t) (hrest : rest.head? ≠ some quote)
    (hread : reader (u ++ quote :: quote :: quote :: rest) = some (t, rest)) :
    (match Text.dropLead? [quote, quote] (u ++ quote :: quote :: quote :: rest) with
      | some after => some (close quote after)
      | none => (reader (u ++ quote :: quote :: quote :: rest)).map
          fun (t, rest) => (quote :: t, rest)) = some (quote :: t, rest) := by
  by_cases hnil : u = []
  · obtain rfl := hshort (.inl hnil)
    subst hnil
    have hclose := close_quotes (u := [quote]) (by simp) hrest
    rw [List.singleton_append] at hclose
    simp [Text.dropLead?, hclose]
  by_cases hone : u = [quote]
  · obtain rfl := hshort (.inr hone)
    subst hone
    have hclose := close_quotes (u := [quote, quote]) (by simp) hrest
    simp only [List.cons_append, List.nil_append] at hclose
    simp [Text.dropLead?, hclose]
  · rw [dropLead?_body hnil hone htwo, hread]
    rfl

theorem readBasicLines_escape (h : ∀ s, escape? (w ++ s) = some (c, w.length)) (s : Text) :
    readBasicLines ('\\' :: (w ++ s)) =
      (readBasicLines s).map fun (t, rest) => (c :: t, rest) := by
  rw [readBasicLines]
  simp [h, endsLine_of_escape? (h s)]

theorem readBasicLines_char (hquote : c ≠ '"') (s : Text) :
    readBasicLines ((escapeOf? c).getD [c] ++ s) =
      (readBasicLines s).map fun (t, rest) => (c :: t, rest) := by
  cases hescape : escapeOf? c with
  | none =>
    obtain ⟨hbackslash, -, htextual⟩ := of_escapeOf?_eq_none hescape
    have hlines : isTextualLines c s = true := by
      rcases htextual with htextual | rfl
      · simp [isTextualLines, htextual]
      · rfl
    rw [Option.getD_none, List.singleton_append, readBasicLines]
    simp [hquote, hbackslash, hlines]
  | some w =>
    obtain ⟨letters, rfl, hread⟩ := exists_of_escapeOf? hescape
    exact readBasicLines_escape hread s

theorem head?_escapeOf? (c : Char) (s : Text) :
    ∃ d, ((escapeOf? c).getD [c] ++ s).head? = some d ∧ (d = '\\' ∨ d = c ∧ c ≠ '\r') := by
  cases hescape : escapeOf? c with
  | none => exact ⟨c, rfl, .inr ⟨rfl, (of_escapeOf?_eq_none hescape).2.1⟩⟩
  | some w =>
    obtain ⟨letters, rfl, -⟩ := exists_of_escapeOf? hescape
    exact ⟨'\\', rfl, .inl rfl⟩

/-- A bare quote in front of a body stands for a quote of the text. -/
theorem exists_of_basicLinesBody (h : basicLinesBody quotes t = '"' :: s) :
    ∃ t', t = '"' :: t' ∧ quotes < 2 ∧ s = basicLinesBody (quotes + 1) t' := by
  cases t with
  | nil => exact nomatch h
  | cons c t =>
    rw [basicLinesBody] at h
    split_ifs at h with hquote hfew
    · subst hquote
      exact ⟨t, rfl, hfew, (List.cons.inj h).2.symm⟩
    · exact absurd (List.cons.inj h).1 (by decide)
    · obtain ⟨d, hhead, hd⟩ := head?_escapeOf? c (basicLinesBody 0 t)
      rw [h] at hhead
      obtain rfl := Option.some.inj hhead
      rcases hd with hbackslash | ⟨rfl, -⟩
      · exact absurd hbackslash (by decide)
      · exact absurd rfl hquote

theorem basicLinesBody_ne_nil (c : Char) (t : Text) : basicLinesBody quotes (c :: t) ≠ [] := by
  intro h
  rw [basicLinesBody] at h
  split_ifs at h with hquote hfew
  obtain ⟨d, hhead, -⟩ := head?_escapeOf? c (basicLinesBody 0 t)
  rw [h] at hhead
  exact nomatch hhead

theorem basicLinesBody_short
    (h : basicLinesBody quotes t = [] ∨ basicLinesBody quotes t = ['"']) :
    basicLinesBody quotes t = t := by
  rcases h with h | h
  · cases t with
    | nil => rfl
    | cons c t => exact absurd h (basicLinesBody_ne_nil c t)
  · obtain ⟨t', rfl, -, hnil⟩ := exists_of_basicLinesBody h
    cases t' with
    | nil => exact h
    | cons c t' => exact absurd hnil.symm (basicLinesBody_ne_nil c t')

theorem basicLinesBody_two (quotes : Nat) (t : Text) :
    ¬ ['"', '"'] <+: basicLinesBody (quotes + 1) t := by
  rintro ⟨s, hs⟩
  obtain ⟨t', -, -, hs'⟩ := exists_of_basicLinesBody hs.symm
  obtain ⟨-, -, hfew, -⟩ := exists_of_basicLinesBody hs'.symm
  omega

theorem readBasicLines_body (quotes : Nat) (t : Text) (hrest : rest.head? ≠ some '"') :
    readBasicLines (basicLinesBody quotes t ++ '"' :: '"' :: '"' :: rest) = some (t, rest) := by
  fun_induction basicLinesBody quotes t with
  | case1 quotes =>
    rw [List.nil_append, readBasicLines]
    simp [Text.dropLead?, close_nil hrest]
  | case2 quotes t hfew ih =>
    rw [List.cons_append, readBasicLines, if_pos rfl]
    exact readQuote (basicLinesBody_two quotes t) basicLinesBody_short hrest ih
  | case3 quotes t hmany ih =>
    have hescape : ∀ s, escape? (['"'] ++ s) = some ('"', 1) := fun _ => rfl
    have hread := readBasicLines_escape hescape (basicLinesBody 0 t ++ '"' :: '"' :: '"' :: rest)
    rw [ih] at hread
    exact hread
  | case4 quotes c t hquote ih =>
    rw [List.append_assoc, readBasicLines_char hquote, ih]
    rfl

theorem readLiteralLines_body (htextual : ∀ c ∈ t, isTextual c = true ∨ c = '\n')
    (hthree : ¬ ['\'', '\'', '\''] <:+: t) (hrest : rest.head? ≠ some '\'') :
    readLiteralLines (t ++ '\'' :: '\'' :: '\'' :: rest) = some (t, rest) := by
  induction t with
  | nil =>
    rw [List.nil_append, readLiteralLines]
    simp [Text.dropLead?, close_nil hrest]
  | cons c t ih =>
    obtain ⟨hc, hothers⟩ := List.forall_mem_cons.1 htextual
    have hread := ih hothers fun h => hthree (h.trans (List.suffix_cons c t).isInfix)
    rw [List.cons_append, readLiteralLines]
    split_ifs with hquote hlines
    · subst hquote
      have htwo : ¬ ['\'', '\''] <+: t := by
        rintro ⟨s, hs⟩
        exact hthree ⟨[], s, by simp [← hs]⟩
      exact readQuote htwo (fun _ => rfl) hrest hread
    · rw [hread]
      rfl
    · refine absurd ?_ hlines
      rcases hc with hc | rfl
      · simp [isTextualLines, hc]
      · rfl

theorem dropLineEnd_opening (h : '\n' ∉ t → ∀ c ∈ u.head?, c ≠ '\n' ∧ c ≠ '\r') :
    dropLineEnd (opening t ++ u) = u := by
  by_cases hlines : '\n' ∈ t
  · simp [opening, hlines, dropLineEnd]
  · have hhead := h hlines
    have hopening : opening t = [] := by simp [opening, hlines]
    rw [hopening, List.nil_append]
    fun_cases dropLineEnd u with
    | case1 => exact absurd rfl (hhead _ rfl).1
    | case2 => exact absurd rfl (hhead _ rfl).2
    | case3 => rfl

theorem dropLineEnd_basicLines (t s : Text) :
    dropLineEnd (opening t ++ (basicLinesBody 0 t ++ '"' :: s)) =
      basicLinesBody 0 t ++ '"' :: s := by
  refine dropLineEnd_opening fun hlines d hd => ?_
  cases t with
  | nil =>
    obtain rfl := Option.some.inj hd
    decide
  | cons c t =>
    rw [List.mem_cons, not_or] at hlines
    rw [basicLinesBody] at hd
    split_ifs at hd with hquote hfew
    · obtain rfl := Option.some.inj hd
      exact hquote ▸ by decide
    · exact absurd Nat.two_pos hfew
    · obtain ⟨e, hhead, he⟩ := head?_escapeOf? c (basicLinesBody 0 t ++ '"' :: s)
      rw [List.append_assoc, hhead] at hd
      obtain rfl := Option.some.inj hd
      rcases he with rfl | ⟨rfl, hreturn⟩
      · decide
      · exact ⟨fun h => hlines.1 h.symm, hreturn⟩

theorem dropLineEnd_literalLines (htextual : ∀ c ∈ t, isTextual c = true ∨ c = '\n') (s : Text) :
    dropLineEnd (opening t ++ (t ++ '\'' :: s)) = t ++ '\'' :: s := by
  refine dropLineEnd_opening fun hlines d hd => ?_
  cases t with
  | nil =>
    obtain rfl := Option.some.inj hd
    decide
  | cons c t =>
    obtain rfl := Option.some.inj hd
    rw [List.mem_cons, not_or] at hlines
    have hc := ((List.forall_mem_cons.1 htextual).1).resolve_right fun h => hlines.1 h.symm
    refine ⟨fun h => hlines.1 h.symm, ?_⟩
    rintro rfl
    exact absurd hc (by decide)

/-! ### All forms -/

theorem of_form_literal (h : form t = .literal) : ∀ c ∈ t, isTextual c = true ∧ c ≠ '\'' := by
  unfold form at h
  extract_lets textual lines at h
  split_ifs at h with hplain hliteral
  simp only [textual, lines, Bool.and_eq_true, Bool.not_eq_true', List.all_eq_true,
    Bool.or_eq_true, beq_iff_eq, List.contains_eq_mem, decide_eq_false_iff_not] at hliteral
  obtain ⟨⟨htextual, hlines⟩, hquote⟩ := hliteral
  intro c hc
  refine ⟨(htextual c hc).resolve_right ?_, ?_⟩
  · rintro rfl
    exact hlines hc
  · rintro rfl
    exact hquote hc

theorem of_form_literalLines (h : form t = .literalLines) :
    (∀ c ∈ t, isTextual c = true ∨ c = '\n') ∧ ¬ ['\'', '\'', '\''] <:+: t := by
  unfold form at h
  extract_lets textual lines at h
  split_ifs at h with hplain hliteral hbasic hliteralLines
  simp only [textual, Bool.and_eq_true, Bool.not_eq_true', List.all_eq_true, Bool.or_eq_true,
    beq_iff_eq] at hliteralLines
  refine ⟨hliteralLines.1, fun hthree => ?_⟩
  rw [Text.containsText_iff.2 hthree] at hliteralLines
  exact nomatch hliteralLines.2

theorem exists_of_write (t : Text) :
    ∃ quote body, write t = quote :: body ∧ (quote = '"' ∨ quote = '\'') := by
  rw [write]
  cases form t with
  | basic => exact ⟨'"', _, rfl, .inl rfl⟩
  | literal => exact ⟨'\'', _, rfl, .inr rfl⟩
  | basicLines => exact ⟨'"', _, rfl, .inl rfl⟩
  | literalLines => exact ⟨'\'', _, rfl, .inr rfl⟩

/-- **Every text is read back from its quoted form.** -/
theorem read_write (t : Text) (hbasic : rest.head? ≠ some '"')
    (hliteral : rest.head? ≠ some '\'') : read (write t ++ rest) = some (t, rest) := by
  rw [write, read]
  cases hform : form t with
  | basic =>
    have hline := dropLead?_line (head?_basicChars t) hbasic
    simp only [List.cons_append, List.append_assoc, List.nil_append, hline]
    exact readBasic_body t rest
  | literal =>
    have htextual := of_form_literal hform
    have hhead : t.head? ≠ some '\'' := fun h => (htextual _ (List.mem_of_head? h)).2 rfl
    have hline := dropLead?_line hhead hliteral
    simp only [List.cons_append, List.append_assoc, List.nil_append, hline]
    exact readLiteral_body htextual rest
  | basicLines =>
    have hread := readBasicLines_body 0 t hbasic
    simp only [List.append_assoc, List.cons_append, List.nil_append, Text.dropLead?, if_pos,
      dropLineEnd_basicLines, hread]
  | literalLines =>
    obtain ⟨htextual, hthree⟩ := of_form_literalLines hform
    have hread := readLiteralLines_body htextual hthree hliteral
    simp only [List.append_assoc, List.cons_append, List.nil_append, Text.dropLead?, if_pos,
      dropLineEnd_literalLines htextual, hread]
    rfl

/-- The last quote of the text stands directly before the closing ones. -/
example : write "it's \"so\"".toList = "\"\"\"it's \"so\"\"\"\"".toList := by decide

end Slipbox.Toml.Quoting
