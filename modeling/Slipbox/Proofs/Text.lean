import Slipbox.Text.Blank
import Slipbox.Text.Position

/-!
# Parts of texts

Beginnings, occurrences and cuts of a text, in terms of concatenation, blanks at its ends, and the
order of texts by their bytes.
-/

namespace Slipbox.Text

variable {s t u needle : Text}

/-- What all characters of a text satisfy is decided along the text. -/
instance (priority := high) decidableForallMem (t : Text) (P : Char → Prop) [DecidablePred P] :
    Decidable (∀ c ∈ t, P c) :=
  List.decidableBAll P t

theorem startsWith_iff {lead : Text} : startsWith lead s = true ↔ lead <+: s := by
  rw [startsWith, Option.isSome_iff_exists]
  simp only [dropLead?_eq_some_iff]
  constructor
  · rintro ⟨rest, rfl⟩
    exact List.prefix_append _ _
  · rintro ⟨rest, rfl⟩
    exact ⟨rest, rfl⟩

theorem containsText_iff : containsText needle s = true ↔ needle <:+: s := by
  induction s with
  | nil => simp [containsText]
  | cons c s ih =>
    rw [containsText, Bool.or_eq_true, startsWith_iff, ih, List.infix_cons_iff]

/-- A cut at a byte offset splits the text there. -/
theorem exists_of_dropBytes? {n : Nat} (h : dropBytes? n s = some t) :
    ∃ u, s = u ++ t ∧ byteLength u = n := by
  fun_induction dropBytes? n s with
  | case1 s =>
    cases h
    exact ⟨[], rfl, rfl⟩
  | case2 n => exact nomatch h
  | case3 n c s hle ih =>
    obtain ⟨u, rfl, hu⟩ := ih h
    refine ⟨c :: u, rfl, ?_⟩
    rw [byteLength_cons, hu]
    omega
  | case4 => exact nomatch h

/-- A text is cut in one way only at a byte offset. -/
theorem append_inj_of_byteLength {v : Text} (h : s ++ t = u ++ v)
    (hlength : s.byteLength = u.byteLength) : s = u ∧ t = v := by
  have hcut := dropBytes?_byteLength_append s t
  rw [h, hlength, dropBytes?_byteLength_append] at hcut
  obtain rfl := Option.some.inj hcut
  exact ⟨List.append_cancel_right h, rfl⟩

/-! ### Pieces between separators -/

variable {c : Char}

theorem splitAtChar_cons_of_ne {x : Char} {piece : Text} {pieces : List Text} (h : x ≠ c)
    (hs : splitAtChar c s = piece :: pieces) :
    splitAtChar c (x :: s) = (x :: piece) :: pieces := by
  rw [splitAtChar, if_neg h, hs]

/-- A text without separator goes to the first piece of what it stands before. -/
theorem splitAtChar_append_left {piece : Text} {pieces : List Text} (h : c ∉ u)
    (ht : splitAtChar c t = piece :: pieces) :
    splitAtChar c (u ++ t) = (u ++ piece) :: pieces := by
  induction u with
  | nil => exact ht
  | cons x u ih =>
    obtain ⟨hx, hu⟩ : c ≠ x ∧ c ∉ u := by simpa using h
    exact splitAtChar_cons_of_ne hx.symm (ih hu)

theorem splitAtChar_of_not_mem (h : c ∉ u) : splitAtChar c u = [u] := by
  have hnil : splitAtChar c [] = [[]] := rfl
  simpa using splitAtChar_append_left h hnil

/-- What stands before a separator and what stands after it are split apart. -/
theorem splitAtChar_append_cons (s t : Text) :
    splitAtChar c (s ++ c :: t) = splitAtChar c s ++ splitAtChar c t := by
  induction s with
  | nil => simp [splitAtChar]
  | cons x s ih =>
    by_cases hx : x = c
    · simp [splitAtChar, hx, ih]
    · obtain ⟨first, others, hs⟩ := List.exists_cons_of_ne_nil (splitAtChar_ne_nil c s)
      rw [hs, List.cons_append] at ih
      rw [List.cons_append, splitAtChar_cons_of_ne hx ih, splitAtChar_cons_of_ne hx hs,
        List.cons_append]

/-- The first piece ends at the first separator. -/
theorem splitAtChar_append (h : c ∉ u) :
    splitAtChar c (u ++ c :: t) = u :: splitAtChar c t := by
  rw [splitAtChar_append_cons, splitAtChar_of_not_mem h]
  rfl

theorem not_mem_of_mem_splitAtChar {piece : Text} (h : piece ∈ splitAtChar c s) : c ∉ piece := by
  induction s generalizing piece with
  | nil => simp [List.mem_singleton.1 h]
  | cons x s ih =>
    by_cases hx : x = c
    · rw [splitAtChar, if_pos hx] at h
      rcases List.mem_cons.1 h with rfl | hmem
      · simp
      · exact ih hmem
    · obtain ⟨first, others, hs⟩ := List.exists_cons_of_ne_nil (splitAtChar_ne_nil c s)
      rw [splitAtChar_cons_of_ne hx hs] at h
      rcases List.mem_cons.1 h with rfl | hmem
      · have hfirst := ih (hs ▸ List.mem_cons_self)
        simp [Ne.symm hx, hfirst]
      · exact ih (hs ▸ List.mem_cons_of_mem _ hmem)

/-- The pieces are what stands between two separators, once the text itself is put between two. -/
theorem mem_splitAtChar_iff {piece : Text} :
    piece ∈ splitAtChar c s ↔ c ∉ piece ∧ c :: piece ++ [c] <:+: c :: s ++ [c] := by
  constructor
  · intro h
    refine ⟨not_mem_of_mem_splitAtChar h, ?_⟩
    induction hn : s.length using Nat.strongRecOn generalizing s with
    | ind n ih =>
      by_cases hc : c ∈ s
      · obtain ⟨first, rest, rfl, hfirst⟩ := List.eq_append_cons_of_mem hc
        rw [splitAtChar_append hfirst] at h
        rcases List.mem_cons.1 h with rfl | hrest
        · exact ⟨[], rest ++ [c], by simp⟩
        · have hlt : rest.length < n := by
            rw [← hn, List.length_append, List.length_cons]
            omega
          have hinfix := ih rest.length hlt hrest rfl
          exact hinfix.trans ⟨c :: first, [], by simp⟩
      · rw [splitAtChar_of_not_mem hc, List.mem_singleton] at h
        subst h
        exact List.infix_refl _
  · rintro ⟨hpiece, before, after, h⟩
    have hempty : splitAtChar c [] = [[]] := rfl
    have hpadded : splitAtChar c (c :: s ++ [c]) = [] :: (splitAtChar c s ++ [[]]) := by
      rw [List.cons_append, splitAtChar, if_pos rfl, splitAtChar_append_cons, hempty]
    have hfound : splitAtChar c (before ++ (c :: piece ++ [c]) ++ after) =
        splitAtChar c before ++ piece :: splitAtChar c after := by
      rw [← splitAtChar_append hpiece, ← splitAtChar_append_cons]
      simp
    -- the first and the last piece come from the separators that the text is put between
    obtain ⟨first, others, hbefore⟩ := List.exists_cons_of_ne_nil (splitAtChar_ne_nil c before)
    obtain ⟨pieces, last, hafter⟩ :=
      (List.eq_nil_or_concat (splitAtChar c after)).resolve_left (splitAtChar_ne_nil c after)
    rw [List.concat_eq_append] at hafter
    have hsplit : (first :: others) ++ piece :: (pieces ++ [last]) =
        [] :: (splitAtChar c s ++ [[]]) := by
      rw [← hpadded, ← h, hfound, hbefore, hafter]
    rw [List.cons_append, List.cons.injEq, ← List.cons_append, ← List.append_assoc] at hsplit
    rw [← (List.append_inj' hsplit.2 rfl).1]
    simp

/-- All other characters are kept in the pieces. -/
theorem mem_iff_of_ne {x : Char} (hx : x ≠ c) : x ∈ s ↔ ∃ piece ∈ splitAtChar c s, x ∈ piece := by
  induction s with
  | nil => simp [splitAtChar]
  | cons y s ih =>
    by_cases hy : y = c
    · simp [splitAtChar, hy, hx, ih]
    · obtain ⟨first, others, hs⟩ := List.exists_cons_of_ne_nil (splitAtChar_ne_nil c s)
      rw [List.mem_cons, ih, splitAtChar_cons_of_ne hy hs, hs]
      simp [or_assoc]

/-- There is one piece more than there are separators. -/
theorem length_splitAtChar (s : Text) : (splitAtChar c s).length = s.count c + 1 := by
  induction s with
  | nil => rfl
  | cons x s ih =>
    by_cases hx : x = c
    · rw [splitAtChar, if_pos hx, List.length_cons, ih, hx, List.count_cons_self]
    · obtain ⟨first, others, hs⟩ := List.exists_cons_of_ne_nil (splitAtChar_ne_nil c s)
      rw [splitAtChar_cons_of_ne hx hs, List.count_cons_of_ne hx, ← ih, hs]
      rfl

/-! ### White space at the ends -/

theorem trimEnd_prefix (t : Text) : trimEnd t <+: t := by
  rw [← List.reverse_suffix, trimEnd, List.reverse_reverse]
  exact List.dropWhile_suffix _

/-- What stands before a character that is no blank is kept with it. -/
theorem trimEnd_cons (hc : isBlank c = false) (t : Text) :
    trimEnd (c :: t) = c :: trimEnd t := by
  rw [trimEnd, trimStart, List.reverse_cons, List.dropWhile_append]
  split
  · rename_i hblank
    have hnil : trimStart t.reverse = [] := List.isEmpty_iff.1 hblank
    rw [List.dropWhile_cons_of_neg (by simp [hc]), trimEnd, hnil]
    rfl
  · rw [List.reverse_append]
    rfl

/-- A trimmed text begins with no blank. -/
theorem isBlank_head_trim (h : (trim t).head? = some c) : isBlank c = false := by
  obtain ⟨u, hu⟩ := trimEnd_prefix (trimStart t)
  have hhead : (t.dropWhile isBlank).head? = some c := by
    show (trimStart t).head? = some c
    rw [← hu]
    obtain ⟨v, hv⟩ := List.head?_eq_some_iff.1 h
    rw [trim] at hv
    simp [hv]
  have hnot := List.head?_dropWhile_not isBlank t
  rw [hhead] at hnot
  exact hnot

/-- Which character that is no blank a trimmed text begins with does not depend on its end. -/
theorem head?_trim_eq_some_iff (hc : isBlank c = false) :
    (trim t).head? = some c ↔ (t.dropWhile isBlank).head? = some c := by
  have hstart : trimStart t = t.dropWhile isBlank := rfl
  rw [trim, hstart]
  constructor
  · intro h
    obtain ⟨u, hu⟩ := trimEnd_prefix (t.dropWhile isBlank)
    obtain ⟨v, hv⟩ := List.head?_eq_some_iff.1 h
    rw [← hu, hv]
    rfl
  · intro h
    obtain ⟨u, hu⟩ := List.head?_eq_some_iff.1 h
    rw [hu, trimEnd_cons hc]
    rfl

/-! ### The order of bytes -/

/-- The bytes of the UTF-8 form. -/
def bytes (t : Text) : List UInt8 := (String.ofList t).toByteArray.data.toList

theorem bytes_eq (t : Text) : bytes t = t.flatMap String.utf8EncodeChar := by
  rw [bytes, String.toByteArray_ofList, List.utf8Encode, List.toList_data_toByteArray]

theorem bytes_cons (c : Char) (t : Text) : bytes (c :: t) = String.utf8EncodeChar c ++ bytes t := by
  rw [bytes_eq, bytes_eq, List.flatMap_cons]

/-- Forms of characters are ordered as the characters are, whatever follows them. -/
theorem utf8EncodeChar_append_lt {c d : Char} (h : c < d) (u v : List UInt8) :
    String.utf8EncodeChar c ++ u < String.utf8EncodeChar d ++ v := by
  have hval : c.val.toNat < d.val.toNat := h
  have hlast : d.val.toNat < 0x110000 := d.valid.elim (by omega) (by omega)
  unfold String.utf8EncodeChar
  generalize c.val.toNat = m at hval
  generalize d.val.toNat = n at hval hlast
  have hone : m / 64 < n / 64 ∨ m / 64 = n / 64 ∧ m % 64 < n % 64 := by omega
  have htwo : m / 64 < n / 64 →
      m / 4096 < n / 4096 ∨ m / 4096 = n / 4096 ∧ m / 64 % 64 < n / 64 % 64 := by omega
  have hthree : m / 4096 < n / 4096 →
      m / 262144 < n / 262144 ∨ m / 262144 = n / 262144 ∧ m / 4096 % 64 < n / 4096 % 64 := by omega
  dsimp only
  -- a shorter form has the lower first byte, and forms of one length differ first in some digit
  repeat' split
  all_goals simp (disch := omega) only [List.cons_append, List.nil_append, List.cons_lt_cons_iff,
    UInt8.lt_iff_toNat_lt, ← UInt8.toNat_inj, UInt8.toNat_ofNat', Nat.mod_eq_of_lt]
  all_goals omega

/-- Texts in their order have their bytes in order. -/
theorem bytes_lt (h : s < t) : bytes s < bytes t := by
  induction s generalizing t with
  | nil =>
    cases t with
    | nil => exact nomatch h
    | cons d t =>
      obtain ⟨b, rest, hform⟩ := List.exists_cons_of_ne_nil (l := String.utf8EncodeChar d) (by simp)
      rw [bytes_eq [], bytes_cons, hform]
      exact List.nil_lt_cons b _
  | cons c s ih =>
    cases t with
    | nil => exact nomatch h
    | cons d t =>
      rw [bytes_cons, bytes_cons]
      rcases List.cons_lt_cons_iff.1 h with hlt | ⟨rfl, hrest⟩
      · exact utf8EncodeChar_append_lt hlt (bytes s) (bytes t)
      · exact List.append_left_lt (ih hrest)

end Slipbox.Text

namespace Slipbox.Position

/-- What is left at a position splits the text there. -/
theorem rest?_eq_some_iff {t r : Text} {offset : Nat} :
    rest? ⟨t, offset⟩ = some r ↔ ∃ s, t = s ++ r ∧ s.byteLength = offset := by
  constructor
  · exact Text.exists_of_dropBytes?
  · rintro ⟨s, rfl, rfl⟩
    exact rest?_append s r

end Slipbox.Position
