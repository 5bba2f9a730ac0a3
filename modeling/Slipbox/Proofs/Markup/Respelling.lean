import Slipbox.Proofs.Markup.Rules
import Slipbox.Proofs.Text

/-!
# Texts that differ in spelling

`Respelled drops w p` says that `p` arises from `w` by shortening some fences of code
to single marks and by dropping the brackets around some addresses. Which brackets
may be dropped depends on the display between them and on what follows in `p`;
`drops` says so. Printing what was read respells the text in this way.
-/

namespace Slipbox.Markup

open Slipbox.Parsing

/-- The second text is the first one with shorter fences and without some brackets. -/
inductive Respelled (drops : Text → Text → Prop) : Text → Text → Prop where
  | nil : Respelled drops [] []
  | keep (c : Char) {w p : Text} (others : Respelled drops w p) :
      Respelled drops (c :: w) (c :: p)
  | mark {w p : Text} (others : Respelled drops w p) :
      Respelled drops ('\x60' :: '\x60' :: '\x60' :: w) ('\x60' :: p)
  | unbracket {display w p : Text} (http : "http".toList <+: display) (dropped : drops display p)
      (others : Respelled drops w p) : Respelled drops ('[' :: display ++ ']' :: w) (display ++ p)

namespace Respelled

variable {drops drops' : Text → Text → Prop} {w w' p p' : Text}

theorem refl (w : Text) : Respelled drops w w := by
  induction w with
  | nil => exact .nil
  | cons c w ih => exact .keep c ih

theorem length_le (h : Respelled drops w p) : p.length ≤ w.length := by
  induction h with
  | nil => exact Nat.le_refl 0
  | keep c _ ih => exact Nat.succ_le_succ ih
  | mark _ ih =>
    simp only [List.length_cons]
    omega
  | unbracket _ _ _ ih =>
    simp only [List.length_append, List.length_cons]
    omega

/-- The conditions for dropping brackets may depend on the text that is put after both. -/
theorem append (h : Respelled drops w p) (h' : Respelled drops' w' p')
    (hdrops : ∀ display q, drops display q → drops' display (q ++ p')) :
    Respelled drops' (w ++ w') (p ++ p') := by
  induction h with
  | nil => exact h'
  | keep c _ ih => exact .keep c ih
  | mark _ ih => exact .mark ih
  | unbracket http dropped _ ih =>
    simpa using Respelled.unbracket http (hdrops _ _ dropped) ih

/-- Where no brackets are dropped, any text may follow. -/
theorem append_of_never (h : Respelled (fun _ _ => False) w p) (h' : Respelled drops w' p') :
    Respelled drops (w ++ w') (p ++ p') :=
  h.append h' fun _ _ hfalse => hfalse.elim

theorem mono (h : Respelled drops w p) (hdrops : ∀ display q, drops display q → drops' display q) :
    Respelled drops' w p := by
  have happend : Respelled drops' (w ++ []) (p ++ []) := by
    refine h.append .nil ?_
    intro display q hq
    rw [List.append_nil]
    exact hdrops display q hq
  simpa using happend

/-- A text with neither a fence nor a bracketed address has one spelling. -/
theorem eq_or_contains (h : Respelled drops w p) :
    w = p ∨ "```".toList <:+: w ∨ "[http".toList <:+: w := by
  induction h with
  | nil => exact .inl rfl
  | keep c _ ih =>
    rcases ih with rfl | hfence | hbracket
    · exact .inl rfl
    · exact .inr (.inl (List.infix_cons hfence))
    · exact .inr (.inr (List.infix_cons hbracket))
  | mark => exact .inr (.inl ⟨[], _, rfl⟩)
  | @unbracket _ w _ http =>
    obtain ⟨rest, rfl⟩ := http
    exact .inr (.inr ⟨[], rest ++ ']' :: w, by simp⟩)

/-! ### What stands in the second text stood in the first

A rule that succeeds on the printed text must have succeeded on the text that was
read. The lemmas below find the characters that it needs in the first text.
-/

/-- Only a dropped bracket changes the first character. -/
theorem head?_eq (h : Respelled drops w p) :
    w.head? = p.head? ∨ w.head? = some '[' ∧ p.head? = some 'h' := by
  cases h with
  | nil => exact .inl rfl
  | keep => exact .inl rfl
  | mark => exact .inl rfl
  | unbracket http =>
    obtain ⟨rest, rfl⟩ := http
    exact .inr ⟨rfl, rfl⟩

theorem next {P : Char → Prop} (h : Respelled drops w p) (hP : P '[' → P 'h') (hw : Next P w) :
    Next P p := by
  intro c hc
  rcases h.head?_eq with hsame | ⟨hbracket, hletter⟩
  · exact hw c (hsame ▸ hc)
  · rw [hletter] at hc
    cases hc
    exact hP (hw '[' hbracket)

/-- A character that begins neither a mark nor an address is kept. -/
theorem exists_cons {c : Char} {q : Text} (h : Respelled drops w (c :: q)) (hc : c ≠ '\x60')
    (hh : c ≠ 'h' ∨ ∀ display q, ¬ drops display q) :
    ∃ w', w = c :: w' ∧ Respelled drops w' q := by
  generalize hp : c :: q = p at h
  cases h with
  | nil => exact nomatch hp
  | keep c others =>
    cases hp
    exact ⟨_, rfl, others⟩
  | mark => exact absurd (List.cons.inj hp).1 hc
  | unbracket http dropped =>
    rcases hh with hh | hnever
    · obtain ⟨rest, rfl⟩ := http
      exact absurd (List.cons.inj hp).1 hh
    · exact absurd dropped (hnever _ _)

theorem exists_append {v q : Text} (h : Respelled drops w (v ++ q)) (hv : '\x60' ∉ v)
    (hh : 'h' ∉ v ∨ ∀ display q, ¬ drops display q) :
    ∃ w', w = v ++ w' ∧ Respelled drops w' q := by
  induction v generalizing w with
  | nil => exact ⟨w, rfl, h⟩
  | cons c v ih =>
    rw [List.mem_cons, not_or] at hv
    have hhead : c ≠ 'h' ∨ ∀ display q, ¬ drops display q :=
      hh.imp_left fun hmem heq => hmem (heq ▸ List.mem_cons_self)
    have htail : 'h' ∉ v ∨ ∀ display q, ¬ drops display q :=
      hh.imp_left fun hmem hv => hmem (List.mem_cons_of_mem c hv)
    obtain ⟨m, rfl, hm⟩ := h.exists_cons (Ne.symm hv.1) hhead
    obtain ⟨w', rfl, hw'⟩ := ih hm hv.2 htail
    exact ⟨w', rfl, hw'⟩

/-- Marks of one kind only become fewer. -/
theorem exists_replicate {d : Char} {k : Nat} {q : Text}
    (h : Respelled drops w (List.replicate k d ++ q)) (hd : d ≠ 'h') :
    ∃ w', w = List.replicate k d ++ w' := by
  induction k generalizing w with
  | zero => exact ⟨w, rfl⟩
  | succ k ih =>
    generalize hp : List.replicate (k + 1) d ++ q = p at h
    rw [List.replicate_succ, List.cons_append] at hp
    cases h with
    | nil => exact nomatch hp
    | keep c others =>
      obtain ⟨rfl, rfl⟩ := List.cons.inj hp
      obtain ⟨w', rfl⟩ := ih others
      exact ⟨w', rfl⟩
    | mark others =>
      obtain ⟨rfl, rfl⟩ := List.cons.inj hp
      obtain ⟨w', rfl⟩ := ih others
      -- the two marks that were dropped may as well be the last ones
      refine ⟨'\x60' :: '\x60' :: w', ?_⟩
      have hmove := List.replicate_append_replicate (n := k + 1) (m := 2) (a := '\x60')
      rw [show k + 1 + 2 = k + 3 from rfl] at hmove
      simp only [List.replicate_succ] at hmove ⊢
      rw [← List.cons_append]
      simpa using congrArg (· ++ w') hmove.symm
    | unbracket http =>
      obtain ⟨rest, rfl⟩ := http
      exact absurd (List.cons.inj hp).1 hd

/-- Marks in a display and what follows it stand on one side of its end, since what follows an
address is no mark. -/
theorem marks_within_or_after {d : Char} {k : Nat} {v q display : Text}
    (h : v ++ (List.replicate (k + 1) d ++ q) = display ++ p) (hblank : Text.isBlank d = false)
    (hend : Ended p) :
    (∃ b, display = v ++ (List.replicate (k + 1) d ++ b)) ∨
      ∃ a, v = display ++ a ∧ a ++ (List.replicate (k + 1) d ++ q) = p := by
  rcases List.append_eq_append_iff.1 h with ⟨a, rfl, hrest⟩ | ⟨a, rfl, hrest⟩
  · left
    rcases List.append_eq_append_iff.1 hrest with ⟨b, rfl, -⟩ | ⟨b, hmarks, rfl⟩
    · exact ⟨b, rfl⟩
    · cases b with
      | nil => exact ⟨[], by simp [hmarks]⟩
      | cons e b =>
        have he : e ∈ List.replicate (k + 1) d :=
          hmarks ▸ List.mem_append_right a List.mem_cons_self
        have hspace := (next_cons _ _ _).1 hend
        rw [List.eq_of_mem_replicate he, hblank] at hspace
        exact nomatch hspace
  · exact .inr ⟨a, rfl, hrest.symm⟩

/-- Marks that close a body of the second text close one of the first, which holds nothing new
but brackets. -/
theorem exists_closing {d : Char} {k : Nat} {v q : Text}
    (h : Respelled drops w (v ++ (List.replicate (k + 1) d ++ q))) (hd : d ≠ 'h')
    (hblank : Text.isBlank d = false) (hdrops : ∀ display q, drops display q → Ended q) :
    ∃ v' w', w = v' ++ (List.replicate (k + 1) d ++ w') ∧ (v ≠ [] → v' ≠ []) ∧
      ∀ c ∈ v', c ∈ v ∨ c ∈ ['[', ']'] ∧ ∃ display q, drops display q := by
  generalize hp : v ++ (List.replicate (k + 1) d ++ q) = p at h
  induction h generalizing v with
  | nil => simp at hp
  | keep c others ih =>
    cases v with
    | nil =>
      have hmarks := Respelled.keep c others
      rw [← hp, List.nil_append] at hmarks
      obtain ⟨w', hw'⟩ := hmarks.exists_replicate hd
      exact ⟨[], w', hw', id, by simp⟩
    | cons e v =>
      obtain ⟨rfl, hrest⟩ := List.cons.inj hp
      obtain ⟨v', w', rfl, -, hmem⟩ := ih hrest
      refine ⟨e :: v', w', rfl, by simp, ?_⟩
      intro c hc
      rcases List.mem_cons.1 hc with rfl | hc
      · exact .inl List.mem_cons_self
      · exact (hmem c hc).imp_left (List.mem_cons_of_mem e)
  | mark others ih =>
    cases v with
    | nil =>
      have hmarks := Respelled.mark others
      rw [← hp, List.nil_append] at hmarks
      obtain ⟨w', hw'⟩ := hmarks.exists_replicate hd
      exact ⟨[], w', hw', id, by simp⟩
    | cons e v =>
      obtain ⟨rfl, hrest⟩ := List.cons.inj hp
      obtain ⟨v', w', rfl, -, hmem⟩ := ih hrest
      refine ⟨'\x60' :: '\x60' :: '\x60' :: v', w', rfl, by simp, ?_⟩
      intro c hc
      simp only [List.mem_cons] at hc ⊢
      rcases hc with rfl | rfl | rfl | hc
      · exact .inl (.inl rfl)
      · exact .inl (.inl rfl)
      · exact .inl (.inl rfl)
      · simpa using (hmem c hc).imp_left (List.mem_cons_of_mem '\x60')
  | @unbracket display w p http dropped others ih =>
    have hbrackets : ∀ c ∈ ['[', ']'], c ∈ ['[', ']'] ∧ ∃ display q, drops display q :=
      fun c hc => ⟨hc, display, p, dropped⟩
    rcases marks_within_or_after hp hblank (hdrops _ _ dropped) with ⟨b, rfl⟩ | ⟨a, rfl, hrest⟩
    · refine ⟨'[' :: v, b ++ ']' :: w, by simp, by simp, ?_⟩
      intro c hc
      rcases List.mem_cons.1 hc with rfl | hc
      · exact .inr (hbrackets '[' (by simp))
      · exact .inl hc
    · obtain ⟨v', w', rfl, -, hmem⟩ := ih hrest
      refine ⟨'[' :: display ++ ']' :: v', w', by simp, by simp, ?_⟩
      intro c hc
      simp only [List.cons_append, List.mem_cons, List.mem_append] at hc
      rcases hc with rfl | hc | rfl | hc
      · exact .inr (hbrackets '[' (by simp))
      · exact .inl (List.mem_append_left a hc)
      · exact .inr (hbrackets ']' (by simp))
      · exact (hmem c hc).imp_left (List.mem_append_right display)

end Respelled

end Slipbox.Markup
