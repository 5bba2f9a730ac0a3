import Mathlib.Logic.Function.Iterate
import Slipbox.Proofs.Markup.Spellings

/-!
# Reformatting

A text is reformatted by printing its nodes. What is printed need not read back as the same nodes:
a shortened fence may meet other marks, and an address without its brackets may take what follows.
But printing only shortens fences and drops brackets, so a pass that changes the text at all makes
it shorter by two bytes or more, whatever the next pass reads. Passes therefore come to an end
(`reformat_converges`), at a text that is printed as it stands.
-/

namespace Slipbox.Markup

open Slipbox.Parsing

variable {w p : Text} {drops : Text → Text → Prop}

theorem utf8Size_marks : Char.utf8Size '\x60' = 1 ∧ Char.utf8Size '[' = 1 ∧
    Char.utf8Size ']' = 1 := ⟨rfl, rfl, rfl⟩

theorem Respelled.byteLength_le (h : Respelled drops w p) : p.byteLength ≤ w.byteLength := by
  induction h with
  | nil => exact Nat.le_refl _
  | keep c _ ih => exact Nat.add_le_add_left ih _
  | mark _ ih =>
    simp only [Text.byteLength_cons, utf8Size_marks]
    omega
  | unbracket _ _ _ ih =>
    simp only [Text.byteLength_append, Text.byteLength_cons, utf8Size_marks]
    omega

/-- What is respelled stays as it is or loses two marks or brackets at least. -/
theorem Respelled.eq_or_shorter (h : Respelled drops w p) :
    p = w ∨ p.byteLength + 2 ≤ w.byteLength := by
  induction h with
  | nil => exact .inl rfl
  | keep c _ ih =>
    rcases ih with rfl | hshorter
    · exact .inl rfl
    · right
      simp only [Text.byteLength_cons]
      omega
  | mark others =>
    have hle := others.byteLength_le
    right
    simp only [Text.byteLength_cons, utf8Size_marks]
    omega
  | unbracket _ _ others =>
    have hle := others.byteLength_le
    right
    simp only [Text.byteLength_append, Text.byteLength_cons, utf8Size_marks]
    omega

/-- The text as its nodes are printed. -/
def reformat (t : Text) : Text :=
  match parseDocument t with
  | .ok nodes => unparse nodes
  | .error _ => t

theorem reformat_of_nodes {t : Text} {nodes : List Node} (h : parseDocument t = .ok nodes) :
    reformat t = unparse nodes := by
  rw [reformat, h]

theorem exists_printed (t : Text) :
    ∃ nodes, parseDocument t = .ok nodes ∧ Respelled (fun _ _ => True) t (unparse nodes) := by
  obtain ⟨nodes, hchain⟩ := exists_chain_node t
  obtain ⟨w, hw, hwt⟩ := Chain.concat node_spells hchain
  rw [List.append_nil] at hwt
  exact ⟨nodes, parseDocument_eq_ok_iff.2 hchain, hwt ▸ respelled_unparse hw⟩

theorem reformat_eq_or_shorter (t : Text) :
    reformat t = t ∨ (reformat t).byteLength + 2 ≤ t.byteLength := by
  obtain ⟨nodes, hparse, hrespelled⟩ := exists_printed t
  rw [reformat_of_nodes hparse]
  exact hrespelled.eq_or_shorter

/-- Every pass before the last takes two bytes away. -/
theorem exists_settled (t : Text) :
    ∃ n, 2 * n ≤ t.byteLength ∧ reformat (reformat^[n] t) = reformat^[n] t := by
  induction hlength : t.byteLength using Nat.strongRecOn generalizing t with
  | ind length ih =>
    rcases reformat_eq_or_shorter t with hsame | hshorter
    · exact ⟨0, Nat.zero_le _, hsame⟩
    · obtain ⟨n, hn, hsettled⟩ := ih _ (by omega) (reformat t) rfl
      refine ⟨n + 1, by omega, ?_⟩
      rw [Function.iterate_succ_apply]
      exact hsettled

/-- **Reformatting converges.** It never makes a text longer and keeps each text of which it keeps
the length. After at most half as many passes as the text has bytes it changes nothing more, and
then the nodes are read back from their print. -/
theorem reformat_converges (t : Text) :
    (∃ nodes, parseDocument t = .ok nodes ∧ reformat t = unparse nodes) ∧
    (reformat t).byteLength ≤ t.byteLength ∧
    ((reformat t).byteLength = t.byteLength ↔ reformat t = t) ∧
    ∃ n, 2 * n ≤ t.byteLength ∧ reformat (reformat^[n] t) = reformat^[n] t ∧
      ∃ nodes, parseDocument (reformat^[n] t) = .ok nodes ∧
        parseDocument (unparse nodes) = .ok nodes := by
  refine ⟨?_, ?_, ?_, ?_⟩
  · obtain ⟨nodes, hparse, -⟩ := exists_printed t
    exact ⟨nodes, hparse, reformat_of_nodes hparse⟩
  · obtain ⟨nodes, hparse, hrespelled⟩ := exists_printed t
    rw [reformat_of_nodes hparse]
    exact hrespelled.byteLength_le
  · constructor
    · intro hlength
      rcases reformat_eq_or_shorter t with hsame | hshorter
      · exact hsame
      · omega
    · exact congrArg Text.byteLength
  · obtain ⟨n, hn, hsettled⟩ := exists_settled t
    obtain ⟨nodes, hparse, -⟩ := exists_printed (reformat^[n] t)
    refine ⟨n, hn, hsettled, nodes, hparse, ?_⟩
    rw [← reformat_of_nodes hparse, hsettled, hparse]

/-- The brackets around the second address are seen only after the first ones are gone. -/
example : reformat "[http - [http]]".toList = "http - [http]".toList ∧
    reformat "http - [http]".toList = "http - http".toList := by decide +kernel

end Slipbox.Markup
