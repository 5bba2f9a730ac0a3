import Slipbox.Parsing.Basic

/-!
# Recognisers

A recogniser splits a text into a lexeme at its start and the rest. It knows the
pattern it stands for, which is quoted when it fails, and it loses nothing: the
two parts put together are the text again.

All patterns of the markup have one of four forms: one character of a class, a
possibly empty run of a class, a run that is not empty, and a fixed beginning
followed by a run.
-/

namespace Slipbox.Parsing

structure Recogniser where
  source : Text
  split : Text → Option (Text × Text)
  append_of_split : ∀ {s lexeme rest}, split s = some (lexeme, rest) → lexeme ++ rest = s

namespace Recogniser

/-- One character of the class. -/
def one (source : Text) (member : Char → Bool) : Recogniser where
  source
  split
    | [] => none
    | c :: rest => if member c then some ([c], rest) else none
  append_of_split {s lexeme rest} h := by
    cases s with
    | nil => simp at h
    | cons c s =>
      simp only [Option.ite_none_right_eq_some, Option.some.injEq, Prod.mk.injEq] at h
      obtain ⟨-, rfl, rfl⟩ := h
      rfl

/-- The longest run of the class, which may be empty. -/
def run (source : Text) (member : Char → Bool) : Recogniser where
  source
  split s := some (s.takeWhile member, s.dropWhile member)
  append_of_split {s lexeme rest} h := by
    simp only [Option.some.injEq, Prod.mk.injEq] at h
    obtain ⟨rfl, rfl⟩ := h
    exact List.takeWhile_append_dropWhile

/-- The longest run of the class, which must not be empty. -/
def run1 (source : Text) (member : Char → Bool) : Recogniser where
  source
  split s :=
    match s.takeWhile member with
    | [] => none
    | c :: lexeme => some (c :: lexeme, s.dropWhile member)
  append_of_split {s lexeme rest} h := by
    split at h
    · simp at h
    · next c run hrun =>
      simp only [Option.some.injEq, Prod.mk.injEq] at h
      obtain ⟨rfl, rfl⟩ := h
      rw [← hrun]
      exact List.takeWhile_append_dropWhile

/-- A fixed beginning, then the longest run of the class. -/
def led (source lead : Text) (member : Char → Bool) : Recogniser where
  source
  split s := (Text.dropLead? lead s).map fun rest =>
    (lead ++ rest.takeWhile member, rest.dropWhile member)
  append_of_split {s lexeme rest} h := by
    obtain ⟨r, hr, heq⟩ := Option.map_eq_some_iff.1 h
    simp only [Prod.mk.injEq] at heq
    obtain ⟨rfl, rfl⟩ := heq
    rw [Text.eq_append_of_dropLead? hr, List.append_assoc, List.takeWhile_append_dropWhile]

end Recogniser

/-- Takes the lexeme of a recogniser. -/
def pattern (r : Recogniser) : Parser Text := fun s =>
  match r.split s with
  | some (lexeme, rest) => .ok (lexeme, rest)
  | none => .error ⟨s, .unmatched r.source⟩

end Slipbox.Parsing
