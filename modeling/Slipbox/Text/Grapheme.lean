import Slipbox.Text.Basic
import Slipbox.Text.BreakClass

/-!
# Graphemes

A reader sees a text as graphemes: characters together with what belongs to them. Whether
a character goes on with the grapheme before it depends on the classes of the two
neighbours, and in three cases on more: a second pictograph follows a joiner, a second
consonant follows a linker, and every other regional indicator completes a pair.

The graphemes of a text, put together, are the text again, and none of them is empty.
-/

namespace Slipbox.Text

/-! ### Neighbours -/

namespace BreakClass

def standsAlone (k : BreakClass) : Bool :=
  k = .carriageReturn || k = .lineFeed || k = .control

/-- Whether characters of the class belong to the one before them. -/
def follows (k : BreakClass) : Bool := k = .extending || k = .joiner || k = .spacingMark

/-- Whether a syllable of Hangul goes on from a class to the next. -/
def goesOn : BreakClass → BreakClass → Bool
  | .leading, k => k = .leading || k = .vowel || k = .openSyllable || k = .closedSyllable
  | .openSyllable, k | .vowel, k => k = .vowel || k = .trailing
  | .closedSyllable, k | .trailing, k => k = .trailing
  | _, _ => false

/-- Whether two neighbours belong together for their classes alone. -/
def holds (k next : BreakClass) : Bool :=
  if k = .carriageReturn && next = .lineFeed then true
  else if k.standsAlone || next.standsAlone then false
  else next.follows || k = .prepended || k.goesOn next

end BreakClass

/-! ### What was read -/

/-- The last part read of two pictographs with a joiner between them. -/
inductive PictographPart where
  | nothing
  | pictograph
  | joiner
deriving DecidableEq, Repr

/-- The last part read of two consonants with a linker between them. -/
inductive ConjunctPart where
  | nothing
  | consonant
  | linker
deriving DecidableEq, Repr

def PictographPart.next (p : PictographPart) (c : Char) : PictographPart :=
  if isPictograph c then .pictograph
  else
    match p, breakClass c with
    | .pictograph, .extending => .pictograph
    | .pictograph, .joiner => .joiner
    | _, _ => .nothing

/-- The part read after one more character. Marks may stand at any place after the first
consonant, but not the sign that keeps letters apart. -/
def ConjunctPart.next (p : ConjunctPart) (c : Char) : ConjunctPart :=
  if isConjunctConsonant c then .consonant
  else if isLinker c then if p = .nothing then .nothing else .linker
  else if c = '\u200C' then .nothing
  else if breakClass c = .extending || breakClass c = .joiner then p
  else .nothing

/-- What the characters before a place decide about the one after it. -/
structure Border where
  last : BreakClass
  pictograph : PictographPart
  conjunct : ConjunctPart
  unpaired : Bool
deriving DecidableEq, Repr

namespace Border

/-- The border before a text. -/
def start : Border := ⟨.control, .nothing, .nothing, false⟩

/-- The border after one more character. -/
def after (b : Border) (c : Char) : Border where
  last := breakClass c
  pictograph := b.pictograph.next c
  conjunct := b.conjunct.next c
  unpaired := breakClass c = .indicator && !b.unpaired

/-- Whether the character after the border goes on with the grapheme before it. -/
def holds (b : Border) (c : Char) : Bool :=
  b.last.holds (breakClass c) || (b.pictograph = .joiner && isPictograph c) ||
    (b.conjunct = .linker && isConjunctConsonant c) ||
    (b.unpaired && breakClass c = .indicator)

end Border

/-! ### Texts -/

/-- The rest of the grapheme that is open at a border, then the graphemes after it. -/
def graphemesFrom (b : Border) : Text → List Text
  | [] => [[]]
  | c :: t =>
    match graphemesFrom (b.after c) t with
    | [] => [[c]]
    | rest :: more => if b.holds c then (c :: rest) :: more else [] :: (c :: rest) :: more

/-- The graphemes of a text. -/
def graphemes (t : Text) : List Text := (graphemesFrom .start t).tail

theorem graphemesFrom_ne_nil (b : Border) (t : Text) : graphemesFrom b t ≠ [] := by
  cases t with
  | nil => simp [graphemesFrom]
  | cons c t =>
    simp only [graphemesFrom]
    split
    · simp
    · split <;> simp

/-- The pieces of a text with one more character in front. -/
theorem graphemesFrom_cons (b : Border) (c : Char) (t : Text) :
    ∃ rest more, graphemesFrom (b.after c) t = rest :: more ∧
      graphemesFrom b (c :: t) =
        if b.holds c then (c :: rest) :: more else [] :: (c :: rest) :: more := by
  obtain ⟨rest, more, h⟩ := List.exists_cons_of_ne_nil (graphemesFrom_ne_nil (b.after c) t)
  exact ⟨rest, more, h, by simp only [graphemesFrom, h]⟩

/-- Put together, the pieces are the text. -/
theorem flatten_graphemesFrom (b : Border) (t : Text) : (graphemesFrom b t).flatten = t := by
  induction t generalizing b with
  | nil => rfl
  | cons c t ih =>
    obtain ⟨rest, more, hrest, h⟩ := graphemesFrom_cons b c t
    have ht := ih (b.after c)
    rw [hrest, List.flatten_cons] at ht
    rw [h]
    split <;> simp [ht]

/-- Only the piece that was open before can be empty. -/
theorem nil_not_mem_tail_graphemesFrom (b : Border) (t : Text) :
    [] ∉ (graphemesFrom b t).tail := by
  induction t generalizing b with
  | nil => simp [graphemesFrom]
  | cons c t ih =>
    obtain ⟨rest, more, hrest, h⟩ := graphemesFrom_cons b c t
    have ht := ih (b.after c)
    rw [hrest, List.tail_cons] at ht
    rw [h]
    split <;> simp [ht]

/-- Nothing goes on before the start of a text. -/
theorem holds_start (c : Char) : Border.start.holds c = false := by
  simp [Border.start, Border.holds, BreakClass.holds, BreakClass.standsAlone]

/-- Put together, the graphemes are the text. -/
theorem flatten_graphemes (t : Text) : (graphemes t).flatten = t := by
  cases t with
  | nil => rfl
  | cons c t =>
    have ht := flatten_graphemesFrom .start (c :: t)
    obtain ⟨rest, more, -, h⟩ := graphemesFrom_cons .start c t
    rw [h, holds_start] at ht
    rw [graphemes, h, holds_start]
    exact ht

/-- No grapheme is empty. -/
theorem nil_not_mem_graphemes (t : Text) : [] ∉ graphemes t :=
  nil_not_mem_tail_graphemesFrom .start t

end Slipbox.Text
