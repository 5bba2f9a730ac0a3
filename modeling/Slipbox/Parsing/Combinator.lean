import Slipbox.Parsing.Basic

/-!
# Combinators

Ways to build parsers from parsers. None of them knows the markup.

Repetition ends at the first failure and also at the first value that takes
nothing from the text, since that one would repeat for ever; `many_apply` and
`many1_apply` say where each of the two stops.
-/

namespace Slipbox.Parsing

variable {α β γ : Type}

/-- Takes exactly the given text. -/
def literal (expected : Text) : Parser Text := fun s =>
  match Text.dropLead? expected s with
  | some rest => .ok (expected, rest)
  | none => .error ⟨s, .missing expected⟩

/-- The first parser that succeeds, each tried on the same text; when none does, the failure
of the last one. -/
def alternation : Parser α → List (Parser α) → Parser α
  | p, [] => p
  | p, q :: others => fun s =>
    match p s with
    | .ok success => .ok success
    | .error _ => alternation q others s

/-- Parsers one after another; their texts are put together. -/
def sequence : List (Parser Text) → Parser Text
  | [] => pure []
  | p :: others => do
    let first ← p
    let following ← sequence others
    pure (first ++ following)

/-! ### Repetition -/

/-- Whether one text is shorter than another, looked for along the ends of the other. What a
parser leaves is normally one of these ends, and then no more is walked over than was taken. -/
def shorterAlong (rest s : Text) :
    (ending : Text) → ending.length ≤ s.length → { b : Bool // b = true ↔ rest.length < s.length }
  | [], _ => ⟨decide (rest.length < s.length), decide_eq_true_iff⟩
  | _ :: ending, hle =>
    have hlt : ending.length < s.length := hle
    let further (_ : Unit) := shorterAlong rest s ending (Nat.le_of_lt hlt)
    ⟨withPtrEq ending rest (fun u => (further u).val) fun heq => (further ()).property.2 (heq ▸ hlt),
      (further ()).property⟩

local instance decidableShorter (rest s : Text) : Decidable (rest.length < s.length) :=
  decidable_of_iff _ (shorterAlong rest s s (Nat.le_refl _)).property

/-- The values of `p` as long as each takes something, and the text left after them. -/
def repeated (p : Parser α) (s : Text) : List α × Text :=
  match p s with
  | .ok (value, rest) =>
    if rest.length < s.length then
      let (values, left) := repeated p rest
      (value :: values, left)
    else ([], s)
  | .error _ => ([], s)
termination_by s.length

/-- Zero or more repetitions; never fails. -/
def many (p : Parser α) : Parser (List α) := fun s => .ok (repeated p s)

/-- One or more repetitions. The first value is kept even if it takes nothing. -/
def many1 (p : Parser α) : Parser (List α) := do
  let first ← p
  let others ← many p
  pure (first :: others)

theorem repeated_error {p : Parser α} {s : Text} {e : Failure} (h : p s = .error e) :
    repeated p s = ([], s) := by
  rw [repeated, h]

theorem repeated_ok {p : Parser α} {s rest : Text} {value : α} (h : p s = .ok (value, rest))
    (hlt : rest.length < s.length) :
    repeated p s = (value :: (repeated p rest).1, (repeated p rest).2) := by
  rw [repeated, h]
  simp only [if_pos hlt]

theorem repeated_still {p : Parser α} {s rest : Text} {value : α} (h : p s = .ok (value, rest))
    (hge : ¬ rest.length < s.length) : repeated p s = ([], s) := by
  rw [repeated, h]
  simp only [if_neg hge]

theorem many_apply (p : Parser α) (s : Text) : many p s = .ok (repeated p s) := rfl

theorem many1_apply (p : Parser α) (s : Text) :
    many1 p s = (p s).map fun x => (x.1 :: (repeated p x.2).1, (repeated p x.2).2) := by
  cases h : p s with
  | error e => exact Parser.bind_error h
  | ok x =>
    obtain ⟨value, rest⟩ := x
    exact Parser.bind_ok h

/-- The value if there is one; otherwise nothing is taken. -/
def optional (p : Parser α) : Parser (Option α) := fun s =>
  match p s with
  | .ok (value, rest) => .ok (some value, rest)
  | .error _ => .ok (none, s)

/-! ### Delimited values -/

/-- Three parsers in order; the value of the inner one. -/
def region (left : Parser α) (inner : Parser β) (right : Parser γ) : Parser β := fun s => do
  let (_, opened) ← left s
  let (value, rest) ← inner opened
  let (_, closed) ← right rest
  .ok (value, closed)

/-- A region whose two delimiters are the same text. -/
def enclosed (delimiter : Text) (inner : Parser α) : Parser α :=
  region (literal delimiter) inner (literal delimiter)

/-- Skips what `first` takes, then runs `p`. -/
def preceded (first : Parser α) (p : Parser β) : Parser β := fun s => do
  let (_, rest) ← first s
  p rest

/-- Fails where `p` leaves something unread. -/
def allConsuming (p : Parser α) : Parser α := fun s => do
  let (value, rest) ← p s
  match rest with
  | [] => .ok (value, [])
  | _ :: _ => .error ⟨rest, .leftover⟩

/-- A value together with what is left after it. -/
def withRest (p : Parser α) : Parser (α × Text) := fun s =>
  (p s).map fun x => ((x.1, x.2), x.2)

end Slipbox.Parsing
