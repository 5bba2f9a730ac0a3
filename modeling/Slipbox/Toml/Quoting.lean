import Slipbox.Text.Basic

/-!
# Quoted strings of a configuration file

A string has four forms. The basic forms stand between double quotes and know
escapes, the literal forms stand between single quotes and hold their text as it
is; each has a form for one line, with one quote at either end, and a form for
several lines, with three. A newline right after three opening quotes does not count.

`read` accepts every form and answers with the text and what follows it. `write`
chooses the first form that needs no escapes, the forms of one line first.
-/

namespace Slipbox.Toml

/-- Whether a character may stand in a comment or between quotes on one line. -/
def isTextual (c : Char) : Bool := c == '\t' || (0x20 ≤ c.toNat && c.toNat != 0x7F)

namespace Quoting

/-! ### Escapes -/

/-- The value of a hexadecimal digit. -/
def hexValue? (c : Char) : Option Nat :=
  if c.isDigit then some (c.toNat - '0'.toNat)
  else if 'a' ≤ c ∧ c ≤ 'f' then some (c.toNat - 'a'.toNat + 10)
  else if 'A' ≤ c ∧ c ≤ 'F' then some (c.toNat - 'A'.toNat + 10)
  else none

/-- The number that hexadecimal digits spell. -/
def hexNumber? (digits : Text) : Option Nat :=
  digits.foldlM (fun n c => (hexValue? c).map (16 * n + ·)) 0

/-- The character with a code point. -/
def scalar? (n : Nat) : Option Char := if n.isValidChar then some (Char.ofNat n) else none

/-- The character that is spelled by exactly `size` hexadecimal digits. -/
def coded? (size : Nat) (s : Text) : Option Char :=
  if s.length < size then none else (hexNumber? (s.take size)).bind scalar?

/-- The escapes of one letter. -/
def letterEscapes : List (Char × Char) :=
  [('b', '\x08'), ('t', '\t'), ('n', '\n'), ('f', '\x0c'), ('r', '\r'), ('e', '\x1b'), ('"', '"'),
    ('\\', '\\')]

/-- The sizes of the escapes that spell a code point. -/
def codeEscapes : List (Char × Nat) := [('x', 2), ('u', 4), ('U', 8)]

/-- The character that an escape stands for, and how many characters after the backslash
spell it. -/
def escape? : Text → Option (Char × Nat)
  | [] => none
  | letter :: s =>
    match letterEscapes.lookup letter with
    | some c => some (c, 1)
    | none =>
      match codeEscapes.lookup letter with
      | some size => (coded? size s).map fun c => (c, size + 1)
      | none => none

/-! ### Reading -/

/-- What follows the opening quote of a basic string. -/
def readBasic : Text → Option (Text × Text)
  | [] => none
  | c :: s =>
    if c = '"' then some ([], s)
    else if c = '\\' then
      (escape? s).bind fun (e, used) =>
        (readBasic (s.drop used)).map fun (t, rest) => (e :: t, rest)
    else if isTextual c then (readBasic s).map fun (t, rest) => (c :: t, rest)
    else none
termination_by s => s.length
decreasing_by all_goals simp only [List.length_cons, List.length_drop]; omega

/-- What follows the opening quote of a literal string. -/
def readLiteral : Text → Option (Text × Text)
  | [] => none
  | c :: s =>
    if c = '\'' then some ([], s)
    else if isTextual c then (readLiteral s).map fun (t, rest) => (c :: t, rest)
    else none

/-- The text without the blanks and line ends at its start. -/
def skipLines : Text → Text
  | ' ' :: s => skipLines s
  | '\t' :: s => skipLines s
  | '\n' :: s => skipLines s
  | '\r' :: '\n' :: s => skipLines s
  | s => s

theorem length_skipLines_le (s : Text) : (skipLines s).length ≤ s.length := by
  fun_induction skipLines s with
  | case1 s ih => simp only [List.length_cons]; omega
  | case2 s ih => simp only [List.length_cons]; omega
  | case3 s ih => simp only [List.length_cons]; omega
  | case4 s ih => simp only [List.length_cons]; omega
  | case5 s => exact Nat.le_refl _

/-- Whether a line ends after blanks. -/
def endsLine : Text → Bool
  | ' ' :: s => endsLine s
  | '\t' :: s => endsLine s
  | '\n' :: _ => true
  | '\r' :: '\n' :: _ => true
  | _ => false

/-- What three closing quotes leave: up to two more quotes are still text. -/
def close (quote : Char) (s : Text) : Text × Text :=
  let more := (s.take 2).takeWhile (· == quote)
  (more, s.drop more.length)

/-- Whether a character may stand between three quotes, before `rest`. -/
def isTextualLines (c : Char) (rest : Text) : Bool :=
  c == '\n' || isTextual c || (c == '\r' && rest.head? == some '\n')

/-- What follows the opening quotes of a basic string of several lines. A backslash at the
end of a line removes the line end and all blanks and line ends after it. -/
def readBasicLines : Text → Option (Text × Text)
  | [] => none
  | c :: s =>
    if c = '"' then
      match Text.dropLead? ['"', '"'] s with
      | some rest => some (close '"' rest)
      | none => (readBasicLines s).map fun (t, rest) => (c :: t, rest)
    else if c = '\\' then
      if endsLine s then readBasicLines (skipLines s)
      else
        (escape? s).bind fun (e, used) =>
          (readBasicLines (s.drop used)).map fun (t, rest) => (e :: t, rest)
    else if isTextualLines c s then (readBasicLines s).map fun (t, rest) => (c :: t, rest)
    else none
termination_by s => s.length
decreasing_by
  · simp
  · have := length_skipLines_le s
    simp only [List.length_cons]; omega
  · simp only [List.length_cons, List.length_drop]; omega
  · simp

/-- What follows the opening quotes of a literal string of several lines. -/
def readLiteralLines : Text → Option (Text × Text)
  | [] => none
  | c :: s =>
    if c = '\'' then
      match Text.dropLead? ['\'', '\''] s with
      | some rest => some (close '\'' rest)
      | none => (readLiteralLines s).map fun (t, rest) => (c :: t, rest)
    else if isTextualLines c s then (readLiteralLines s).map fun (t, rest) => (c :: t, rest)
    else none

/-- A text without a line end at its start. -/
def dropLineEnd : Text → Text
  | '\n' :: s => s
  | '\r' :: '\n' :: s => s
  | s => s

/-- A string of one line in either form. -/
def readLine : Text → Option (Text × Text)
  | '"' :: s => readBasic s
  | '\'' :: s => readLiteral s
  | _ => none

/-- A string in any form. -/
def read (s : Text) : Option (Text × Text) :=
  match Text.dropLead? ['"', '"', '"'] s with
  | some body => readBasicLines (dropLineEnd body)
  | none =>
    match Text.dropLead? ['\'', '\'', '\''] s with
    | some body => readLiteralLines (dropLineEnd body)
    | none => readLine s

/-! ### Writing -/

inductive Form where
  | basic
  | literal
  | basicLines
  | literalLines
deriving DecidableEq, Repr

/-- The form in which a text is written. -/
def form (t : Text) : Form :=
  let textual := t.all fun c => isTextual c || c == '\n'
  let lines := t.contains '\n'
  if textual && !lines && !t.contains '\\' && !t.contains '"' then .basic
  else if textual && !lines && !t.contains '\'' then .literal
  else if textual && !t.contains '\\' && !Text.containsText ['"', '"', '"'] t then .basicLines
  else if textual && !Text.containsText ['\'', '\'', '\''] t then .literalLines
  else if lines then .basicLines
  else .basic

/-- The digit of a number below sixteen. -/
def upperDigit (n : Nat) : Char :=
  if n < 10 then Char.ofNat (n + '0'.toNat) else Char.ofNat (n - 10 + 'A'.toNat)

/-- The escape of a character that a basic string cannot hold; quotes and line ends have
rules of their own. -/
def escapeOf? (c : Char) : Option Text :=
  if c = '\x08' then some ['\\', 'b']
  else if c = '\t' then some ['\\', 't']
  else if c = '\x0c' then some ['\\', 'f']
  else if c = '\r' then some ['\\', 'r']
  else if c = '\\' then some ['\\', '\\']
  else if isTextual c || c == '\n' then none
  else some ['\\', 'u', '0', '0', upperDigit (c.toNat / 16), upperDigit (c.toNat % 16)]

def basicChar (c : Char) : Text :=
  if c = '"' then ['\\', '"']
  else if c = '\n' then ['\\', 'n']
  else (escapeOf? c).getD [c]

/-- The body of a basic string of several lines after `quotes` bare quotes in a row, of
which there are never three. -/
def basicLinesBody (quotes : Nat) : Text → Text
  | [] => []
  | c :: t =>
    if c = '"' then
      if quotes < 2 then c :: basicLinesBody (quotes + 1) t
      else '\\' :: c :: basicLinesBody 0 t
    else (escapeOf? c).getD [c] ++ basicLinesBody 0 t

/-- The line end after the opening quotes of a text that has lines. -/
def opening (t : Text) : Text := if t.contains '\n' then ['\n'] else []

/-- A text in its form. -/
def write (t : Text) : Text :=
  match form t with
  | .basic => '"' :: t.flatMap basicChar ++ ['"']
  | .literal => '\'' :: t ++ ['\'']
  | .basicLines => ['"', '"', '"'] ++ opening t ++ basicLinesBody 0 t ++ ['"', '"', '"']
  | .literalLines => ['\'', '\'', '\''] ++ opening t ++ t ++ ['\'', '\'', '\'']

end Quoting
end Slipbox.Toml
