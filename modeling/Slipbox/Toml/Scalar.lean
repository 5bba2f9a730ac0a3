import Slipbox.Toml.Value

/-!
# Numbers, truth values and moments

A bare value is a word without blanks, except that one space may stand between a
date and a time. Numbers may have single underscores between digits. Integers have
no leading zeros and fit in 128 bits; a number with a fraction or an exponent is
smaller than the largest power of two that a double can hold.
-/

namespace Slipbox.Toml.Scalar

/-! ### Digits -/

/-- Digits with single underscores between them, without the underscores. -/
def digits? (isDigit : Char → Bool) : Text → Option Text
  | [] => none
  | [c] => if isDigit c then some [c] else none
  | c :: '_' :: t => if isDigit c then (digits? isDigit t).map (c :: ·) else none
  | c :: t => if isDigit c then (digits? isDigit t).map (c :: ·) else none

/-- The value of a digit in any radix up to sixteen. -/
def digitValue (c : Char) : Nat :=
  if c.isDigit then c.toNat - '0'.toNat
  else if c.isLower then c.toNat - 'a'.toNat + 10
  else c.toNat - 'A'.toNat + 10

/-- The number that digits spell. -/
def number (radix : Nat) (digits : Text) : Nat :=
  digits.foldl (fun n c => n * radix + digitValue c) 0

/-- Whether a character is a digit of a radix. -/
def isDigitOf (radix : Nat) (c : Char) : Bool :=
  (c.isDigit || ('a' ≤ c ∧ c ≤ 'f') || ('A' ≤ c ∧ c ≤ 'F')) && digitValue c < radix

/-- Decimal digits without a leading zero. -/
def plainDigits? (t : Text) : Option Text :=
  (digits? Char.isDigit t).bind fun d =>
    if d.length ≠ 1 ∧ d.head? = some '0' then none else some d

/-! ### Integers -/

/-- An integer without a sign. -/
def natural? : Text → Option Nat
  | '0' :: 'x' :: t => (digits? (isDigitOf 16) t).map (number 16)
  | '0' :: 'o' :: t => (digits? (isDigitOf 8) t).map (number 8)
  | '0' :: 'b' :: t => (digits? (isDigitOf 2) t).map (number 2)
  | t => (plainDigits? t).map (number 10)

/-- Whether 128 bits hold the number, with or without a sign. -/
def fits (n : Int) : Bool := -Int.ofNat (Nat.pow 2 127) ≤ n && n < Int.ofNat (Nat.pow 2 128)

/-- An integer; only a decimal one may have a sign. -/
def integer? (t : Text) : Option Int :=
  let n := match t with
    | '+' :: t => (plainDigits? t).map fun d => Int.ofNat (number 10 d)
    | '-' :: t => (plainDigits? t).map fun d => -Int.ofNat (number 10 d)
    | t => (natural? t).map Int.ofNat
  n.filter fits

/-! ### Fractions and exponents -/

def unsigned : Text → Text
  | '+' :: t => t
  | '-' :: t => t
  | t => t

/-- The text before and after the first character that satisfies `p`. -/
def cutAt? (p : Char → Bool) (t : Text) : Option (Text × Text) :=
  match t.dropWhile fun c => !p c with
  | [] => none
  | _ :: after => some (t.takeWhile fun c => !p c, after)

/-- The exponent after its letter. -/
def exponent? (t : Text) : Option Int :=
  (digits? Char.isDigit (unsigned t)).map fun d =>
    if t.head? = some '-' then -Int.ofNat (number 10 d) else Int.ofNat (number 10 d)

/-- Decimal digits and the power of ten that they are taken times. -/
structure Scientific where
  digits : Text
  exponent : Int

/-- A number without a sign that has a fraction, an exponent or both. -/
def scientific? (t : Text) : Option Scientific := do
  let (mantissa, exponent) ← match cutAt? (fun c => c == 'e' || c == 'E') t with
    | some (mantissa, after) => (exponent? after).map fun e => (mantissa, e)
    | none => if t.contains '.' then some (t, 0) else none
  match cutAt? (· == '.') mantissa with
  | some (whole, fraction) =>
    let w ← plainDigits? whole
    let f ← digits? Char.isDigit fraction
    return ⟨w ++ f, exponent - f.length⟩
  | none => return ⟨← plainDigits? mantissa, exponent⟩

/-- The least number that is too large for a double. -/
def tooLarge : Nat := Nat.pow 2 1024 - Nat.pow 2 970

/-- Whether the number is below `tooLarge`. Far from it the count of digits decides. -/
def Scientific.isFinite (x : Scientific) : Bool :=
  let digits := x.digits.dropWhile (· == '0')
  let size : Int := digits.length + x.exponent
  if digits.isEmpty || size < 300 then true
  else if 310 < size then false
  else number 10 digits * Nat.pow 10 x.exponent.toNat < tooLarge * Nat.pow 10 (-x.exponent).toNat

/-- Whether the text spells a number with a fraction or an exponent, or one that is none. -/
def isFloat (t : Text) : Bool :=
  let body := unsigned t
  body == "inf".toList || body == "nan".toList ||
    match scientific? body with
    | some x => x.isFinite
    | none => false

/-! ### Moments -/

/-- A number of exactly two digits. -/
def twoDigits? : Text → Option (Nat × Text)
  | a :: b :: t =>
    if a.isDigit && b.isDigit then some (10 * digitValue a + digitValue b, t) else none
  | _ => none

/-- A number of two digits up to a limit. -/
def part? (limit : Nat) (t : Text) : Option Text :=
  (twoDigits? t).bind fun (n, rest) => if n ≤ limit then some rest else none

def isLeapYear (year : Nat) : Bool := year % 4 == 0 && (year % 100 != 0 || year % 400 == 0)

def daysInMonth (year month : Nat) : Nat :=
  if month = 2 then if isLeapYear year then 29 else 28
  else if month ∈ [4, 6, 9, 11] then 30
  else 31

/-- What follows a date. -/
def date? (t : Text) : Option Text := do
  let (century, t) ← twoDigits? t
  let (year, t) ← twoDigits? t
  let t ← Text.dropLead? ['-'] t
  let (month, t) ← twoDigits? t
  let t ← Text.dropLead? ['-'] t
  let (day, t) ← twoDigits? t
  if 1 ≤ month ∧ month ≤ 12 ∧ 1 ≤ day ∧ day ≤ daysInMonth (100 * century + year) month then
    some t
  else none

/-- What follows the part of a second, if there is one. -/
def fraction? : Text → Option Text
  | '.' :: c :: t => if c.isDigit then some (t.dropWhile Char.isDigit) else none
  | '.' :: [] => none
  | t => some t

/-- What follows a time; seconds may be left out. -/
def time? (t : Text) : Option Text := do
  let t ← part? 23 t
  let t ← Text.dropLead? [':'] t
  let t ← part? 59 t
  match t with
  | ':' :: t => (part? 60 t).bind fraction?
  | t => some t

/-- Whether the text is empty or a distance from universal time. -/
def isOffset : Text → Bool
  | [] => true
  | c :: t =>
    if c = 'Z' ∨ c = 'z' then t.isEmpty
    else if c = '+' ∨ c = '-' then
      ((part? 23 t).bind (Text.dropLead? [':'])).bind (part? 59) == some []
    else false

/-- Whether the text spells a date, a time or both. -/
def isMoment (t : Text) : Bool :=
  match date? t with
  | some [] => true
  | some (c :: rest) =>
    (c = 'T' ∨ c = 't' ∨ c = ' ') && (time? rest).any isOffset
  | none => time? t == some []

/-! ### Words -/

/-- The value that a bare word stands for. -/
def ofWord? (t : Text) : Option Value :=
  if t = "true".toList then some (.boolean true)
  else if t = "false".toList then some (.boolean false)
  else
    match integer? t with
    | some n => some (.integer n)
    | none =>
      if isFloat t then some (.float t) else if isMoment t then some (.moment t) else none

/-- Whether a bare value may contain the character. -/
def isWordChar (c : Char) : Bool := c.isAlphanum || c ∈ ['+', '-', '.', ':', '_']

/-- A bare value and what follows it. -/
def read (s : Text) : Option (Value × Text) :=
  let word := s.takeWhile isWordChar
  let rest := s.dropWhile isWordChar
  match rest with
  | ' ' :: more =>
    if date? word = some [] ∧ more.head?.any Char.isDigit then
      (ofWord? (word ++ ' ' :: more.takeWhile isWordChar)).map (·, more.dropWhile isWordChar)
    else (ofWord? word).map (·, rest)
  | _ => (ofWord? word).map (·, rest)

end Slipbox.Toml.Scalar
