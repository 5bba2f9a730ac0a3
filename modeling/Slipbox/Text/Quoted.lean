import Slipbox.Text.Basic
import Slipbox.Text.Printable

/-!
# Quoted texts

Messages show a text between double quotes. A tab, a line end, the backslash, the
quote and the null character have escapes of two characters; every other
character that cannot be shown is written by its code point in braces.
-/

namespace Slipbox.Text

/-- The code point in lower-case hexadecimal digits, without padding. -/
def hexDigits (n : Nat) : Text := Nat.toDigits 16 n

def quotedChar (c : Char) : Text :=
  if c = '\x00' then "\\0".toList
  else if c = '\t' then "\\t".toList
  else if c = '\r' then "\\r".toList
  else if c = '\n' then "\\n".toList
  else if c = '\\' then "\\\\".toList
  else if c = '"' then "\\\"".toList
  else if isPrintable c && !attaches c then [c]
  else "\\u\x7b".toList ++ hexDigits c.toNat ++ ['}']

/-- The text between quotes, with escapes. -/
def quoted (t : Text) : Text := '"' :: t.flatMap quotedChar ++ ['"']

end Slipbox.Text
