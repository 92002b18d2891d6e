import SoloScreen.Config.Decimal

/-!
# Escape sequences

What a backslash in a quoted text stands for. The same sequences are used in configuration files and
in values of environment variables.
-/

namespace SoloScreen.Config.Escape

/-- The character of a short escape sequence. -/
def short? : Char → Option Char
  | 'b' => some '\x08'
  | 't' => some '\t'
  | 'n' => some '\n'
  | 'f' => some '\x0c'
  | 'r' => some '\r'
  | '"' => some '"'
  | '\\' => some '\\'
  | _ => none

/-- The character with a number written in hexadecimal digits. Numbers that are no characters, such
as surrogates, have none. -/
def numbered? (digits : List Char) : Option Char :=
  if digits.all (Decimal.isDigit 16) then
    let n := Decimal.ofDigits 16 (digits.filterMap Decimal.digit?)
    if n.isValidChar then some (Char.ofNat n) else none
  else none

/-- The character that a backslash and what follows it stand for, and the characters after the
sequence. -/
def read? : List Char → Option (Char × List Char)
  | 'u' :: cs => if cs.length < 4 then none else (numbered? (cs.take 4)).map (·, cs.drop 4)
  | 'U' :: cs => if cs.length < 8 then none else (numbered? (cs.take 8)).map (·, cs.drop 8)
  | c :: cs => (short? c).map (·, cs)
  | [] => none

/-- A character that may stand for itself in a quoted text: a tab, or no control character. -/
def isPlain (c : Char) : Bool := c == '\t' || (0x20 ≤ c.toNat && c.toNat != 0x7F)

end SoloScreen.Config.Escape
