/-!
# Numbers in text

Recognising decimal numbers written with ASCII digits.
-/

namespace SoloScreen.Config.Decimal

/-- The number that digits of a base stand for. -/
def ofDigits (base : Nat) (digits : List Nat) : Nat :=
  digits.foldl (fun n digit => n * base + digit) 0

/-- The value of a digit, in any base up to sixteen. -/
def digit? (c : Char) : Option Nat :=
  if '0' ≤ c && c ≤ '9' then some (c.toNat - '0'.toNat)
  else if 'a' ≤ c && c ≤ 'f' then some (c.toNat - 'a'.toNat + 10)
  else if 'A' ≤ c && c ≤ 'F' then some (c.toNat - 'A'.toNat + 10)
  else none

/-- The character is a digit of a base. -/
def isDigit (base : Nat) (c : Char) : Bool := (digit? c).any (· < base)

/-- The natural number that a text of digits stands for; there has to be a digit. -/
def natural? (cs : List Char) : Option Nat :=
  if cs ≠ [] ∧ cs.all (isDigit 10) then some (ofDigits 10 (cs.filterMap digit?)) else none

/-- One more than the largest number that fits in 64 bits with a sign. -/
def signedLimit : Nat := 0x8000000000000000

/-- A number that fits in 64 bits without a sign; a plus may stand in front. -/
def unsigned? (cs : List Char) : Option Nat :=
  match natural? (if cs.head? = some '+' then cs.tail else cs) with
  | some n => if n < UInt64.size then some n else none
  | none => none

/-- A number that fits in 64 bits with a sign. -/
def signed? : List Char → Option Int
  | '-' :: cs =>
    match natural? cs with
    | some n => if n ≤ signedLimit then some (-(n : Int)) else none
    | none => none
  | cs =>
    match natural? (if cs.head? = some '+' then cs.tail else cs) with
    | some n => if n < signedLimit then some n else none
    | none => none

/-- The text without a sign in front. -/
def dropSign : List Char → List Char
  | '+' :: cs => cs
  | '-' :: cs => cs
  | cs => cs

/-- An exponent, with its letter. -/
def isExponent : List Char → Bool
  | c :: cs => (c == 'e' || c == 'E') && (natural? (dropSign cs)).isSome
  | [] => false

/-- A number with a point: digits on at least one side of it, perhaps a sign and an exponent. -/
def isReal (cs : List Char) : Bool :=
  let cs := dropSign cs
  let whole := cs.takeWhile (isDigit 10)
  match cs.dropWhile (isDigit 10) with
  | '.' :: after =>
    let rest := after.dropWhile (isDigit 10)
    (!whole.isEmpty || !(after.takeWhile (isDigit 10)).isEmpty) &&
      (rest.isEmpty || isExponent rest)
  | _ => false

end SoloScreen.Config.Decimal
