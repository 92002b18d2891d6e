import SoloScreen.Config.Decimal
import SoloScreen.Config.Value

/-!
# Numbers, dates and times in TOML

Integers are decimal, or have a base prefix; they fit in 64 bits. Underscores may stand between
digits. A date or a time is a table with one entry, its text; no setting is one.
-/

namespace SoloScreen.Config.Toml

open Decimal

/-- Digits of a base with single underscores between them: those after the first digit, and what
follows them. -/
def moreDigits (base : Nat) : List Char → List Char × List Char
  | '_' :: c :: cs =>
    if isDigit base c then
      let (digits, rest) := moreDigits base cs
      (c :: digits, rest)
    else ([], '_' :: c :: cs)
  | c :: cs =>
    if isDigit base c then
      let (digits, rest) := moreDigits base cs
      (c :: digits, rest)
    else ([], c :: cs)
  | [] => ([], [])

/-- At least one digit, underscores left out, and what follows. -/
def digits? (base : Nat) : List Char → Option (List Char × List Char)
  | c :: cs =>
    if isDigit base c then
      let (digits, rest) := moreDigits base cs
      some (c :: digits, rest)
    else none
  | [] => none

/-- Digits of a decimal number without needless zeros in front. -/
def decimal? : List Char → Option (List Char × List Char)
  | '0' :: cs => some (['0'], cs)
  | cs => digits? 10 cs

/-- The number that digits of a base stand for. -/
def valueOf (base : Nat) (digits : List Char) : Nat := ofDigits base (digits.filterMap digit?)

/-- An integer with a base prefix. -/
def basedInteger (base : Nat) (cs : List Char) : Option (Value × List Char) := do
  let (digits, rest) ← digits? base cs
  let n := valueOf base digits
  if n < signedLimit then pure (.integer n, rest) else none

/-! ## Numbers with a fraction or an exponent -/

/-- An exponent: its sign and digits, and what follows. -/
def exponent? : List Char → Option (Bool × List Char × List Char)
  | c :: cs =>
    if c = 'e' ∨ c = 'E' then
      (digits? 10 (dropSign cs)).map fun (digits, rest) => (cs.head? = some '-', digits, rest)
    else none
  | [] => none

/-- The fraction after a point: its digits, and what follows. -/
def fraction? : List Char → Option (List Char × List Char)
  | '.' :: cs => digits? 10 cs
  | _ => none

/-- The number `digits · 10 ^ (shift - places)` rounds to infinity as a 64-bit binary fraction. Its
leading digit decides, except between `10 ^ 308` and `10 ^ 310`. -/
def isInfinite (digits : List Char) (places : Nat) (negative : Bool) (shift : Nat) : Bool :=
  let significant := digits.dropWhile (· == '0')
  let magnitude : Int := significant.length + (if negative then -(shift : Int) else shift) - places
  if significant.isEmpty || magnitude < 309 then false
  else if 310 < magnitude then true
  else
    let limit := Nat.pow 2 1024 - Nat.pow 2 970
    let n := valueOf 10 significant
    if negative then limit * Nat.pow 10 (places + shift) ≤ n
    else limit * Nat.pow 10 places ≤ n * Nat.pow 10 shift

/-- What follows the whole part of a number: nothing makes it an integer, a fraction or an exponent
makes it a real number. -/
def afterWhole (minus : Bool) (whole rest : List Char) : Option (Value × List Char) :=
  let real (digits : List Char) (places : Nat) (exponent : Option (Bool × List Char × List Char))
      (rest : List Char) : Option (Value × List Char) :=
    let (negative, shift, rest) := exponent.getD (false, [], rest)
    if !minus && isInfinite digits places negative (valueOf 10 shift) then none
    else some (.real, rest)
  match fraction? rest, exponent? rest with
  | some (digits, rest), _ => real (whole ++ digits) digits.length (exponent? rest) rest
  | none, some exponent => real whole 0 (some exponent) rest
  | none, none =>
    let n := valueOf 10 whole
    if minus then if n ≤ signedLimit then some (.integer (-(n : Int)), rest) else none
    else if n < signedLimit then some (.integer n, rest) else none

/-- The characters after some given ones, if they are there. -/
def following? (wanted cs : List Char) : Option (List Char) :=
  if wanted.isPrefixOf cs then some (cs.drop wanted.length) else none

/-- A number. -/
def number (cs : List Char) : Option (Value × List Char) :=
  match cs with
  | '0' :: 'x' :: rest => basedInteger 16 rest
  | '0' :: 'o' :: rest => basedInteger 8 rest
  | '0' :: 'b' :: rest => basedInteger 2 rest
  | cs =>
    let unsigned := dropSign cs
    match following? ['i', 'n', 'f'] unsigned, following? ['n', 'a', 'n'] unsigned with
    | some rest, _ => some (.real, rest)
    | _, some rest => some (.real, rest)
    | none, none => do
      let (whole, rest) ← decimal? unsigned
      afterWhole (cs.head? = some '-') whole rest

/-! ## Dates and times -/

/-- A number of exactly so many digits within bounds, and what follows. -/
def field (width low high : Nat) (cs : List Char) : Option (Nat × List Char) :=
  let digits := cs.take width
  let n := valueOf 10 digits
  if digits.length = width ∧ digits.all (isDigit 10) ∧ low ≤ n ∧ n ≤ high then
    some (n, cs.drop width)
  else none

/-- The character, and what follows. -/
def sign (c : Char) : List Char → Option (List Char)
  | d :: cs => if d = c then some cs else none
  | [] => none

/-- The number of days of a month. -/
def daysIn (year month : Nat) : Nat :=
  if month = 2 then
    if year % 4 = 0 ∧ (year % 100 ≠ 0 ∨ year % 400 = 0) then 29 else 28
  else if month = 4 ∨ month = 6 ∨ month = 9 ∨ month = 11 then 30
  else 31

/-- The characters after a date. -/
def date? (cs : List Char) : Option (List Char) := do
  let (year, rest) ← field 4 0 9999 cs
  let (month, rest) ← field 2 1 12 (← sign '-' rest)
  let (_, rest) ← field 2 1 (daysIn year month) (← sign '-' rest)
  pure rest

/-- The characters after a time of day. -/
def time? (cs : List Char) : Option (List Char) := do
  let (_, rest) ← field 2 0 23 cs
  let (_, rest) ← field 2 0 59 (← sign ':' rest)
  let (_, rest) ← field 2 0 60 (← sign ':' rest)
  match rest with
  | '.' :: c :: after =>
    if isDigit 10 c then pure (after.dropWhile (isDigit 10)) else pure rest
  | _ => pure rest

/-- The characters after the offset of a time zone, if there is one. -/
def offset (cs : List Char) : Option (List Char) :=
  match cs with
  | c :: rest =>
    if c = 'Z' ∨ c = 'z' then some rest
    else if c = '+' ∨ c = '-' then do
      let (_, rest) ← field 2 0 23 rest
      let (_, rest) ← field 2 0 59 (← sign ':' rest)
      pure rest
    else some cs
  | [] => some cs

/-- The characters after the time that follows a date, if there is one. -/
def timeOfDate (cs : List Char) : Option (List Char) :=
  match cs with
  | c :: rest =>
    if c = 'T' ∨ c = 't' ∨ c = ' ' then
      match time? rest with
      | some rest => offset rest
      | none => some cs
    else some cs
  | [] => some cs

/-- A date, a time, or both. -/
def moment (cs : List Char) : Option (Value × List Char) := do
  let rest ← match date? cs with
    | some rest => timeOfDate rest
    | none => time? cs
  let text := String.ofList (cs.take (cs.length - rest.length))
  pure (.table [("moment", .text text)], rest)

end SoloScreen.Config.Toml
