import SoloScreen.Config.Escape

/-!
# Quoted texts in TOML

A text stands in double quotes, with escape sequences, or in single quotes, without. Three quotes
instead of one begin a text that may go over several lines. All functions start after the opening
quotes and yield the text and what follows the closing ones.
-/

namespace SoloScreen.Config.Toml

/-- A text of one line in double quotes. -/
def basicText : (fuel : Nat) → List Char → Option (List Char × List Char)
  | 0, _ => none
  | _ + 1, '"' :: cs => some ([], cs)
  | fuel + 1, '\\' :: cs => do
    let (c, rest) ← Escape.read? cs
    (basicText fuel rest).map fun (text, rest) => (c :: text, rest)
  | fuel + 1, c :: cs =>
    if Escape.isPlain c then (basicText fuel cs).map fun (text, rest) => (c :: text, rest) else none
  | _ + 1, [] => none

/-- A text of one line in single quotes. -/
def literalText : List Char → Option (List Char × List Char)
  | '\'' :: cs => some ([], cs)
  | c :: cs =>
    if Escape.isPlain c then (literalText cs).map fun (text, rest) => (c :: text, rest) else none
  | [] => none

/-- Up to two quotes that stand before the closing three belong to the text. -/
def closingQuotes (quote : Char) : List Char → List Char × List Char
  | a :: b :: cs =>
    if a = quote then if b = quote then ([quote, quote], cs) else ([quote], b :: cs)
    else ([], a :: b :: cs)
  | [a] => if a = quote then ([quote], []) else ([], [a])
  | [] => ([], [])

/-- The text begins with three of the quotes. -/
def atThreeQuotes (quote : Char) (cs : List Char) : Bool := cs.take 3 == [quote, quote, quote]

/-- The rest of the line is blank, and the line ends. -/
def atLineEnd (cs : List Char) : Bool :=
  match cs.dropWhile fun c => c == ' ' || c == '\t' with
  | '\n' :: _ => true
  | '\r' :: '\n' :: _ => true
  | _ => false

/-- The characters without blanks and line ends in front. -/
def skipLines : List Char → List Char
  | '\r' :: '\n' :: cs => skipLines cs
  | c :: cs => if c = ' ' ∨ c = '\t' ∨ c = '\n' then skipLines cs else c :: cs
  | [] => []

/-- A text of several lines. A line end is a line feed whatever it was; with `escapes`, a backslash
at the end of a line joins it to the next text. -/
def longText (quote : Char) (escapes : Bool) : (fuel : Nat) → List Char →
    Option (List Char × List Char)
  | 0, _ => none
  | _ + 1, [] => none
  | fuel + 1, c :: cs =>
    if atThreeQuotes quote (c :: cs) then
      some (closingQuotes quote (cs.drop 2))
    else if c = '\n' then
      (longText quote escapes fuel cs).map fun (text, rest) => ('\n' :: text, rest)
    else if c = '\r' then
      match cs with
      | '\n' :: cs => (longText quote escapes fuel cs).map fun (text, rest) => ('\n' :: text, rest)
      | _ => none
    else if escapes && c == '\\' then
      if atLineEnd cs then longText quote escapes fuel (skipLines cs)
      else do
        let (read, rest) ← Escape.read? cs
        (longText quote escapes fuel rest).map fun (text, rest) => (read :: text, rest)
    else if Escape.isPlain c then
      (longText quote escapes fuel cs).map fun (text, rest) => (c :: text, rest)
    else none

/-- The characters without a line end that comes first. -/
def dropFirstLineEnd : List Char → List Char
  | '\n' :: cs => cs
  | '\r' :: '\n' :: cs => cs
  | cs => cs

/-- A quoted text of one line, opening quote included. -/
def shortText : List Char → Option (List Char × List Char)
  | '"' :: cs => basicText (cs.length + 1) cs
  | '\'' :: cs => literalText cs
  | _ => none

/-- A quoted text, opening quotes included. -/
def anyText (cs : List Char) : Option (List Char × List Char) :=
  if atThreeQuotes '"' cs then
    longText '"' true (cs.length + 1) (dropFirstLineEnd (cs.drop 3))
  else if atThreeQuotes '\'' cs then
    longText '\'' false (cs.length + 1) (dropFirstLineEnd (cs.drop 3))
  else shortText cs

end SoloScreen.Config.Toml
