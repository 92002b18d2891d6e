import SoloScreen.Config.Escape
import SoloScreen.Config.Value
import SoloScreen.Text.Blank

/-!
# Short notation of values

The value of an environment variable is written in a short notation: `true`, a number, a text in
double quotes, a character in single quotes, a list in brackets, or a table in braces. Anything
else, and anything that is not well formed, is taken as a text as it stands.
-/

namespace SoloScreen.Config.Literal

/-- A blank between parts of a value. -/
def isSpace (c : Char) : Bool :=
  c == ' ' || c == '\t' || c == '\n' || c == '\r' || c == '\x0c'

/-- The characters without blanks in front. -/
def skipSpace (cs : List Char) : List Char := cs.dropWhile isSpace

/-- A character that ends a word. -/
def isSeparator (c : Char) : Bool := c == ',' || c == '{' || c == '}' || c == '[' || c == ']'

/-- A character of a key without quotes. -/
def isKeyChar (c : Char) : Bool := c.isAlphanum || c == '_' || c == '-'

/-- The value of a word: a number, or the text itself. -/
def ofWord (word : List Char) : Value :=
  if word.contains '.' && Decimal.isReal word then .real
  else match Decimal.unsigned? word with
    | some n => .integer n
    | none =>
      match Decimal.signed? word with
      | some n => .integer n
      | none => .text (String.ofList word)

/-- What stands before the closing quote, and what after it; `escaped` says that a backslash came
before. -/
def splitQuoted (escaped : Bool) : List Char → Option (List Char × List Char)
  | [] => none
  | c :: cs =>
    if !escaped && c == '"' then some ([], cs)
    else (splitQuoted (!escaped && c == '\\') cs).map fun (inside, rest) => (c :: inside, rest)

/-- The text with its escape sequences replaced, at most `fuel` characters long. -/
def unescapeUpTo : (fuel : Nat) → List Char → Option (List Char)
  | _, [] => some []
  | 0, _ => none
  | fuel + 1, c :: cs =>
    if c = '\\' then do
      let (read, rest) ← Escape.read? cs
      (unescapeUpTo fuel rest).map (read :: ·)
    else if Escape.isPlain c then (unescapeUpTo fuel cs).map (c :: ·)
    else none

/-- The text after an opening quote, and what follows the closing one. -/
def quoted (cs : List Char) : Option (String × List Char) := do
  let (inside, rest) ← splitQuoted false cs
  let text ← unescapeUpTo inside.length inside
  pure (String.ofList text, rest)

/-- A key, in quotes or without. -/
def key : List Char → Option (String × List Char)
  | '"' :: cs => quoted cs
  | cs =>
    let word := cs.takeWhile isKeyChar
    if word.isEmpty then none else some (String.ofList word, cs.drop word.length)

/-- The characters after some given ones, if they are there. -/
def after? : (wanted : List Char) → List Char → Option (List Char)
  | [], cs => some cs
  | w :: wanted, c :: cs => if w = c then after? wanted cs else none
  | _ :: _, [] => none

mutual

/-- A value and what follows it, blanks left out. -/
def value : (fuel : Nat) → List Char → Option (Value × List Char)
  | 0, _ => none
  | fuel + 1, cs =>
    (bareValue fuel (skipSpace cs)).map fun (value, rest) => (value, skipSpace rest)

/-- A value at which the text begins. -/
def bareValue : (fuel : Nat) → List Char → Option (Value × List Char)
  | 0, _ => none
  | fuel + 1, cs =>
    match after? ['t', 'r', 'u', 'e'] cs, after? ['f', 'a', 'l', 's', 'e'] cs, cs with
    | some rest, _, _ => some (.boolean true, rest)
    | _, some rest, _ => some (.boolean false, rest)
    | _, _, '{' :: rest => (entries fuel rest).map fun (entries, rest) => (.table entries, rest)
    | _, _, '[' :: rest => (items fuel rest).map fun (items, rest) => (.list items, rest)
    | _, _, '"' :: rest => (quoted rest).map fun (text, rest) => (.text text, rest)
    | _, _, '\'' :: c :: '\'' :: rest => some (.character c, rest)
    | _, _, '\'' :: _ => none
    | _, _, cs =>
      let word := cs.takeWhile (!isSeparator ·)
      some (ofWord (Text.trim word), cs.drop word.length)

/-- The items of a list up to the closing bracket; a comma may stand before it. -/
def items : (fuel : Nat) → List Char → Option (List Value × List Char)
  | 0, _ => none
  | _ + 1, ']' :: rest => some ([], rest)
  | fuel + 1, cs => do
    let (item, rest) ← value fuel cs
    match rest with
    | ',' :: rest =>
      let (others, rest) ← items fuel rest
      pure (item :: others, rest)
    | ']' :: rest => pure ([item], rest)
    | _ => none

/-- The entries of a table up to the closing brace; of two entries with one key the later counts. -/
def entries : (fuel : Nat) → List Char → Option (List (String × Value) × List Char)
  | 0, _ => none
  | _ + 1, '}' :: rest => some ([], rest)
  | fuel + 1, cs => do
    let (name, rest) ← key (skipSpace cs)
    match skipSpace rest with
    | '=' :: rest =>
      let (item, rest) ← value fuel rest
      match rest with
      | ',' :: rest =>
        let (others, rest) ← entries fuel rest
        pure (if (Table.find? name others).isSome then others else (name, item) :: others, rest)
      | '}' :: rest => pure ([(name, item)], rest)
      | _ => none
    | _ => none

end

/-- The value that a text stands for, blanks at its ends left out. Each character is looked at by at
most three of the functions above. -/
def read (text : String) : Value :=
  let cs := Text.trim text.toList
  match value (3 * cs.length + 3) cs with
  | some (value, []) => value
  | _ => .text (String.ofList cs)

end SoloScreen.Config.Literal
