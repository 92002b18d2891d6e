import SoloScreen.Text.LetterTable

/-!
# Lower case

The full lower-case form of a text: every capital becomes its small letter, whatever the script. Two
capitals are special. A dotted capital I becomes two characters, and a capital sigma becomes a final
sigma where it ends a word: some letter comes before it and none after it, accents and the like not
counted.
-/

namespace SoloScreen.Text

/-- The small letter of a character, or the character itself. -/
def smallLetter (c : Char) : Char :=
  let n := c.toNat
  match capitals.find? fun (first, last, step, _) =>
      first ≤ n && n ≤ last && (n - first) % step == 0 with
  | some (_, _, _, shift) => Char.ofNat (n + shift).toNat
  | none => c

/-- The first character that is not ignored is a letter with a case. -/
def startsCased (cs : List Char) : Bool :=
  match cs.dropWhile fun c => inRuns c.toNat ignorableRuns with
  | c :: _ => inRuns c.toNat casedRuns
  | [] => false

/-- A capital sigma between these characters, `before` read backwards, ends a word. -/
def endsWord (before after : List Char) : Bool := startsCased before && !startsCased after

/-- The lower-case form of `c` between the characters `before` (read backwards) and `after`. -/
def lowerAt (before : List Char) (c : Char) (after : List Char) : List Char :=
  if c = 'Σ' then [if endsWord before after then 'ς' else 'σ']
  else if c = 'İ' then ['i', '\u0307']
  else [smallLetter c]

/-- The lower-case form of the characters that follow `before` (read backwards). -/
def lowerAfter (before : List Char) : List Char → List Char
  | [] => []
  | c :: after => lowerAt before c after ++ lowerAfter (c :: before) after

/-- The lower-case form of a text. -/
def lower (cs : List Char) : List Char := lowerAfter [] cs

end SoloScreen.Text
