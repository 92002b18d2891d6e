import SoloScreen.Config.Toml.Item
import SoloScreen.Config.Toml.Number
import SoloScreen.Config.Toml.Quoted

/-!
# TOML documents

A document is a sequence of lines: blank lines and comments, headers of tables, and keys with
values. `Toml.read?` gives the table that a document says, or nothing for a text that is not a
document.
-/

namespace SoloScreen.Config.Toml

/-- The characters without spaces and tabs in front. -/
def skipBlanks (cs : List Char) : List Char := cs.dropWhile fun c => c == ' ' || c == '\t'

/-- What follows a line end; the end of the text is one too. -/
def lineEnd? : List Char → Option (List Char)
  | [] => some []
  | '\n' :: cs => some cs
  | '\r' :: '\n' :: cs => some cs
  | _ => none

/-- What follows the rest of a line that holds nothing but blanks and perhaps a comment. -/
def restOfLine? (cs : List Char) : Option (List Char) :=
  match skipBlanks cs with
  | '#' :: cs => lineEnd? (cs.dropWhile Escape.isPlain)
  | cs => lineEnd? cs

/-- The characters without blanks, line ends and comments in front. -/
def skipTrivia (inComment : Bool) : List Char → List Char
  | '\n' :: cs => skipTrivia false cs
  | '\r' :: '\n' :: cs => skipTrivia false cs
  | c :: cs =>
    if inComment then
      if Escape.isPlain c then skipTrivia true cs else c :: cs
    else if c = ' ' ∨ c = '\t' then skipTrivia false cs
    else if c = '#' then skipTrivia true cs
    else c :: cs
  | [] => []

/-! ## Keys -/

/-- A character of a key without quotes. -/
def isBareKeyChar (c : Char) : Bool := c.isAlphanum || c == '_' || c == '-'

/-- One part of a key. -/
def simpleKey (cs : List Char) : Option (String × List Char) :=
  match shortText cs with
  | some (text, rest) => some (String.ofList text, rest)
  | none =>
    let word := cs.takeWhile isBareKeyChar
    if word.isEmpty then none else some (String.ofList word, cs.drop word.length)

/-- The parts of a dotted key, with blanks around each. -/
def keyParts : (fuel : Nat) → List Char → Option (List String × List Char)
  | 0, _ => none
  | fuel + 1, cs => do
    let (part, rest) ← simpleKey (skipBlanks cs)
    match skipBlanks rest with
    | '.' :: rest =>
      let (parts, rest) ← keyParts fuel rest
      pure (part :: parts, rest)
    | rest => pure ([part], rest)

/-- The number of levels to which keys and values may be nested. -/
def nestingLimit : Nat := 80

/-- A key: the path to its table, its last part, and what follows. -/
def key (cs : List Char) : Option (List String × String × List Char) := do
  let (parts, rest) ← keyParts (cs.length + 1) cs
  if nestingLimit ≤ parts.length then none
  else
    let last ← parts.getLast?
    pure (parts.dropLast, last, rest)

/-! ## Values -/

mutual

/-- A value at most `depth` levels deep. -/
def value (depth : Nat) : (fuel : Nat) → List Char → Option (Value × List Char)
  | 0, _ => none
  | fuel + 1, cs =>
    match cs with
    | '[' :: rest =>
      match depth with
      | 0 => none
      | depth + 1 => (items depth fuel (skipTrivia false rest)).map fun (items, rest) =>
        (.list items, rest)
    | '{' :: rest =>
      match depth with
      | 0 => none
      | depth + 1 =>
        match skipBlanks rest with
        | '}' :: rest => some (.table [], rest)
        | rest => (pairs depth fuel [] rest).map fun (entries, rest) =>
          ((Item.table false false entries).toValue, rest)
    | c :: _ =>
      if c = '"' ∨ c = '\'' then
        (anyText cs).map fun (text, rest) => (.text (String.ofList text), rest)
      else match following? ['t', 'r', 'u', 'e'] cs, following? ['f', 'a', 'l', 's', 'e'] cs with
        | some rest, _ => some (.boolean true, rest)
        | _, some rest => some (.boolean false, rest)
        | none, none => (moment cs).or (number cs)
    | [] => none

/-- The items of a list up to its closing bracket; a comma may stand before it. -/
def items (depth : Nat) : (fuel : Nat) → List Char → Option (List Value × List Char)
  | 0, _ => none
  | _ + 1, ']' :: rest => some ([], rest)
  | fuel + 1, cs => do
    let (item, rest) ← value depth fuel cs
    match skipTrivia false rest with
    | ',' :: rest =>
      let (others, rest) ← items depth fuel (skipTrivia false rest)
      pure (item :: others, rest)
    | ']' :: rest => pure ([item], rest)
    | _ => none

/-- The entries of a table in braces, added to those before, up to the closing brace. -/
def pairs (depth : Nat) : (fuel : Nat) → Entries → List Char → Option (Entries × List Char)
  | 0, _, _ => none
  | fuel + 1, entries, cs => do
    let (path, last, rest) ← key cs
    let (item, rest) ← value depth fuel (skipBlanks (← sign '=' rest))
    let entries ← entries.addValue path last item
    match skipBlanks rest with
    | ',' :: rest => pairs depth fuel entries rest
    | '}' :: rest => pure (entries, rest)
    | _ => none

end

/-! ## Lines -/

/-- A document as far as it has been read. The table under the last header is kept apart from the
others until it is complete. -/
structure Draft where
  /-- The complete tables. -/
  root : Entries := []
  /-- The entries under the last header. -/
  current : Entries := []
  /-- The path to the table of the last header and its key; nothing before the first header. -/
  header : Option (List String × String) := none
  /-- The last header stood in double brackets. -/
  repeated : Bool := false

namespace Draft

/-- The document with the table under the last header put in its place. -/
def complete (draft : Draft) : Option Entries :=
  match draft.header with
  | none => some draft.current
  | some (path, key) =>
    let table : Item := .table false false draft.current
    Entries.update false
      (fun _ entries =>
        if draft.repeated then
          match Table.find? key entries with
          | some (.tables elements) =>
            some (Entries.set key (.tables (elements ++ [table])) entries)
          | _ => none
        else some (Entries.set key table entries))
      path false draft.root

/-- Begin the table of a header. It may take up a table that had no header and was not made by a
dotted key. -/
def beginTable (path : List String) (key : String) (draft : Draft) : Option Draft := do
  let root ← draft.complete
  let taken ← Entries.update false
    (fun _ entries =>
      match Table.find? key entries with
      | none => some entries
      | some (.table true false _) => some entries
      | some _ => none)
    path false root
  let mine := lookup path taken
  pure { root := taken, current := mine, header := some (path, key) }
where
  /-- The entries that the table has from tables below it that came earlier. -/
  lookup : List String → Entries → Entries
    | [], entries =>
      match Table.find? key entries with
      | some (.table _ _ inner) => inner
      | _ => []
    | part :: rest, entries =>
      match Table.find? part entries with
      | some (.table _ _ inner) => lookup rest inner
      | some (.tables elements) =>
        match elements.getLast? with
        | some (.table _ _ inner) => lookup rest inner
        | _ => []
      | _ => []

/-- Begin the next table of a list of tables. -/
def beginElement (path : List String) (key : String) (draft : Draft) : Option Draft := do
  let root ← draft.complete
  let root ← Entries.update false
    (fun _ entries =>
      match Table.find? key entries with
      | none => some (entries ++ [(key, .tables [])])
      | some (.tables _) => some entries
      | some _ => none)
    path false root
  pure { root, current := [], header := some (path, key), repeated := true }

end Draft

/-- The lines of a document, read into a draft. -/
def lines : (fuel : Nat) → Draft → List Char → Option Draft
  | 0, _, _ => none
  | fuel + 1, draft, cs =>
    match skipBlanks cs with
    | [] => some draft
    | '#' :: rest => (restOfLine? ('#' :: rest)).bind (lines fuel draft)
    | '\n' :: rest => lines fuel draft rest
    | '\r' :: '\n' :: rest => lines fuel draft rest
    | '[' :: '[' :: rest => do
      let (path, last, rest) ← key rest
      let rest ← restOfLine? (← following? [']', ']'] rest)
      lines fuel (← draft.beginElement path last) rest
    | '[' :: rest => do
      let (path, last, rest) ← key rest
      let rest ← restOfLine? (← sign ']' rest)
      lines fuel (← draft.beginTable path last) rest
    | cs => do
      let (path, last, rest) ← key cs
      let (item, rest) ← value (nestingLimit - 1) (2 * rest.length + 2)
        (skipBlanks (← sign '=' rest))
      let current ← draft.current.addValue path last item
      lines fuel { draft with current } (← restOfLine? rest)

/-- What a document says; nothing for a text that is not a document. A byte order mark may come
first. -/
def read? (text : String) : Option Value := do
  let cs := match text.toList with
    | '\uFEFF' :: cs => cs
    | cs => cs
  let draft ← lines (cs.length + 1) {} cs
  pure (Item.table false false (← draft.complete)).toValue

end SoloScreen.Config.Toml
