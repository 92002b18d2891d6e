import SoloScreen.Table

/-!
# Configuration values

What a source of configuration can say: texts, numbers, truth values, lists and tables. Sources are
layers; `Value.merge` lays one on another.
-/

namespace SoloScreen.Config

/-- A value in a source of configuration. -/
inductive Value where
  | text (text : String)
  /-- A single character in quotes of its own. -/
  | character (c : Char)
  | boolean (value : Bool)
  | integer (value : Int)
  /-- A number with a fraction or an exponent. No setting is one, so which one it is does not
  matter. -/
  | real
  | list (items : List Value)
  | table (entries : List (String × Value))

namespace Value

mutual

/-- Lay a value on another one. Of two tables the entries are merged, anything else is replaced. -/
def merge (below : Value) : Value → Value
  | .table above =>
    match below with
    | .table entries => .table (mergeEntries entries above)
    | _ => .table above
  | above => above

/-- Lay the entries of a table on those of another one. -/
def mergeEntries (below : List (String × Value)) : List (String × Value) → List (String × Value)
  | [] => below
  | entry :: above => mergeEntries (mergeEntry below entry) above

/-- Lay one entry on those of a table. -/
def mergeEntry (below : List (String × Value)) : String × Value → List (String × Value)
  | (key, value) =>
    match Table.find? key below with
    | some old => Table.insert key (old.merge value) below
    | none => Table.insert key value below

end

/-- A value under a path of keys. -/
def nest : List String → Value → Value
  | [], value => value
  | key :: path, value => .table [(key, nest path value)]

end Value

end SoloScreen.Config
