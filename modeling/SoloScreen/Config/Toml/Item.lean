import SoloScreen.Config.Value

/-!
# Tables of a TOML document

While a document is read, every table knows how it came about, because that decides what may still
be added to it: a table that was only named on the way to another one may still get a header of its
own; one that was made by a dotted key may be extended by dotted keys alone; a table written as a
value may not be extended at all.
-/

namespace SoloScreen.Config.Toml

/-- A part of a document. -/
inductive Item where
  /-- A value; a table written in braces is one. -/
  | value (value : Value)
  /-- A table. It is `implicit` if no header has named it itself, and `dotted` if a dotted key made
  it. -/
  | table (implicit dotted : Bool) (entries : List (String × Item))
  /-- A list of tables, each with a header in double brackets. -/
  | tables (elements : List Item)

namespace Item

mutual

/-- What an item says. -/
def toValue : Item → Value
  | .value leaf => leaf
  | .table _ _ entries => .table (toValues entries)
  | .tables elements => .list (toList elements)

/-- What the entries of a table say. -/
def toValues : List (String × Item) → List (String × Value)
  | [] => []
  | entry :: rest => toEntry entry :: toValues rest

/-- What an entry says. -/
def toEntry : String × Item → String × Value
  | (key, item) => (key, item.toValue)

/-- What the elements of a list say. -/
def toList : List Item → List Value
  | [] => []
  | item :: rest => item.toValue :: toList rest

end

end Item

/-- The entries of a table. -/
abbrev Entries := List (String × Item)

namespace Entries

/-- The entries with a key set; a new key comes last. -/
def set (key : String) (item : Item) : Entries → Entries
  | [] => [(key, item)]
  | (other, old) :: rest =>
    if other = key then (key, item) :: rest else (other, old) :: set key item rest

/-- A change of the table that a path leads to, where `change` is given whether that table is
dotted. Tables that are missing on the way are made. A dotted path does not lead through tables with
a header; a value ends any path; a list of tables stands for its last element. -/
def update (dotted : Bool) (change : (dotted : Bool) → Entries → Option Entries) :
    (path : List String) → (here : Bool) → Entries → Option Entries
  | [], here, entries => change here entries
  | key :: path, _, entries =>
    match Table.find? key entries with
    | none => do
      let inner ← update dotted change path dotted []
      pure (entries ++ [(key, .table true dotted inner)])
    | some (.table implicit wasDotted old) =>
      if dotted && !implicit then none
      else do
        let inner ← update dotted change path wasDotted old
        pure (set key (.table implicit wasDotted inner) entries)
    | some (.tables elements) =>
      match elements.getLast? with
      | some (.table implicit wasDotted old) => do
        let inner ← update dotted change path wasDotted old
        pure (set key (.tables (elements.dropLast ++ [.table implicit wasDotted inner])) entries)
      | _ => none
    | some (.value _) => none

/-- Add a value under a dotted key. The last table on the way has to be one that dotted keys may
extend, and the key has to be new. -/
def addValue (path : List String) (key : String) (value : Value) (entries : Entries) :
    Option Entries :=
  update true
    (fun dotted entries =>
      if dotted = path.isEmpty ∨ (Table.find? key entries).isSome then none
      else some (entries ++ [(key, .value value)]))
    path false entries

end Entries

end SoloScreen.Config.Toml
