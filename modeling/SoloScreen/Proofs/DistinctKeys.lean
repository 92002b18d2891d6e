import Mathlib.Data.List.Nodup
import SoloScreen.Config.Toml.Document

/-!
# No key stands twice

Layers are laid on each other entry by entry, so it matters that no table in them has a key twice.
Tables of a TOML document have none, however they were put together from headers and dotted keys.

* `Value.Distinct`: no table in a value has a key twice.
* `Toml.Entries.Distinct.update`: a change deep inside keeps this if it keeps it there.
* `Toml.value_distinct`: what is written as a value.
* `Toml.read?_distinct`: what a document says is a table, and no table in it has a key twice.
-/

namespace SoloScreen.Config

/-- No table in a value has a key twice. -/
inductive Value.Distinct : Value → Prop
  | text (string : String) : Distinct (.text string)
  | character (c : Char) : Distinct (.character c)
  | boolean (b : Bool) : Distinct (.boolean b)
  | integer (n : Int) : Distinct (.integer n)
  | real : Distinct .real
  | list {items : List Value} (members : ∀ item ∈ items, Distinct item) : Distinct (.list items)
  | table {entries : List (String × Value)} (keys : (entries.map Prod.fst).Nodup)
      (members : ∀ entry ∈ entries, Distinct entry.2) : Distinct (.table entries)

namespace Toml

/-- No table in a part of a document has a key twice. -/
inductive Item.Distinct : Item → Prop
  /-- A value is one as a whole; nothing is added to it later. -/
  | value {leaf : Value} (distinct : leaf.Distinct) : Distinct (.value leaf)
  /-- A table that later lines may still add to. How it was made, by a header or by a dotted key,
  does not matter. -/
  | table {implicit dotted : Bool} {entries : List (String × Item)}
      (keys : (entries.map Prod.fst).Nodup) (members : ∀ entry ∈ entries, Distinct entry.2) :
      Distinct (.table implicit dotted entries)
  /-- A list of tables, each with its own keys. -/
  | tables {elements : List Item} (members : ∀ element ∈ elements, Distinct element) :
      Distinct (.tables elements)

namespace Item

/-- The entries are converted one by one. The definition is a recursion next to that of `toValue`; a
`List.map` has the lemmas about membership that the induction below needs. -/
theorem toValues_eq_map (entries : List (String × Item)) :
    toValues entries = entries.map fun entry => (entry.1, entry.2.toValue) := by
  induction entries with
  | nil => rfl
  | cons entry rest ih =>
    rw [toValues, ih, toEntry.eq_def]
    rfl

/-- The same for the tables of a list. -/
theorem toList_eq_map (elements : List Item) : toList elements = elements.map toValue := by
  induction elements with
  | nil => rfl
  | cons element rest ih =>
    rw [toList, ih]
    rfl

/-- What a part of a document says has the keys of that part, so none of them stands twice. The
induction is on `Distinct`, one case for each kind of part. -/
theorem Distinct.toValue {item : Item} (h : item.Distinct) : item.toValue.Distinct := by
  induction h with
  | value distinct =>
    unfold Item.toValue
    exact distinct
  | table keys _ ih =>
    unfold Item.toValue
    rw [toValues_eq_map]
    refine .table ?_ fun said hsaid => ?_
    · rw [List.map_map]
      exact keys
    · obtain ⟨entry, hentry, rfl⟩ := List.mem_map.mp hsaid
      exact ih entry hentry
  | tables _ ih =>
    unfold Item.toValue
    rw [toList_eq_map]
    refine .list fun said hsaid => ?_
    obtain ⟨element, helement, rfl⟩ := List.mem_map.mp hsaid
    exact ih element helement

end Item

/-! ## Entries -/

namespace Entries

/-- No table in the entries has a key twice, and neither have they. -/
structure Distinct (entries : Entries) : Prop where
  /-- The keys of the entries themselves. -/
  keys : (entries.map Prod.fst).Nodup
  /-- And those of the tables under them. -/
  members : ∀ entry ∈ entries, entry.2.Distinct

variable {entries : Entries} {key : String} {item : Item}

/-- A table begins without entries. -/
theorem distinct_nil : Distinct [] := ⟨.nil, by simp⟩

/-- Entries put into a table, whatever the document remembers about how the table was written. -/
theorem Distinct.asTable (h : Distinct entries) (implicit dotted : Bool) :
    (Item.table implicit dotted entries).Distinct := .table h.keys h.members

/-- And taken out of it again. -/
theorem distinct_of_item {implicit dotted : Bool}
    (h : (Item.table implicit dotted entries).Distinct) : Distinct entries := by
  cases h with
  | table keys members => exact ⟨keys, members⟩

/-- An entry found under a key has no key twice inside, so a reader may go on into it. -/
theorem Distinct.found (h : Distinct entries) (hfind : Table.find? key entries = some item) :
    item.Distinct := h.members (key, item) (Table.mem_of_find? hfind)

/-- Which keys there are after one has been set. A key that was there stays where it was. -/
theorem keys_set (key : String) (item : Item) (entries : Entries) :
    (set key item entries).map Prod.fst =
      if key ∈ entries.map Prod.fst then entries.map Prod.fst
      else entries.map Prod.fst ++ [key] := by
  induction entries with
  | nil => rfl
  | cons entry rest ih =>
    obtain ⟨other, old⟩ := entry
    by_cases hsame : other = key
    · simp [set, hsame]
    · have hother : ¬ key = other := fun h => hsame h.symm
      simp only [set, hsame, if_false, List.map_cons, ih, List.mem_cons, hother, false_or]
      split <;> rfl

/-- The entries after one has been set: that one, and others that were there before. The one that it
replaces is gone, but nothing here depends on it. -/
theorem mem_set {entry : String × Item} (h : entry ∈ set key item entries) :
    entry = (key, item) ∨ entry ∈ entries := by
  induction entries with
  | nil => exact .inl (List.mem_singleton.mp h)
  | cons first rest ih =>
    obtain ⟨other, old⟩ := first
    unfold set at h
    split at h
    · exact (List.mem_cons.mp h).imp_right (List.mem_cons_of_mem _)
    · rcases List.mem_cons.mp h with rfl | hmem
      · exact .inr List.mem_cons_self
      · exact (ih hmem).imp_right (List.mem_cons_of_mem _)

/-- A new key comes last. -/
theorem set_of_find?_eq_none (h : Table.find? key entries = none) :
    set key item entries = entries ++ [(key, item)] := by
  induction entries with
  | nil => rfl
  | cons first rest ih =>
    obtain ⟨other, old⟩ := first
    by_cases hsame : other = key
    · simp [Table.find?, hsame] at h
    · simp only [Table.find?, hsame, if_false] at h
      simp [set, hsame, ih h]

/-- Setting a key replaces or adds an entry, and neither makes a key stand twice. -/
theorem Distinct.set (h : Distinct entries) (hitem : item.Distinct) :
    Distinct (entries.set key item) where
  keys := by
    rw [keys_set]
    split
    · exact h.keys
    · rename_i hnew
      rw [← List.concat_eq_append]
      exact h.keys.concat hnew
  members entry hentry := by
    rcases mem_set hentry with rfl | hmem
    · exact hitem
    · exact h.members entry hmem

/-- Some places of the reader append an entry instead of setting it. They have looked for the key
before, and then appending does what setting does. -/
theorem Distinct.append (h : Distinct entries) (hitem : item.Distinct)
    (hnew : Table.find? key entries = none) : Distinct (entries ++ [(key, item)]) := by
  rw [← set_of_find?_eq_none hnew]
  exact h.set hitem

/-- A change of the table that a path leads to keeps keys distinct everywhere if it keeps them
distinct there. -/
theorem Distinct.update {dotted : Bool} {change : Bool → Entries → Option Entries}
    (hchange : ∀ {here entries changed}, Distinct entries → change here entries = some changed →
      Distinct changed)
    (path : List String) {here : Bool} {updated : Entries} (h : Distinct entries)
    (hu : update dotted change path here entries = some updated) : Distinct updated := by
  induction path generalizing here entries updated with
  | nil => exact hchange h hu
  | cons key path ih =>
    -- no such key yet, a table under it, a list of tables under it, or something else
    unfold Entries.update at hu
    split at hu
    · rename_i hnew
      obtain ⟨inner, hinner, hdone⟩ := Option.bind_eq_some_iff.mp hu
      obtain rfl := Option.some.inj hdone
      exact h.append ((ih distinct_nil hinner).asTable _ _) hnew
    · rename_i hfind
      split at hu
      · cases hu
      · obtain ⟨inner, hinner, hdone⟩ := Option.bind_eq_some_iff.mp hu
        obtain rfl := Option.some.inj hdone
        exact h.set ((ih (distinct_of_item (h.found hfind)) hinner).asTable _ _)
    · rename_i elements hfind
      split at hu
      · rename_i hlast
        obtain ⟨inner, hinner, hdone⟩ := Option.bind_eq_some_iff.mp hu
        obtain rfl := Option.some.inj hdone
        have helements : ∀ element ∈ elements, element.Distinct := by
          cases h.found hfind with
          | tables members => exact members
        have hold := distinct_of_item (helements _ (List.mem_of_getLast? hlast))
        refine h.set (.tables fun element helement => ?_)
        rcases List.mem_append.mp helement with hmem | hmem
        · exact helements element (List.dropLast_subset _ hmem)
        · rw [List.mem_singleton.mp hmem]
          exact (ih hold hinner).asTable _ _
      · cases hu
    · cases hu

/-- A key with its value is refused if the key is taken, and added at the end of its table
otherwise. -/
theorem Distinct.addValue {path : List String} {leaf : Value} {added : Entries}
    (h : Distinct entries) (hleaf : leaf.Distinct)
    (ha : addValue path key leaf entries = some added) : Distinct added := by
  refine h.update (fun {_ entries changed} hentries hchanged => ?_) path ha
  split at hchanged
  · cases hchanged
  · rename_i hfree
    obtain rfl := Option.some.inj hchanged
    exact hentries.append (.value hleaf) (Option.not_isSome_iff_eq_none.mp fun hsome =>
      hfree (.inr hsome))

end Entries

/-! ## Values -/

/-- Digits in another base are a whole number, if anything. -/
theorem basedInteger_distinct {base : Nat} {cs rest : List Char} {leaf : Value}
    (h : basedInteger base cs = some (leaf, rest)) : leaf.Distinct := by
  obtain ⟨⟨digits, after⟩, -, hvalue⟩ := Option.bind_eq_some_iff.mp h
  dsimp only at hvalue
  split at hvalue
  · obtain ⟨rfl, -⟩ := Prod.mk.inj (Option.some.inj hvalue)
    exact .integer _
  · cases hvalue

/-- After the whole part of a number come a fraction, an exponent or nothing, and none of the
results has keys. -/
theorem afterWhole_distinct {minus : Bool} {whole cs rest : List Char} {leaf : Value}
    (h : afterWhole minus whole cs = some (leaf, rest)) : leaf.Distinct := by
  unfold afterWhole at h
  dsimp only at h
  split at h
  · split at h
    · cases h
    · obtain ⟨rfl, -⟩ := Prod.mk.inj (Option.some.inj h)
      exact .real
  · split at h
    · cases h
    · obtain ⟨rfl, -⟩ := Prod.mk.inj (Option.some.inj h)
      exact .real
  · split at h <;> split at h
    · obtain ⟨rfl, -⟩ := Prod.mk.inj (Option.some.inj h)
      exact .integer _
    · cases h
    · obtain ⟨rfl, -⟩ := Prod.mk.inj (Option.some.inj h)
      exact .integer _
    · cases h

/-- A number is a leaf in each of its notations. -/
theorem number_distinct {cs rest : List Char} {leaf : Value}
    (h : number cs = some (leaf, rest)) : leaf.Distinct := by
  unfold number at h
  split at h
  · exact basedInteger_distinct h
  · exact basedInteger_distinct h
  · exact basedInteger_distinct h
  · dsimp only at h
    split at h
    · obtain ⟨rfl, -⟩ := Prod.mk.inj (Option.some.inj h)
      exact .real
    · obtain ⟨rfl, -⟩ := Prod.mk.inj (Option.some.inj h)
      exact .real
    · obtain ⟨⟨whole, after⟩, -, hwhole⟩ := Option.bind_eq_some_iff.mp h
      exact afterWhole_distinct hwhole

/-- A date or a time is a table with a single entry. -/
theorem moment_distinct {cs rest : List Char} {leaf : Value}
    (h : moment cs = some (leaf, rest)) : leaf.Distinct := by
  have hone : ∃ text, leaf = .table [("moment", .text text)] := by
    unfold moment at h
    dsimp only at h
    split at h <;>
      · obtain ⟨after, -, hvalue⟩ := Option.bind_eq_some_iff.mp h
        exact ⟨_, (Prod.mk.inj (Option.some.inj hvalue)).1.symm⟩
  obtain ⟨text, rfl⟩ := hone
  refine .table (List.nodup_singleton _) fun entry hentry => ?_
  rw [List.mem_singleton.mp hentry]
  exact .text _

/-- What is read with so much fuel has no key twice: a value, the items of a list, and the entries
of a table in braces. The three readers call each other. -/
structure ReadsDistinct (fuel : Nat) : Prop where
  /-- The reader of a value. -/
  value : ∀ {depth cs leaf rest}, value depth fuel cs = some (leaf, rest) → leaf.Distinct
  /-- The reader of the items of a list, which are read up to its bracket. -/
  items : ∀ {depth cs leaves rest}, items depth fuel cs = some (leaves, rest) →
    ∀ leaf ∈ leaves, leaf.Distinct
  /-- The reader of a table in braces, which adds to the entries that it is given. -/
  pairs : ∀ {depth entries cs read rest}, Entries.Distinct entries →
    pairs depth fuel entries cs = some (read, rest) → Entries.Distinct read

namespace ReadsDistinct

variable {fuel depth : Nat} {cs rest : List Char}

/-- A value by its first character: a list, a table in braces, a text, a truth value, or a date,
time or number. Only the first two call the readers again. -/
theorem value_succ (ih : ReadsDistinct fuel) {leaf : Value}
    (h : Toml.value depth (fuel + 1) cs = some (leaf, rest)) : leaf.Distinct := by
  unfold Toml.value at h
  split at h
  · -- a list
    split at h
    · cases h
    · obtain ⟨⟨leaves, after⟩, hread, hdone⟩ := Option.map_eq_some_iff.mp h
      obtain ⟨rfl, -⟩ := Prod.mk.inj hdone
      exact .list (ih.items hread)
  · -- a table in braces
    split at h
    · cases h
    · split at h
      · obtain ⟨rfl, -⟩ := Prod.mk.inj (Option.some.inj h)
        exact .table .nil (by simp)
      · obtain ⟨⟨entries, after⟩, hread, hdone⟩ := Option.map_eq_some_iff.mp h
        obtain ⟨rfl, -⟩ := Prod.mk.inj hdone
        exact ((ih.pairs Entries.distinct_nil hread).asTable _ _).toValue
  · split at h
    · obtain ⟨⟨text, after⟩, -, hdone⟩ := Option.map_eq_some_iff.mp h
      obtain ⟨rfl, -⟩ := Prod.mk.inj hdone
      exact .text _
    · split at h
      · obtain ⟨rfl, -⟩ := Prod.mk.inj (Option.some.inj h)
        exact .boolean _
      · obtain ⟨rfl, -⟩ := Prod.mk.inj (Option.some.inj h)
        exact .boolean _
      · rcases Option.or_eq_some_iff.mp h with hmoment | ⟨-, hnumber⟩
        · exact moment_distinct hmoment
        · exact number_distinct hnumber
  · cases h

/-- The items of a list: none, or one with the others behind a comma, or the last one. -/
theorem items_succ (ih : ReadsDistinct fuel) {leaves : List Value}
    (h : Toml.items depth (fuel + 1) cs = some (leaves, rest)) :
    ∀ leaf ∈ leaves, leaf.Distinct := by
  unfold Toml.items at h
  split at h
  · cases h
  · obtain ⟨rfl, -⟩ := Prod.mk.inj (Option.some.inj h)
    simp
  · rename_i hfuel _
    obtain rfl := Nat.succ.inj hfuel
    obtain ⟨⟨item, after⟩, hitem, h⟩ := Option.bind_eq_some_iff.mp h
    dsimp only at h
    split at h
    · obtain ⟨⟨others, after⟩, hothers, hdone⟩ := Option.bind_eq_some_iff.mp h
      obtain ⟨rfl, -⟩ := Prod.mk.inj (Option.some.inj hdone)
      exact List.forall_mem_cons.mpr ⟨ih.value hitem, ih.items hothers⟩
    · obtain ⟨rfl, -⟩ := Prod.mk.inj (Option.some.inj h)
      exact List.forall_mem_singleton.mpr (ih.value hitem)
    · cases h

/-- One key with its value, added to the entries before. The entries are an argument of the reader,
so that they have no key twice is a hypothesis here. -/
theorem pairs_succ (ih : ReadsDistinct fuel) {entries read : Entries}
    (hentries : Entries.Distinct entries)
    (h : Toml.pairs depth (fuel + 1) entries cs = some (read, rest)) : Entries.Distinct read := by
  unfold Toml.pairs at h
  obtain ⟨⟨path, last, afterKey⟩, -, h⟩ := Option.bind_eq_some_iff.mp h
  obtain ⟨afterSign, -, h⟩ := Option.bind_eq_some_iff.mp h
  obtain ⟨⟨item, afterItem⟩, hitem, h⟩ := Option.bind_eq_some_iff.mp h
  obtain ⟨added, hadded, h⟩ := Option.bind_eq_some_iff.mp h
  have hadded : Entries.Distinct added := hentries.addValue (ih.value hitem) hadded
  split at h
  · exact ih.pairs hadded h
  · obtain ⟨rfl, -⟩ := Prod.mk.inj (Option.some.inj h)
    exact hadded
  · cases h

end ReadsDistinct

/-- The induction over the fuel, for the three readers at once. Without fuel nothing is read. -/
theorem readsDistinct (fuel : Nat) : ReadsDistinct fuel := by
  induction fuel with
  | zero =>
    constructor
    · intro depth cs leaf rest h
      unfold value at h
      cases h
    · intro depth cs leaves rest h
      unfold items at h
      cases h
    · intro depth entries cs read rest _ h
      unfold pairs at h
      cases h
  | succ fuel ih => exact ⟨ih.value_succ, ih.items_succ, ih.pairs_succ⟩

/-- What is written as a value has no key twice in any table. -/
theorem value_distinct {depth fuel : Nat} {cs rest : List Char} {leaf : Value}
    (h : value depth fuel cs = some (leaf, rest)) : leaf.Distinct := (readsDistinct fuel).value h

/-! ## Documents -/

namespace Draft

/-- No table read so far has a key twice. -/
structure Distinct (draft : Draft) : Prop where
  /-- In the tables that are complete. -/
  root : Entries.Distinct draft.root
  /-- In the table under the last header, which is not among them yet. -/
  current : Entries.Distinct draft.current

variable {draft : Draft}

/-- Putting the table of the last header in its place, alone or as the next of a list of tables. -/
theorem Distinct.complete (h : draft.Distinct) {root : Entries}
    (hc : draft.complete = some root) : Entries.Distinct root := by
  unfold Draft.complete at hc
  split at hc
  · rw [← Option.some.inj hc]
    exact h.current
  · have htable := h.current.asTable false false
    refine h.root.update (fun {_ entries changed} hentries hchanged => ?_) _ hc
    split at hchanged
    · split at hchanged
      · rename_i elements hfind
        rw [← Option.some.inj hchanged]
        refine hentries.set (.tables fun element helement => ?_)
        rcases List.mem_append.mp helement with hmem | hmem
        · cases hentries.found hfind with
          | tables members => exact members element hmem
        · rw [List.mem_singleton.mp hmem]
          exact htable
      · cases hchanged
    · rw [← Option.some.inj hchanged]
      exact hentries.set htable

/-- The entries that a table has already. -/
theorem distinct_lookup {key : String} (path : List String) {entries : Entries}
    (h : Entries.Distinct entries) : Entries.Distinct (beginTable.lookup key path entries) := by
  induction path generalizing entries with
  | nil =>
    unfold beginTable.lookup
    split
    · rename_i hfind
      exact Entries.distinct_of_item (h.found hfind)
    · exact Entries.distinct_nil
  | cons part path ih =>
    unfold beginTable.lookup
    split
    · rename_i hfind
      exact ih (Entries.distinct_of_item (h.found hfind))
    · rename_i elements hfind
      split
      · rename_i hlast
        cases h.found hfind with
        | tables members =>
          exact ih (Entries.distinct_of_item (members _ (List.mem_of_getLast? hlast)))
      · exact Entries.distinct_nil
    · exact Entries.distinct_nil

/-- A header completes the table before it and begins with the entries that its own table may have
from longer headers that came earlier. -/
theorem Distinct.beginTable (h : draft.Distinct) {path : List String} {key : String}
    {begun : Draft} (hb : draft.beginTable path key = some begun) : begun.Distinct := by
  obtain ⟨root, hroot, hb⟩ := Option.bind_eq_some_iff.mp hb
  obtain ⟨taken, htaken, hb⟩ := Option.bind_eq_some_iff.mp hb
  have htaken : Entries.Distinct taken := by
    refine (h.complete hroot).update (fun {_ entries changed} hentries hchanged => ?_) _ htaken
    split at hchanged
    · rwa [← Option.some.inj hchanged]
    · rwa [← Option.some.inj hchanged]
    · cases hchanged
  rw [← Option.some.inj hb]
  exact ⟨htaken, distinct_lookup path htaken⟩

/-- A header in double brackets begins without entries. The list that the table will be added to is
made here, if there is none. -/
theorem Distinct.beginElement (h : draft.Distinct) {path : List String} {key : String}
    {begun : Draft} (hb : draft.beginElement path key = some begun) : begun.Distinct := by
  obtain ⟨root, hroot, hb⟩ := Option.bind_eq_some_iff.mp hb
  obtain ⟨taken, htaken, hb⟩ := Option.bind_eq_some_iff.mp hb
  have htaken : Entries.Distinct taken := by
    refine (h.complete hroot).update (fun {_ entries changed} hentries hchanged => ?_) _ htaken
    split at hchanged
    · rename_i hnew
      rw [← Option.some.inj hchanged]
      exact hentries.append (.tables (by simp)) hnew
    · rwa [← Option.some.inj hchanged]
    · cases hchanged
  rw [← Option.some.inj hb]
  exact ⟨htaken, Entries.distinct_nil⟩

end Draft

/-- Lines add no key that is there already. -/
theorem lines_distinct (fuel : Nat) {draft read : Draft} {cs : List Char} (h : draft.Distinct)
    (hread : lines fuel draft cs = some read) : read.Distinct := by
  induction fuel generalizing draft cs with
  | zero =>
    -- one case for each kind of line: the end, a comment, two line ends, two headers, a key
    unfold lines at hread
    cases hread
  | succ fuel ih =>
    unfold lines at hread
    split at hread
    · rwa [← Option.some.inj hread]
    · obtain ⟨rest, -, hread⟩ := Option.bind_eq_some_iff.mp hread
      exact ih h hread
    · exact ih h hread
    · exact ih h hread
    · obtain ⟨⟨path, last, afterKey⟩, -, hread⟩ := Option.bind_eq_some_iff.mp hread
      obtain ⟨afterBrackets, -, hread⟩ := Option.bind_eq_some_iff.mp hread
      obtain ⟨rest, -, hread⟩ := Option.bind_eq_some_iff.mp hread
      obtain ⟨begun, hbegun, hread⟩ := Option.bind_eq_some_iff.mp hread
      exact ih (h.beginElement hbegun) hread
    · obtain ⟨⟨path, last, afterKey⟩, -, hread⟩ := Option.bind_eq_some_iff.mp hread
      obtain ⟨afterBracket, -, hread⟩ := Option.bind_eq_some_iff.mp hread
      obtain ⟨rest, -, hread⟩ := Option.bind_eq_some_iff.mp hread
      obtain ⟨begun, hbegun, hread⟩ := Option.bind_eq_some_iff.mp hread
      exact ih (h.beginTable hbegun) hread
    · obtain ⟨⟨path, last, afterKey⟩, -, hread⟩ := Option.bind_eq_some_iff.mp hread
      obtain ⟨afterSign, -, hread⟩ := Option.bind_eq_some_iff.mp hread
      obtain ⟨⟨item, afterItem⟩, hitem, hread⟩ := Option.bind_eq_some_iff.mp hread
      obtain ⟨current, hcurrent, hread⟩ := Option.bind_eq_some_iff.mp hread
      obtain ⟨rest, -, hread⟩ := Option.bind_eq_some_iff.mp hread
      have hcurrent : Entries.Distinct current :=
        h.current.addValue (value_distinct hitem) hcurrent
      have hnext : Draft.Distinct { draft with current } := ⟨h.root, hcurrent⟩
      exact ih hnext hread

/-- A document says a table, and no table in it has a key twice. -/
theorem read?_distinct {text : String} {said : Value} (h : read? text = some said) :
    said.Distinct ∧ ∃ entries, said = .table entries := by
  unfold read? at h
  dsimp only at h
  obtain ⟨draft, hdraft, h⟩ := Option.bind_eq_some_iff.mp h
  obtain ⟨root, hroot, h⟩ := Option.bind_eq_some_iff.mp h
  obtain rfl := Option.some.inj h
  have hdraft := lines_distinct _ ⟨Entries.distinct_nil, Entries.distinct_nil⟩ hdraft
  refine ⟨((hdraft.complete hroot).asTable false false).toValue, Item.toValues root, ?_⟩
  unfold Item.toValue
  rfl

end Toml

end SoloScreen.Config
