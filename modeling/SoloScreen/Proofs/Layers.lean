import Mathlib.Data.List.Induction
import Mathlib.Data.List.Nodup
import SoloScreen.Config.Environment
import SoloScreen.Proofs.DistinctKeys

/-!
# Layers

Where tables alone stand along a path, laying one value on another one leaves under the path what
the upper one has there, laid on what the lower one has; and what the upper one does not have is
left from the lower one.

* `Value.at?_merge`: this, for any path.
* `Environment.layer_at?`: variables with different paths of one length say the values of those
  paths, and nothing else under other paths of that length.
-/

namespace SoloScreen.Config

namespace Value

/-- The value is a table. -/
def IsTable (value : Value) : Prop := ∃ entries, value = .table entries

/-- The value under a path of keys, if there is one. -/
def at? : List String → Value → Option Value
  | [], value => some value
  | key :: path, .table entries => (Table.find? key entries).bind (at? path)
  | _ :: _, _ => none

/-- Only tables stand along a path, as far as there is anything, and none has a key twice. -/
def Leads : List String → Value → Prop
  | [], _ => True
  | key :: path, .table entries => (entries.map Prod.fst).Nodup ∧
      ∀ inner, Table.find? key entries = some inner → inner.Leads path
  | _ :: _, _ => False

/-- A value laid on what is there, if anything. -/
def laid (below : Option Value) (above : Value) : Value :=
  match below with
  | some old => old.merge above
  | none => above

/-! ## Merging tables -/

variable {below above : List (String × Value)}

/-- Two tables are merged entry by entry. In all other cases `merge_eq_above` applies. -/
theorem merge_table (below above : List (String × Value)) :
    (Value.table below).merge (.table above) = .table (mergeEntries below above) := by
  unfold merge
  rfl

/-- Anything but a table on a table replaces what is below. -/
theorem merge_eq_above {old new : Value} (h : ¬ (old.IsTable ∧ new.IsTable)) :
    old.merge new = new := by
  cases new with
  | table above =>
    cases old with
    | table below => exact absurd ⟨⟨below, rfl⟩, above, rfl⟩ h
    | _ => rfl
  | _ => rfl

/-- One entry of the upper table changes what stands under its own key and nothing else. -/
theorem find?_mergeEntry (entry : String × Value) (key : String) :
    Table.find? key (mergeEntry below entry) =
      if entry.1 = key then some (laid (Table.find? key below) entry.2)
      else Table.find? key below := by
  obtain ⟨name, value⟩ := entry
  unfold mergeEntry
  rcases hold : Table.find? name below with _ | old <;>
    · rw [Table.find?_insert]
      split
      · rename_i hsame
        rw [← hsame, hold]
        rfl
      · rfl

/-- An entry whose key is there replaces the entry below, so no key stands twice. -/
theorem keys_mergeEntry_nodup (h : (below.map Prod.fst).Nodup) (entry : String × Value) :
    ((mergeEntry below entry).map Prod.fst).Nodup := by
  obtain ⟨name, value⟩ := entry
  unfold mergeEntry
  split <;> exact Table.keys_insert_nodup h _ _

/-- Under a key of the upper table stands its value, laid on that of the lower one. -/
theorem find?_mergeEntries (habove : (above.map Prod.fst).Nodup) (key : String) :
    Table.find? key (mergeEntries below above) =
      match Table.find? key above with
      | some value => some (laid (Table.find? key below) value)
      | none => Table.find? key below := by
  induction above generalizing below with
  | nil =>
    unfold mergeEntries
    rfl
  | cons entry rest ih =>
    obtain ⟨hnew, hrest⟩ := List.nodup_cons.mp habove
    unfold mergeEntries
    rw [ih hrest, find?_mergeEntry]
    by_cases hsame : entry.1 = key
    · have hnone : Table.find? key rest = none := by
        rw [← Option.not_isSome_iff_eq_none, Table.isSome_find?_iff, ← hsame]
        exact hnew
      simp [hnone, Table.find?, hsame]
    · simp [Table.find?, hsame]

/-- The same for all entries of the upper table, by induction over them. Its own keys need not be
distinct for this. -/
theorem keys_mergeEntries_nodup (h : (below.map Prod.fst).Nodup) :
    ((mergeEntries below above).map Prod.fst).Nodup := by
  induction above generalizing below with
  | nil =>
    unfold mergeEntries
    exact h
  | cons entry rest ih =>
    unfold mergeEntries
    exact ih (keys_mergeEntry_nodup h entry)

/-! ## Paths -/

/-- A path with a first key leads through a table. The cases of the definition in which something
else stands there are all false. -/
theorem leads_cons_iff {key : String} {path : List String} {value : Value} :
    value.Leads (key :: path) ↔ ∃ entries, value = .table entries ∧
      (entries.map Prod.fst).Nodup ∧
        ∀ inner, Table.find? key entries = some inner → inner.Leads path := by
  cases value <;> simp [Leads]

/-- Laying one value on another one, seen under a path along which both have tables. -/
theorem at?_merge (path : List String) {old new : Value} (hold : old.Leads path)
    (hnew : new.Leads path) : (old.merge new).at? path =
      match new.at? path with
      | some value => some (laid (old.at? path) value)
      | none => old.at? path := by
  induction path generalizing old new with
  | nil => rfl
  | cons key path ih =>
    obtain ⟨below, rfl, -, hbelow⟩ := leads_cons_iff.mp hold
    obtain ⟨above, rfl, hkeys, habove⟩ := leads_cons_iff.mp hnew
    rw [merge_table]
    unfold at?
    rw [find?_mergeEntries hkeys]
    rcases hfound : Table.find? key above with _ | inner
    · rfl
    rcases hunder : Table.find? key below with _ | outer
    · show inner.at? path = match inner.at? path with
        | some value => some value
        | none => none
      cases inner.at? path <;> rfl
    · exact ih (hbelow outer hunder) (habove inner hfound)

/-- Merging keeps a path open if both values have tables along it. Without this a third layer could
not be laid on the first two. -/
theorem leads_merge (path : List String) {old new : Value} (hold : old.Leads path)
    (hnew : new.Leads path) : (old.merge new).Leads path := by
  induction path generalizing old new with
  | nil => trivial
  | cons key path ih =>
    obtain ⟨below, rfl, hdistinct, hbelow⟩ := leads_cons_iff.mp hold
    obtain ⟨above, rfl, hkeys, habove⟩ := leads_cons_iff.mp hnew
    rw [merge_table]
    refine leads_cons_iff.mpr ⟨_, rfl, keys_mergeEntries_nodup hdistinct, fun inner hinner => ?_⟩
    rw [find?_mergeEntries hkeys] at hinner
    rcases hfound : Table.find? key above with _ | upper
    · rw [hfound] at hinner
      exact hbelow inner hinner
    · rw [hfound] at hinner
      obtain rfl := Option.some.inj hinner
      rcases hunder : Table.find? key below with _ | outer
      · exact habove upper hfound
      · exact ih (hbelow outer hunder) (habove upper hfound)

/-- A value with distinct keys leads along a path of two keys if it is a table and, under the first
key, there is a table or nothing. -/
theorem leads_pair {value : Value} (h : value.Distinct) (htable : value.IsTable)
    {first : String} (hfirst : ∀ inner, value.at? [first] = some inner → inner.IsTable)
    (second : String) : value.Leads [first, second] := by
  obtain ⟨entries, rfl⟩ := htable
  cases h with
  | table keys members =>
    refine leads_cons_iff.mpr ⟨entries, rfl, keys, fun inner hinner => ?_⟩
    obtain ⟨below, rfl⟩ := hfirst inner (by simp [at?, hinner])
    cases members _ (Table.mem_of_find? hinner) with
    | table keys _ => exact leads_cons_iff.mpr ⟨below, rfl, keys, fun _ _ => trivial⟩

/-! ## A single path -/

/-- A value put under a path can be looked into along any path that is not longer: there are tables
with a single entry down to the value. -/
theorem leads_nest {path other : List String} (h : path.length ≤ other.length) (value : Value) :
    (nest other value).Leads path := by
  induction path generalizing other with
  | nil => trivial
  | cons key path ih =>
    cases other with
    | nil => cases h
    | cons name other =>
      refine leads_cons_iff.mpr ⟨_, rfl, List.nodup_singleton _, fun inner hinner => ?_⟩
      simp only [Table.find?] at hinner
      split at hinner
      · rw [← Option.some.inj hinner]
        exact ih (Nat.le_of_succ_le_succ h)
      · cases hinner

/-- Of the paths that are as long, the value stands under its own and nothing stands under the
others. -/
theorem at?_nest {path other : List String} (h : path.length = other.length) (value : Value) :
    (nest other value).at? path = if other = path then some value else none := by
  induction path generalizing other with
  | nil =>
    cases other with
    | nil => rfl
    | cons name other => cases h
  | cons key path ih =>
    cases other with
    | nil => cases h
    | cons name other =>
      have hrest := ih (Nat.succ.inj h)
      by_cases hsame : name = key
      · simp [nest, at?, Table.find?, hsame, hrest]
      · simp [nest, at?, Table.find?, hsame]

end Value

/-! ## Variables -/

namespace Environment

/-- The value that variables set for a path, by the first of them. -/
def value? (path : List String) (environment : Environment) : Option Value :=
  environment.findSome? fun (name, text) =>
    if path? name = some path then some (Literal.read text) else none

/-- The paths that variables set. -/
def paths (environment : Environment) : List (List String) :=
  environment.filterMap fun entry => path? entry.1

variable {environment : Environment}

/-- The layer of the variables grows at the end: the last variable is laid on the layer of those
before, unless its name says no path. -/
theorem layer_concat (environment : Environment) (name text : String) :
    layer (environment ++ [(name, text)]) =
      match path? name with
      | some path => (layer environment).merge (Value.nest path (Literal.read text))
      | none => layer environment := by
  unfold layer
  rw [List.foldl_append]
  rfl

/-- The paths of the variables, when one comes in addition. -/
theorem paths_concat (environment : Environment) (name text : String) :
    paths (environment ++ [(name, text)]) = paths environment ++ (path? name).toList := by
  unfold paths
  rw [List.filterMap_append]
  cases hpath : path? name <;> simp [hpath]

/-- The value of a path is that of the first variable that sets it, so a new one counts only if
there was none. -/
theorem value?_concat (path : List String) (environment : Environment) (name text : String) :
    value? path (environment ++ [(name, text)]) = (value? path environment).or
      (if path? name = some path then some (Literal.read text) else none) := by
  simp [value?, List.findSome?_append]

/-- A path that no variable has is not set. -/
theorem value?_eq_none {path : List String} (h : path ∉ paths environment) :
    value? path environment = none := by
  refine List.findSome?_eq_none_iff.mpr fun entry hentry => if_neg fun hpath => h ?_
  exact List.mem_filterMap.mpr ⟨entry, hentry, hpath⟩

/-- The layer has tables along any path that is not longer than those of the variables. A shorter
path among them would put a value where a table has to be. -/
theorem layer_leads {path : List String} (hne : path ≠ [])
    (hdepth : ∀ other ∈ paths environment, path.length ≤ other.length) :
    (layer environment).Leads path := by
  induction environment using List.reverseRecOn with
  | nil =>
    obtain ⟨key, rest, rfl⟩ := List.exists_cons_of_ne_nil hne
    exact Value.leads_cons_iff.mpr ⟨[], rfl, .nil, fun _ h => nomatch h⟩
  | append_singleton environment entry ih =>
    obtain ⟨name, text⟩ := entry
    rw [paths_concat, List.forall_mem_append] at hdepth
    rw [layer_concat]
    split
    · rename_i other hother
      refine Value.leads_merge path (ih hdepth.1) (Value.leads_nest ?_ _)
      exact hdepth.2 other (by simp [hother])
    · exact ih hdepth.1

/-- Variables whose paths are all different and of one length say the values of those paths. -/
theorem layer_at? {path : List String} (hne : path ≠ [])
    (hdepth : ∀ other ∈ paths environment, path.length = other.length)
    (hnodup : (paths environment).Nodup) :
    (layer environment).at? path = value? path environment := by
  induction environment using List.reverseRecOn with
  | nil =>
    obtain ⟨key, rest, rfl⟩ := List.exists_cons_of_ne_nil hne
    rfl
  | append_singleton environment entry ih =>
    obtain ⟨name, text⟩ := entry
    rw [paths_concat] at hdepth hnodup
    rw [List.forall_mem_append] at hdepth
    have ih := ih hdepth.1 hnodup.of_append_left
    rw [layer_concat, value?_concat]
    split
    · rename_i other hother
      rw [hother] at hdepth hnodup
      have hlength : path.length = other.length := hdepth.2 other (by simp)
      have hbelow : (layer environment).Leads path :=
        layer_leads hne fun _ hmem => Nat.le_of_eq (hdepth.1 _ hmem)
      have habove := Value.leads_nest (Nat.le_of_eq hlength) (Literal.read text)
      rw [Value.at?_merge path hbelow habove, Value.at?_nest hlength, ih, hother]
      by_cases hsame : other = path
      · subst hsame
        have hnew : other ∉ paths environment := fun hmem =>
          (List.disjoint_of_nodup_append hnodup) hmem (by simp)
        rw [value?_eq_none hnew, if_pos rfl, if_pos rfl]
        rfl
      · rw [if_neg hsame, if_neg fun h => hsame (Option.some.inj h)]
        exact (Option.or_none).symm
    · rename_i hother
      rw [ih, hother]
      exact (Option.or_none).symm

end Environment

end SoloScreen.Config
