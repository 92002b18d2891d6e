/-!
# Tables

A finite map kept as a list of pairs, the newest entry first. `insert` drops an older entry of its
key, so a key that was only ever written with `insert` stands in the list once.
-/

namespace SoloScreen

/-- A finite map from `κ` to `α`. -/
abbrev Table (κ α : Type) := List (κ × α)

namespace Table

variable {κ α : Type} [DecidableEq κ]

/-- The value of a key, taken from its newest entry. -/
def find? (k : κ) : Table κ α → Option α
  | [] => none
  | (j, a) :: rest => if j = k then some a else find? k rest

/-- The table without a key. -/
def erase (k : κ) (t : Table κ α) : Table κ α := t.filter (·.1 ≠ k)

/-- The table with a key set to a value. -/
def insert (k : κ) (a : α) (t : Table κ α) : Table κ α := (k, a) :: erase k t

/-- The table with only those keys that pass a test. -/
def restrict (keep : κ → Bool) (t : Table κ α) : Table κ α := t.filter (keep ·.1)

/-! ## What the operations do to `find?` -/

/-- Nothing is found in the empty table. -/
@[simp] theorem find?_nil (k : κ) : find? k ([] : Table κ α) = none := rfl

/-- What is found stands in the table. -/
theorem mem_of_find? {k : κ} {a : α} {t : Table κ α} (h : find? k t = some a) : (k, a) ∈ t := by
  induction t with
  | nil => simp at h
  | cons entry rest ih =>
    obtain ⟨j, first⟩ := entry
    by_cases hj : j = k
    · simp only [find?, hj, if_true, Option.some.injEq] at h
      simp [hj, h]
    · simp only [find?, hj, if_false] at h
      exact List.mem_cons_of_mem _ (ih h)

/-- Something is found of the keys alone. -/
theorem isSome_find?_iff {k : κ} {t : Table κ α} : (find? k t).isSome ↔ k ∈ t.map Prod.fst := by
  induction t with
  | nil => simp
  | cons entry rest ih =>
    obtain ⟨j, a⟩ := entry
    by_cases hj : j = k
    · simp [find?, hj]
    · have hj' : ¬ k = j := fun e => hj e.symm
      simpa [find?, hj, hj'] using ih

/-- Changing all values by a function changes what is found in the same way. -/
theorem find?_map {β : Type} (f : α → β) (k : κ) (t : Table κ α) :
    find? k (t.map (Prod.map id f)) = (find? k t).map f := by
  induction t with
  | nil => rfl
  | cons entry rest ih =>
    simp only [List.map_cons, Prod.map_fst, id_eq, find?, Prod.map_snd, ih]
    split <;> rfl

/-- A restricted table knows a key only if the key passes the test. -/
theorem find?_restrict (keep : κ → Bool) (k : κ) (t : Table κ α) :
    find? k (restrict keep t) = if keep k then find? k t else none := by
  induction t with
  | nil => simp [restrict]
  | cons entry rest ih =>
    obtain ⟨j, a⟩ := entry
    simp only [restrict] at ih
    by_cases hj : keep j <;> by_cases hk : j = k <;> simp_all [restrict, find?]

/-- A key that was taken out is not found any more; the others are found as before. -/
theorem find?_erase (k j : κ) (t : Table κ α) :
    find? j (erase k t) = if j = k then none else find? j t := by
  have h := find?_restrict (fun i => decide (i ≠ k)) j t
  by_cases hj : j = k <;> simpa [restrict, erase, hj] using h

/-- The entry set last is the one that is found under its key. -/
theorem find?_insert (k j : κ) (a : α) (t : Table κ α) :
    find? j (insert k a t) = if k = j then some a else find? j t := by
  by_cases h : k = j
  · simp [insert, find?, h]
  · have h' : ¬ j = k := fun e => h e.symm
    simp [insert, find?, find?_erase, h, h']

/-! ## What they do to the keys -/

/-- A table in which no key stands twice stays one when a key is set. -/
theorem keys_insert_nodup {t : Table κ α} (h : (t.map Prod.fst).Nodup) (k : κ) (a : α) :
    ((insert k a t).map Prod.fst).Nodup := by
  refine List.nodup_cons.mpr ⟨fun hmem => ?_, h.sublist (List.filter_sublist.map _)⟩
  have hfound := isSome_find?_iff.mpr hmem
  rw [find?_erase, if_pos rfl] at hfound
  cases hfound

end Table

end SoloScreen
