import SoloScreen.Proofs.Naming

/-!
# The list of watched names

Settings are normalized name by name, and a name whose normal form is there already is left out. So
of the names with one normal form the first one decides where it stands, and what is appended to a
list never moves what was in it.

* `Settings.foldl_addTarget_eq`: adding names after others adds their normal forms, but for those
  that are there.
* `Settings.normalTargets_cons`, `Settings.normalTargets_append`: the normal form of a list by its
  parts.
* `Settings.normalTargets_ordered`: the names stand in the order of their first occurrences.
* `Settings.keeps_first_occurrences`: what the normal form of settings watches.
-/

namespace SoloScreen.Settings

/-! ## Lists by their parts -/

/-- The first name alone. -/
theorem addTarget_nil (given : String) : addTarget [] given =
    if ProcessName.normalize given = "" then [] else [ProcessName.normalize given] := by
  rcases addTarget_cases [] given with ⟨hskipped, heq⟩ | ⟨hadded, heq⟩
  · rw [heq, if_pos (hskipped.resolve_right List.not_mem_nil)]
  · rw [heq, if_neg hadded.1]
    rfl

/-- What is added to a list are the normal forms of the names that are not there. -/
theorem foldl_addTarget_eq (names kept : List String) :
    names.foldl addTarget kept = kept ++ (normalTargets names).filter (· ∉ kept) := by
  induction names generalizing kept with
  | nil => exact (List.append_nil kept).symm
  | cons given rest ih =>
    have hnormal : normalTargets (given :: rest) =
        addTarget [] given ++ (normalTargets rest).filter (· ∉ addTarget [] given) := by
      rw [normalTargets, List.foldl_cons, ih]
    rw [List.foldl_cons, ih, hnormal, List.filter_append, List.filter_filter, addTarget_nil,
      ← List.append_assoc]
    -- the name given is empty, or there already, or new
    rcases addTarget_cases kept given with ⟨hskipped, heq⟩ | ⟨⟨hne, hnew⟩, heq⟩
    · rw [heq]
      by_cases hempty : ProcessName.normalize given = ""
      · simp [hempty]
      · have hthere : ProcessName.normalize given ∈ kept := hskipped.resolve_left hempty
        have hsame : ∀ name ∈ normalTargets rest, decide (name ∉ kept) =
            (decide (name ∉ kept) && decide (name ∉ [ProcessName.normalize given])) := by
          intro name _
          by_cases hname : name = ProcessName.normalize given
          · simp [hname, hthere]
          · simp [hname]
        rw [if_neg hempty, List.filter_cons_of_neg (by simp [hthere]), List.filter_nil,
          List.append_nil, List.filter_congr hsame]
    · rw [heq, if_neg hne, List.filter_cons_of_pos (by simp [hnew]), List.filter_nil]
      refine congrArg _ (List.filter_congr fun name _ => ?_)
      simp

/-- Two lists, one behind the other. The second one is normalized by itself, and then the names that
the first one has are taken out. -/
theorem normalTargets_append (names more : List String) : normalTargets (names ++ more) =
    normalTargets names ++ (normalTargets more).filter (· ∉ normalTargets names) := by
  rw [normalTargets, List.foldl_append, foldl_addTarget_eq]
  rfl

/-- The recursion of the normal form on the list given. The function goes through the list from the
left with what it has kept so far; here the first name comes in front of the normal form of the
rest. -/
theorem normalTargets_cons (given : String) (rest : List String) :
    normalTargets (given :: rest) =
      if ProcessName.normalize given = "" then normalTargets rest
      else ProcessName.normalize given ::
        (normalTargets rest).filter (· ≠ ProcessName.normalize given) := by
  rw [normalTargets, List.foldl_cons, foldl_addTarget_eq, addTarget_nil]
  split
  · simp
  · simp

/-! ## First occurrences -/

/-- The position of the first of the names that has a normal form. -/
def firstPosition (names : List String) (name : String) : Nat :=
  names.findIdx fun given => ProcessName.normalize given = name

/-- A name given in front is the first of its normal form. -/
theorem firstPosition_cons_self {given name : String} (h : ProcessName.normalize given = name)
    (rest : List String) : firstPosition (given :: rest) name = 0 := by
  simp [firstPosition, List.findIdx_cons, h]

/-- A name with another normal form in front moves the position by one. -/
theorem firstPosition_cons_of_ne {given name : String} (h : ProcessName.normalize given ≠ name)
    (rest : List String) :
    firstPosition (given :: rest) name = firstPosition rest name + 1 := by
  simp [firstPosition, List.findIdx_cons, h]

/-- The names of a normal list stand in the order of their first occurrences. -/
theorem normalTargets_ordered (names : List String) : (normalTargets names).Pairwise
    fun name later => firstPosition names name < firstPosition names later := by
  induction names with
  | nil => exact List.Pairwise.nil
  | cons given rest ih =>
    -- behind the first name, all positions are one more than they were
    have hshift : ∀ {list : List String}, list.Sublist (normalTargets rest) →
        (∀ name ∈ list, ProcessName.normalize given ≠ name) → list.Pairwise fun name later =>
          firstPosition (given :: rest) name < firstPosition (given :: rest) later := by
      intro list hsub hother
      refine (ih.sublist hsub).imp_of_mem fun hname hlater hlt => ?_
      rw [firstPosition_cons_of_ne (hother _ hname), firstPosition_cons_of_ne (hother _ hlater)]
      exact Nat.succ_lt_succ hlt
    rw [normalTargets_cons]
    split
    · rename_i hempty
      refine hshift (List.Sublist.refl _) fun name hname hsame => ?_
      exact (mem_normalTargets.mp hname).1 (hsame.symm.trans hempty)
    · have hother : ∀ name ∈ (normalTargets rest).filter (· ≠ ProcessName.normalize given),
          ProcessName.normalize given ≠ name := by
        intro name hname hsame
        simp [hsame] at hname
      refine List.Pairwise.cons (fun later hlater => ?_) (hshift List.filter_sublist hother)
      rw [firstPosition_cons_self rfl, firstPosition_cons_of_ne (hother later hlater)]
      exact Nat.succ_pos _

/-- Normal settings watch the first occurrences. Their list has no name twice and no empty one. It
consists of the normal forms of the names given, except for the empty one, in the order in which the
first names with these normal forms were given. Nothing else of the settings is changed. And of two
lists, one behind the other, the normal form is that of the first one, followed by those names in
that of the second one which the first one does not have. -/
theorem keeps_first_occurrences (settings : Settings) (more : List String) :
    settings.normalize.targets.Nodup ∧ "" ∉ settings.normalize.targets ∧
    (∀ name, name ∈ settings.normalize.targets ↔
      name ≠ "" ∧ ∃ given ∈ settings.targets, ProcessName.normalize given = name) ∧
    (settings.normalize.targets.Pairwise fun name later =>
      firstPosition settings.targets name < firstPosition settings.targets later) ∧
    { settings.normalize with targets := settings.targets } = settings ∧
    { settings with targets := settings.targets ++ more }.normalize.targets =
      settings.normalize.targets ++
        ({ settings with targets := more }.normalize.targets.filter
          (· ∉ settings.normalize.targets)) :=
  ⟨foldl_addTarget_nodup List.nodup_nil, fun hempty => (mem_normalTargets.mp hempty).1 rfl,
    fun _ => mem_normalTargets, normalTargets_ordered settings.targets, rfl,
    normalTargets_append settings.targets more⟩

/-- Two names have the same normal form, and a third one has an empty one. -/
example : normalTargets ["Game.exe", "Chrome", "  ", "game", " CHROME.exe "] =
    ["game", "chrome"] := by
  decide +kernel

end SoloScreen.Settings
