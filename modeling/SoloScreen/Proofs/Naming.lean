import SoloScreen.Settings
import SoloScreen.Proofs.LetterCase

/-!
# Names in normal form

A name in normal form consists of small letters and, unless it is empty, begins with a character
that is no blank (`ProcessName.trim_normalize_ne_nil`). So normalizing it once more can only do two
things: remove blanks at its end, and remove the extension. Both can happen, since the extension is
dropped once and after trimming.

* `ProcessName.HasExtension`: the extension can be dropped.
* `ProcessName.normalize_eq_self_iff`: which names in small letters are their own normal form.
* `ProcessName.normalize_normalize_iff`: of which names the normal form is its own normal form.
* `ProcessName.normalize_ofImagePath_iff`: of which programs the name is its own normal form.
* `Settings.mem_normalTargets`, `Settings.normalize_normalize_iff`: what normal settings watch, and
  which settings are as they are after being normalized once.
-/

namespace SoloScreen

open Text

namespace ProcessName

/-! ## The extension -/

/-- The name ends in the extension and is longer. -/
def HasExtension (name : List Char) : Prop := ∃ rest, rest ≠ [] ∧ name = rest ++ extension

/-- The test that `dropExtension` makes: the extension is at the end, and something stands before
it. -/
theorem hasExtension_iff {name : List Char} : HasExtension name ↔
    (extension.isSuffixOf name && extension.length < name.length) = true := by
  rw [Bool.and_eq_true, List.isSuffixOf_iff_suffix, decide_eq_true_eq]
  constructor
  · rintro ⟨rest, hrest, rfl⟩
    have hlength := List.length_pos_of_ne_nil hrest
    refine ⟨List.suffix_append rest extension, ?_⟩
    rw [List.length_append]
    omega
  · rintro ⟨⟨rest, rfl⟩, hlength⟩
    refine ⟨rest, ?_, rfl⟩
    rintro rfl
    exact absurd hlength (lt_irrefl _)

instance (name : List Char) : Decidable (HasExtension name) := decidable_of_iff' _ hasExtension_iff

/-- A name that is longer than the extension loses it, once. -/
@[simp] theorem dropExtension_append {rest : List Char} (h : rest ≠ []) :
    dropExtension (rest ++ extension) = rest := by
  unfold dropExtension
  rw [if_pos (hasExtension_iff.mp ⟨rest, h, rfl⟩), List.length_append, Nat.add_sub_cancel,
    List.take_left]

/-- Any other name is left alone, also one that is nothing but the extension. -/
theorem dropExtension_of_not {name : List Char} (h : ¬ HasExtension name) :
    dropExtension name = name := by
  unfold dropExtension
  rw [if_neg fun hext => h (hasExtension_iff.mpr hext)]

/-- Dropping the extension only cuts at the end, so the first character of a name is kept and no
character is new. -/
theorem dropExtension_begins (name : List Char) : dropExtension name <+: name := by
  by_cases h : HasExtension name
  · obtain ⟨rest, hrest, rfl⟩ := h
    rw [dropExtension_append hrest]
    exact List.prefix_append rest extension
  · simp [dropExtension_of_not h]

/-- The names that `dropExtension` leaves alone. -/
theorem dropExtension_eq_self_iff {name : List Char} :
    dropExtension name = name ↔ ¬ HasExtension name := by
  refine ⟨?_, dropExtension_of_not⟩
  rintro hsame ⟨rest, hrest, rfl⟩
  rw [dropExtension_append hrest] at hsame
  exact absurd (List.self_eq_append_right.mp hsame) (by decide)

/-- Only an empty name becomes empty. -/
theorem dropExtension_eq_nil_iff {name : List Char} : dropExtension name = [] ↔ name = [] := by
  by_cases h : HasExtension name
  · obtain ⟨rest, hrest, rfl⟩ := h
    simp [dropExtension_append hrest, hrest]
  · rw [dropExtension_of_not h]

/-! ## The normal form -/

/-- The three steps of the normal form, on characters. The statements below are about lists, where
the ends of a name can be taken apart. -/
theorem toList_normalize (name : String) :
    (normalize name).toList = dropExtension (lower (trim name.toList)) := String.toList_ofList

/-- The steps for the path of a program. The name is trimmed here, as in `toList_normalize`, but
what is cut off is the last extension of a file name and not `.exe`. -/
theorem toList_ofImagePath (path : String) :
    (ofImagePath path).toList = lower (trim (stem (fileName path.toList))) := String.toList_ofList

/-- A normal form consists of small letters, so normalizing it once more changes no letter. -/
theorem normalize_isSmall (name : String) : ∀ c ∈ (normalize name).toList, IsSmall c := by
  intro c hc
  rw [toList_normalize] at hc
  exact lower_isSmall _ c ((dropExtension_begins _).subset hc)

/-- So does the name of a program. -/
theorem ofImagePath_isSmall (path : String) : ∀ c ∈ (ofImagePath path).toList, IsSmall c := by
  rw [toList_ofImagePath]
  exact lower_isSmall _

/-- The name of a program has no blank at its ends. This is what it has ahead of a normal form,
which can end in a blank once the extension is gone. -/
theorem ofImagePath_isTrimmed (path : String) : IsTrimmed (ofImagePath path).toList := by
  rw [toList_ofImagePath]
  exact (trim_isTrimmed _).lower

/-- Of a name in small letters only blanks and the extension are removed. -/
theorem toList_normalize_of_isSmall {name : String} (h : ∀ c ∈ name.toList, IsSmall c) :
    (normalize name).toList = dropExtension (trim name.toList) := by
  rw [toList_normalize, lower_eq_self fun c hc => h c ((trim_sublist name.toList).subset hc)]

/-- A name in normal form is not made of blanks. -/
theorem trim_normalize_ne_nil {name : String} (h : normalize name ≠ "") :
    trim (normalize name).toList ≠ [] := by
  obtain ⟨rest, hrest⟩ := dropExtension_begins (lower (trim name.toList))
  rw [← toList_normalize] at hrest
  rcases hname : (normalize name).toList with _ | ⟨c, more⟩
  · exact absurd (String.toList_eq_nil_iff.mp hname) h
  · refine trim_ne_nil ((trim_isTrimmed name.toList).lower.first c ?_)
    rw [← hrest, hname]
    rfl

/-- A name in small letters is its own normal form if there is no blank at its ends and it does not
end in the extension. -/
theorem normalize_eq_self_iff {name : String} (h : ∀ c ∈ name.toList, IsSmall c) :
    normalize name = name ↔ IsTrimmed name.toList ∧ ¬ HasExtension name.toList := by
  rw [← String.toList_inj, toList_normalize_of_isSmall h]
  constructor
  · intro hsame
    have htrim : trim name.toList = name.toList := by
      refine (trim_sublist name.toList).eq_of_length_le ?_
      rw [← congrArg List.length hsame]
      exact (dropExtension_begins _).length_le
    rw [htrim] at hsame
    exact ⟨trim_eq_self_iff.mp htrim, dropExtension_eq_self_iff.mp hsame⟩
  · rintro ⟨htrimmed, hext⟩
    rw [trim_eq_self_iff.mpr htrimmed, dropExtension_of_not hext]

/-- The normal form of a name is its own normal form unless the extension was dropped and what is
left ends in a blank or in the extension once more. -/
theorem normalize_normalize_iff (name : String) :
    normalize (normalize name) = normalize name ↔
      ∀ rest, rest ≠ [] → lower (trim name.toList) = rest ++ extension →
        (∀ c ∈ rest.getLast?, isBlank c = false) ∧ ¬ HasExtension rest := by
  rw [normalize_eq_self_iff (normalize_isSmall name), toList_normalize]
  have htrimmed : IsTrimmed (lower (trim name.toList)) := (trim_isTrimmed name.toList).lower
  by_cases hext : HasExtension (lower (trim name.toList))
  · obtain ⟨rest, hrest, hname⟩ := hext
    have hfirst : ∀ c ∈ rest.head?, isBlank c = false := by
      intro c hc
      refine htrimmed.first c ?_
      rw [hname, List.head?_append, Option.mem_def.mp hc]
      rfl
    rw [hname, dropExtension_append hrest]
    constructor
    · rintro ⟨hends, hagain⟩ other hother heq
      obtain rfl : rest = other := List.append_cancel_right heq
      exact ⟨hends.last, hagain⟩
    · intro h
      obtain ⟨hlast, hagain⟩ := h rest hrest rfl
      exact ⟨⟨hfirst, hlast⟩, hagain⟩
  · rw [dropExtension_of_not hext]
    exact iff_of_true ⟨htrimmed, hext⟩ fun rest hrest heq => absurd ⟨rest, hrest, heq⟩ hext

/-- The name of a program is its own normal form unless it ends in the extension. -/
theorem normalize_ofImagePath_iff (path : String) :
    normalize (ofImagePath path) = ofImagePath path ↔ ¬ HasExtension (ofImagePath path).toList := by
  rw [normalize_eq_self_iff (ofImagePath_isSmall path)]
  exact and_iff_right (ofImagePath_isTrimmed path)

end ProcessName

/-! ## Lists of targets -/

namespace Settings

/-- A name is added in normal form, unless that is empty or there already. -/
theorem addTarget_cases (kept : List String) (given : String) :
    ((ProcessName.normalize given = "" ∨ ProcessName.normalize given ∈ kept) ∧
        addTarget kept given = kept) ∨
      (ProcessName.normalize given ≠ "" ∧ ProcessName.normalize given ∉ kept) ∧
        addTarget kept given = kept ++ [ProcessName.normalize given] := by
  unfold addTarget
  dsimp only
  split
  · rename_i hskipped
    exact .inl ⟨hskipped, rfl⟩
  · rename_i hadded
    exact .inr ⟨not_or.mp hadded, rfl⟩

/-- What is on the list after one name: what was on it and the normal form of that name, if not
empty. That the name may be there already makes no difference here. -/
theorem mem_addTarget {kept : List String} {given name : String} :
    name ∈ addTarget kept given ↔
      name ∈ kept ∨ name ≠ "" ∧ ProcessName.normalize given = name := by
  rcases addTarget_cases kept given with ⟨hskipped, heq⟩ | ⟨hadded, heq⟩
  · rw [heq]
    refine ⟨.inl, ?_⟩
    rintro (hkept | ⟨hne, rfl⟩)
    · exact hkept
    · exact hskipped.resolve_left hne
  · rw [heq, List.mem_append, List.mem_singleton]
    refine or_congr_right ⟨?_, fun h => h.2.symm⟩
    rintro rfl
    exact ⟨hadded.1, rfl⟩

/-- The same after several names, by induction over them. `kept` is arbitrary, as it grows from name
to name. -/
theorem mem_foldl_addTarget {names kept : List String} {name : String} :
    name ∈ names.foldl addTarget kept ↔
      name ∈ kept ∨ name ≠ "" ∧ ∃ given ∈ names, ProcessName.normalize given = name := by
  induction names generalizing kept with
  | nil => simp
  | cons given rest ih =>
    rw [List.foldl_cons, ih, mem_addTarget, List.exists_mem_cons_iff, and_or_left, or_assoc]

/-- Normal settings watch the normal forms of the names, without the empty one. -/
theorem mem_normalTargets {names : List String} {name : String} :
    name ∈ normalTargets names ↔
      name ≠ "" ∧ ∃ given ∈ names, ProcessName.normalize given = name := by
  unfold normalTargets
  rw [mem_foldl_addTarget]
  simp

/-- What is added are normal forms, in the order of the names. -/
theorem foldl_addTarget_sublist (names kept : List String) :
    ∃ added, names.foldl addTarget kept = kept ++ added ∧
      added.Sublist (names.map ProcessName.normalize) := by
  induction names generalizing kept with
  | nil => exact ⟨[], (List.append_nil kept).symm, List.Sublist.refl []⟩
  | cons given rest ih =>
    rw [List.foldl_cons, List.map_cons]
    obtain ⟨added, hadded, hsub⟩ := ih (addTarget kept given)
    rcases addTarget_cases kept given with ⟨-, heq⟩ | ⟨-, heq⟩
    · exact ⟨added, by rw [hadded, heq], hsub.cons _⟩
    · exact ⟨ProcessName.normalize given :: added, by rw [hadded, heq, List.append_assoc]; rfl,
        hsub.cons_cons _⟩

/-- A name is never added twice, so a list without repetition stays one. -/
theorem foldl_addTarget_nodup {names kept : List String} (h : kept.Nodup) :
    (names.foldl addTarget kept).Nodup := by
  induction names generalizing kept with
  | nil => exact h
  | cons given rest ih =>
    rw [List.foldl_cons]
    refine ih ?_
    rcases addTarget_cases kept given with ⟨-, heq⟩ | ⟨hadded, heq⟩
    · rwa [heq]
    · rw [heq, List.nodup_append]
      refine ⟨h, List.pairwise_singleton _ _, fun name hmem other hother hsame => hadded.2 ?_⟩
      rwa [← List.mem_singleton.mp hother, ← hsame]

/-- Names in normal form, none empty and none twice, are all added. -/
theorem foldl_addTarget_of_normal {names kept : List String} (hnodup : (kept ++ names).Nodup)
    (hnormal : ∀ name ∈ names, name ≠ "" ∧ ProcessName.normalize name = name) :
    names.foldl addTarget kept = kept ++ names := by
  induction names generalizing kept with
  | nil => exact (List.append_nil kept).symm
  | cons name rest ih =>
    obtain ⟨hne, hsame⟩ := hnormal name List.mem_cons_self
    have hnew : name ∉ kept := fun hmem =>
      (List.nodup_append.mp hnodup).2.2 name hmem name List.mem_cons_self rfl
    have hassoc : kept ++ name :: rest = (kept ++ [name]) ++ rest := by simp
    rw [List.foldl_cons, addTarget, hsame, if_neg (by simp [hne, hnew]), hassoc]
    exact ih (hassoc ▸ hnodup) fun other hother => hnormal other (List.mem_cons_of_mem name hother)

/-- A list without repetition and without the empty name is its own normal form if its names are. -/
theorem normalTargets_eq_self_iff {names : List String} (hnodup : names.Nodup) (hne : "" ∉ names) :
    normalTargets names = names ↔ ∀ name ∈ names, ProcessName.normalize name = name := by
  constructor
  · intro hsame
    obtain ⟨added, hadded, hsub⟩ := foldl_addTarget_sublist names []
    have hnames : names = added := hsame.symm.trans hadded
    rw [← hnames] at hsub
    have hmap : names.map ProcessName.normalize = names.map id := by
      rw [List.map_id]
      exact (hsub.eq_of_length (List.length_map _).symm).symm
    exact fun name hname => List.map_inj_left.mp hmap name hname
  · intro hnormal
    exact foldl_addTarget_of_normal hnodup fun name hname =>
      ⟨fun hempty => hne (hempty ▸ hname), hnormal name hname⟩

/-- Settings normalized once do not change any more if the normal form of no name does. -/
theorem normalize_normalize_iff (settings : Settings) :
    settings.normalize.normalize = settings.normalize ↔ ∀ name ∈ settings.targets,
      ProcessName.normalize (ProcessName.normalize name) = ProcessName.normalize name := by
  have hlists : settings.normalize.normalize = settings.normalize ↔
      normalTargets (normalTargets settings.targets) = normalTargets settings.targets := by
    constructor
    · exact congrArg Settings.targets
    · intro h
      show { settings.normalize with targets := normalTargets (normalTargets settings.targets) } = _
      rw [h]
      rfl
  have hnodup : (normalTargets settings.targets).Nodup := foldl_addTarget_nodup List.nodup_nil
  rw [hlists, normalTargets_eq_self_iff hnodup fun hempty => (mem_normalTargets.mp hempty).1 rfl]
  constructor
  · intro h name hname
    by_cases hempty : ProcessName.normalize name = ""
    · rw [hempty]
      decide +kernel
    · exact h _ (mem_normalTargets.mpr ⟨hempty, name, hname, rfl⟩)
  · intro h name hname
    obtain ⟨-, given, hgiven, rfl⟩ := mem_normalTargets.mp hname
    exact h given hgiven

end Settings

end SoloScreen
