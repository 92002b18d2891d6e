import SoloScreen.Proofs.Naming

/-!
# Programs named by their file

The user may name a program by its file, with the extension. The path of the program is cut before
it is brought into lower case, and the user's entry afterwards. So the two agree unless the cut
moves the end of a word: a capital sigma that ends the name becomes a final sigma there, but in
front of the extension it does not.

* `Text.EndsInFinalSigma`: what follows a text decides the form of a sigma in it.
* `Text.exists_lowerAfter_append`: the lower-case form of a text in front of a letter.
* `ProcessName.file_name_matches_iff`: which files are known by their names.
-/

namespace SoloScreen

namespace Text

/-! ## The end of a word -/

/-- The character does not count when the end of a word is looked for. -/
def isIgnorable (c : Char) : Bool := inRuns c.toNat ignorableRuns

/-- The text, which follows `before` (read backwards), has a capital sigma with a letter in front of
it and nothing behind it that counts. -/
def FinalSigmaAfter (before cs : List Char) : Prop :=
  ∃ start rest, cs = start ++ 'Σ' :: rest ∧ startsCased (start.reverse ++ before) = true ∧
    ∀ c ∈ rest, isIgnorable c = true

/-- A capital sigma ends the text, with a letter in front of it and at most ignored characters
behind it. -/
def EndsInFinalSigma (cs : List Char) : Prop := FinalSigmaAfter [] cs

/-- An empty text has no sigma. -/
theorem not_finalSigmaAfter_nil (before : List Char) : ¬ FinalSigmaAfter before [] := by
  rintro ⟨start, rest, hnil, -⟩
  exact absurd hnil.symm (by simp)

/-- `FinalSigmaAfter` by the recursion of `lowerAfter`: the sigma is the first character, with what
has been read already in front of it, or it comes later. -/
theorem finalSigmaAfter_cons {before after : List Char} {c : Char} :
    FinalSigmaAfter before (c :: after) ↔
      (c = 'Σ' ∧ startsCased before = true ∧ ∀ d ∈ after, isIgnorable d = true) ∨
        FinalSigmaAfter (c :: before) after := by
  constructor
  · rintro ⟨_ | ⟨d, start⟩, rest, hcs, hbefore, hrest⟩
    · obtain ⟨rfl, rfl⟩ := List.cons.inj hcs
      exact .inl ⟨rfl, hbefore, hrest⟩
    · obtain ⟨rfl, rfl⟩ := List.cons.inj hcs
      refine .inr ⟨start, rest, rfl, ?_, hrest⟩
      simpa using hbefore
  · rintro (⟨rfl, hbefore, hrest⟩ | ⟨start, rest, rfl, hbefore, hrest⟩)
    · exact ⟨[], after, rfl, hbefore, hrest⟩
    · exact ⟨c :: start, rest, rfl, by simpa using hbefore, hrest⟩

/-- Read backwards, the first character that counts is the sigma. -/
theorem endsInFinalSigma_iff {cs : List Char} : EndsInFinalSigma cs ↔
    (cs.reverse.dropWhile isIgnorable).head? = some 'Σ' ∧
      startsCased (cs.reverse.dropWhile isIgnorable).tail = true := by
  constructor
  · rintro ⟨start, rest, rfl, hbefore, hrest⟩
    have hdrop : (start ++ 'Σ' :: rest).reverse.dropWhile isIgnorable = 'Σ' :: start.reverse := by
      rw [List.reverse_append, List.reverse_cons, List.append_assoc,
        List.dropWhile_append_of_pos fun c hc => hrest c (List.mem_reverse.mp hc)]
      exact List.dropWhile_cons_of_neg (by decide +kernel)
    rw [hdrop]
    exact ⟨rfl, by simpa using hbefore⟩
  · rintro ⟨hhead, hbefore⟩
    obtain ⟨before, hdrop⟩ := List.head?_eq_some_iff.mp hhead
    rw [hdrop] at hbefore
    have hreverse : cs.reverse.takeWhile isIgnorable ++ 'Σ' :: before = cs.reverse := by
      rw [← hdrop, List.takeWhile_append_dropWhile]
    have hcs := congrArg List.reverse hreverse
    rw [List.reverse_append, List.reverse_cons, List.append_assoc, List.reverse_reverse] at hcs
    refine ⟨before.reverse, (cs.reverse.takeWhile isIgnorable).reverse, hcs.symm, ?_, ?_⟩
    · simpa using hbefore
    · intro c hc
      exact List.all_eq_true.mp List.all_takeWhile c (List.mem_reverse.mp hc)

instance (cs : List Char) : Decidable (EndsInFinalSigma cs) :=
  decidable_of_iff' _ endsInFinalSigma_iff

/-- Only the first character that counts is looked at. -/
theorem startsCased_eq (cs : List Char) : startsCased cs =
    (cs.dropWhile isIgnorable).head?.any fun c => inRuns c.toNat casedRuns := by
  rcases hdrop : cs.dropWhile isIgnorable with _ | ⟨c, rest⟩ <;>
    · unfold isIgnorable at hdrop
      unfold startsCased
      rw [hdrop]
      rfl

/-- No word continues where no character counts. -/
theorem startsCased_of_ignorable {after : List Char} (h : ∀ c ∈ after, isIgnorable c = true) :
    startsCased after = false := by
  rw [startsCased_eq, List.dropWhile_eq_nil_iff.mpr h]
  rfl

/-- Characters that do not count let the question through to what stands behind them. This is how
the extension gets to decide about the last sigma of a name. -/
theorem startsCased_append_of_ignorable {after : List Char} (rest : List Char)
    (h : ∀ c ∈ after, isIgnorable c = true) : startsCased (after ++ rest) = startsCased rest := by
  rw [startsCased_eq, startsCased_eq, List.dropWhile_append_of_pos h]

/-- The first character that counts decides. -/
theorem startsCased_append_of_not_ignorable {after : List Char} (rest : List Char)
    (h : ¬ ∀ c ∈ after, isIgnorable c = true) :
    startsCased (after ++ rest) = startsCased after := by
  obtain ⟨c, more, hdrop⟩ : ∃ c more, after.dropWhile isIgnorable = c :: more :=
    List.exists_cons_of_ne_nil fun hnil => h (List.dropWhile_eq_nil_iff.mp hnil)
  rw [startsCased_eq, startsCased_eq, List.dropWhile_append, hdrop]
  rfl

/-! ## The lower-case form in front of a letter -/

/-- How many characters one becomes does not depend on what follows, as both forms of the small
sigma are one character. -/
theorem length_lowerAt (before after after' : List Char) (c : Char) :
    (lowerAt before c after).length = (lowerAt before c after').length := by
  unfold lowerAt
  split
  · rfl
  · split <;> rfl

/-- Only an empty text becomes empty. -/
theorem lowerAfter_eq_nil_iff {before cs : List Char} : lowerAfter before cs = [] ↔ cs = [] := by
  rcases cs with _ | ⟨c, after⟩
  · exact iff_of_true rfl rfl
  · refine iff_of_false (fun hnil => ?_) (List.cons_ne_nil c after)
    rw [lowerAfter, List.append_eq_nil_iff] at hnil
    exact lowerAt_ne_nil before after c hnil.1

/-- A letter further on changes what a character becomes only if the character is a sigma that ends
a word without it. -/
theorem lowerAt_append_eq_iff {before after rest : List Char} {c : Char}
    (hrest : startsCased rest = true) :
    lowerAt before c (after ++ rest) = lowerAt before c after ↔
      ¬ (c = 'Σ' ∧ startsCased before = true ∧ ∀ d ∈ after, isIgnorable d = true) := by
  by_cases hsigma : c = 'Σ'
  · subst hsigma
    unfold lowerAt endsWord
    rw [if_pos rfl, if_pos rfl]
    -- if nothing that counts stands in between, the letter continues the word; else it is not
    -- looked at
    by_cases hafter : ∀ d ∈ after, isIgnorable d = true
    · rw [startsCased_append_of_ignorable rest hafter, hrest, startsCased_of_ignorable hafter]
      by_cases hbefore : startsCased before = true
      · exact iff_of_false (by simp [hbefore]) fun h => h ⟨rfl, hbefore, hafter⟩
      · exact iff_of_true (by simp [hbefore]) fun h => hbefore h.2.1
    · rw [startsCased_append_of_not_ignorable rest hafter]
      exact iff_of_true rfl fun h => hafter h.2.2
  · refine iff_of_true ?_ fun h => hsigma h.1
    unfold lowerAt
    rw [if_neg hsigma, if_neg hsigma]

/-- In front of a letter the lower-case form of a text has the same length, and it is the same
unless the text ends in a final sigma. -/
theorem exists_lowerAfter_append {rest : List Char} (hrest : startsCased rest = true)
    (before cs : List Char) : ∃ start,
    lowerAfter before (cs ++ rest) = start ++ lowerAfter (cs.reverse ++ before) rest ∧
      start.length = (lowerAfter before cs).length ∧
      (start = lowerAfter before cs ↔ ¬ FinalSigmaAfter before cs) := by
  induction cs generalizing before with
  | nil => exact ⟨[], rfl, rfl, iff_of_true rfl (not_finalSigmaAfter_nil before)⟩
  | cons c after ih =>
    obtain ⟨start, hstart, hlength, hsame⟩ := ih (c :: before)
    have hletter := length_lowerAt before (after ++ rest) after c
    refine ⟨lowerAt before c (after ++ rest) ++ start, ?_, ?_, ?_⟩
    · rw [List.cons_append, lowerAfter, hstart, List.append_assoc, List.reverse_cons,
        List.append_assoc]
      rfl
    · rw [lowerAfter, List.length_append, List.length_append, hletter, hlength]
    · rw [lowerAfter, finalSigmaAfter_cons, not_or, ← lowerAt_append_eq_iff hrest, ← hsame]
      exact ⟨fun h => List.append_inj h hletter, fun h => by rw [h.1, h.2]⟩

end Text

namespace ProcessName

open Text

/-! ## The file of a path -/

/-- What stands after a separator is the file name. -/
theorem fileName_append {directory file : List Char}
    (hdirectory : ∀ c ∈ directory.getLast?, isSeparator c = true)
    (hfile : ∀ c ∈ file, isSeparator c = false) : fileName (directory ++ file) = file := by
  have hstop : directory.reverse.takeWhile (!isSeparator ·) = [] := by
    rcases List.eq_nil_or_concat' directory with rfl | ⟨parent, c, rfl⟩
    · rfl
    · rw [List.reverse_append]
      exact List.takeWhile_cons_of_neg (by simpa using hdirectory c (by simp))
  unfold fileName
  rw [List.reverse_append, List.takeWhile_append_of_pos (by simpa using hfile), hstop,
    List.append_nil, List.reverse_reverse]

/-- The last dot separates the stem, unless it comes first. -/
theorem stem_append {name ending : List Char} (hname : name ≠ []) (hending : '.' ∉ ending) :
    stem (name ++ '.' :: ending) = name := by
  have hdots : ∀ c ∈ ending.reverse, (c != '.') = true := by
    intro c hc
    rw [bne_iff_ne]
    rintro rfl
    exact hending (List.mem_reverse.mp hc)
  have hdrop : (name ++ '.' :: ending).reverse.dropWhile (· != '.') = '.' :: name.reverse := by
    rw [List.reverse_append, List.reverse_cons, List.append_assoc,
      List.dropWhile_append_of_pos hdots]
    rfl
  obtain ⟨c, before, hreverse⟩ := List.exists_cons_of_ne_nil (List.reverse_ne_nil_iff.mpr hname)
  unfold stem
  rw [hdrop, hreverse]
  show (c :: before).reverse = name
  rw [← hreverse, List.reverse_reverse]

/-! ## The extension in either case -/

/-- The extension, each letter capital or small. -/
def IsExtension (suffix : List Char) : Prop :=
  ∃ a b c, (a = 'e' ∨ a = 'E') ∧ (b = 'x' ∨ b = 'X') ∧ (c = 'e' ∨ c = 'E') ∧
    suffix = ['.', a, b, c]

namespace IsExtension

variable {suffix : List Char}

/-- The dot does not count, and after it comes a letter. -/
theorem startsCased (h : IsExtension suffix) : startsCased suffix = true := by
  obtain ⟨a, b, c, rfl | rfl, rfl | rfl, rfl | rfl, rfl⟩ := h <;> decide +kernel

/-- The extension becomes the same four characters after any text. -/
theorem lowerAfter_eq (h : IsExtension suffix) (before : List Char) :
    lowerAfter before suffix = extension := by
  obtain ⟨a, b, c, rfl | rfl, rfl | rfl, rfl | rfl, rfl⟩ := h <;> rfl

/-- What stands behind the dot. -/
theorem exists_letters (h : IsExtension suffix) : ∃ letters, suffix = '.' :: letters ∧
    letters ≠ [] ∧ ∀ c ∈ letters, isBlank c = false ∧ isSeparator c = false ∧ c ≠ '.' := by
  obtain ⟨a, b, c, ha, hb, hc, rfl⟩ := h
  refine ⟨[a, b, c], rfl, by simp, ?_⟩
  simp only [List.mem_cons, List.not_mem_nil, or_false]
  rintro d (rfl | rfl | rfl)
  · rcases ha with rfl | rfl <;> decide
  · rcases hb with rfl | rfl <;> decide
  · rcases hc with rfl | rfl <;> decide

/-- A trimmed text with the extension behind it is trimmed. -/
theorem isTrimmed_append (h : IsExtension suffix) {name : List Char} (hname : name ≠ [])
    (htrimmed : IsTrimmed name) : IsTrimmed (name ++ suffix) := by
  obtain ⟨letters, rfl, hne, hletters⟩ := h.exists_letters
  constructor
  · intro c hc
    refine htrimmed.first c ?_
    rwa [List.head?_append_of_ne_nil name hname] at hc
  · intro c hc
    have hmem : c ∈ letters := by
      rw [List.getLast?_append_of_ne_nil name (by simp), List.getLast?_cons_of_ne_nil hne] at hc
      exact List.mem_of_mem_getLast? hc
    exact (hletters c hmem).1

/-- The file name after a directory, and its stem. -/
theorem stem_fileName (h : IsExtension suffix) {directory name : List Char} (hname : name ≠ [])
    (hdirectory : ∀ c ∈ directory.getLast?, isSeparator c = true)
    (hfile : ∀ c ∈ name, isSeparator c = false) :
    stem (fileName (directory ++ (name ++ suffix))) = name := by
  obtain ⟨letters, rfl, -, hletters⟩ := h.exists_letters
  have hplain : ∀ c ∈ '.' :: letters, isSeparator c = false := by
    intro c hc
    rcases List.mem_cons.mp hc with rfl | hmem
    · rfl
    · exact (hletters c hmem).2.1
  have hdot : '.' ∉ letters := fun hmem => (hletters '.' hmem).2.2 rfl
  rw [fileName_append hdirectory, stem_append hname hdot]
  intro c hc
  exact (List.mem_append.mp hc).elim (hfile c) (hplain c)

end IsExtension

/-- The name of a program whose file has the extension. -/
theorem toList_ofImagePath_file {directory name suffix : String} (h : IsExtension suffix.toList)
    (hname : name ≠ "") (hdirectory : ∀ c ∈ directory.toList.getLast?, isSeparator c = true)
    (hfile : ∀ c ∈ name.toList, isSeparator c = false) (htrimmed : IsTrimmed name.toList) :
    (ofImagePath (directory ++ name ++ suffix)).toList = lower name.toList := by
  have hne : name.toList ≠ [] := fun hnil => hname (String.toList_eq_nil_iff.mp hnil)
  rw [toList_ofImagePath, String.toList_append, String.toList_append, List.append_assoc,
    h.stem_fileName hne hdirectory hfile, trim_eq_self_iff.mpr htrimmed]

/-- What is left of a file name in normal form: the name in lower case, unless it ends in a final
sigma. -/
theorem toList_normalize_file {name suffix : String} (h : IsExtension suffix.toList)
    (hname : name ≠ "") (htrimmed : IsTrimmed name.toList) :
    (normalize (name ++ suffix)).toList = lower name.toList ↔
      ¬ EndsInFinalSigma name.toList := by
  have hne : name.toList ≠ [] := fun hnil => hname (String.toList_eq_nil_iff.mp hnil)
  obtain ⟨start, hstart, hlength, hsame⟩ := exists_lowerAfter_append h.startsCased [] name.toList
  have hstartNe : start ≠ [] := by
    rintro rfl
    exact hne (lowerAfter_eq_nil_iff.mp (List.length_eq_zero_iff.mp hlength.symm))
  rw [toList_normalize, String.toList_append,
    trim_eq_self_iff.mpr (h.isTrimmed_append hne htrimmed)]
  unfold lower
  rw [hstart, h.lowerAfter_eq, dropExtension_append hstartNe]
  exact hsame

/-- A program named by its file. Let a file name be given without blanks at its ends, followed by
the extension in any case, in any directory. The name of the program is the lower-case form of the
file name without the extension. The normal form of the file name with the extension is the same,
and settings with that file name among their targets watch the program, if and only if the file name
does not end in a final sigma. -/
theorem file_name_matches_iff {directory name suffix : String} (hname : name ≠ "")
    (hdirectory : ∀ c ∈ directory.toList.getLast?, isSeparator c = true)
    (hfile : ∀ c ∈ name.toList, isSeparator c = false) (htrimmed : IsTrimmed name.toList)
    (hsuffix : IsExtension suffix.toList) :
    ofImagePath (directory ++ name ++ suffix) = String.ofList (lower name.toList) ∧
    (ofImagePath (directory ++ name ++ suffix) = normalize (name ++ suffix) ↔
      ¬ EndsInFinalSigma name.toList) ∧
    (ofImagePath (directory ++ name ++ suffix) ∈ Settings.normalTargets [name ++ suffix] ↔
      ¬ EndsInFinalSigma name.toList) := by
  have hne : name.toList ≠ [] := fun hnil => hname (String.toList_eq_nil_iff.mp hnil)
  have hprogram := toList_ofImagePath_file hsuffix hname hdirectory hfile htrimmed
  have hagree : ofImagePath (directory ++ name ++ suffix) = normalize (name ++ suffix) ↔
      ¬ EndsInFinalSigma name.toList := by
    rw [← toList_normalize_file hsuffix hname htrimmed, ← String.toList_inj, hprogram]
    exact eq_comm
  have hnamed : ofImagePath (directory ++ name ++ suffix) ≠ "" := by
    rw [Ne, ← String.toList_eq_nil_iff, hprogram]
    exact fun hnil => hne (lowerAfter_eq_nil_iff.mp hnil)
  refine ⟨?_, hagree, ?_⟩
  · rw [← hprogram, String.ofList_toList]
  · rw [Settings.mem_normalTargets, ← hagree, and_iff_right hnamed]
    simp only [List.mem_singleton, exists_eq_left]
    exact eq_comm

/-- A program of one Greek word in capitals. Its name ends in a final sigma; the user's entry is
brought into lower case with the extension still there, so it does not, and the program is not among
the targets. -/
theorem final_sigma_is_not_matched :
    ofImagePath ("C:\\Games\\" ++ "ΟΔΟΣ" ++ ".exe") = "οδος" ∧
      normalize ("ΟΔΟΣ" ++ ".exe") = "οδοσ" ∧
      ofImagePath ("C:\\Games\\" ++ "ΟΔΟΣ" ++ ".exe") ≠ normalize ("ΟΔΟΣ" ++ ".exe") ∧
      ofImagePath ("C:\\Games\\" ++ "ΟΔΟΣ" ++ ".exe") ∉ Settings.normalTargets ["ΟΔΟΣ.exe"] := by
  decide +kernel

/-- A name with a sigma inside and a dot is matched, with an extension in capitals. The word in
capitals is not, even with an accent behind its last sigma. -/
theorem file_name_matches_iff_demo :
    ofImagePath ("D:/" ++ "Σίσυφος v1.2" ++ ".EXE") = normalize ("Σίσυφος v1.2" ++ ".EXE") ∧
      ofImagePath ("" ++ "ΟΔΟΣ\u0301" ++ ".Exe") ≠ normalize ("ΟΔΟΣ\u0301" ++ ".Exe") := by
  constructor
  · have htrimmed : IsTrimmed "Σίσυφος v1.2".toList := ⟨by simp [isBlank], by simp [isBlank]⟩
    have hsuffix : IsExtension ".EXE".toList := ⟨'E', 'X', 'E', .inr rfl, .inr rfl, .inr rfl, rfl⟩
    have hdirectory : ∀ c ∈ "D:/".toList.getLast?, isSeparator c = true := by simp [isSeparator]
    have hagree := file_name_matches_iff (by decide) hdirectory (by simp [isSeparator]) htrimmed
      hsuffix
    exact hagree.2.1.mpr (by decide +kernel)
  · have htrimmed : IsTrimmed "ΟΔΟΣ\u0301".toList := ⟨by simp [isBlank], by simp [isBlank]⟩
    have hsuffix : IsExtension ".Exe".toList := ⟨'E', 'x', 'e', .inr rfl, .inl rfl, .inl rfl, rfl⟩
    have hdirectory : ∀ c ∈ "".toList.getLast?, isSeparator c = true := by simp
    have hagree := file_name_matches_iff (by decide) hdirectory (by simp [isSeparator]) htrimmed
      hsuffix
    exact fun hsame => hagree.2.1.mp hsame (by decide +kernel)

end ProcessName

end SoloScreen
