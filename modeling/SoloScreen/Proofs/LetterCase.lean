import Mathlib.Data.List.DropRight
import SoloScreen.Text.Blank
import SoloScreen.Text.Lowercase

/-!
# Trimmed text in small letters

Trimming and the lower-case form each leave alone what they have made: a trimmed text has no blank
at its ends (`Text.trim_eq_self_iff`), and in a lower-case form every character is its own small
letter, wherever it stands (`Text.lower_isSmall`, `Text.lower_eq_self`). The latter is a fact about
the table of capitals: no small letter is a capital of another run, nor a blank, nor one of the two
capitals with a rule of their own (`Text.runs_settled`). So the lower-case form of a trimmed text is
trimmed (`Text.IsTrimmed.lower`).
-/

namespace SoloScreen.Text

/-! ## Trimmed text -/

/-- There is no blank at either end. -/
structure IsTrimmed (cs : List Char) : Prop where
  /-- The first character, if there is one. -/
  first : ∀ c ∈ cs.head?, isBlank c = false
  /-- The last character, if there is one. -/
  last : ∀ c ∈ cs.getLast?, isBlank c = false

/-- Trimming does what it says. The start is cut off first, so the first character of what is left
of it is also the first of the result, unless the result is empty. -/
theorem trim_isTrimmed (cs : List Char) : IsTrimmed (trim cs) := by
  obtain ⟨rest, hrest⟩ : trim cs <+: cs.dropWhile isBlank := List.rdropWhile_prefix isBlank _
  constructor
  · intro c hc
    have hhead : (cs.dropWhile isBlank).head? = some c := by
      rw [← hrest, List.head?_append, Option.mem_def.mp hc, Option.some_or]
    have hnot := List.head?_dropWhile_not isBlank cs
    rw [hhead] at hnot
    simpa using hnot
  · intro c hc
    have hne : (cs.dropWhile isBlank).rdropWhile isBlank ≠ [] := by
      intro h
      change c ∈ ((cs.dropWhile isBlank).rdropWhile isBlank).getLast? at hc
      rw [h] at hc
      cases hc
    have hlast := List.rdropWhile_last_not isBlank _ hne
    have hc' : ((cs.dropWhile isBlank).rdropWhile isBlank).getLast? = some c := hc
    rw [List.getLast?_eq_some_getLast hne] at hc'
    rw [← Option.some.inj hc']
    simpa using hlast

/-- The texts that trimming leaves alone. The statements about names are stated with `IsTrimmed`,
and this is how they get back to the function. -/
theorem trim_eq_self_iff {cs : List Char} : trim cs = cs ↔ IsTrimmed cs := by
  constructor
  · intro h
    exact h ▸ trim_isTrimmed cs
  · intro h
    have hfirst : cs.dropWhile isBlank = cs := by
      rcases cs with _ | ⟨c, rest⟩
      · rfl
      · exact List.dropWhile_cons_of_neg (by simp [h.first c rfl])
    have hlast : cs.rdropWhile isBlank = cs := by
      rw [List.rdropWhile_eq_self_iff]
      intro hne
      simp [h.last _ (List.getLast?_eq_some_getLast hne)]
    unfold trim
    rw [hfirst]
    exact hlast

/-- Trimming adds no character, so what holds of every character of a text holds of the trimmed
text. -/
theorem trim_sublist (cs : List Char) : (trim cs).Sublist cs :=
  (List.rdropWhile_prefix isBlank _).sublist.trans (List.dropWhile_sublist isBlank)

/-- Something is left of a text that does not begin with a blank. -/
theorem trim_ne_nil {c : Char} {cs : List Char} (hc : isBlank c = false) : trim (c :: cs) ≠ [] := by
  intro h
  have hall : ∀ d ∈ (c :: cs).dropWhile isBlank, isBlank d = true :=
    List.rdropWhile_eq_nil_iff.mp h
  rw [List.dropWhile_cons_of_neg (by simp [hc])] at hall
  rw [hall c List.mem_cons_self] at hc
  cases hc

/-! ## Small letters -/

/-- The character is its own small letter, wherever it stands. -/
structure IsSmall (c : Char) : Prop where
  /-- The capital sigma becomes one of two small letters, according to where it stands. -/
  sigma : c ≠ 'Σ'
  /-- The capital with a dot becomes two characters. -/
  dotted : c ≠ 'İ'
  /-- No run of capitals changes it. -/
  letter : smallLetter c = c

/-- The context on the left matters to the capital sigma alone, so small letters stay as they are
after any text. -/
theorem lowerAfter_eq_self {cs : List Char} (h : ∀ c ∈ cs, IsSmall c) (before : List Char) :
    lowerAfter before cs = cs := by
  induction cs generalizing before with
  | nil => rfl
  | cons c after ih =>
    have hc := h c List.mem_cons_self
    unfold lowerAfter lowerAt
    rw [if_neg hc.sigma, if_neg hc.dotted, hc.letter,
      ih fun d hd => h d (List.mem_cons_of_mem c hd)]
    rfl

/-- The lower-case form of small letters is they themselves. -/
theorem lower_eq_self {cs : List Char} (h : ∀ c ∈ cs, IsSmall c) : lower cs = cs :=
  lowerAfter_eq_self h []

/-! ## The table of capitals -/

/-- The code points that count as blanks, and the capitals with a rule of their own. -/
def reserved : List Nat :=
  [9, 10, 11, 12, 13, 0x20, 0x85, 0xA0, 0x1680, 0x2000, 0x2001, 0x2002, 0x2003, 0x2004, 0x2005,
    0x2006, 0x2007, 0x2008, 0x2009, 0x200A, 0x2028, 0x2029, 0x202F, 0x205F, 0x3000, 0x3A3, 0x130]

/-- The code points from `low` to `high`, with a step of two only those as even as `low`, are
outside a run. -/
def missesRun (low high : Nat) (byTwo : Bool) : Nat × Nat × Nat × Int → Bool
  | (first, last, step, _) =>
    Nat.blt high first || Nat.blt last low ||
      (byTwo && Nat.beq step 2 && Nat.beq ((low + first) % 2) 1)

/-- The small letters of a run are code points outside all runs, and none of them is reserved. -/
def isSettled : Nat × Nat × Nat × Int → Bool
  | (first, last, step, shift) =>
    decide (0 ≤ first + shift) && capitals.all (missesRun (first + shift).toNat (last + shift).toNat
      (Nat.beq first last || Nat.beq step 2)) &&
    reserved.all fun n => Nat.blt n (first + shift).toNat || Nat.blt (last + shift).toNat n

/-- The fact about the table on which everything below rests, decided by going through it once. It
would fail if the small letters of one run were the capitals of another. -/
theorem runs_settled : capitals.all isSettled = true := by decide +kernel

/-- Every blank is on the list. The converse does not hold, since two capitals stand there as
well. -/
theorem mem_reserved_of_isBlank {c : Char} (h : isBlank c = true) : c.toNat ∈ reserved := by
  simp only [isBlank, Bool.or_eq_true, Bool.and_eq_true, decide_eq_true_eq, beq_iff_eq] at h
  simp only [reserved, List.mem_cons, List.not_mem_nil, or_false]
  omega

/-- A number that is no code point gives the null character, which is a small letter too. So
`smallLetter_settled` need not know that the shifts of the table lead to code points. -/
theorem toNat_ofNat_cases (n : Nat) : (Char.ofNat n).toNat = n ∨ Char.ofNat n = '\x00' := by
  unfold Char.ofNat
  by_cases hvalid : n.isValidChar
  · rw [dif_pos hvalid]
    exact .inl rfl
  · rw [dif_neg hvalid]
    exact .inr rfl

/-- A code point outside all runs and not reserved is that of a small letter and not of a blank. -/
theorem isSmall_of_missesRun {c : Char} {low high : Nat} {byTwo : Bool} (hlow : low ≤ c.toNat)
    (hhigh : c.toNat ≤ high) (hbyTwo : byTwo = true → c.toNat % 2 = low % 2)
    (hruns : ∀ run ∈ capitals, missesRun low high byTwo run = true)
    (hreserved : ∀ n ∈ reserved, n < low ∨ high < n) : IsSmall c ∧ isBlank c = false := by
  have hfree : c.toNat ∉ reserved := by
    intro hmem
    rcases hreserved _ hmem with h | h <;> omega
  refine ⟨⟨?_, ?_, ?_⟩, Bool.eq_false_iff.mpr fun hblank => hfree (mem_reserved_of_isBlank hblank)⟩
  · rintro rfl
    exact hfree (by decide)
  · rintro rfl
    exact hfree (by decide)
  · -- outside a run by being below it, above it, or odd where the run is even
    have hnone : (capitals.find? fun (first, last, step, _) =>
        first ≤ c.toNat && c.toNat ≤ last && (c.toNat - first) % step == 0) = none := by
      rw [List.find?_eq_none]
      rintro ⟨first, last, step, shift⟩ hmem hin
      have hmisses := hruns _ hmem
      simp only [missesRun, Bool.or_eq_true, Bool.and_eq_true, Nat.blt_eq, Nat.beq_eq] at hmisses
      simp only [Bool.and_eq_true, decide_eq_true_eq, beq_iff_eq] at hin
      obtain ⟨⟨hfirst, hlast⟩, hstep⟩ := hin
      rcases hmisses with (hbelow | habove) | ⟨⟨htwo, rfl⟩, hodd⟩
      · omega
      · omega
      · have heven := hbyTwo htwo
        omega
    unfold smallLetter
    dsimp only
    rw [hnone]

/-- What the capitals with a rule of their own become, and the character that stands for no code
point. -/
theorem special_settled :
    ∀ c ∈ ['ς', 'σ', 'i', '\u0307', '\x00'], IsSmall c ∧ isBlank c = false := by
  -- as a Boolean: the statement itself could be decided over all characters too
  have h : (['ς', 'σ', 'i', '\u0307', '\x00'].all fun c =>
      c ≠ 'Σ' && c ≠ 'İ' && smallLetter c = c && !isBlank c) = true := by decide +kernel
  intro c hc
  have hsettled := List.all_eq_true.mp h c hc
  simp only [Bool.and_eq_true, decide_eq_true_eq, Bool.not_eq_true'] at hsettled
  obtain ⟨⟨⟨hsigma, hdotted⟩, hletter⟩, hblank⟩ := hsettled
  exact ⟨⟨hsigma, hdotted, hletter⟩, hblank⟩

/-- The small letter of a capital is its own small letter, and no blank. -/
theorem smallLetter_settled {c : Char} (h : smallLetter c ≠ c) :
    IsSmall (smallLetter c) ∧ isBlank (smallLetter c) = false := by
  rcases hrun : capitals.find? fun (first, last, step, _) =>
      first ≤ c.toNat && c.toNat ≤ last && (c.toNat - first) % step == 0 with
    _ | ⟨first, last, step, shift⟩
  · refine absurd ?_ h
    unfold smallLetter
    dsimp only
    rw [hrun]
  · have hletter : smallLetter c = Char.ofNat (c.toNat + shift).toNat := by
      unfold smallLetter
      dsimp only
      rw [hrun]
    rw [hletter]
    rcases toNat_ofNat_cases (c.toNat + shift).toNat with hcode | hnul
    · have hin := List.find?_some hrun
      simp only [Bool.and_eq_true, decide_eq_true_eq, beq_iff_eq] at hin
      obtain ⟨⟨hfirst, hlast⟩, hstep⟩ := hin
      have hsettled := List.all_eq_true.mp runs_settled _ (List.mem_of_find?_eq_some hrun)
      simp only [isSettled, Bool.and_eq_true, List.all_eq_true, decide_eq_true_eq] at hsettled
      obtain ⟨⟨hstart, hruns⟩, hreserved⟩ := hsettled
      refine isSmall_of_missesRun ?_ ?_ ?_ hruns fun n hn => ?_
      · rw [hcode]
        omega
      · rw [hcode]
        omega
      · rw [hcode]
        intro htwo
        simp only [Bool.or_eq_true, Nat.beq_eq] at htwo
        rcases htwo with rfl | rfl
        · omega
        · omega
      · simpa using hreserved n hn
    · rw [hnul]
      exact special_settled _ (by decide)

/-! ## The lower-case form -/

/-- What a character becomes is small, and no blank if the character is none. -/
theorem lowerAt_settled {before after : List Char} {c d : Char} (h : d ∈ lowerAt before c after) :
    IsSmall d ∧ (isBlank c = false → isBlank d = false) := by
  unfold lowerAt at h
  split at h
  · obtain ⟨hsmall, hblank⟩ := special_settled d (by split at h <;> simp_all)
    exact ⟨hsmall, fun _ => hblank⟩
  · rename_i hsigma
    split at h
    · obtain ⟨hsmall, hblank⟩ := special_settled d (by simp_all; tauto)
      exact ⟨hsmall, fun _ => hblank⟩
    · rename_i hdotted
      rw [List.mem_singleton.mp h]
      by_cases hsame : smallLetter c = c
      · rw [hsame]
        exact ⟨⟨hsigma, hdotted, hsame⟩, id⟩
      · obtain ⟨hsmall, hblank⟩ := smallLetter_settled hsame
        exact ⟨hsmall, fun _ => hblank⟩

/-- No character is lost in the lower-case form, though one of them becomes two. -/
theorem lowerAt_ne_nil (before after : List Char) (c : Char) : lowerAt before c after ≠ [] := by
  unfold lowerAt
  split
  · simp
  · split <;> simp

/-- After any text on the left, everything in the lower-case form is small, in whatever context it
stands there itself. -/
theorem lowerAfter_isSmall (before cs : List Char) : ∀ c ∈ lowerAfter before cs, IsSmall c := by
  induction cs generalizing before with
  | nil => simp [lowerAfter]
  | cons c after ih =>
    intro d hd
    unfold lowerAfter at hd
    rcases List.mem_append.mp hd with hd | hd
    · exact (lowerAt_settled hd).1
    · exact ih (c :: before) d hd

/-- A lower-case form consists of small letters. -/
theorem lower_isSmall (cs : List Char) : ∀ c ∈ lower cs, IsSmall c := lowerAfter_isSmall [] cs

/-- The lower-case form ends with what the last character becomes. -/
theorem lowerAfter_concat (before cs : List Char) (c : Char) :
    ∃ start before', lowerAfter before (cs ++ [c]) = start ++ lowerAt before' c [] := by
  induction cs generalizing before with
  | nil => exact ⟨[], before, by simp [lowerAfter]⟩
  | cons d rest ih =>
    obtain ⟨start, before', hrest⟩ := ih (d :: before)
    refine ⟨lowerAt before d (rest ++ [c]) ++ start, before', ?_⟩
    rw [List.cons_append, lowerAfter, hrest, List.append_assoc]

/-- The ends of the lower-case form are what the ends of the text become, and a character that is no
blank does not become one. So a name is trimmed before its letters are made small and need not be
trimmed again. -/
theorem IsTrimmed.lower {cs : List Char} (h : IsTrimmed cs) : IsTrimmed (lower cs) := by
  constructor
  · intro d hd
    rcases cs with _ | ⟨c, after⟩
    · cases hd
    · have hhead : (Text.lower (c :: after)).head? = (lowerAt [] c after).head? := by
        unfold Text.lower lowerAfter
        rw [List.head?_append, Option.or_of_isSome]
        simpa using lowerAt_ne_nil [] after c
      rw [hhead] at hd
      exact (lowerAt_settled (List.mem_of_mem_head? hd)).2 (h.first c rfl)
  · intro d hd
    rcases List.eq_nil_or_concat' cs with rfl | ⟨rest, c, rfl⟩
    · cases hd
    · obtain ⟨start, before, hconcat⟩ := lowerAfter_concat [] rest c
      unfold Text.lower at hd
      rw [hconcat, List.getLast?_append, Option.or_of_isSome
        (by simpa using lowerAt_ne_nil before [] c)] at hd
      exact (lowerAt_settled (List.mem_of_mem_getLast? hd)).2 (h.last c (by simp))

end SoloScreen.Text
