import StackWalk.Proofs.Tokens
import StackWalk.Text.LowerCase

/-!
# StackWalk.Proofs.LowerCase — texts in lower case

A text in lower case is its own lower-case form (`lower_lower`).  The table of capital letters decides
that: the letters that a run is mapped to are of no run, not even where capital and small letters
alternate.  The two exceptions are mapped to characters that are no capitals, so where a word ends does not
matter the second time.

The case of the ASCII letters is lost on the way: two texts that differ in nothing else have one lower-case
form (`lower_eq_of_sameLetters`).  A sigma does not give it away, because a letter and its capital are both
cased.
-/

namespace StackWalk.Text

variable {c : Char} {cs before : List Char} {a b : String}

/-! ## Runs of capital letters -/

/-- A run of capital letters. -/
abbrev Run := Nat × Nat × Nat × Int

namespace Run

variable {run other : Run} {n : Nat}

def first (run : Run) : Nat := run.1

def last (run : Run) : Nat := run.2.1

def step (run : Run) : Nat := run.2.2.1

/-- The code points of the capital letters of a run. -/
def Has (run : Run) (n : Nat) : Prop :=
  run.first ≤ n ∧ n ≤ run.last ∧ (n - run.first) % run.step = 0

instance : Decidable (run.Has n) :=
  inferInstanceAs (Decidable (_ ∧ _ ∧ _))

/-- The code point of the lower-case letter. -/
def image (run : Run) (n : Nat) : Nat :=
  ((n : Int) + run.2.2.2).toNat

/-- The lower-case letter of the first capital. -/
def lowest (run : Run) : Nat := run.image run.first

/-- The lower-case letter of the last capital. -/
def highest (run : Run) : Nat := run.image run.last

/-- Whether a run has one of the numbers from `low` to `high`, of which every second one is left out if they
alternate. -/
def meets (low high : Nat) (alternate : Bool) (run : Run) : Bool :=
  low.ble run.last && run.first.ble high && !(alternate && run.step.beq 2 && ((low - run.first) % 2).beq 1)

-- The table is compared with itself here, so what is evaluated for each pair is kept to comparisons that
-- the kernel has built in.
/-- The lower-case letters of a run are of no run. -/
theorem not_meets_image : (capitalRuns.all fun (run : Run) =>
    !capitalRuns.any (meets run.lowest run.highest (run.step.beq 2 || run.first.beq run.last))) = true := by
  decide +kernel

/-- They are characters behind `Z`, and none is `İ`. -/
theorem image_bounds : ∀ run : Run, run ∈ capitalRuns → 90 < run.lowest ∧
    (run.highest < 0x130 ∨ 0x130 < run.lowest) ∧
    (run.highest < 0xD800 ∨ 0xDFFF < run.lowest ∧ run.highest < 0x11_0000) := by
  decide +kernel

theorem meets_iff {low high : Nat} {alternate : Bool} : meets low high alternate run = true ↔
    low ≤ run.last ∧ run.first ≤ high ∧
      ¬ (alternate = true ∧ run.step = 2 ∧ (low - run.first) % 2 = 1) := by
  simp only [meets, Bool.and_eq_true, Bool.not_eq_true', ← Bool.not_eq_true, Nat.ble_eq, Nat.beq_eq, and_assoc]

theorem Has.lowest_le (h : run.Has n) : run.lowest ≤ run.image n := by
  have hfirst := h.1
  simp only [lowest, image]
  omega

theorem Has.le_highest (h : run.Has n) : run.image n ≤ run.highest := by
  have hlast := h.2.1
  simp only [highest, image]
  omega

theorem Has.image_eq (h : run.Has n) (hrun : run ∈ capitalRuns) :
    run.image n = run.lowest + (n - run.first) := by
  have hlow := (image_bounds run hrun).1
  have hfirst := h.1
  simp only [lowest, image] at hlow ⊢
  omega

theorem Has.not_has_image (h : run.Has n) (hrun : run ∈ capitalRuns) (hother : other ∈ capitalRuns) :
    ¬ other.Has (run.image n) := by
  have hapart := List.any_eq_false.mp (Bool.not_eq_eq_eq_not.mp (List.all_eq_true.mp not_meets_image run hrun))
    other hother
  rw [meets_iff, Bool.or_eq_true, Nat.beq_eq, Nat.beq_eq] at hapart
  have himage := h.image_eq hrun
  have hhighest := h.le_highest
  obtain ⟨hfirst, hlast, hstep⟩ := h
  rintro ⟨hfirst', hlast', hstep'⟩
  -- The two overlap, so they alternate: what the run is mapped to is an odd number of places behind the
  -- first letter of the other, whose letters are an even number of places behind it.
  obtain ⟨hruns, htwo, hodd⟩ : (run.step = 2 ∨ run.first = run.last) ∧ other.step = 2 ∧
      (run.lowest - other.first) % 2 = 1 :=
    Classical.byContradiction fun hnot => hapart ⟨by omega, by omega, hnot⟩
  rw [htwo] at hstep'
  rcases hruns with hruns | hruns
  · rw [hruns] at hstep
    omega
  · omega

theorem Has.image_ne_dotted (h : run.Has n) (hrun : run ∈ capitalRuns) : run.image n ≠ 'İ'.toNat := by
  show run.image n ≠ 0x130
  obtain ⟨-, hdotted, -⟩ := image_bounds run hrun
  have hlow := h.lowest_le
  have hhigh := h.le_highest
  omega

theorem Has.toNat_ofNat_image (h : run.Has n) (hrun : run ∈ capitalRuns) :
    (Char.ofNat (run.image n)).toNat = run.image n := by
  obtain ⟨-, -, hvalid⟩ := image_bounds run hrun
  have hlow := h.lowest_le
  have hhigh := h.le_highest
  have hchar : (run.image n).isValidChar := by
    unfold Nat.isValidChar
    omega
  rw [Char.ofNat, dif_pos hchar]
  rfl

end Run

/-! ## Characters in lower case -/

theorem lowerLetter_cases (h : 0x80 ≤ c.toNat) :
    (∀ run : Run, run ∈ capitalRuns → ¬ run.Has c.toNat) ∧ lowerLetter c = c ∨
      ∃ run : Run, run ∈ capitalRuns ∧ run.Has c.toNat ∧ lowerLetter c = Char.ofNat (run.image c.toNat) := by
  unfold lowerLetter
  rw [if_neg (Nat.not_lt.mpr h)]
  split
  case h_1 first last step distance hfound =>
    have hin : Run.Has (first, last, step, distance) c.toNat := by
      simpa [Run.Has, Run.first, Run.last, Run.step, and_assoc] using List.find?_some hfound
    exact Or.inr ⟨_, List.mem_of_find?_eq_some hfound, hin, rfl⟩
  case h_2 hnone =>
    refine Or.inl ⟨fun run hrun hin => ?_, rfl⟩
    have hout := List.find?_eq_none.mp hnone run hrun
    exact hout (by simpa [Run.Has, Run.first, Run.last, Run.step, and_assoc] using hin)

/-- A character that is left as it is, whatever stands around it. -/
structure IsLower (c : Char) : Prop where
  ne_sigma : c ≠ 'Σ'
  ne_dotted : c ≠ 'İ'
  fixed : lowerLetter c = c

theorem isLower_of_not_has (h : ∀ run : Run, run ∈ capitalRuns → ¬ run.Has c.toNat)
    (hupper : c.toLower = c) (hdotted : c ≠ 'İ') : IsLower c where
  ne_sigma := by
    rintro rfl
    exact h (0x3A3, 0x3AB, 1, 32) (by decide) ⟨by decide, by decide, by decide⟩
  ne_dotted := hdotted
  fixed := by
    by_cases hascii : c.toNat < 0x80
    · rw [lowerLetter_ascii hascii, hupper]
    · rcases lowerLetter_cases (Nat.not_lt.mp hascii) with ⟨-, hsame⟩ | ⟨run, hrun, hin, -⟩
      · exact hsame
      · exact absurd hin (h run hrun)

theorem isLower_toLower (h : c.toNat < 0x80) : IsLower c.toLower := by
  have hlower : c.toLower.toNat < 0x80 := by
    rcases toLower_cases c with hsame | ⟨-, hhigh, hup⟩
    · rw [hsame]
      exact h
    · omega
  refine ⟨?_, ?_, by rw [lowerLetter_ascii hlower, toLower_toLower]⟩
  · intro hsigma
    exact absurd (hsigma ▸ hlower) (by decide)
  · intro hdotted
    exact absurd (hdotted ▸ hlower) (by decide)

theorem Run.Has.isLower_image {run : Run} {n : Nat} (h : run.Has n) (hrun : run ∈ capitalRuns) :
    IsLower (Char.ofNat (run.image n)) := by
  have hcode := h.toNat_ofNat_image hrun
  have hlow : 90 < (Char.ofNat (run.image n)).toNat := by
    rw [hcode]
    exact Nat.lt_of_lt_of_le (Run.image_bounds run hrun).1 h.lowest_le
  refine isLower_of_not_has (fun other hother => ?_) (toLower_of_not_upper (by omega)) fun hdotted => ?_
  · rw [hcode]
    exact h.not_has_image hrun hother
  · rw [hdotted] at hcode
    exact h.image_ne_dotted hrun hcode.symm

theorem isLower_lowerLetter (hdotted : c ≠ 'İ') : IsLower (lowerLetter c) := by
  by_cases hascii : c.toNat < 0x80
  · rw [lowerLetter_ascii hascii]
    exact isLower_toLower hascii
  · rcases lowerLetter_cases (Nat.not_lt.mp hascii) with ⟨hnone, hsame⟩ | ⟨run, hrun, hin, himage⟩
    · rw [hsame]
      exact isLower_of_not_has hnone (toLower_of_not_upper (by omega)) hdotted
    · rw [himage]
      exact hin.isLower_image hrun

/-! ## Texts in lower case -/

/-- The characters that the two exceptions become. -/
theorem isLower_exceptions : ∀ c ∈ ['ς', 'σ', 'i', '\u0307'], IsLower c := by
  have hout : ∀ run : Run, run ∈ capitalRuns → ∀ n ∈ [0x3C2, 0x3C3, 0x69, 0x307], ¬ run.Has n := by
    decide +kernel
  intro c hc
  simp only [List.mem_cons, List.not_mem_nil, or_false] at hc
  have hcode : c.toNat ∈ [0x3C2, 0x3C3, 0x69, 0x307] ∧ 90 < c.toNat ∧ c ≠ 'İ' := by
    rcases hc with rfl | rfl | rfl | rfl
    all_goals exact ⟨by decide, by decide, by decide⟩
  obtain ⟨hmem, hlow, hdotted⟩ := hcode
  exact isLower_of_not_has (fun run hrun => hout run hrun c.toNat hmem) (toLower_of_not_upper (by omega)) hdotted

theorem isLower_of_mem_lowerFrom (h : c ∈ lowerFrom before cs) : IsLower c := by
  induction cs generalizing before with
  | nil => simp [lowerFrom] at h
  | cons d cs ih =>
    simp only [lowerFrom] at h
    rcases List.mem_append.mp h with himage | hrest
    · by_cases hsigma : d = 'Σ'
      · rw [if_pos hsigma, List.mem_singleton] at himage
        refine isLower_exceptions c ?_
        rw [himage]
        split
        · exact List.mem_cons_self
        · exact List.mem_cons_of_mem _ List.mem_cons_self
      · rw [if_neg hsigma] at himage
        by_cases hdotted : d = 'İ'
        · rw [if_pos hdotted] at himage
          exact isLower_exceptions c (List.mem_cons_of_mem _ (List.mem_cons_of_mem _ himage))
        · rw [if_neg hdotted, List.mem_singleton] at himage
          rw [himage]
          exact isLower_lowerLetter hdotted
    · exact ih hrest

theorem lowerFrom_eq_self (h : ∀ c ∈ cs, IsLower c) : lowerFrom before cs = cs := by
  induction cs generalizing before with
  | nil => rfl
  | cons c cs ih =>
    have hc : IsLower c := h c List.mem_cons_self
    simp only [lowerFrom, if_neg hc.ne_sigma, if_neg hc.ne_dotted, hc.fixed]
    rw [ih fun d hd => h d (List.mem_cons_of_mem c hd)]
    rfl

/-- A text in lower case is its own lower-case form. -/
@[simp]
theorem lower_lower (text : String) : lower (lower text) = lower text := by
  simp only [lower, String.toList_ofList]
  rw [lowerFrom_eq_self fun c hc => isLower_of_mem_lowerFrom hc]

/-! ## ASCII letters in either case -/

theorem lowerLetter_toLower (c : Char) : lowerLetter c.toLower = lowerLetter c := by
  rcases toLower_cases c with h | ⟨hlow, hhigh, h⟩
  · rw [h]
  · rw [lowerLetter_ascii (by omega), lowerLetter_ascii (by omega), toLower_toLower]

/-- A character that is not ASCII comes from itself only. -/
theorem toLower_eq_iff {d : Char} (hd : 0x80 ≤ d.toNat) : c.toLower = d ↔ c = d := by
  rcases toLower_cases c with h | ⟨hlow, hhigh, h⟩
  · rw [h]
  · constructor
    · rintro rfl
      omega
    · rintro rfl
      omega

/-- The letters are cased. -/
theorem holds_casedRanges_toLower (c : Char) : casedRanges.holds c.toLower = casedRanges.holds c := by
  rcases toLower_cases c with h | ⟨hlow, hhigh, h⟩
  · rw [h]
  · have hcapital : casedRanges.holds c = true :=
      Ranges.holds_iff.mpr ⟨(0x41, 0x5A), by decide, hlow, hhigh⟩
    have hsmall : casedRanges.holds c.toLower = true :=
      Ranges.holds_iff.mpr ⟨(0x61, 0x7A), by decide, by dsimp only; omega, by dsimp only; omega⟩
    rw [hcapital, hsmall]

/-- The letters are not ignorable. -/
theorem holds_caseIgnorableRanges_toLower (c : Char) :
    caseIgnorableRanges.holds c.toLower = caseIgnorableRanges.holds c := by
  have hbetween : ∀ range ∈ caseIgnorableRanges,
      range.2 < 0x41 ∨ 0x5A < range.1 ∧ range.2 < 0x61 ∨ 0x7A < range.1 := by decide +kernel
  have hletter (d : Char)
      (hd : 0x41 ≤ d.toNat ∧ d.toNat ≤ 0x5A ∨ 0x61 ≤ d.toNat ∧ d.toNat ≤ 0x7A) :
      caseIgnorableRanges.holds d = false := by
    rw [← Bool.not_eq_true, Ranges.holds_iff]
    rintro ⟨range, hrange, hfirst, hlast⟩
    have hclear := hbetween range hrange
    omega
  rcases toLower_cases c with h | ⟨hlow, hhigh, h⟩
  · rw [h]
  · rw [hletter c (Or.inl ⟨hlow, hhigh⟩), hletter c.toLower (Or.inr ⟨by omega, by omega⟩)]

theorem reachesCased_foldCase (cs : List Char) : reachesCased (foldCase cs) = reachesCased cs := by
  induction cs with
  | nil => rfl
  | cons c cs ih =>
    show reachesCased (c.toLower :: foldCase cs) = reachesCased (c :: cs)
    unfold reachesCased at ih ⊢
    rw [List.dropWhile_cons, List.dropWhile_cons, holds_caseIgnorableRanges_toLower]
    by_cases hignorable : caseIgnorableRanges.holds c = true
    · rw [if_pos hignorable, if_pos hignorable]
      exact ih
    · rw [if_neg hignorable, if_neg hignorable]
      exact holds_casedRanges_toLower c

theorem lowerFrom_foldCase (before cs : List Char) :
    lowerFrom (foldCase before) (foldCase cs) = lowerFrom before cs := by
  induction cs generalizing before with
  | nil => rfl
  | cons c cs ih =>
    show lowerFrom (foldCase before) (c.toLower :: foldCase cs) = lowerFrom before (c :: cs)
    have hrest : lowerFrom (c.toLower :: foldCase before) (foldCase cs) = lowerFrom (c :: before) cs :=
      ih (c :: before)
    have hsigma : c.toLower = 'Σ' ↔ c = 'Σ' := toLower_eq_iff (by decide)
    have hdotted : c.toLower = 'İ' ↔ c = 'İ' := toLower_eq_iff (by decide)
    simp only [lowerFrom, hsigma, hdotted, lowerLetter_toLower, reachesCased_foldCase, hrest]

/-- Texts that differ in the case of ASCII letters only have one lower-case form. -/
theorem lower_eq_of_sameLetters (h : sameLetters a.toList b.toList = true) : lower a = lower b := by
  have hfolded : foldCase a.toList = foldCase b.toList := sameLetters_iff.mp h
  have hlower : lowerFrom [] a.toList = lowerFrom [] b.toList := by
    rw [← lowerFrom_foldCase [] a.toList, hfolded, lowerFrom_foldCase]
  exact congrArg String.ofList hlower

end StackWalk.Text
