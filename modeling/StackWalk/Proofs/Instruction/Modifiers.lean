import StackWalk.Proofs.Instruction.Parts
import StackWalk.Proofs.Occurrences

/-!
# StackWalk.Proofs.Instruction.Modifiers — modifiers in front of an instruction

A modifier such as `lock` or `bnd` does not change what an instruction is.  The mnemonic is found behind any
number of them (`mnemonicIn_modified`).  The operands are what follows the first place where the mnemonic
stands in the text, and that place may lie inside of a modifier: in `bnd b 0x10400` the mnemonic `b` is found
in `bnd`.  `passedOver_iff` gives the exact condition, for any modifiers and any instruction behind them: the
parts are the same with and without the modifiers exactly where none of them has the mnemonic in it.  Of the
mnemonics of calls and jumps that is only `b`.

`operands_ofText` does away with the white space: the operands are read off the text as it is, without the
trims.  What is left is the search for the mnemonic, which goes through the modifiers or ends in one of them
(`after?_modified`, `exists_after?_modified`).  If it ends there, the operands have letters in front of their
first comma that do not belong to them (`operandsOf_flat_append`).
-/

namespace StackWalk.Disassembly

open Text

/-- A modifier, in either case, and the white space behind it. -/
structure Modifier where
  word : List Char
  gap : List Char
  known : isOneOf Architecture.modifiers word = true
  isSpace : IsSpace gap
  gap_ne_nil : gap ≠ []

/-- An instruction with modifiers in front of it. -/
def modified : List Modifier → List Char → List Char
  | [], cs => cs
  | modifier :: modifiers, cs => modifier.word ++ modifier.gap ++ modified modifiers cs

/-- The instruction has the same mnemonic, operands and target with and without the modifiers. -/
structure PassedOver (modifiers : List Modifier) (cs : List Char) : Prop where
  mnemonic :
    (ofText (String.ofList (modified modifiers cs))).mnemonic = (ofText (String.ofList cs)).mnemonic
  operands :
    (ofText (String.ofList (modified modifiers cs))).operands = (ofText (String.ofList cs)).operands
  target? :
    (ofText (String.ofList (modified modifiers cs))).target? = (ofText (String.ofList cs)).target?

/-- The first token of the text, if there is one, is no modifier. -/
def IsUnmodified (cs : List Char) : Prop :=
  ∀ token, (tokens cs).head? = some token → isOneOf Architecture.modifiers token = false

variable {modifiers : List Modifier} {cs front m space word gap : List Char}

instance : Decidable (IsUnmodified cs) :=
  decidable_of_iff ((tokens cs).head?.all (isOneOf Architecture.modifiers · = false) = true) <| by
    simp [IsUnmodified, Option.all_eq_true]

/-! ## Modifiers -/

/-- A modifier is a token without commas and brackets. -/
theorem Modifier.word_spec (modifier : Modifier) :
    modifier.word ≠ [] ∧ IsSolid modifier.word ∧ IsFlat modifier.word := by
  have hnames : ∀ name ∈ Architecture.modifiers, name.toList ≠ [] ∧ IsSolid (foldCase name.toList) ∧
      IsFlat (foldCase name.toList) := by decide
  obtain ⟨name, hname, hletters⟩ := List.any_eq_true.mp modifier.known
  obtain ⟨hne, hsolid, hflat⟩ := hnames name hname
  have hfold := sameLetters_iff.mp hletters
  rw [← hfold] at hsolid hflat
  refine ⟨?_, isSolid_of_foldCase hsolid, isFlat_of_foldCase hflat⟩
  intro hempty
  have hlength := congrArg List.length hfold
  rw [length_foldCase, length_foldCase, hempty] at hlength
  exact hne (List.eq_nil_of_length_eq_zero hlength.symm)

theorem isFlat_of_isSpace (h : IsSpace space) : IsFlat space := by
  have hmarks : ∀ mark ∈ marks, isBlank mark = false := List.all_iff_forall_prop.mp (by decide)
  intro mark hmark hmem
  have hblank := h mark hmem
  rw [hmarks mark hmark] at hblank
  cases hblank

theorem isFlat_of_within (h : m <:+: cs) (hflat : IsFlat cs) : IsFlat m := fun mark hmark hmem =>
  hflat mark hmark (h.mem hmem)

theorem modified_eq_append (modifiers : List Modifier) (cs : List Char) :
    modified modifiers cs = modified modifiers [] ++ cs := by
  induction modifiers with
  | nil => rfl
  | cons modifier modifiers ih =>
      rw [modified, modified, ih]
      simp only [List.append_assoc]

theorem isFlat_modified (modifiers : List Modifier) : IsFlat (modified modifiers []) := by
  induction modifiers with
  | nil => exact fun _ _ => List.not_mem_nil
  | cons modifier modifiers ih =>
      obtain ⟨-, -, hflat⟩ := modifier.word_spec
      exact (hflat.append (isFlat_of_isSpace modifier.isSpace)).append ih

/-- The mnemonic is found behind the modifiers. -/
theorem mnemonicIn_modified (modifiers : List Modifier) (cs : List Char) :
    Architecture.mnemonicIn (modified modifiers cs) = Architecture.mnemonicIn cs := by
  induction modifiers with
  | nil => rfl
  | cons modifier modifiers ih =>
      obtain ⟨hne, hsolid, -⟩ := modifier.word_spec
      obtain ⟨b, gap, hgap⟩ := List.exists_cons_of_ne_nil modifier.gap_ne_nil
      have hspace := modifier.isSpace
      rw [hgap] at hspace
      obtain ⟨hb, hspace⟩ := List.forall_mem_cons.mp hspace
      have htokens : tokens (modified (modifier :: modifiers) cs) =
          modifier.word :: tokens (modified modifiers cs) := by
        rw [modified, hgap, List.append_assoc, List.cons_append, tokens_append_cons hsolid hne hb,
          tokens_space_append hspace]
      rw [← ih]
      simp [Architecture.mnemonicIn, htokens, modifier.known]

/-! ## White space around the operands -/

/-- A flat text belongs to the piece that follows it. -/
theorem cutAtCommas_flat_append {next : List Char} {others : List (List Char)} {depth : Int}
    (h : IsFlat front) (hcut : cutAtCommas depth cs = next :: others) :
    cutAtCommas depth (front ++ cs) = (front ++ next) :: others := by
  have hcommas : ∀ n, front[n]? = some ',' → depth + depthAt front n ≠ 0 := fun n hn =>
    absurd (List.mem_of_getElem? hn) (h ',' (by decide))
  rw [cutAtCommas_append hcommas, h.depthAt_eq_zero, Int.add_zero, hcut]

theorem operandsOf_space_append (h : IsSpace space) (cs : List Char) :
    operandsOf (space ++ cs) = operandsOf cs := by
  obtain ⟨next, others, hcut⟩ := List.exists_cons_of_ne_nil (cutAtCommas_ne_nil 0 cs)
  unfold operandsOf
  rw [cutAtCommas_flat_append (isFlat_of_isSpace h) hcut, hcut]
  simp [trim_space_append h]

/-- White space at the end belongs to the last piece. -/
theorem cutAtCommas_append_space (h : IsSpace space) (depth : Int) (cs : List Char) :
    ∃ pieces last, cutAtCommas depth cs = pieces ++ [last] ∧
      cutAtCommas depth (cs ++ space) = pieces ++ [last ++ space] := by
  induction cs generalizing depth with
  | nil =>
      have hcut : cutAtCommas depth (space ++ []) = [space ++ []] :=
        cutAtCommas_flat_append (isFlat_of_isSpace h) rfl
      rw [List.append_nil] at hcut
      exact ⟨[], [], rfl, hcut⟩
  | cons c cs ih =>
      by_cases hcomma : c = ',' ∧ depth = 0
      · obtain ⟨pieces, last, hcut, hcut'⟩ := ih depth
        refine ⟨[] :: pieces, last, ?_, ?_⟩
        · rw [cutAtCommas, if_pos hcomma, hcut, List.cons_append]
        · rw [List.cons_append, cutAtCommas, if_pos hcomma, hcut', List.cons_append]
      · obtain ⟨pieces, last, hcut, hcut'⟩ := ih (depth + nesting c)
        cases pieces with
        | nil =>
            refine ⟨[], c :: last, ?_, ?_⟩
            · rw [cutAtCommas, if_neg hcomma, hcut]
              rfl
            · rw [List.cons_append, cutAtCommas, if_neg hcomma, hcut']
              rfl
        | cons piece pieces =>
            refine ⟨(c :: piece) :: pieces, last, ?_, ?_⟩
            · rw [cutAtCommas, if_neg hcomma, hcut]
              rfl
            · rw [List.cons_append, cutAtCommas, if_neg hcomma, hcut']
              rfl

theorem operandsOf_append_space (h : IsSpace space) (cs : List Char) :
    operandsOf (cs ++ space) = operandsOf cs := by
  obtain ⟨pieces, last, hcut, hcut'⟩ := cutAtCommas_append_space h 0 cs
  unfold operandsOf
  rw [hcut, hcut']
  simp [trim_append_space h]

theorem operandsOf_trim (cs : List Char) : operandsOf (trim cs) = operandsOf cs := by
  obtain ⟨space, space', hspace, hspace', hcs⟩ := exists_eq_trim cs
  conv => rhs; rw [hcs, operandsOf_append_space hspace', operandsOf_space_append hspace]

theorem mnemonicIn_trim (cs : List Char) : Architecture.mnemonicIn (trim cs) = Architecture.mnemonicIn cs := by
  rw [Architecture.mnemonicIn, tokens_trim, Architecture.mnemonicIn]

theorem mnemonic_ofText (cs : List Char) :
    (ofText (String.ofList cs)).mnemonic = Architecture.mnemonicIn cs := by
  simp only [ofText, String.toList_ofList, mnemonicIn_trim]

/-- The mnemonic stands in the text. -/
theorem mnemonicIn_spec (cs : List Char) :
    Architecture.mnemonicIn cs <:+: cs ∧ IsSolid (Architecture.mnemonicIn cs) := by
  unfold Architecture.mnemonicIn
  cases hfind : (tokens cs).find? fun token => !isOneOf Architecture.modifiers token with
  | none =>
      refine ⟨?_, fun _ hc => absurd hc List.not_mem_nil⟩
      exact List.nil_infix
  | some token => exact mem_tokens (List.mem_of_find?_eq_some hfind)

/-- No token starts in white space. -/
theorem isInert_of_isSpace (hm : IsSolid m) (hne : m ≠ []) (h : IsSpace space) : IsInert m space := by
  obtain ⟨first, rest, rfl⟩ := List.exists_cons_of_ne_nil hne
  exact isInert_of_first (fun hfirst => hm.not_mem_space h hfirst (List.mem_cons_self ..)) rest

/-- The operands are those of the text behind the first place where the mnemonic stands. -/
theorem operands_ofText (cs : List Char) : (ofText (String.ofList cs)).operands =
    operandsOf ((after? (Architecture.mnemonicIn cs) cs).getD []) := by
  have htext : (ofText (String.ofList cs)).operands =
      operandsOf ((after? (Architecture.mnemonicIn cs) (trim cs)).getD []) := by
    simp only [ofText, String.toList_ofList, mnemonicIn_trim, operandsOf_trim]
  obtain ⟨hwithin, hsolid⟩ := mnemonicIn_spec (trim cs)
  rw [mnemonicIn_trim] at hwithin hsolid
  generalize Architecture.mnemonicIn cs = m at htext hwithin hsolid
  rw [htext]
  by_cases hne : m = []
  · -- the empty mnemonic stands everywhere, also in front of white space
    rw [hne, after?_nil, after?_nil]
    exact operandsOf_trim cs
  · obtain ⟨space, space', hspace, hspace', hcs⟩ := exists_eq_trim cs
    obtain ⟨before, behind, -, hafter⟩ := exists_after?_of_within hwithin
    have htrim : after? m (trim cs) = some behind := by simpa using hafter []
    have hwhole : after? m cs = some (behind ++ space') := by
      conv => lhs; rw [hcs]
      rw [List.append_assoc, after?_append_of_isInert (isInert_of_isSpace hsolid hne hspace), hafter]
    rw [htrim, hwhole]
    exact (operandsOf_append_space hspace' behind).symm

/-! ## The mnemonic is found in the instruction or in a modifier -/

/-- A token that is not in a modifier does not start in it, nor in the white space behind it. -/
theorem isInert_modifier (hm : IsSolid m) (hgap : gap ≠ []) (hspace : IsSpace gap)
    (h : ¬ m <:+: word) : IsInert m (word ++ gap) := by
  obtain ⟨b, gap, rfl⟩ := List.exists_cons_of_ne_nil hgap
  have hb : b ∉ m := hm.not_mem_space hspace (List.mem_cons_self ..)
  induction word with
  | nil =>
      refine isInert_of_isSpace hm ?_ hspace
      rintro rfl
      exact h List.nil_infix
  | cons c word ih =>
      obtain ⟨hstands, hword⟩ := not_or.mp (mt List.infix_cons_iff.mpr h)
      refine IsInert.cons ?_ ?_ (ih hword)
      · intro hstart
        exact hb (hstart.mem (by simp))
      · intro hstart
        have hstart : m <+: c :: word ++ b :: gap := hstart
        exact hstands (prefix_of_prefix_append_cons hstart hb)

/-- A mnemonic that is in no modifier is found in the instruction. -/
theorem after?_modified (hm : IsSolid m) (h : ∀ modifier ∈ modifiers, ¬ m <:+: modifier.word)
    (cs : List Char) : after? m (modified modifiers cs) = after? m cs := by
  induction modifiers with
  | nil => rfl
  | cons modifier modifiers ih =>
      obtain ⟨hword, hrest⟩ := List.forall_mem_cons.mp h
      rw [modified, after?_append_of_isInert
        (isInert_modifier hm modifier.gap_ne_nil modifier.isSpace hword), ih hrest]

/-- A mnemonic that is in a modifier is found there, in front of letters and white space. -/
theorem exists_after?_modified (hm : IsSolid m) (h : ∃ modifier ∈ modifiers, m <:+: modifier.word)
    (cs : List Char) :
    ∃ behind, IsFlat behind ∧ after? m (modified modifiers cs) = some (behind ++ cs) := by
  induction modifiers with
  | nil =>
      obtain ⟨modifier, hmodifier, -⟩ := h
      cases hmodifier
  | cons modifier modifiers ih =>
      by_cases hword : m <:+: modifier.word
      · obtain ⟨-, -, hflat⟩ := modifier.word_spec
        obtain ⟨before, behind, hsplit, hafter⟩ := exists_after?_of_within hword
        have hbehind : IsFlat behind := isFlat_of_within ⟨before ++ m, [], by simp [hsplit]⟩ hflat
        refine ⟨behind ++ modifier.gap ++ modified modifiers [],
          (hbehind.append (isFlat_of_isSpace modifier.isSpace)).append (isFlat_modified modifiers), ?_⟩
        rw [modified, List.append_assoc, hafter, modified_eq_append modifiers cs]
        simp
      · obtain ⟨other, hother, hin⟩ := h
        have hrest : other ∈ modifiers := (List.mem_cons.mp hother).resolve_left (by
          rintro rfl
          exact hword hin)
        obtain ⟨behind, hflat, hafter⟩ := ih ⟨other, hrest, hin⟩
        refine ⟨behind, hflat, ?_⟩
        rw [modified, after?_append_of_isInert
          (isInert_modifier hm modifier.gap_ne_nil modifier.isSpace hword), hafter]

/-- Letters in front of the first operand are seen. -/
theorem operandsOf_flat_append (hflat : IsFlat front) (hfront : ¬ IsSpace front) (cs : List Char) :
    operandsOf (front ++ cs) ≠ operandsOf cs := by
  obtain ⟨next, others, hcut⟩ := List.exists_cons_of_ne_nil (cutAtCommas_ne_nil 0 cs)
  have hletters : front.filter (fun c => !isBlank c) ≠ [] := by
    intro hnone
    refine hfront fun c hc => ?_
    simpa using List.filter_eq_nil_iff.mp hnone c hc
  have hseen : trim (front ++ next) ≠ trim next := by
    intro hsame
    have hfilter := congrArg (List.filter fun c => !isBlank c) hsame
    rw [filter_trim, filter_trim, List.filter_append] at hfilter
    exact hletters (List.append_left_eq_self.mp hfilter)
  have hfirst : trim (front ++ next) ≠ [] := by
    intro hnone
    have hfilter := congrArg (List.filter fun c => !isBlank c) hnone
    rw [filter_trim, List.filter_append] at hfilter
    exact hletters (List.append_eq_nil_iff.mp hfilter).1
  unfold operandsOf
  rw [cutAtCommas_flat_append hflat hcut, hcut]
  by_cases hnext : trim next = []
  · simp [hnext, hfirst]
  · simp [hnext, hfirst, hseen]

/-- The instruction is white space, or its mnemonic is its first token. -/
theorem IsUnmodified.cases (h : IsUnmodified cs) :
    IsSpace cs ∧ Architecture.mnemonicIn cs = [] ∨
      ∃ space rest, IsSpace space ∧ Architecture.mnemonicIn cs ≠ [] ∧
        cs = space ++ Architecture.mnemonicIn cs ++ rest := by
  rcases isSpace_or_first_token cs with
    ⟨hspace, hnone⟩ | ⟨space, token, rest, hspace, -, hne, hcs, htokens⟩
  · exact Or.inl ⟨hspace, by simp [Architecture.mnemonicIn, hnone]⟩
  · have hplain := h token (by simp [htokens])
    have hmnemonic : Architecture.mnemonicIn cs = token := by
      simp [Architecture.mnemonicIn, htokens, hplain]
    rw [hmnemonic]
    exact Or.inr ⟨space, rest, hspace, hne, hcs⟩

theorem operands_of_no_modifier
    (h : ∀ modifier ∈ modifiers, ¬ Architecture.mnemonicIn cs <:+: modifier.word) :
    (ofText (String.ofList (modified modifiers cs))).operands = (ofText (String.ofList cs)).operands := by
  rw [operands_ofText, operands_ofText, mnemonicIn_modified, after?_modified (mnemonicIn_spec cs).2 h]

theorem operands_of_modifier (hfirst : IsUnmodified cs)
    (h : ∃ modifier ∈ modifiers, Architecture.mnemonicIn cs <:+: modifier.word) :
    (ofText (String.ofList (modified modifiers cs))).operands ≠ (ofText (String.ofList cs)).operands := by
  obtain ⟨-, hsolid⟩ := mnemonicIn_spec cs
  rw [operands_ofText, operands_ofText, mnemonicIn_modified]
  rcases hfirst.cases with ⟨-, hnone⟩ | ⟨space, rest, hspace, hne, hcs⟩
  · -- an instruction of white space has no mnemonic, and all of the text counts as operands
    have hletters : ¬ IsSpace (modified modifiers []) := by
      cases modifiers with
      | nil =>
          obtain ⟨modifier, hmodifier, -⟩ := h
          cases hmodifier
      | cons modifier modifiers =>
          obtain ⟨hword, hsolid, -⟩ := modifier.word_spec
          exact hsolid.not_isSpace hword (by simp [modified])
    rw [hnone, after?_nil, after?_nil, modified_eq_append]
    exact operandsOf_flat_append (isFlat_modified modifiers) hletters cs
  · generalize Architecture.mnemonicIn cs = m at hcs hne hsolid h ⊢
    obtain ⟨behind, hflat, hafter⟩ := exists_after?_modified hsolid h cs
    obtain ⟨modifier, -, hin⟩ := h
    have hbehind : after? m cs = some rest := by
      rw [hcs, List.append_assoc, after?_append_of_isInert (isInert_of_isSpace hsolid hne hspace),
        after?_append]
    have hletters : ¬ IsSpace (behind ++ space ++ m) :=
      hsolid.not_isSpace hne (List.subset_append_right ..)
    have hfront : IsFlat (behind ++ space ++ m) :=
      (hflat.append (isFlat_of_isSpace hspace)).append (isFlat_of_within hin modifier.word_spec.2.2)
    have hwhole : behind ++ cs = behind ++ space ++ m ++ rest := by
      rw [hcs]
      simp only [List.append_assoc]
    rw [hafter, hbehind, Option.getD_some, Option.getD_some, hwhole]
    exact operandsOf_flat_append hfront hletters rest

theorem passedOver_of_operands
    (h : (ofText (String.ofList (modified modifiers cs))).operands = (ofText (String.ofList cs)).operands) :
    PassedOver modifiers cs where
  mnemonic := by rw [mnemonic_ofText, mnemonic_ofText, mnemonicIn_modified]
  operands := h
  target? := by rw [target?, target?, h]

/-- The mnemonics of calls and jumps are in no modifier, but for that of the plain branch. -/
theorem not_infix_of_transfer {arch : Architecture}
    (hm : isOneOf (arch.callMnemonics ++ arch.jumpMnemonics) m = true)
    (hplain : sameLetters m "b".toList = false) (modifier : Modifier) : ¬ m <:+: modifier.word := by
  have hnames : ∀ name ∈ arch.callMnemonics ++ arch.jumpMnemonics,
      sameLetters name.toList "b".toList = false →
        ∀ other ∈ Architecture.modifiers, ¬ foldCase name.toList <:+: foldCase other.toList := by
    cases arch
    all_goals decide
  obtain ⟨name, hname, hletters⟩ := List.any_eq_true.mp hm
  obtain ⟨other, hother, hword⟩ := List.any_eq_true.mp modifier.known
  have hfold := sameLetters_iff.mp hletters
  intro hin
  have hfolded : foldCase m <:+: foldCase modifier.word := hin.map Char.toLower
  rw [hfold, sameLetters_iff.mp hword] at hfolded
  refine hnames name hname ?_ other hother hfolded
  rw [← hplain, sameLetters, sameLetters, hfold]

/-- **Modifiers are passed over exactly where none of them has the mnemonic in it**, which is always found:
then the instruction has the parts that it has without them.  So have all calls and jumps but the plain branch
`b`, whatever stands in front of them. -/
theorem passedOver_iff (modifiers : List Modifier) (hfirst : IsUnmodified cs) :
    (ofText (String.ofList (modified modifiers cs))).mnemonic = (ofText (String.ofList cs)).mnemonic ∧
      (PassedOver modifiers cs ↔
        ∀ modifier ∈ modifiers, ¬ (ofText (String.ofList cs)).mnemonic <:+: modifier.word) ∧
      ∀ arch : Architecture,
        arch.isCall (String.ofList cs) = true ∨ arch.isJump (String.ofList cs) = true →
          (ofText (String.ofList cs)).is "b" = false → PassedOver modifiers cs := by
  have hiff : PassedOver modifiers cs ↔
      ∀ modifier ∈ modifiers, ¬ (ofText (String.ofList cs)).mnemonic <:+: modifier.word := by
    rw [mnemonic_ofText]
    constructor
    · intro hover modifier hmodifier hin
      exact operands_of_modifier hfirst ⟨modifier, hmodifier, hin⟩ hover.operands
    · intro h
      exact passedOver_of_operands (operands_of_no_modifier h)
  refine ⟨?_, hiff, ?_⟩
  · rw [mnemonic_ofText, mnemonic_ofText, mnemonicIn_modified]
  · intro arch htransfer hplain
    refine hiff.mpr fun modifier _ => ?_
    rw [Disassembly.is] at hplain
    rw [mnemonic_ofText] at hplain ⊢
    have hm : isOneOf (arch.callMnemonics ++ arch.jumpMnemonics)
        (Architecture.mnemonicIn (String.ofList cs).toList) = true := by
      simpa [isOneOf, Architecture.isCall, Architecture.isJump] using htransfer
    exact not_infix_of_transfer (by simpa using hm) hplain modifier

/-- The modifier `bnd` and a space. -/
def bnd : Modifier := ⟨['b', 'n', 'd'], [' '], by decide, by decide, by decide⟩

/-- The target of a call is found behind `bnd`. -/
theorem indirectCall_passedOver :
    (ofText "bnd call qword ptr [rip+0x2fe2]").target? = some (.relativeSlot 0x2fe2) := by
  have hfirst : IsUnmodified "call qword ptr [rip+0x2fe2]".toList := by decide +kernel
  have htext : String.ofList (modified [bnd] "call qword ptr [rip+0x2fe2]".toList) =
      "bnd call qword ptr [rip+0x2fe2]" := by decide +kernel
  obtain ⟨-, -, htransfer⟩ := passedOver_iff [bnd] hfirst
  have hover := htransfer .x86_64 (Or.inl (by decide +kernel)) (by decide +kernel)
  rw [← htext]
  exact hover.target?.trans (by decide +kernel)

/-- The mnemonic of a branch is found in `bnd`, and the rest of `bnd` is taken for an operand. -/
theorem branch_not_passedOver :
    ¬ PassedOver [bnd] "b 0x10400".toList ∧
      (ofText "bnd b 0x10400").target? = some (.other "nd b 0x10400") ∧
      (ofText "b 0x10400").target? = some (.direct ⟨0x10400⟩) := by
  refine ⟨?_, by decide +kernel, by decide +kernel⟩
  intro hover
  have htarget := hover.target?
  revert htarget
  decide +kernel

end StackWalk.Disassembly
