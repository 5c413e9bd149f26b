import StackWalk.Instruction.Operand
import StackWalk.Proofs.Address
import StackWalk.Proofs.Numeral

/-!
# StackWalk.Proofs.Instruction.Forms — the forms of an operand are recognised

What an operand refers to is told by a cascade: a size is taken off, then a segment, then the brackets are
looked for, and what is left is tried as a number and as a distance from the instruction pointer.  For each
form that an operand is written in the cascade comes to its end at the right place (`classify_forms`):
whatever the numbers are, and however they are spelled.

The cascade can go wrong where an earlier step takes what belongs to a later one.  `IsPlain` is what rules
this out for the first two steps: a text that starts like no size and has no colon.  The number step does not
take a distance, because no number starts with the letter of an instruction pointer (`number?_of_letter`).
-/

namespace StackWalk.Operand

open Text

/-! ## Spellings -/

/-- The text spells a number in hexadecimal: behind `0x`, with any zeros in front, in either case. -/
def Spells (cs : List Char) (n : Nat) : Prop :=
  ∃ zeros, foldCase cs = '0' :: 'x' :: (List.replicate zeros '0' ++ hexDigits n)

/-- The text names the instruction pointer, in either case. -/
def IsPointer (cs : List Char) : Prop :=
  foldCase cs = ['r', 'i', 'p'] ∨ foldCase cs = ['e', 'i', 'p']

/-- Nothing, or one of the sizes in either case and a space. -/
def IsSize (cs : List Char) : Prop :=
  cs = [] ∨ ∃ size ∈ sizes, ∃ word, sameLetters word size.toList = true ∧ cs = word ++ [' ']

/-- The first letters of the segments `ds`, `cs`, `ss`, `es`, `fs` and `gs`. -/
def segmentLetters : List Char := ['d', 'c', 's', 'e', 'f', 'g']

/-- Nothing, or one of the segments and a colon. -/
def IsSegment (cs : List Char) : Prop :=
  cs = [] ∨ ∃ c ∈ segmentLetters, cs = [c, 's', ':']

/-- A text of tokens with white space around each of them. -/
inductive Spaced : List (List Char) → List Char → Prop
  | nil {space : List Char} (hspace : IsSpace space) : Spaced [] space
  | cons {space token cs : List Char} {tokens : List (List Char)} (hspace : IsSpace space)
      (hrest : Spaced tokens cs) : Spaced (token :: tokens) (space ++ token ++ cs)

/-- What the tokens between two brackets refer to. -/
inductive Refers : List (List Char) → Operand → Prop
  | fixed {number : List Char} {a : Address} (hnumber : Spells number a.toNat) :
      Refers [number] (.absoluteSlot a)
  | next {pointer : List Char} (hpointer : IsPointer pointer) : Refers [pointer] (.relativeSlot 0)
  | above {pointer number : List Char} {d : Nat} (hpointer : IsPointer pointer)
      (hnumber : Spells number d) (hd : d ≤ maxDistance) :
      Refers [pointer, ['+'], number] (.relativeSlot d)
  | below {pointer number : List Char} {d : Nat} (hpointer : IsPointer pointer)
      (hnumber : Spells number d) (hd : d ≤ maxDistance) :
      Refers [pointer, ['-'], number] (.relativeSlot (-d))

/-- An operand without a size and without a segment. -/
structure IsPlain (cs : List Char) : Prop where
  trimmed : IsTrimmed cs
  sizeless : ∀ size ∈ sizes, (foldCase cs).take 2 ≠ size.toList.take 2
  uncut : ':' ∉ cs

variable {cs rest number pointer size segment inner word : List Char} {tokens : List (List Char)}
  {a : Address} {n : Nat} {c : Char}

/-! ## Sizes -/

/-- A size is told by its first two letters. -/
theorem take_two_of_sameLetters {name : String} (hname : name ∈ sizes)
    (h : sameLetters (cs.take name.length) name.toList = true) :
    (foldCase cs).take 2 = name.toList.take 2 := by
  have hlower : ∀ name ∈ sizes, foldCase name.toList = name.toList ∧ 2 ≤ name.length := by decide
  obtain ⟨hfold, htwo⟩ := hlower name hname
  have hletters : (foldCase cs).take name.length = name.toList := by
    rw [sameLetters_iff, hfold] at h
    simpa [foldCase] using h
  rw [← hletters, List.take_take, Nat.min_eq_left htwo]

/-- What starts like no size is left as it is. -/
theorem withoutSize_eq_self (h : ∀ size ∈ sizes, (foldCase cs).take 2 ≠ size.toList.take 2) :
    withoutSize cs = cs := by
  unfold withoutSize
  split
  case h_1 name hfind =>
    have hletters := List.find?_some hfind
    exact absurd (take_two_of_sameLetters (List.mem_of_find?_eq_some hfind) hletters)
      (h name (List.mem_of_find?_eq_some hfind))
  case h_2 => rfl

/-- A size is taken off, and no other one is found in its place. -/
theorem withoutSize_append {name : String} (hname : name ∈ sizes)
    (hword : sameLetters word name.toList = true) : withoutSize (word ++ rest) = trimStart rest := by
  have hlength : word.length = name.length := by
    have hfold := congrArg List.length (sameLetters_iff.mp hword)
    rwa [length_foldCase, length_foldCase, String.length_toList] at hfold
  have hself : sameLetters ((word ++ rest).take name.length) name.toList = true := by
    rw [← hlength, List.take_left]
    exact hword
  -- The first size that fits is the only one: no two of them start with the same two letters.
  have hunique : ∀ name ∈ sizes, ∀ name' ∈ sizes,
      name.toList.take 2 = name'.toList.take 2 → name = name' := by decide
  unfold withoutSize
  split
  case h_1 found hfind =>
    have hmem := List.mem_of_find?_eq_some hfind
    have hletters := List.find?_some hfind
    have hsame : found = name := by
      apply hunique found hmem name hname
      rw [← take_two_of_sameLetters hmem hletters, take_two_of_sameLetters hname hself]
    rw [hsame, ← hlength, List.drop_left]
  case h_2 hfind => exact absurd hself (List.find?_eq_none.mp hfind name hname)

theorem sizeless_of_first (hfirst : cs.head? = some c)
    (hc : ∀ size ∈ sizes, size.toList.head? ≠ some c.toLower) :
    ∀ size ∈ sizes, (foldCase cs).take 2 ≠ size.toList.take 2 := by
  intro name hname htake
  apply hc name hname
  have hhead := congrArg List.head? htake
  simpa [foldCase, hfirst, List.head?_take] using hhead.symm

/-! ## Sizes and segments are taken off -/

theorem IsPlain.withoutSegment (h : IsPlain cs) (hsegment : IsSegment segment) :
    Operand.withoutSegment (segment ++ cs) = cs := by
  rcases hsegment with rfl | ⟨c, hc, rfl⟩
  · simp [Operand.withoutSegment, splitAtFirst?_eq_none h.uncut]
  · have hletters : ∀ c ∈ segmentLetters, ':' ∉ [c, 's'] ∧ c.utf8Size = 1 :=
      List.all_iff_forall_prop.mp (by decide)
    obtain ⟨hcolon, hone⟩ := hletters c hc
    have hsplit : splitAtFirst? ':' ([c, 's'] ++ ':' :: cs) = some ([c, 's'], cs) :=
      splitAtFirst?_append hcolon
    have hstart := trimStart_of_first h.trimmed.first
    show Operand.withoutSegment ([c, 's'] ++ ':' :: cs) = cs
    unfold Operand.withoutSegment
    simp only [hsplit, hone, if_true, hstart]

theorem IsPlain.isTrimmed_segment (h : IsPlain cs) (hsegment : IsSegment segment) :
    IsTrimmed (segment ++ cs) := by
  rcases hsegment with rfl | ⟨c, hc, rfl⟩
  · exact h.trimmed
  · have htrimmed : ∀ c ∈ segmentLetters, IsTrimmed [c] := List.all_iff_forall_prop.mp (by decide)
    exact (htrimmed c hc).append h.trimmed ['s', ':']

theorem IsPlain.sizeless_segment (h : IsPlain cs) (hsegment : IsSegment segment) :
    ∀ size ∈ sizes, (foldCase (segment ++ cs)).take 2 ≠ size.toList.take 2 := by
  rcases hsegment with rfl | ⟨c, hc, rfl⟩
  · exact h.sizeless
  · -- No size has an `s` for its second letter.
    have hletters : ∀ c ∈ segmentLetters, ∀ size ∈ sizes, foldCase [c, 's'] ≠ size.toList.take 2 :=
      List.all_iff_forall_prop.mp (by decide)
    exact hletters c hc

theorem IsPlain.isTrimmed_prefixes (h : IsPlain cs) (hsize : IsSize size) (hsegment : IsSegment segment) :
    IsTrimmed (size ++ segment ++ cs) := by
  have htrimmed := h.isTrimmed_segment hsegment
  rw [List.append_assoc]
  rcases hsize with rfl | ⟨name, hname, word, hword, rfl⟩
  · exact htrimmed
  · have hnames : ∀ name ∈ sizes, IsTrimmed (foldCase name.toList) := by decide
    have hletters : IsTrimmed word := by
      apply isTrimmed_of_foldCase
      rw [sameLetters_iff.mp hword]
      exact hnames name hname
    exact hletters.append htrimmed [' ']

/-- **What stands behind a size and a segment is left alone**, whichever of the two there are. -/
theorem IsPlain.withoutPrefixes (h : IsPlain cs) (hsize : IsSize size) (hsegment : IsSegment segment) :
    Operand.withoutSegment (withoutSize (trim (size ++ segment ++ cs))) = cs := by
  have htrimmed := h.isTrimmed_segment hsegment
  rw [(h.isTrimmed_prefixes hsize hsegment).trim, List.append_assoc]
  rcases hsize with rfl | ⟨name, hname, word, hword, rfl⟩
  · rw [List.nil_append, withoutSize_eq_self (h.sizeless_segment hsegment), h.withoutSegment hsegment]
  · have hspace : IsSpace [' '] := by decide
    rw [List.append_assoc, withoutSize_append hname hword, trimStart_append hspace,
      trimStart_of_first htrimmed.first, h.withoutSegment hsegment]

/-! ## Brackets -/

theorem bracketsOf_around (inner : List Char) : bracketsOf ('[' :: inner ++ [']']) = .around inner := by
  have hopen : splitAtFirst? '[' ('[' :: inner ++ [']']) = some ([], inner ++ [']']) := by
    simp [splitAtFirst?]
  unfold bracketsOf
  rw [hopen]
  simp only [splitAtLast?_concat]

theorem bracketsOf_absent (h : '[' ∉ cs) : bracketsOf cs = .absent := by
  unfold bracketsOf
  rw [splitAtFirst?_eq_none h]

/-! ## Numbers -/

/-- The text of an address in JSON spells it. -/
theorem spells_serial (a : Address) : Spells a.serial.toList a.toNat := by
  refine ⟨0, ?_⟩
  rw [Address.serial, String.toList_ofList, foldCase_append]
  show '0' :: 'x' :: foldCase (hexDigits a.toNat) = '0' :: 'x' :: hexDigits a.toNat
  rw [foldCase_hexDigits]

theorem Spells.isSolid (h : Spells number n) : IsSolid number := by
  obtain ⟨zeros, hfold⟩ := h
  have hmarker : IsSolid ['0', 'x'] := by decide
  apply isSolid_of_foldCase
  rw [hfold]
  exact hmarker.append ((isSolid_replicate rfl zeros).append (isSolid_hexDigits n))

theorem Spells.isTrimmed (h : Spells number n) (signs : Nat) :
    IsTrimmed (List.replicate signs '#' ++ number) := by
  have hsigns : IsSolid (List.replicate signs '#') := isSolid_replicate rfl signs
  apply (hsigns.append h.isSolid).isTrimmed
  intro hnil
  obtain ⟨zeros, hfold⟩ := h
  rw [(List.append_eq_nil_iff.mp hnil).2] at hfold
  cases hfold

/-- In a spelled number there are only digits and the `x`. -/
theorem Spells.not_mem (mark : Char) (h : Spells number n) (hcase : mark.toLower = mark)
    (hdigit : ∀ d < 16, Nat.digitChar d ≠ mark) (hmarker : 'x' ≠ mark) : mark ∉ number := by
  obtain ⟨zeros, hfold⟩ := h
  apply not_mem_of_foldCase hcase
  rw [hfold]
  have hzero : mark ≠ '0' := (hdigit 0 (by decide)).symm
  have hdigits : mark ∉ hexDigits n := by
    intro hmem
    obtain ⟨d, hd, rfl⟩ := exists_digitChar_of_mem_toDigits (by decide) hmem
    exact hdigit d hd rfl
  simp [hzero, hmarker.symm, hdigits]

theorem Spells.uncut (h : Spells number n) : ':' ∉ number :=
  h.not_mem ':' (by decide) (by decide) (by decide)

/-- The marker of a spelled number is in either case, and behind it stand the digits. -/
theorem Spells.exists_digits (h : Spells number n) :
    ∃ x digits zeros, number = '0' :: x :: digits ∧ (x = 'x' ∨ x = 'X') ∧
      foldCase digits = List.replicate zeros '0' ++ hexDigits n := by
  obtain ⟨zeros, hfold⟩ := h
  match number with
  | [] => simp [foldCase] at hfold
  | [_] => simp [foldCase] at hfold
  | zero :: x :: digits =>
      simp only [foldCase, List.map_cons, List.cons.injEq] at hfold
      obtain ⟨hzero, hx, hdigits⟩ := hfold
      refine ⟨x, digits, zeros, ?_, ?_, hdigits⟩
      · rcases toLower_cases zero with h | ⟨hlow, -, h⟩
        · rw [← h, hzero]
        · rw [hzero] at h
          have hcode : '0'.toNat = 48 := rfl
          omega
      · exact eq_or_eq_of_toLower 'X' hx rfl

/-- **A spelled number is read as that number**, with any number signs in front. -/
theorem Spells.number? {word : UInt64} (h : Spells number word.toNat) (signs : Nat) :
    number? (List.replicate signs '#' ++ number) = some word := by
  obtain ⟨x, digits, zeros, rfl, hx, hfold⟩ := h.exists_digits
  have htrim := (h.isTrimmed signs).trim
  have hdrop : (List.replicate signs '#' ++ '0' :: x :: digits).dropWhile (· = '#') = '0' :: x :: digits := by
    rw [List.dropWhile_append_of_pos (by simp)]
    rfl
  have hread : readWord 16 digits = .ok word := by
    have hdigits : readDigits 16 wordBound 0 digits = .ok word.toNat := by
      rw [← readDigits_foldCase, hfold, readDigits_zeros (by decide) (by decide)]
      exact readDigits_toDigits (by decide) (by decide) word.toNat_lt
    have hne : digits ≠ [] := by
      rintro rfl
      exact absurd (List.append_eq_nil_iff.mp hfold.symm).2 Nat.toDigits_ne_nil
    simp [readWord, readNumeral_of_readDigits hne hdigits, Except.map]
  unfold Operand.number?
  rw [htrim, hdrop, tokens_of_isSolid h.isSolid (by simp)]
  rcases hx with rfl | rfl
  · simp [hread, Except.toOption]
  · simp [hread, Except.toOption]

theorem Spells.isPlain (h : Spells number n) (signs : Nat) :
    IsPlain (List.replicate signs '#' ++ number) where
  trimmed := h.isTrimmed signs
  sizeless := by
    obtain ⟨x, digits, -, rfl, -, -⟩ := h.exists_digits
    cases signs with
    | zero => exact sizeless_of_first (c := '0') rfl (by decide)
    | succ signs => exact sizeless_of_first (c := '#') rfl (by decide)
  uncut := by simp [h.uncut]

/-- **A number without brackets is the target itself**, whatever stands in front of it: a size, a segment or
number signs. -/
theorem classify_number (hsize : IsSize size) (hsegment : IsSegment segment) (signs : Nat)
    (hnumber : Spells number a.toNat) :
    classify (size ++ segment ++ (List.replicate signs '#' ++ number)) = .direct a := by
  have hbracket : '[' ∉ number := hnumber.not_mem '[' (by decide) (by decide) (by decide)
  have hopen : '[' ∉ List.replicate signs '#' ++ number := by simp [hbracket]
  have hread := hnumber.number? signs
  unfold classify
  simp only [(hnumber.isPlain signs).withoutPrefixes hsize hsegment, bracketsOf_absent hopen, hread]

/-! ## Between the brackets -/

/-- No number starts with a letter. -/
theorem number?_of_letter (hblank : isBlank c = false) (hsign : c ≠ '#') (hdigit : isDigit c = false) :
    number? (c :: cs) = none := by
  obtain ⟨trimmed, htrim⟩ := exists_trim_eq_cons cs isSpace_nil hblank
  obtain ⟨token, htoken⟩ := exists_head?_tokens trimmed hblank
  have hzero : c ≠ '0' := by
    rintro rfl
    cases hdigit
  rw [List.nil_append] at htrim
  unfold number?
  rw [htrim, List.dropWhile_cons_of_neg (by simpa using hsign), htoken]
  simp [hzero, hdigit]

theorem Spaced.filter (h : Spaced tokens inner) (hsolid : ∀ token ∈ tokens, IsSolid token) :
    inner.filter (fun c => !isBlank c) = tokens.flatten := by
  have hblank {space : List Char} (hspace : IsSpace space) :
      space.filter (fun c => !isBlank c) = [] := by
    rw [List.filter_eq_nil_iff]
    intro c hc
    simp [hspace c hc]
  induction h with
  | nil hspace => exact hblank hspace
  | @cons space token cs tokens hspace _ ih =>
      have htoken : token.filter (fun c => !isBlank c) = token := by
        rw [List.filter_eq_self]
        intro c hc
        simp [hsolid token (List.mem_cons_self ..) c hc]
      have hrest := ih fun token' htoken' => hsolid token' (List.mem_cons_of_mem token htoken')
      rw [List.filter_append, List.filter_append, hblank hspace, htoken, hrest]
      rfl

theorem Spaced.not_mem {mark : Char} (h : Spaced tokens inner) (hmark : isBlank mark = false)
    (htokens : ∀ token ∈ tokens, mark ∉ token) : mark ∉ inner := by
  have hblank {space : List Char} (hspace : IsSpace space) : mark ∉ space := by
    intro hmem
    rw [hspace mark hmem] at hmark
    cases hmark
  induction h with
  | nil hspace => exact hblank hspace
  | @cons space token cs tokens hspace _ ih =>
      have htoken := htokens token (List.mem_cons_self ..)
      have hrest := ih fun token' htoken' => htokens token' (List.mem_cons_of_mem token htoken')
      simp [hblank hspace, htoken, hrest]

theorem IsPointer.isSolid (h : IsPointer pointer) : IsSolid pointer := by
  apply isSolid_of_foldCase
  rcases h with h | h
  · rw [h]
    decide
  · rw [h]
    decide

theorem IsPointer.uncut (h : IsPointer pointer) : ':' ∉ pointer := by
  apply not_mem_of_foldCase (by decide)
  rcases h with h | h
  · rw [h]
    decide
  · rw [h]
    decide

/-- The instruction pointer starts with a letter. -/
theorem IsPointer.exists_cons (h : IsPointer pointer) :
    ∃ c letters, pointer = c :: letters ∧ isBlank c = false ∧ c ≠ '#' ∧ isDigit c = false := by
  cases pointer with
  | nil =>
      rcases h with h | h
      · cases h
      · cases h
  | cons c letters =>
      refine ⟨c, letters, rfl, ?_⟩
      rcases h with h | h
      · rcases eq_or_eq_of_toLower 'R' (List.cons.inj h).1 rfl with rfl | rfl
        · decide
        · decide
      · rcases eq_or_eq_of_toLower 'E' (List.cons.inj h).1 rfl with rfl | rfl
        · decide
        · decide

/-- A distance is not taken for a number. -/
theorem IsPointer.number?_eq_none (h : IsPointer pointer) (hinner : Spaced (pointer :: tokens) inner) :
    Operand.number? (trim inner) = none := by
  obtain ⟨c, letters, rfl, hblank, hsign, hdigit⟩ := h.exists_cons
  cases hinner with
  | @cons space _ cs _ hspace _ =>
      obtain ⟨trimmed, htrim⟩ := exists_trim_eq_cons (letters ++ cs) hspace hblank
      have htext : space ++ (c :: letters) ++ cs = space ++ c :: (letters ++ cs) := by simp
      rw [htext, htrim]
      exact number?_of_letter hblank hsign hdigit

/-- What stands behind the instruction pointer, whichever of its names is used. -/
theorem IsPointer.isPrefixOf? (h : IsPointer pointer) (rest : List Char) :
    ("rip".toList.isPrefixOf? (foldCase pointer ++ rest)).or
      ("eip".toList.isPrefixOf? (foldCase pointer ++ rest)) = some rest := by
  rcases h with h | h
  · rw [h]
    have hrip : "rip".toList.isPrefixOf? (['r', 'i', 'p'] ++ rest) = some rest := isPrefixOf?_append _ _
    rw [hrip]
    rfl
  · rw [h]
    have heip : "eip".toList.isPrefixOf? (['e', 'i', 'p'] ++ rest) = some rest := isPrefixOf?_append _ _
    have hrip : "rip".toList.isPrefixOf? (['e', 'i', 'p'] ++ rest) = none := rfl
    rw [hrip, heip]
    rfl

theorem Refers.isSolid_and_uncut {operand : Operand} (h : Refers tokens operand) :
    ∀ token ∈ tokens, IsSolid token ∧ ':' ∉ token := by
  have hnumber {number : List Char} {n : Nat} (h : Spells number n) : IsSolid number ∧ ':' ∉ number :=
    ⟨h.isSolid, h.uncut⟩
  have hpointer {pointer : List Char} (h : IsPointer pointer) : IsSolid pointer ∧ ':' ∉ pointer :=
    ⟨h.isSolid, h.uncut⟩
  have hsign : ∀ sign ∈ ['+', '-'], IsSolid [sign] ∧ ':' ∉ [sign] :=
    List.all_iff_forall_prop.mp (by decide)
  cases h with
  | fixed hn => simp [hnumber hn]
  | next hp => simp [hpointer hp]
  | above hp hn => simp [hpointer hp, hnumber hn, hsign]
  | below hp hn => simp [hpointer hp, hnumber hn, hsign]

/-! ## Distances -/

/-- White space and case do not matter to a distance. -/
theorem Spaced.compact (hinner : Spaced (pointer :: tokens) inner)
    (hsolid : ∀ token ∈ pointer :: tokens, IsSolid token) :
    foldCase ((trim inner).filter fun c => !isBlank c) = foldCase pointer ++ foldCase tokens.flatten := by
  rw [filter_trim, hinner.filter hsolid, List.flatten_cons, foldCase_append]

theorem IsPointer.distance?_alone (h : IsPointer pointer) (hinner : Spaced [pointer] inner)
    (hsolid : ∀ token ∈ [pointer], IsSolid token) : distance? (trim inner) = some 0 := by
  have hcompact := hinner.compact hsolid
  unfold distance?
  simp only [hcompact, h.isPrefixOf?]
  rfl

theorem IsPointer.distance?_signed {sign : Char} (h : IsPointer pointer) (hsign : sign ∈ ['+', '-'])
    (hnumber : Spells number n) (hn : n ≤ maxDistance) (hinner : Spaced [pointer, [sign], number] inner)
    (hsolid : ∀ token ∈ [pointer, [sign], number], IsSolid token) :
    distance? (trim inner) = some (if sign = '-' then -Int.ofNat n else Int.ofNat n) := by
  have hcompact := hinner.compact hsolid
  have hflat : foldCase [[sign], number].flatten = sign :: foldCase number := by
    have hsigns : ∀ sign ∈ ['+', '-'], foldCase [sign] = [sign] := List.all_iff_forall_prop.mp (by decide)
    show foldCase ([sign] ++ (number ++ [])) = sign :: foldCase number
    rw [foldCase_append, hsigns sign hsign, List.append_nil]
    rfl
  have hword : (UInt64.ofNat n).toNat = n :=
    UInt64.toNat_ofNat_of_lt' (Nat.lt_of_le_of_lt hn (by decide))
  -- What is read is the folded number, and that is another spelling of it.
  have hread : Operand.number? (foldCase number) = some (UInt64.ofNat n) := by
    have hfolded : Spells (foldCase number) (UInt64.ofNat n).toNat := by
      obtain ⟨zeros, hfold⟩ := hnumber
      exact ⟨zeros, by rw [foldCase_foldCase, hfold, hword]⟩
    exact hfolded.number? 0
  have hcases : sign = '+' ∨ sign = '-' := by simpa using hsign
  unfold distance?
  simp only [hcompact, hflat, h.isPrefixOf?]
  simp [hcases, hread, hword, hn]

/-! ## Operands in brackets -/

theorem Spells.number?_spaced {word : UInt64} (h : Spells number word.toNat)
    (hinner : Spaced [number] inner) : Operand.number? (trim inner) = some word := by
  cases hinner with
  | cons hspace hrest =>
      cases hrest with
      | nil hspace' =>
          have htrimmed : IsTrimmed number := h.isTrimmed 0
          rw [htrimmed.trim_between hspace hspace']
          exact h.number? 0

theorem isPlain_brackets (huncut : ':' ∉ inner) : IsPlain ('[' :: inner ++ [']']) where
  trimmed := by
    have hopen : IsTrimmed ['['] := by decide
    have hclose : IsTrimmed [']'] := by decide
    exact hopen.append hclose inner
  sizeless := sizeless_of_first (c := '[') rfl (by decide)
  uncut := by simp [huncut]

/-- **What the tokens between the brackets refer to is what the operand refers to.** -/
theorem classify_brackets {operand : Operand} (hsize : IsSize size) (hsegment : IsSegment segment)
    (hinner : Spaced tokens inner) (hrefers : Refers tokens operand) :
    classify (size ++ segment ++ ('[' :: inner ++ [']'])) = operand := by
  have htokens := hrefers.isSolid_and_uncut
  have hsolid : ∀ token ∈ tokens, IsSolid token := fun token htoken => (htokens token htoken).1
  have huncut : ':' ∉ inner := hinner.not_mem rfl fun token htoken => (htokens token htoken).2
  unfold classify
  simp only [(isPlain_brackets huncut).withoutPrefixes hsize hsegment, bracketsOf_around]
  cases hrefers with
  | fixed hnumber => simp only [hnumber.number?_spaced hinner]
  | next hpointer =>
      simp only [hpointer.number?_eq_none hinner, hpointer.distance?_alone hinner hsolid]
  | above hpointer hnumber hd =>
      simp only [hpointer.number?_eq_none hinner,
        hpointer.distance?_signed (by decide) hnumber hd hinner hsolid]
      rfl
  | below hpointer hnumber hd =>
      simp only [hpointer.number?_eq_none hinner,
        hpointer.distance?_signed (by decide) hnumber hd hinner hsolid]
      rfl

/-! ## Slots -/

/-- A distance is added modulo `2 ^ 64`, whatever its sign. -/
theorem toNat_displaced (a : Address) (d : Int) :
    ((displaced a d).toNat : Int) = (a.toNat + d) % 0x1_0000_0000_0000_0000 := by
  unfold displaced
  split
  case isTrue h =>
    rw [Address.toNat_add, UInt64.toNat_ofNat']
    omega
  case isFalse h =>
    show (((a.value - UInt64.ofNat d.natAbs).toNat : Nat) : Int) = _
    rw [UInt64.toNat_sub, UInt64.toNat_ofNat']
    have : a.value.toNat = a.toNat := rfl
    omega

/-! ## All forms -/

/-- **Every form of an operand is recognised, for every value in it and for every spelling**: a number by
itself or behind a number sign is the target, between brackets it is a slot, and a distance from the
instruction pointer is a slot that far behind the end of the instruction, modulo `2 ^ 64`. -/
theorem classify_forms :
    (∀ a : Address, Spells a.serial.toList a.toNat) ∧
      (∀ (number : List Char) (a : Address), Spells number a.toNat →
        classify number = .direct a ∧ classify ('#' :: number) = .direct a) ∧
      (∀ (size segment inner : List Char) (tokens : List (List Char)) (operand : Operand),
        IsSize size → IsSegment segment → Spaced tokens inner → Refers tokens operand →
          classify (size ++ segment ++ ('[' :: inner ++ [']'])) = operand) ∧
      ∀ (d : Int) (ip : Address) (length : UInt64), ∃ slot,
        (relativeSlot d).slot? ip length = some slot ∧
          (slot.toNat : Int) = (ip.toNat + length.toNat + d) % 0x1_0000_0000_0000_0000 := by
  refine ⟨spells_serial, ?_, ?_, ?_⟩
  · intro number a hnumber
    have hbare (signs : Nat) : classify (List.replicate signs '#' ++ number) = .direct a :=
      classify_number (Or.inl rfl) (Or.inl rfl) signs hnumber
    exact ⟨hbare 0, hbare 1⟩
  · intro size segment inner tokens operand hsize hsegment hinner hrefers
    exact classify_brackets hsize hsegment hinner hrefers
  · intro d ip length
    refine ⟨displaced (ip + length) d, rfl, ?_⟩
    rw [toNat_displaced, Address.toNat_add]
    omega

/-- A size and a register in upper case, a segment, and a distance with zeros and white space. -/
theorem threadSlot_forms :
    classify "QWORD Ptr gs:[ RIP - 0x00fF ]".toList = .relativeSlot (-0xff) ∧
      classify "#0xFFFFFFFFFFFFFFFF".toList = .direct ⟨0xFFFF_FFFF_FFFF_FFFF⟩ := by
  obtain ⟨-, hbare, hbrackets, -⟩ := classify_forms
  have hsize : IsSize "QWORD Ptr ".toList := Or.inr ⟨"qword ptr", by decide, "QWORD Ptr".toList, by decide, rfl⟩
  have hsegment : IsSegment "gs:".toList := Or.inr ⟨'g', by decide, rfl⟩
  have hspace : IsSpace [' '] := by decide
  have hinner : Spaced ["RIP".toList, ['-'], "0x00fF".toList] " RIP - 0x00fF ".toList :=
    .cons hspace (.cons hspace (.cons hspace (.nil hspace)))
  have hpointer : IsPointer "RIP".toList := Or.inl (by decide)
  have hnumber : Spells "0x00fF".toList 0xff := ⟨2, by decide⟩
  have hlast : Spells "0xFFFFFFFFFFFFFFFF".toList (Address.toNat ⟨0xFFFF_FFFF_FFFF_FFFF⟩) :=
    ⟨0, by decide⟩
  exact ⟨hbrackets _ _ _ _ _ hsize hsegment hinner (.below hpointer hnumber (by decide)),
    (hbare _ _ hlast).2⟩

end StackWalk.Operand
