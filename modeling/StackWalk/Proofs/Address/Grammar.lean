import Mathlib.Data.List.Induction
import StackWalk.Proofs.Numeral

/-!
# StackWalk.Proofs.Address.Grammar — which texts are addresses

The texts of addresses by a grammar that knows nothing of the reader: digits write a number (`Writes`), a
text spells a number by hexadecimal digits behind a marker or by decimal digits (`Spells`), and there may be
white space around it (`Written`).  How many digits there are does not matter, nor how many zeros stand in
front; the number has to be that of an address.

The reader goes through the digits from the left and stops as soon as the number is too large.  That comes to
the same, because a number is never smaller than what is left of it when digits are taken off its end
(`readDigits_eq_ok_iff`).

The numerals that the reader knows have one thing more than those of the grammar: a plus sign may stand in
front of the digits, behind the marker if there is one.  `parse_iff_written` says that this is all: a text is
read as the address that it spells, with a plus sign or without, and the texts without are told from the
others, so it is exactly the texts with a plus sign that are read although the grammar does not allow them.
-/

namespace StackWalk.Text

variable {radix bound n d : Nat} {c : Char} {cs digits : List Char}

/-! ## Digits -/

/-- The character is a digit of the radix, a letter in either case, and stands for `d`. -/
structure StandsFor (radix : Nat) (c : Char) (d : Nat) : Prop where
  lt : d < radix
  letter : c.toLower = Nat.digitChar d

/-- The digits write the number: each of them counts `radix` times what the next one does. -/
inductive Writes (radix : Nat) : List Char → Nat → Prop
  | nil : Writes radix [] 0
  | snoc {digits : List Char} {n : Nat} {c : Char} {d : Nat} (hdigits : Writes radix digits n)
      (hc : StandsFor radix c d) : Writes radix (digits ++ [c]) (n * radix + d)

theorem standsFor_digitChar (h : d < radix) (hsmall : radix ≤ 16) : StandsFor radix (Nat.digitChar d) d where
  lt := h
  letter := toLower_digitChar (Nat.lt_of_lt_of_le h hsmall)

/-- In lower case there are no letters `A` to `Z`. -/
theorem toLower_not_upper (c : Char) : c.toLower.toNat < 65 ∨ 90 < c.toLower.toNat := by
  by_cases h : 65 ≤ c.toLower.toNat ∧ c.toLower.toNat ≤ 90
  · have hup := toNat_toLower h.1 h.2
    rw [toLower_toLower] at hup
    omega
  · omega

/-- The value of a lower-case digit tells which one it is. -/
theorem digitChar_of_digitValue? (hsmall : radix ≤ 16) (hlower : c.toNat < 65 ∨ 90 < c.toNat)
    (h : digitValue? radix c = some d) : d < radix ∧ c = Nat.digitChar d := by
  unfold digitValue? at h
  simp only [Option.filter_eq_some_iff, decide_eq_true_eq] at h
  obtain ⟨hvalue, hd⟩ := h
  refine ⟨hd, Char.toNat_inj.mp ?_⟩
  have hcode : c.toNat = if d < 10 then 48 + d else 87 + d := by
    simp only [Char.le_def, UInt32.le_iff_toNat_le] at hvalue
    change (if 48 ≤ c.toNat ∧ c.toNat ≤ 57 then some (c.toNat - 48)
      else if 97 ≤ c.toNat ∧ c.toNat ≤ 122 then some (c.toNat - 97 + 10)
      else if 65 ≤ c.toNat ∧ c.toNat ≤ 90 then some (c.toNat - 65 + 10) else none) = some d at hvalue
    split at hvalue
    · obtain rfl := Option.some.inj hvalue
      rw [if_pos (by omega)]
      omega
    · split at hvalue
      · obtain rfl := Option.some.inj hvalue
        rw [if_neg (by omega)]
        omega
      · rw [if_neg (by omega)] at hvalue
        cases hvalue
  have hdigits : ∀ d < 16, (Nat.digitChar d).toNat = if d < 10 then 48 + d else 87 + d := by decide
  rw [hcode, hdigits d (by omega)]

/-- The reader takes a character for the digit that it is. -/
theorem digitValue?_eq_some_iff (hsmall : radix ≤ 16) :
    digitValue? radix c = some d ↔ StandsFor radix c d := by
  rw [← digitValue?_toLower]
  constructor
  · intro h
    obtain ⟨hd, hc⟩ := digitChar_of_digitValue? hsmall (toLower_not_upper c) h
    exact ⟨hd, hc⟩
  · rintro ⟨hd, hc⟩
    rw [hc, digitValue?_digitChar hsmall hd]

/-- Every character of a number is a digit. -/
theorem Writes.exists_standsFor (h : Writes radix digits n) (hc : c ∈ digits) :
    ∃ d, StandsFor radix c d := by
  induction h with
  | nil => cases hc
  | snoc _ hlast ih =>
      rcases List.mem_append.mp hc with hc | hc
      · exact ih hc
      · rw [List.mem_singleton.mp hc]
        exact ⟨_, hlast⟩

theorem Writes.not_mem (h : Writes radix digits n) (hc : ∀ d < radix, c.toLower ≠ Nat.digitChar d) :
    c ∉ digits := by
  intro hmem
  obtain ⟨d, hd, hletter⟩ := h.exists_standsFor hmem
  exact hc d hd hletter

theorem Writes.isSolid (h : Writes radix digits n) (hsmall : radix ≤ 16) : IsSolid digits := by
  intro c hc
  obtain ⟨d, hd, hletter⟩ := h.exists_standsFor hc
  rw [← isBlank_toLower, hletter]
  exact isBlank_digitChar (Nat.lt_of_lt_of_le hd hsmall)

theorem writes_nil_iff : Writes radix [] n ↔ n = 0 := by
  constructor
  · intro h
    generalize hnil : ([] : List Char) = digits at h
    cases h with
    | nil => rfl
    | snoc => simp at hnil
  · rintro rfl
    exact .nil

theorem writes_concat_iff : Writes radix (digits ++ [c]) n ↔
    ∃ front d, Writes radix digits front ∧ StandsFor radix c d ∧ n = front * radix + d := by
  constructor
  · intro h
    generalize hdigits : digits ++ [c] = text at h
    cases h with
    | nil => simp at hdigits
    | snoc hfront hlast =>
        obtain ⟨rfl, hc⟩ := List.append_inj' hdigits rfl
        obtain rfl := List.singleton_inj.mp hc
        exact ⟨_, _, hfront, hlast, rfl⟩
  · rintro ⟨front, d, hfront, hlast, rfl⟩
    exact .snoc hfront hlast

/-- Zeros in front do not change a number. -/
theorem Writes.zeros (h : Writes radix digits n) (hradix : 0 < radix) (zeros : Nat) :
    Writes radix (List.replicate zeros '0' ++ digits) n := by
  induction h with
  | nil =>
      rw [List.append_nil]
      induction zeros with
      | zero => exact .nil
      | succ zeros ih =>
          rw [List.replicate_succ', writes_concat_iff]
          exact ⟨0, 0, ih, ⟨hradix, by decide⟩, by simp⟩
  | snoc _ hlast ih =>
      rw [← List.append_assoc]
      exact .snoc ih hlast

/-- The digits that are written for a number write it. -/
theorem writes_toDigits (hradix : 1 < radix) (hsmall : radix ≤ 16) (n : Nat) :
    Writes radix (Nat.toDigits radix n) n := by
  induction n using Nat.strongRecOn with
  | ind n ih =>
    by_cases hn : n < radix
    · rw [Nat.toDigits_of_lt_base hn, ← List.nil_append [_], writes_concat_iff]
      exact ⟨0, n, .nil, standsFor_digitChar hn hsmall, by simp⟩
    · have quotient := ih (n / radix) (Nat.div_lt_self (by omega) hradix)
      have last := standsFor_digitChar (Nat.mod_lt n (by omega : radix > 0)) hsmall
      rw [Nat.toDigits_of_base_le hradix (Nat.not_lt.mp hn), writes_concat_iff]
      exact ⟨n / radix, n % radix, quotient, last, (Nat.div_add_mod' n radix).symm⟩

/-! ## Reading digits -/

theorem readDigits_concat_iff (hsmall : radix ≤ 16) :
    readDigits radix bound 0 (digits ++ [c]) = .ok n ↔
      ∃ front d, readDigits radix bound 0 digits = .ok front ∧ StandsFor radix c d ∧
        n = front * radix + d ∧ n < bound := by
  rw [readDigits_append]
  cases readDigits radix bound 0 digits with
  | error cause => simp [Except.bind]
  | ok front =>
      simp only [Except.bind, readDigits]
      constructor
      · intro h
        split at h
        case h_1 => cases h
        case h_2 d hd =>
          split at h
          case isTrue hlt =>
            obtain rfl := Except.ok.inj h
            exact ⟨front, d, rfl, (digitValue?_eq_some_iff hsmall).mp hd, rfl, hlt⟩
          case isFalse => cases h
      · rintro ⟨_, d, ⟨rfl⟩, hd, rfl, hlt⟩
        simp [(digitValue?_eq_some_iff hsmall).mpr hd, hlt]

/-- **The reader of digits reads what they write**, if that is below the bound. -/
theorem readDigits_eq_ok_iff (hradix : 0 < radix) (hsmall : radix ≤ 16) (hbound : 0 < bound) :
    readDigits radix bound 0 digits = .ok n ↔ Writes radix digits n ∧ n < bound := by
  induction digits using List.reverseRecOn generalizing n with
  | nil =>
      rw [writes_nil_iff]
      constructor
      · rintro ⟨⟩
        exact ⟨rfl, hbound⟩
      · rintro ⟨rfl, -⟩
        rfl
  | append_singleton digits c ih =>
      rw [readDigits_concat_iff hsmall, writes_concat_iff]
      constructor
      · rintro ⟨front, d, hfront, hlast, hn, hlt⟩
        exact ⟨⟨front, d, (ih.mp hfront).1, hlast, hn⟩, hlt⟩
      · rintro ⟨⟨front, d, hfront, hlast, rfl⟩, hlt⟩
        -- the number in front of the last digit is no larger
        have hle : front ≤ front * radix := Nat.le_mul_of_pos_right front hradix
        exact ⟨front, d, ih.mpr ⟨hfront, by omega⟩, hlast, rfl, hlt⟩

/-! ## Numerals -/

/-- One digit or more that write the number, with a sign in front of them. -/
def IsNumeral (radix : Nat) (sign cs : List Char) (n : Nat) : Prop :=
  ∃ digits, digits ≠ [] ∧ Writes radix digits n ∧ cs = sign ++ digits

/-- What may stand in front of the digits of a numeral that is read. -/
def signs : List (List Char) := [[], ['+']]

theorem exists_sign_iff {p : List Char → Prop} : (∃ sign ∈ signs, p sign) ↔ p [] ∨ p ['+'] := by
  simp [signs]

theorem isNumeral_append_iff (sign : List Char) :
    IsNumeral radix sign (sign ++ digits) n ↔ digits ≠ [] ∧ Writes radix digits n := by
  constructor
  · rintro ⟨digits', hne, hdigits, heq⟩
    obtain rfl := List.append_cancel_left heq
    exact ⟨hne, hdigits⟩
  · rintro ⟨hne, hdigits⟩
    exact ⟨digits, hne, hdigits, rfl⟩

/-- A numeral is not only a sign. -/
theorem not_isNumeral_self (sign : List Char) : ¬ IsNumeral radix sign sign n := by
  have hdigits : IsNumeral radix sign (sign ++ []) n ↔ _ := isNumeral_append_iff sign
  rw [List.append_nil] at hdigits
  simp [hdigits]

theorem isNumeral_nil_iff : IsNumeral radix [] digits n ↔ digits ≠ [] ∧ Writes radix digits n :=
  isNumeral_append_iff []

theorem IsNumeral.isSolid {sign : List Char} (h : IsNumeral radix sign cs n) (hsign : sign ∈ signs)
    (hsmall : radix ≤ 16) : IsSolid cs := by
  have hsigns : ∀ sign ∈ signs, IsSolid sign := by decide
  obtain ⟨digits, -, hdigits, rfl⟩ := h
  exact (hsigns sign hsign).append (hdigits.isSolid hsmall)

/-- A plus sign is no digit. -/
theorem not_isNumeral_plus (hsmall : radix ≤ 16) : ¬ IsNumeral radix [] ('+' :: cs) n := by
  have hplus : ∀ d < 16, '+'.toLower ≠ Nat.digitChar d := by decide
  rw [isNumeral_nil_iff]
  rintro ⟨-, hdigits⟩
  exact hdigits.not_mem (fun d hd => hplus d (Nat.lt_of_lt_of_le hd hsmall)) List.mem_cons_self

/-- **The reader of numerals reads them with a plus sign and without**, if the number is below the bound. -/
theorem readNumeral_eq_ok_iff (hradix : 0 < radix) (hsmall : radix ≤ 16) (hbound : 0 < bound) :
    readNumeral radix bound cs = .ok n ↔ (∃ sign ∈ signs, IsNumeral radix sign cs n) ∧ n < bound := by
  have read {digits : List Char} (hne : digits ≠ []) (sign : List Char) :
      readDigits radix bound 0 digits = .ok n ↔ IsNumeral radix sign (sign ++ digits) n ∧ n < bound := by
    simp [readDigits_eq_ok_iff hradix hsmall hbound, isNumeral_append_iff, hne]
  rw [exists_sign_iff]
  unfold readNumeral
  split
  case h_1 =>
    refine iff_of_false nofun ?_
    rintro ⟨hunsigned | ⟨digits, -, -, hsigned⟩, -⟩
    · exact not_isNumeral_self [] hunsigned
    · simp at hsigned
  case h_2 =>
    refine iff_of_false nofun ?_
    rintro ⟨hunsigned | hsigned, -⟩
    · exact not_isNumeral_plus hsmall hunsigned
    · exact not_isNumeral_self ['+'] hsigned
  case h_3 cs hne =>
    rw [read hne ['+'], or_iff_right (not_isNumeral_plus hsmall)]
    rfl
  case h_4 hnil _ hplus =>
    rw [read hnil [], or_iff_left]
    · rfl
    · rintro ⟨digits, -, -, heq⟩
      exact hplus digits heq

theorem readWord_eq_ok_iff {word : UInt64} (hradix : 0 < radix) (hsmall : radix ≤ 16) :
    readWord radix cs = .ok word ↔ ∃ sign ∈ signs, IsNumeral radix sign cs word.toNat := by
  have read {n : Nat} : readNumeral radix wordBound cs = .ok n ↔ _ :=
    readNumeral_eq_ok_iff hradix hsmall (by decide)
  unfold readWord
  cases hcs : readNumeral radix wordBound cs with
  | error cause =>
      refine iff_of_false nofun fun h => ?_
      rw [read.mpr ⟨h, word.toNat_lt⟩] at hcs
      cases hcs
  | ok n =>
      obtain ⟨h, hn⟩ := read.mp hcs
      constructor
      · intro hword
        obtain rfl : UInt64.ofNat n = word := Except.ok.inj hword
        rwa [UInt64.toNat_ofNat_of_lt' hn]
      · intro hword
        have hsame := read.mpr ⟨hword, word.toNat_lt⟩
        rw [hcs] at hsame
        obtain rfl := Except.ok.inj hsame
        simp [Except.map]

end StackWalk.Text

namespace StackWalk.Address

open Text

variable {sign cs : List Char} {n : Nat}

/-! ## Addresses -/

/-- The second character of a marker. -/
def IsMarker (x : Char) : Prop := x = 'x' ∨ x = 'X'

/-- The text spells the number: by hexadecimal digits behind a marker, or by decimal digits, with a sign in
front of them. -/
inductive Spells (sign : List Char) : List Char → Nat → Prop
  | hexadecimal {x : Char} {cs : List Char} {n : Nat} (hx : IsMarker x)
      (h : IsNumeral 16 sign cs n) : Spells sign ('0' :: x :: cs) n
  | decimal {cs : List Char} {n : Nat} (h : IsNumeral 10 sign cs n) : Spells sign cs n

/-- The text spells the number, with white space around it. -/
def Written (sign : List Char) (text : String) (n : Nat) : Prop :=
  ∃ space cs space', IsSpace space ∧ IsSpace space' ∧ text.toList = space ++ cs ++ space' ∧ Spells sign cs n

theorem Spells.isTrimmed (h : Spells sign cs n) (hsign : sign ∈ signs) : IsTrimmed cs := by
  cases h with
  | hexadecimal hx h =>
      have hmarker : ∀ x, IsMarker x → IsSolid ['0', x] := by
        rintro x (rfl | rfl)
        · decide
        · decide
      exact ((hmarker _ hx).append (h.isSolid hsign (by decide))).isTrimmed (by simp)
  | decimal h =>
      refine (h.isSolid hsign (by decide)).isTrimmed ?_
      obtain ⟨digits, hne, -, rfl⟩ := h
      simp [hne]

/-- What is left when the white space is taken off is what is spelled. -/
theorem written_iff {text : String} (hsign : sign ∈ signs) :
    Written sign text n ↔ Spells sign (trim text.toList) n := by
  constructor
  · rintro ⟨space, cs, space', hspace, hspace', htext, h⟩
    rwa [htext, (h.isTrimmed hsign).trim_between hspace hspace']
  · intro h
    obtain ⟨space, space', hspace, hspace', htext⟩ := exists_eq_trim text.toList
    exact ⟨space, _, space', hspace, hspace', htext, h⟩

/-- A marker is no part of a decimal numeral. -/
theorem IsMarker.not_isNumeral {x : Char} (hx : IsMarker x) (hsign : sign ∈ signs) :
    ¬ IsNumeral 10 sign ('0' :: x :: cs) n := by
  have hsigns : ∀ sign ∈ signs, 'x' ∉ sign ∧ 'X' ∉ sign := by decide
  have hdigits : ∀ d < 10, 'x'.toLower ≠ Nat.digitChar d ∧ 'X'.toLower ≠ Nat.digitChar d := by decide
  rintro ⟨digits, -, h, heq⟩
  have hmem : x ∈ sign ++ digits := by simp [← heq]
  rcases List.mem_append.mp hmem with hmem | hmem
  · rcases hx with rfl | rfl
    · exact (hsigns sign hsign).1 hmem
    · exact (hsigns sign hsign).2 hmem
  · refine h.not_mem (fun d hd => ?_) hmem
    rcases hx with rfl | rfl
    · exact (hdigits d hd).1
    · exact (hdigits d hd).2

/-- Behind a marker the digits are hexadecimal. -/
theorem IsMarker.spells_iff {x : Char} (hx : IsMarker x) (hsign : sign ∈ signs) :
    Spells sign ('0' :: x :: cs) n ↔ IsNumeral 16 sign cs n := by
  constructor
  · intro h
    cases h with
    | hexadecimal _ h => exact h
    | decimal h => exact absurd h (hx.not_isNumeral hsign)
  · exact .hexadecimal hx

/-- Without a marker the digits are decimal. -/
theorem spells_iff_of_unmarked (h : ∀ x rest, IsMarker x → cs ≠ '0' :: x :: rest) :
    Spells sign cs n ↔ IsNumeral 10 sign cs n := by
  constructor
  · rintro (⟨hx, -⟩ | h')
    · exact absurd rfl (h _ _ hx)
    · exact h'
  · exact .decimal

theorem wordOf_eq_ok_iff {word : UInt64} :
    wordOf cs = .ok word ↔ ∃ sign ∈ signs, Spells sign cs word.toNat := by
  unfold wordOf
  split
  case h_1 cs =>
    rw [readWord_eq_ok_iff (by decide) (by decide)]
    refine exists_congr fun sign => and_congr_right fun hsign => ?_
    rw [IsMarker.spells_iff (Or.inl rfl) hsign]
  case h_2 cs =>
    rw [readWord_eq_ok_iff (by decide) (by decide)]
    refine exists_congr fun sign => and_congr_right fun hsign => ?_
    rw [IsMarker.spells_iff (Or.inr rfl) hsign]
  case h_3 hlower hupper =>
    rw [readWord_eq_ok_iff (by decide) (by decide)]
    refine exists_congr fun sign => and_congr_right fun hsign => ?_
    rw [spells_iff_of_unmarked]
    rintro x rest (rfl | rfl)
    · exact hlower rest
    · exact hupper rest

/-- A text is read as the address that it spells, with a plus sign or without. -/
theorem parse_eq_ok_iff {text : String} {a : Address} :
    parse text = .ok a ↔ ∃ sign ∈ signs, Written sign text a.toNat := by
  have words : parse text = .ok a ↔ wordOf (trim text.toList) = .ok a.value := by
    unfold parse
    cases wordOf (trim text.toList) with
    | error cause => simp
    | ok value =>
        show Except.ok (Address.mk value) = Except.ok a ↔ _
        rw [Except.ok.injEq, Except.ok.injEq]
        exact ⟨congrArg Address.value, congrArg Address.mk⟩
  rw [words, wordOf_eq_ok_iff]
  refine exists_congr fun sign => and_congr_right fun hsign => ?_
  rw [written_iff hsign]
  rfl

/-- No text spells numbers both with a sign and without. -/
theorem Spells.sign_unique {m : Nat} (h : Spells [] cs n) : ¬ Spells ['+'] cs m := by
  rintro (⟨hx, digits, -, -, rfl⟩ | ⟨digits, -, -, rfl⟩)
  · exact not_isNumeral_plus (by decide) ((hx.spells_iff (by decide)).mp h)
  · have hdecimal := (spells_iff_of_unmarked (by simp)).mp h
    exact not_isNumeral_plus (by decide) hdecimal

/-- **Which texts are addresses**: those that spell the number of one, in hexadecimal behind a marker or in
decimal, with white space around it and a plus sign in front of the digits or none.  So the grammar without
signs is the right one exactly for the texts that do not spell an address with a plus sign. -/
theorem parse_iff_written (text : String) :
    (∀ a, parse text = .ok a ↔ Written [] text a.toNat ∨ Written ['+'] text a.toNat) ∧
      ((∀ a, parse text = .ok a ↔ Written [] text a.toNat) ↔
        ¬ ∃ a : Address, Written ['+'] text a.toNat) := by
  have read (a : Address) :
      parse text = .ok a ↔ Written [] text a.toNat ∨ Written ['+'] text a.toNat := by
    rw [parse_eq_ok_iff, exists_sign_iff]
  refine ⟨read, ?_⟩
  constructor
  · rintro hunsigned ⟨a, hsigned⟩
    have hwritten := (hunsigned a).mp ((read a).mpr (Or.inr hsigned))
    rw [written_iff (by decide)] at hwritten hsigned
    exact hwritten.sign_unique hsigned
  · intro hnone a
    rw [read a, or_iff_left]
    exact fun hsigned => hnone ⟨a, hsigned⟩

/-- A text with a plus sign, which is read although the grammar does not allow it. -/
theorem signedNumeral_read : parse "+16" = .ok ⟨16⟩ ∧ ∀ n, ¬ Written [] "+16" n := by
  refine ⟨by decide, fun n hwritten => ?_⟩
  have htrim : trim "+16".toList = ['+', '1', '6'] := by decide
  rw [written_iff (by decide), htrim, spells_iff_of_unmarked (by simp)] at hwritten
  exact not_isNumeral_plus (by decide) hwritten

end StackWalk.Address
