import StackWalk.Address
import StackWalk.Proofs.Tokens

/-!
# StackWalk.Proofs.Numeral — numerals read back

The digits that are written for a number are read back as that number, in every radix up to sixteen.  Both
directions go by the last digit: it is the remainder of the number that was written, and what is read before
it is the quotient.  Zeros in front and the case of the digits do not matter to the reader.  An address in
JSON is such a numeral behind its marker.
-/

namespace StackWalk.Text

variable {radix bound acc n d : Nat} {c : Char} {cs : List Char}

/-! ## Digits -/

theorem digitValue?_digitChar (hradix : radix ≤ 16) (h : d < radix) :
    digitValue? radix (Nat.digitChar d) = some d := by
  have hd : d < 16 := by omega
  rcases d with _ | _ | _ | _ | _ | _ | _ | _ | _ | _ | _ | _ | _ | _ | _ | _ | d
  case succ => omega
  all_goals simpa [digitValue?, Nat.digitChar] using h

theorem exists_digitChar_of_mem_toDigits (hradix : 1 < radix) (h : c ∈ Nat.toDigits radix n) :
    ∃ d < radix, c = Nat.digitChar d := by
  induction n using Nat.strongRecOn with
  | ind n ih =>
    by_cases hn : n < radix
    · rw [Nat.toDigits_of_lt_base hn, List.mem_singleton] at h
      exact ⟨n, hn, h⟩
    · rw [Nat.toDigits_of_base_le hradix (Nat.not_lt.mp hn), List.mem_append, List.mem_singleton] at h
      rcases h with h | h
      · exact ih (n / radix) (Nat.div_lt_self (by omega) hradix) h
      · exact ⟨n % radix, Nat.mod_lt _ (by omega), h⟩

theorem isBlank_digitChar (h : d < 16) : isBlank (Nat.digitChar d) = false := by
  rcases d with _ | _ | _ | _ | _ | _ | _ | _ | _ | _ | _ | _ | _ | _ | _ | _ | d
  case succ => omega
  all_goals rfl

theorem isDigit_of_mem_decimalDigits (h : c ∈ decimalDigits n) : isDigit c = true := by
  have h := Nat.isDigit_of_mem_toDigits (by decide) (by decide) h
  simpa [Char.isDigit, isDigit, UInt32.le_iff_toNat_le, Char.le_def] using h

/-- Only zero starts with a zero. -/
theorem eq_zero_of_head?_toDigits (hradix : 1 < radix) (h : (Nat.toDigits radix n).head? = some '0') :
    n = 0 := by
  induction n using Nat.strongRecOn with
  | ind n ih =>
    by_cases hn : n < radix
    · rw [Nat.toDigits_of_lt_base hn, List.head?_singleton, Option.some.injEq] at h
      exact Nat.digitChar_eq_zero.mp h
    · have hn := Nat.not_lt.mp hn
      rw [Nat.toDigits_of_base_le hradix hn, List.head?_append,
        List.head?_eq_some_head Nat.toDigits_ne_nil, Option.some_or, ← List.head?_eq_some_head] at h
      have quotient := ih (n / radix) (Nat.div_lt_self (by omega) hradix) h
      have : 0 < n / radix := Nat.div_pos hn (by omega)
      omega

/-! ## Reading -/

theorem readDigits_append (more : List Char) :
    readDigits radix bound acc (cs ++ more) =
      (readDigits radix bound acc cs).bind fun n => readDigits radix bound n more := by
  induction cs generalizing acc with
  | nil => rfl
  | cons c cs ih =>
    simp only [List.cons_append, readDigits]
    split
    · rfl
    · split
      · exact ih
      · rfl

theorem readDigits_toDigits (hradix : 1 < radix) (hsmall : radix ≤ 16) (h : n < bound) :
    readDigits radix bound 0 (Nat.toDigits radix n) = .ok n := by
  induction n using Nat.strongRecOn with
  | ind n ih =>
    by_cases hn : n < radix
    · simp [Nat.toDigits_of_lt_base hn, readDigits, digitValue?_digitChar hsmall hn, h]
    · -- What stands before the last digit is the quotient, and the last digit completes the number.
      have quotient := ih (n / radix) (Nat.div_lt_self (by omega) hradix)
        (Nat.lt_of_le_of_lt (Nat.div_le_self n radix) h)
      have last := digitValue?_digitChar hsmall (Nat.mod_lt n (by omega : radix > 0))
      have whole : n / radix * radix + n % radix = n := Nat.div_add_mod' n radix
      rw [Nat.toDigits_of_base_le hradix (Nat.not_lt.mp hn), readDigits_append, quotient]
      simp [Except.bind, readDigits, last, whole, h]

/-- A numeral without a sign is read as its digits. -/
theorem readNumeral_of_readDigits (hne : cs ≠ []) (h : readDigits radix bound 0 cs = .ok n) :
    readNumeral radix bound cs = .ok n := by
  unfold readNumeral
  split
  · exact absurd rfl hne
  · -- A sign is no digit.
    simp [readDigits, digitValue?] at h
  · simp [readDigits, digitValue?] at h
  · exact h

theorem readWord_toDigits (hradix : 1 < radix) (hsmall : radix ≤ 16) (word : UInt64) :
    readWord radix (Nat.toDigits radix word.toNat) = .ok word := by
  have digits : readDigits radix wordBound 0 (Nat.toDigits radix word.toNat) = .ok word.toNat :=
    readDigits_toDigits hradix hsmall word.toNat_lt
  simp [readWord, readNumeral_of_readDigits Nat.toDigits_ne_nil digits, Except.map]

/-! ## Other texts of a number -/

theorem isSolid_hexDigits (n : Nat) : IsSolid (hexDigits n) := by
  intro c hc
  obtain ⟨d, hd, rfl⟩ := exists_digitChar_of_mem_toDigits (by decide) hc
  exact isBlank_digitChar hd

/-- Digits are written in lower case. -/
theorem toLower_digitChar (h : d < 16) : (Nat.digitChar d).toLower = Nat.digitChar d := by
  have hlower : ∀ d < 16, (Nat.digitChar d).toLower = Nat.digitChar d := by decide
  exact hlower d h

theorem foldCase_hexDigits (n : Nat) : foldCase (hexDigits n) = hexDigits n := by
  have hdigits : ∀ c ∈ hexDigits n, c.toLower = c := by
    intro c hc
    obtain ⟨d, hd, rfl⟩ := exists_digitChar_of_mem_toDigits (by decide) hc
    exact toLower_digitChar hd
  exact (List.map_congr_left hdigits).trans (List.map_id _)

/-- Digits may be in either case. -/
theorem digitValue?_toLower (radix : Nat) (c : Char) :
    digitValue? radix c.toLower = digitValue? radix c := by
  rcases toLower_cases c with h | ⟨hlow, hhigh, h⟩
  · rw [h]
  · unfold digitValue?
    simp only [Char.le_def, UInt32.le_iff_toNat_le]
    show Option.filter _ (if 48 ≤ c.toLower.toNat ∧ c.toLower.toNat ≤ 57 then some (c.toLower.toNat - 48)
      else if 97 ≤ c.toLower.toNat ∧ c.toLower.toNat ≤ 122 then some (c.toLower.toNat - 97 + 10)
      else if 65 ≤ c.toLower.toNat ∧ c.toLower.toNat ≤ 90 then some (c.toLower.toNat - 65 + 10) else none) =
      Option.filter _ (if 48 ≤ c.toNat ∧ c.toNat ≤ 57 then some (c.toNat - 48)
      else if 97 ≤ c.toNat ∧ c.toNat ≤ 122 then some (c.toNat - 97 + 10)
      else if 65 ≤ c.toNat ∧ c.toNat ≤ 90 then some (c.toNat - 65 + 10) else none)
    rw [if_neg (by omega), if_pos (by omega), if_neg (by omega), if_neg (by omega), if_pos (by omega), h]
    congr 2

theorem readDigits_foldCase : readDigits radix bound acc (foldCase cs) = readDigits radix bound acc cs := by
  induction cs generalizing acc with
  | nil => rfl
  | cons c cs ih =>
    show readDigits radix bound acc (c.toLower :: foldCase cs) = readDigits radix bound acc (c :: cs)
    simp only [readDigits, digitValue?_toLower, ih]

/-- Zeros in front do not change a number. -/
theorem readDigits_zeros (hradix : 0 < radix) (hbound : 0 < bound) (zeros : Nat) :
    readDigits radix bound 0 (List.replicate zeros '0' ++ cs) = readDigits radix bound 0 cs := by
  induction zeros with
  | zero => rfl
  | succ zeros ih =>
    have hzero : digitValue? radix '0' = some 0 := by simpa [digitValue?] using hradix
    simp [List.replicate_succ, readDigits, hzero, hbound, ih]

end StackWalk.Text

namespace StackWalk.Address

/-- The text that is written for an address is read as the address. -/
theorem parse_serial (a : Address) : parse a.serial = .ok a := by
  -- The marker and the digits leave nothing to trim.
  have solid : Text.IsSolid (['0', 'x'] ++ a.digits) :=
    Text.IsSolid.append (by decide) (Text.isSolid_hexDigits a.toNat)
  have trimmed : Text.trim (['0', 'x'] ++ a.digits) = '0' :: 'x' :: a.digits :=
    (solid.isTrimmed (by simp)).trim
  have word : Text.readWord 16 a.digits = .ok a.value :=
    Text.readWord_toDigits (by decide) (by decide) a.value
  rw [parse, serial, String.toList_ofList, trimmed]
  simp only [wordOf, word]

theorem codec_lawful : codec.Lawful := by
  intro a
  show (parse a.serial).mapError (fun e => Json.ReadError.data e.message) = .ok a
  rw [parse_serial]
  rfl

end StackWalk.Address
