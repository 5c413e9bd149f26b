import StackWalk.Proofs.Address.Grammar
import StackWalk.Proofs.Json.Faithful

/-!
# StackWalk.Proofs.Address.RoundTrip — the texts of an address are read back

An address is written in three ways: with eight digits or more for a report, with as many digits as it has
for JSON, and in decimal where somebody types it in.  Each of them is a text that spells the number of the
address, so the grammar says that it is read back, whatever white space there is around it
(`parse_forms`).  No way is special: that of a report has zeros in front, which count nothing.

JSON has a string for an address or a natural number.  Both are read back from their texts, up to the last
address: no number of 64 bits goes through one with a sign.
-/

namespace StackWalk.Address

open Text

variable {space space' : List Char}

/-- The text of an address in decimal. -/
def decimal (a : Address) : String :=
  String.ofList (decimalDigits a.toNat)

/-- The ways to write an address. -/
def forms (a : Address) : List String :=
  [a.display, a.serial, a.decimal]

/-! ## What the forms spell -/

theorem spells_digits (a : Address) (zeros : Nat) :
    Spells [] ('0' :: 'x' :: (List.replicate zeros '0' ++ a.digits)) a.toNat := by
  refine .hexadecimal (Or.inl rfl) (isNumeral_nil_iff.mpr ⟨?_, ?_⟩)
  · simp [digits, hexDigits, Nat.toDigits_ne_nil]
  · exact (writes_toDigits (by decide) (by decide) a.toNat).zeros (by decide) zeros

theorem spells_decimal (a : Address) : Spells [] a.decimal.toList a.toNat := by
  rw [decimal, String.toList_ofList]
  exact .decimal (isNumeral_nil_iff.mpr
    ⟨Nat.toDigits_ne_nil, writes_toDigits (by decide) (by decide) a.toNat⟩)

/-- In each of its forms an address spells its number. -/
theorem spells_forms (a : Address) : ∀ form ∈ a.forms, Spells [] form.toList a.toNat := by
  have hdisplay : Spells [] a.display.toList a.toNat := by
    rw [display, String.toList_ofList]
    exact a.spells_digits (8 - a.digits.length)
  have hserial : Spells [] a.serial.toList a.toNat := by
    rw [serial, String.toList_ofList]
    exact a.spells_digits 0
  simp [forms, hdisplay, hserial, a.spells_decimal]

/-! ## Reading them back -/

theorem parse_padded (a : Address) (hspace : IsSpace space) (hspace' : IsSpace space') :
    ∀ form ∈ a.forms, parse (String.ofList (space ++ form.toList ++ space')) = .ok a := by
  intro form hform
  have hwritten : Written [] (String.ofList (space ++ form.toList ++ space')) a.toNat :=
    ⟨space, form.toList, space', hspace, hspace', String.toList_ofList, a.spells_forms form hform⟩
  exact parse_eq_ok_iff.mpr ⟨[], by decide, hwritten⟩

/-- A text of an address is read back from a string in JSON. -/
theorem parse_string {a : Address} {text : String} (h : parse text = .ok a) :
    codec.parse (Json.compact (.string text)) = .ok a := by
  have document := (Json.Exact.string text).readDocument_compact
  simp [Json.Codec.parse, document, Json.Document.ofValue, codec, h, Except.mapError, bind, Except.bind]

theorem parse_natural (a : Address) : codec.parse (Json.compact (.number (.natural a.value))) = .ok a := by
  have document := (Json.Exact.number (n := .natural a.value) trivial).readDocument_compact
  simp [Json.Codec.parse, document, Json.Document.ofValue, codec, bind, Except.bind]

/-- **The texts of an address are read back**: the three forms with any white space around them, as they are
and as a string in JSON, and what JSON has for an address, be it the string that is written or the number. -/
theorem parse_forms (a : Address) (hspace : IsSpace space) (hspace' : IsSpace space') :
    (∀ form ∈ a.forms,
      parse (String.ofList (space ++ form.toList ++ space')) = .ok a ∧
      codec.parse (Json.compact (.string (String.ofList (space ++ form.toList ++ space')))) = .ok a) ∧
    codec.parse (Json.compact (codec.encode a)) = .ok a ∧
    codec.parse (Json.compact (.number (.natural a.value))) = .ok a := by
  refine ⟨fun form hform => ?_, parse_string a.parse_serial, a.parse_natural⟩
  have hread := a.parse_padded hspace hspace' form hform
  exact ⟨hread, parse_string hread⟩

/-- The last address, with a tabulator in front of it and an ideographic space behind it. -/
theorem lastAddress_forms :
    parse "\t0xffffffffffffffff\u3000" = .ok last ∧ parse "\t18446744073709551615\u3000" = .ok last ∧
      codec.parse "\"0xffffffffffffffff\"" = .ok last ∧ codec.parse "18446744073709551615" = .ok last := by
  have hspace : IsSpace ['\t'] := by decide
  have hspace' : IsSpace ['\u3000'] := by decide
  obtain ⟨hforms, hstring, hnumber⟩ := parse_forms last hspace hspace'
  exact ⟨(hforms last.display (by simp [forms])).1, (hforms last.decimal (by simp [forms])).1, hstring, hnumber⟩

end StackWalk.Address
