import StackWalk.Proofs.CallSite.Window

/-!
# StackWalk.Proofs.CallSite.Width — where the call that is found ends

A call leaves the address behind it on the stack, so the call that is found in front of a value should end
at that value.  Where instructions vary in length, this is asked of every candidate.  Where they all have
one width, a call is looked for that many bytes in front of the value, and how long it has been decoded to
be is not asked.  A decoder that knows shorter instructions, or a capture that lists them, then has a call
found that leaves another address behind.

`ends_at_value_iff` gives the exact condition, whatever the decoder answers: calls end at the value that
they are found for unless one stands a width in front of it and is not of that width.
-/

namespace StackWalk.CallSite

/-- The value may be a return address, and the instruction that has been decoded `width` bytes in front of
it is a call. -/
structure StandsBefore (arch : Architecture) (t : Target) (v : Address) (width : UInt64)
    (i : Instruction) : Prop where
  high : 10 < v.toNat
  code : t.isCode v = true
  decoded : t.decode (v - width) = some i
  call : arch.isCall i.text = true

section Width

variable {arch : Architecture} {t : Target} {v : Address} {width : UInt64} {site : CallSite}

theorem instructionWidth?_eq_some (h : arch.instructionWidth? = some width) : width = 4 := by
  cases arch <;> simp_all [Architecture.instructionWidth?, Architecture.isArm]

theorem instructionWidth?_eq_none (h : arch.instructionWidth? = none) : arch = .x86 ∨ arch = .x86_64 := by
  cases arch <;> simp_all [Architecture.instructionWidth?, Architecture.isArm]

/-- Above the lowest addresses there is room for an instruction in front of a value. -/
theorem below?_width (hwidth : arch.instructionWidth? = some width) (hhigh : 10 < v.toNat) :
    v.below? width = some (v - width) := by
  have hroom : width ≤ v.value := by
    rw [instructionWidth?_eq_some hwidth, UInt64.le_iff_toNat_le]
    exact Nat.le_of_lt (Nat.lt_trans (by decide) hhigh)
  exact if_pos hroom

theorem lookBack_eq_some_iff (hroom : v.below? width = some (v - width)) :
    (lookBack arch t v width).site = some site ↔
      site.address = v - width ∧ t.decode (v - width) = some site.instruction ∧
        arch.isCall site.instruction.text = true := by
  unfold lookBack
  rw [hroom]
  dsimp only
  cases hdecode : t.decode (v - width) with
  | none => exact iff_of_false nofun fun h => nomatch h.2.1
  | some i =>
      dsimp only
      constructor
      · intro h
        split at h
        case isTrue hcall =>
          obtain rfl := Option.some.inj h
          exact ⟨rfl, rfl, hcall⟩
        case isFalse => cases h
      · rintro ⟨haddress, hinstruction, hcall⟩
        obtain rfl := Option.some.inj hinstruction
        rw [if_pos hcall, ← haddress]

/-- Where all instructions have one width, a call is found exactly if it stands that far in front of a
value that may be a return address. -/
theorem before_eq_some_iff (hwidth : arch.instructionWidth? = some width) :
    (before arch t v).site = some site ↔
      site.address = v - width ∧ StandsBefore arch t v width site.instruction := by
  by_cases htried : 10 < v.toNat ∧ t.isCode v = true
  case neg =>
    rw [before_eq_nothing htried]
    exact iff_of_false nofun fun ⟨_, h⟩ => htried ⟨h.high, h.code⟩
  case pos =>
    obtain ⟨hhigh, hcode⟩ := htried
    rw [before_eq_look hhigh hcode, hwidth, lookBack_eq_some_iff (below?_width hwidth hhigh)]
    exact and_congr_right fun _ =>
      ⟨fun ⟨hdecoded, hcall⟩ => ⟨hhigh, hcode, hdecoded, hcall⟩, fun h => ⟨h.decoded, h.call⟩⟩

/-- A call at an offset in the window leaves the value on the stack. -/
theorem Searched.returnAddress {last o : Nat} {found : Lookup} (h : Searched arch t v last o found)
    (hlast : last < 2 ^ 64) (hsite : found.site = some site) : site.returnAddress = v := by
  cases h with
  | missed hnone => cases hsite
  | @found k i hopen hcalls hfirst =>
      obtain rfl := Option.some.inj hsite
      have hk := (mem_openOffsets.mp hopen).2.1
      exact returnAddress_of_calls (by omega) hcalls

theorem returnAddress_of_varies (hvaries : arch.instructionWidth? = none)
    (hsite : (before arch t v).site = some site) : site.returnAddress = v := by
  by_cases htried : 10 < v.toNat ∧ t.isCode v = true
  case neg =>
    rw [before_eq_nothing htried] at hsite
    cases hsite
  case pos =>
    obtain ⟨hhigh, hcode⟩ := htried
    have hlast := lastOffset_lt arch
    exact (before_searched (instructionWidth?_eq_none hvaries) hhigh hcode).returnAddress
      (by omega) hsite

/-- A call that is found where all instructions have one width ends at the value exactly if it has that
width itself. -/
theorem returnAddress_eq_iff (hwidth : arch.instructionWidth? = some width)
    (hsite : (before arch t v).site = some site) :
    site.returnAddress = v ↔ site.instruction.length = width := by
  have haddress := ((before_eq_some_iff hwidth).mp hsite).1
  unfold returnAddress
  rw [haddress]
  exact Address.sub_add_eq_self_iff v width site.instruction.length

end Width

/-- **Calls end at the value that they are found for, unless one stands a width in front of it and is not
of that width.**  Where instructions vary in length, they always do.  Where they all have one width, a call
is found if and only if it stands that far in front of the value, however long it is. -/
theorem ends_at_value_iff (arch : Architecture) (t : Target) (v : Address) :
    ((∀ site, (before arch t v).site = some site → site.returnAddress = v) ↔
      ∀ width i, arch.instructionWidth? = some width → StandsBefore arch t v width i →
        i.length = width) ∧
    ∀ width, arch.instructionWidth? = some width → ∀ site,
      (before arch t v).site = some site ↔
        site.address = v - width ∧ StandsBefore arch t v width site.instruction := by
  refine ⟨⟨fun hends width i hwidth hi => ?_, fun hlength site hsite => ?_⟩,
    fun width hwidth site => before_eq_some_iff hwidth⟩
  · have hsite : (before arch t v).site = some ⟨v - width, i⟩ :=
      (before_eq_some_iff hwidth).mpr ⟨rfl, hi⟩
    exact (returnAddress_eq_iff hwidth hsite).mp (hends _ hsite)
  · cases hwidth : arch.instructionWidth? with
    | none => exact returnAddress_of_varies hwidth hsite
    | some width =>
        have hi := ((before_eq_some_iff hwidth).mp hsite).2
        exact (returnAddress_eq_iff hwidth hsite).mpr (hlength width _ hwidth hi)

/-- A call of two bytes, as the compact encoding of the family has it, and one of four. -/
def shortAndWholeCall : Tables where
  images := [(.ofPath "app", .main, 0x10000, 0x20000)]
  routines := []
  code := [(0x10100, ⟨2, "blx r3"⟩), (0x10108, ⟨4, "bl 0x10400"⟩)]
  words := []

/-- The call of four bytes is found in front of `0x1010C` and leaves that value on the stack. -/
theorem wholeCall_ends_at_value :
    (before .arm shortAndWholeCall.target ⟨0x1010C⟩).site = some ⟨⟨0x10108⟩, ⟨4, "bl 0x10400"⟩⟩ ∧
      ∀ site, (before .arm shortAndWholeCall.target ⟨0x1010C⟩).site = some site →
        site.returnAddress = ⟨0x1010C⟩ := by
  obtain ⟨hends, hfound⟩ := ends_at_value_iff .arm shortAndWholeCall.target ⟨0x1010C⟩
  have hdecode : shortAndWholeCall.target.decode ((⟨0x1010C⟩ : Address) - (4 : UInt64)) =
      some ⟨4, "bl 0x10400"⟩ := by decide +kernel
  refine ⟨(hfound 4 rfl _).mpr ⟨rfl, by decide, by decide +kernel, hdecode, by decide +kernel⟩,
    hends.mpr fun width i hwidth hi => ?_⟩
  obtain rfl := instructionWidth?_eq_some hwidth
  obtain rfl := Option.some.inj (hdecode.symm.trans hi.decoded)
  rfl

/-- The call of two bytes is found in front of `0x10104` and leaves `0x10102` on the stack. -/
theorem shortCall_ends_elsewhere :
    ¬ ∀ site, (before .arm shortAndWholeCall.target ⟨0x10104⟩).site = some site →
      site.returnAddress = ⟨0x10104⟩ := by
  intro h
  have hsite : (before .arm shortAndWholeCall.target ⟨0x10104⟩).site =
      some ⟨⟨0x10100⟩, ⟨2, "blx r3"⟩⟩ := by decide +kernel
  exact absurd (h _ hsite) (by decide)

end StackWalk.CallSite
