import StackWalk.Proofs.LowerCase
import StackWalk.Registers

/-!
# StackWalk.Proofs.Registers — looking up a captured register

A register is looked up by the lower-case form of the name that is asked for, and what was captured beyond
the named registers is kept by the name that the capture gave it.  So a register is found if its name was
captured in lower case, and then by every spelling of the name; one whose name was captured with a capital
letter is not found by any (`get?_of_isCaptured`).
-/

namespace StackWalk.Registers

open Text

variable {r : Registers} {name : String} {value : UInt64}

/-- The names that stand for the program counter, the stack pointer, the frame pointer and the link
register. -/
def aliases : List String :=
  ["pc", "eip", "rip", "sp", "esp", "rsp", "fp", "ebp", "rbp", "x29", "lr", "x30"]

theorem get?_of_not_mem_aliases (h : lower name ∉ aliases) : r.get? name = r.other[lower name]? := by
  simp only [aliases, List.mem_cons, List.not_mem_nil, or_false, not_or] at h
  simp [get?, h]

/-- A register was captured beyond the named ones, and no other has its name in another case. -/
structure IsCaptured (r : Registers) (name : String) (value : UInt64) : Prop where
  kept : r.other[name]? = some value
  unnamed : lower name ∉ aliases
  alone : ∀ key ∈ r.other, lower key = lower name → key = name

/-- What is kept under the lower-case form of the name: the register itself, if its name was captured so. -/
theorem IsCaptured.getElem?_lower (h : IsCaptured r name value) :
    r.other[lower name]? = if lower name = name then some value else none := by
  split
  case isTrue hlower =>
    rw [hlower]
    exact h.kept
  case isFalse hcapital =>
    refine Std.ExtTreeMap.getElem?_eq_none fun hmem => hcapital ?_
    exact h.alone (lower name) hmem (lower_lower name)

/-- **A captured register is read back if and only if its name is in lower case**, and the answer is the same
for every spelling of the name. -/
theorem get?_of_isCaptured (h : IsCaptured r name value) :
    r.get? name = (if lower name = name then some value else none) ∧
      ∀ spelled : String, sameLetters spelled.toList name.toList = true → r.get? spelled = r.get? name := by
  refine ⟨(get?_of_not_mem_aliases h.unnamed).trans h.getElem?_lower, fun spelled hspelled => ?_⟩
  have hlower : lower spelled = lower name := lower_eq_of_sameLetters hspelled
  unfold get?
  rw [hlower]

/-- Registers with one beyond the named ones. -/
def withOne (name : String) (value : UInt64) : Registers :=
  { ofPcSp ⟨0x10⟩ ⟨0x20⟩ with other := (∅ : RegisterMap).insert name value }

theorem isCaptured_withOne (hname : lower name ∉ aliases) : IsCaptured (withOne name value) name value where
  kept := by simp [withOne]
  unnamed := hname
  alone := by simp [withOne]

/-- With its name in lower case a register is read back in each spelling. -/
theorem get?_rax : (withOne "rax" 7).get? "rax" = some 7 ∧ (withOne "rax" 7).get? "RAX" = some 7 := by
  have hcaptured : IsCaptured (withOne "rax" 7) "rax" 7 := isCaptured_withOne (by decide +kernel)
  obtain ⟨hkept, hspelled⟩ := get?_of_isCaptured hcaptured
  have hlower : lower "rax" = "rax" := by decide +kernel
  rw [if_pos hlower] at hkept
  exact ⟨hkept, (hspelled "RAX" (by decide)).trans hkept⟩

/-- With its name in capital letters it is not, not even by the captured name. -/
theorem get?_capitals : IsCaptured (withOne "RAX" 7) "RAX" 7 ∧ (withOne "RAX" 7).get? "RAX" = none := by
  have hcaptured : IsCaptured (withOne "RAX" 7) "RAX" 7 := isCaptured_withOne (by decide +kernel)
  have hcapital : lower "RAX" ≠ "RAX" := by decide +kernel
  refine ⟨hcaptured, ?_⟩
  rw [get?_of_not_mem_aliases hcaptured.unnamed, hcaptured.getElem?_lower, if_neg hcapital]

end StackWalk.Registers
