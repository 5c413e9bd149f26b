import StackWalk.Callee
import StackWalk.Proofs.Instruction.Forms
import StackWalk.Proofs.Instruction.Parts
import StackWalk.Proofs.Tables

/-!
# StackWalk.Proofs.Instruction.Spellings — the spellings of a slot

A call through the slot at a fixed address is spelled `call dword ptr [0x804a00c]`, with a segment
`call dword ptr ds:[0x804a00c]`, and by some disassemblers `call dword ptr ds:0x804a00c`.  The segment is
passed over, so the first two lead to the contents of the slot.  The third is left with a number without
brackets, and that is the target itself: it leads to the slot and not through it.  `spellings_alike_iff` says
what each of them leads to, and that they agree only where the slot holds its own address.
-/

namespace StackWalk.Callee

open Text Disassembly Operand

variable {m size segment number : List Char} {n : Nat} {arch : Architecture} {a : Address}

/-! ## The parts of the spellings are flat -/

theorem isFlat_size (hsize : IsSize size) : IsFlat size := by
  rcases hsize with rfl | ⟨name, hname, word, hword, rfl⟩
  · decide
  · have hnames : ∀ name ∈ sizes, IsFlat (foldCase name.toList) := by decide
    have hspace : IsFlat [' '] := by decide
    have hflat : IsFlat word := by
      apply isFlat_of_foldCase
      rw [sameLetters_iff.mp hword]
      exact hnames name hname
    exact hflat.append hspace

theorem isFlat_segment (hsegment : IsSegment segment) : IsFlat segment := by
  rcases hsegment with rfl | ⟨c, hc, rfl⟩
  · decide
  · have hletters : ∀ c ∈ segmentLetters, IsFlat [c, 's', ':'] := List.all_iff_forall_prop.mp (by decide)
    exact hletters c hc

theorem isFlat_number (hnumber : Spells number n) : IsFlat number := by
  have hmarks : ∀ mark ∈ marks, mark.toLower = mark ∧ (∀ d < 16, Nat.digitChar d ≠ mark) ∧ 'x' ≠ mark :=
    List.all_iff_forall_prop.mp (by decide)
  intro mark hmark
  obtain ⟨hcase, hdigit, hmarker⟩ := hmarks mark hmark
  exact hnumber.not_mem mark hcase hdigit hmarker

/-- The mnemonics of calls and jumps are tokens and no modifiers, in either case. -/
theorem isMnemonic_of_transfer (hm : isOneOf (arch.callMnemonics ++ arch.jumpMnemonics) m = true) :
    IsMnemonic m := by
  have hnames : ∀ name ∈ arch.callMnemonics ++ arch.jumpMnemonics, name.toList ≠ [] ∧
      IsSolid (foldCase name.toList) ∧
      Architecture.modifiers.all (fun modifier => foldCase name.toList != foldCase modifier.toList) := by
    cases arch
    all_goals decide
  obtain ⟨name, hname, hletters⟩ := List.any_eq_true.mp hm
  have hfold := sameLetters_iff.mp hletters
  obtain ⟨hne, hsolid, hplain⟩ := hnames name hname
  rw [← hfold] at hsolid
  refine ⟨?_, isSolid_of_foldCase hsolid, ?_⟩
  · rintro rfl
    have hlength := congrArg List.length hfold
    rw [length_foldCase, length_foldCase] at hlength
    exact hne (List.eq_nil_of_length_eq_zero hlength.symm)
  · rw [isOneOf, List.any_eq_false]
    intro modifier hmodifier hsame
    have hother := List.all_eq_true.mp hplain modifier hmodifier
    rw [sameLetters_iff, hfold] at hsame
    simp [hsame] at hother

/-! ## What the spellings lead to -/

/-- An instruction with one operand, which stands behind a size and a segment. -/
def spelled (m size segment operand : List Char) : String :=
  String.ofList (written m [size ++ segment ++ operand])

/-- The entry and the name that an instruction at `ip` leads to. -/
def leadsTo (arch : Architecture) (t : Target) (ip : Address) (length : UInt64) (text : String) :
    Option Address × Option String :=
  let callee := resolve arch t ip ⟨length, text⟩
  (callee.start, callee.name)

variable {core : List Char} {operand : Operand} {t : Target} {ip : Address} {length : UInt64}

theorem target?_spelled (hm : IsMnemonic m) (hop : IsOperand (size ++ segment ++ core)) :
    (ofText (spelled m size segment core)).target? = some (classify (size ++ segment ++ core)) := by
  have hops : ∀ op ∈ [size ++ segment ++ core], IsOperand op := by simpa using hop
  unfold spelled
  rw [parts_written hm hops]
  rfl

theorem leadsTo_of_target? {text : String} (h : (ofText text).target? = some operand) :
    leadsTo arch t ip length text = destination arch t ip length (some operand) := by
  simp only [leadsTo, resolve, h]

theorem target?_brackets (hm : IsMnemonic m) (hsize : IsSize size) (hsegment : IsSegment segment)
    (hnumber : Spells number a.toNat) :
    (ofText (spelled m size segment ('[' :: number ++ [']']))).target? = some (.absoluteSlot a) := by
  have hinner : Spaced [number] number := by simpa using Spaced.cons isSpace_nil (Spaced.nil isSpace_nil)
  have hform := classify_brackets hsize hsegment hinner (Refers.fixed hnumber)
  have hflat := (isFlat_size hsize).append (isFlat_segment hsegment)
  have htrimmed := (isPlain_brackets hnumber.uncut).isTrimmed_prefixes hsize hsegment
  rw [target?_spelled hm (hflat.isOperand_brackets (isFlat_number hnumber) htrimmed), hform]

theorem target?_number (hm : IsMnemonic m) (hsize : IsSize size) (hsegment : IsSegment segment)
    (hnumber : Spells number a.toNat) :
    (ofText (spelled m size segment number)).target? = some (.direct a) := by
  have hform := classify_number hsize hsegment 0 hnumber
  have hflat := ((isFlat_size hsize).append (isFlat_segment hsegment)).append (isFlat_number hnumber)
  have htrimmed : IsTrimmed (size ++ segment ++ number) :=
    (hnumber.isPlain 0).isTrimmed_prefixes hsize hsegment
  rw [target?_spelled hm (hflat.isOperand htrimmed)]
  exact congrArg some hform

/-- The slot is taken for an entry only if its contents are code. -/
theorem throughSlot_start_iff {entry : Address} :
    (throughSlot arch t a).1 = some entry ↔
      t.addressIn arch a = some entry ∧ entry.isNull = false ∧ t.isCode entry = true := by
  unfold throughSlot
  simp only [Option.filter_eq_some_iff]
  simp [and_assoc]

/-- **Brackets lead through the slot and a number without brackets leads to it**, whatever size and segment
stand in front of them.  A segment without brackets is therefore no spelling of the slot: it leads where the
brackets lead only if the slot holds its own address, which is code, and both give it the same name. -/
theorem spellings_alike_iff (hm : isOneOf (arch.callMnemonics ++ arch.jumpMnemonics) m = true)
    (hsize : IsSize size) (hnumber : Spells number a.toNat) (t : Target) (ip : Address) (length : UInt64) :
    (∀ segment, IsSegment segment →
      leadsTo arch t ip length (spelled m size segment ('[' :: number ++ [']'])) = throughSlot arch t a ∧
        CallSite.targetIsCode t (ofText (spelled m size segment ('[' :: number ++ [']']))) = true ∧
        leadsTo arch t ip length (spelled m size segment number) = (some a, directName arch t a) ∧
        CallSite.targetIsCode t (ofText (spelled m size segment number)) = t.isCode a) ∧
      (leadsTo arch t ip length (spelled m size ['d', 's', ':'] number) =
          leadsTo arch t ip length (spelled m size [] ('[' :: number ++ [']'])) ↔
        t.addressIn arch a = some a ∧ a.isNull = false ∧ t.isCode a = true ∧
          (throughSlot arch t a).2 = directName arch t a) := by
  have hmnemonic := isMnemonic_of_transfer hm
  have hbrackets (segment : List Char) (hsegment : IsSegment segment) :
      leadsTo arch t ip length (spelled m size segment ('[' :: number ++ [']'])) = throughSlot arch t a := by
    rw [leadsTo_of_target? (target?_brackets hmnemonic hsize hsegment hnumber)]
    rfl
  have hdirect (segment : List Char) (hsegment : IsSegment segment) :
      leadsTo arch t ip length (spelled m size segment number) = (some a, directName arch t a) := by
    rw [leadsTo_of_target? (target?_number hmnemonic hsize hsegment hnumber)]
    rfl
  refine ⟨?_, ?_⟩
  · intro segment hsegment
    refine ⟨hbrackets segment hsegment, ?_, hdirect segment hsegment, ?_⟩
    · simp only [CallSite.targetIsCode, target?_brackets hmnemonic hsize hsegment hnumber]
    · simp only [CallSite.targetIsCode, target?_number hmnemonic hsize hsegment hnumber]
  · have hds : IsSegment ['d', 's', ':'] := Or.inr ⟨'d', by decide, rfl⟩
    rw [hdirect _ hds, hbrackets [] (Or.inl rfl), Prod.ext_iff, eq_comm, throughSlot_start_iff]
    constructor
    · rintro ⟨⟨haddress, hnull, hcode⟩, hname⟩
      exact ⟨haddress, hnull, hcode, hname.symm⟩
    · rintro ⟨haddress, hnull, hcode, hname⟩
      exact ⟨⟨haddress, hnull, hcode⟩, hname.symm⟩

/-- A process with a slot for a routine among its data, and with one in its code that holds its own
address. -/
def twoSlots : Tables where
  images := [(.ofPath "app", .main, 0x8048000, 0x804a000)]
  routines := [("main", 0x8048100, 0x100), ("helper", 0x8048400, 0x40)]
  code := []
  words := [(0x804a00c, 0x8048400), (0x8048110, 0x8048110)]

/-- The slot in the code is the same in all spellings. -/
theorem ownSlot_alike :
    leadsTo .x86 twoSlots.target ⟨0x8048300⟩ 6 "CALL dword ptr ds:0x8048110" =
      leadsTo .x86 twoSlots.target ⟨0x8048300⟩ 6 "CALL dword ptr [0x8048110]" := by
  have hsize : IsSize "dword ptr ".toList :=
    Or.inr ⟨"dword ptr", by decide, "dword ptr".toList, by decide, rfl⟩
  have hnumber : Spells "0x8048110".toList (Address.toNat ⟨0x8048110⟩) := ⟨0, by decide⟩
  have hm : isOneOf (Architecture.x86.callMnemonics ++ Architecture.x86.jumpMnemonics) "CALL".toList =
      true := by decide
  obtain ⟨-, halike⟩ := spellings_alike_iff hm hsize hnumber twoSlots.target ⟨0x8048300⟩ 6
  exact halike.mpr (by decide +kernel)

/-- A segment without brackets is taken for the target: the call of `helper` leads into the data. -/
theorem dataSlot_not_alike :
    leadsTo .x86 twoSlots.target ⟨0x8048300⟩ 6 "call dword ptr [0x804a00c]" =
        (some ⟨0x8048400⟩, some "helper") ∧
      leadsTo .x86 twoSlots.target ⟨0x8048300⟩ 6 "call dword ptr ds:[0x804a00c]" =
        (some ⟨0x8048400⟩, some "helper") ∧
      leadsTo .x86 twoSlots.target ⟨0x8048300⟩ 6 "call dword ptr ds:0x804a00c" =
        (some ⟨0x804a00c⟩, none) ∧
      CallSite.targetIsCode twoSlots.target (ofText "call dword ptr ds:0x804a00c") = false := by
  decide +kernel

end StackWalk.Callee
