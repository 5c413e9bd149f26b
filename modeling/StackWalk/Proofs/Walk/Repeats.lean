import StackWalk.Proofs.Tables
import StackWalk.Proofs.Walk.Backfill
import StackWalk.Proofs.Walk.Halting
import StackWalk.Proofs.Walk.Neighbours

/-!
# StackWalk.Proofs.Walk.Repeats — no frame repeats the one below it

A frame is compared with the newest one when it is offered, and never again.  That is enough: frames are
only added behind the newest one and only cut off from there, so two neighbours of a trace were neighbours
when the upper one was offered.  Only frame 0 changes in between, and nothing but what it has taken over
from its caller; so the frames as they were found stay free of repetitions (`Unrepeated`).

What frame 0 has taken over could still cost a frame, if one were compared with it.  But frame 0 is the
newest frame only while it is alone, and then it has taken nothing over (`NamelessAlone`).
-/

namespace StackWalk.Walk

/-- A frame calls the same name as the one below, and the name is known. -/
def SameCallee (below f : Frame) : Prop :=
  f.calleeName ≠ none ∧ f.calleeName = below.calleeName

instance (below f : Frame) : Decidable (SameCallee below f) :=
  inferInstanceAs (Decidable (_ ∧ _))

namespace FrameStack

variable {limits : Limits} {s s' : FrameStack} {below f : Frame}

/-! ## What repeats a frame -/

theorem repeats_iff : repeats limits below f = true ↔
    (limits.collapseCallees = true ∧ SameCallee below f) ∨
      (limits.preserveRecursion = false ∧ f.ip = below.ip) := by
  simp [repeats, SameCallee, Option.isSome_iff_ne_none, and_assoc]

theorem ip_ne_of_repeats (hpreserve : limits.preserveRecursion = false)
    (h : repeats limits below f = false) : f.ip ≠ below.ip := by
  intro hsame
  rw [repeats_iff.mpr (Or.inr ⟨hpreserve, hsame⟩)] at h
  cases h

theorem not_sameCallee_of_repeats (hcollapse : limits.collapseCallees = true)
    (h : repeats limits below f = false) : ¬ SameCallee below f := by
  intro hsame
  rw [repeats_iff.mpr (Or.inl ⟨hcollapse, hsame⟩)] at h
  cases h

/-- Without what it has taken over, a frame is repeated by fewer frames. -/
theorem repeats_withoutCaller (h : repeats limits below f = false) :
    repeats limits (withoutCaller below) f = false := by
  rw [Bool.eq_false_iff] at h ⊢
  intro hrepeats
  apply h
  rcases repeats_iff.mp hrepeats with ⟨-, hsome, hname⟩ | hip
  · exact absurd hname hsome
  · exact repeats_iff.mpr (Or.inr hip)

/-! ## The frames on the stack -/

/-- As they were found, no frame repeats the one below it. -/
def Unrepeated (limits : Limits) (frames : List Frame) : Prop :=
  frames.IsChain fun below f => repeats limits below f = false

/-- Frame 0 names no callee as long as it is the only frame. -/
def NamelessAlone (s : FrameStack) : Prop :=
  s.size = 1 → ∀ f, s.innermost? = some f → f.calleeName = none

/-- There is frame 0, which names no callee while it is alone, and no frame repeats the one below it. -/
structure IsDistinct (limits : Limits) (s : FrameStack) : Prop where
  pos : 0 < s.size
  alone : s.NamelessAlone
  frames : Unrepeated limits s.found

theorem admits_iff (hlast : s.last? = some below) :
    s.admits limits f = true ↔ repeats limits below f = false := by
  simp [admits, hlast]

theorem innermost?_of_alone (hone : s.size = 1) (hlast : s.last? = some f) : s.innermost? = some f := by
  have hnil : s.callers = [] := by
    apply List.eq_nil_of_length_eq_zero
    rw [length_callers, hone]
  rw [last?_eq, hnil] at hlast
  exact hlast

/-- A frame is refused for the instruction of the newest frame, or for the callee of a newest frame that is
not frame 0. -/
theorem NamelessAlone.admits_eq_false_iff (h : s.NamelessAlone) :
    s.admits limits f = false ↔ ∃ newest, s.last? = some newest ∧
      ((limits.preserveRecursion = false ∧ f.ip = newest.ip) ∨
        (limits.collapseCallees = true ∧ 1 < s.size ∧ SameCallee newest f)) := by
  cases hlast : s.last? with
  | none => simp [admits, hlast]
  | some newest =>
      have hmore (hsame : SameCallee newest f) : 1 < s.size := by
        by_contra hfew
        have hpos : s.size ≠ 0 := by
          intro hzero
          simp [last?, Array.eq_empty_of_size_eq_zero hzero] at hlast
        have hone : s.size = 1 := by omega
        have hnone := h hone newest (innermost?_of_alone hone hlast)
        exact hsame.1 (hsame.2.trans hnone)
      rw [← Bool.not_eq_true, admits_iff hlast, Bool.not_eq_false, repeats_iff]
      constructor
      · rintro (⟨hcollapse, hsame⟩ | hip)
        · exact ⟨newest, rfl, Or.inr ⟨hcollapse, hmore hsame, hsame⟩⟩
        · exact ⟨newest, rfl, Or.inl hip⟩
      · rintro ⟨_, ⟨⟩, hip | ⟨hcollapse, -, hsame⟩⟩
        · exact Or.inr hip
        · exact Or.inl ⟨hcollapse, hsame⟩

/-- Behind another frame nothing is alone. -/
theorem namelessAlone_append (hpos : 0 < s.size) (caller : Frame) :
    ((s.append limits f).backfill caller).NamelessAlone := by
  intro hone
  rw [size_backfill, size_append] at hone
  omega

/-- A cut that leaves frame 0 alone takes back the name. -/
theorem IsCut.namelessAlone (hcut : s.IsCut s') : s'.NamelessAlone := by
  intro hone f hf
  rw [hcut.innermost, if_pos hone] at hf
  obtain ⟨f₀, -, rfl⟩ := Option.map_eq_some_iff.mp hf
  rfl

end FrameStack

open FrameStack

/-! ## The rounds of a walk -/

section Rounds

variable {ctx : Context} {s s' : State}

/-- A frame that the stack takes does not repeat the newest one. -/
theorem unrepeated_accept (hpos : 0 < s.stack.size) (h : Unrepeated ctx.limits s.stack.found)
    (f : Frame) : Unrepeated ctx.limits (s.accept ctx f).stack.found := by
  rw [found_accept ctx hpos]
  by_cases hadmits : s.admits ctx f = true
  · rw [if_pos hadmits]
    refine List.isChain_append.mpr ⟨h, List.isChain_singleton f, ?_⟩
    intro below hbelow g hg
    obtain rfl : f = g := Option.some.inj hg
    rw [getLast?_found] at hbelow
    obtain ⟨newest, hnewest, rfl⟩ := Option.map_eq_some_iff.mp hbelow
    have hnew : repeats ctx.limits newest f = false := (admits_iff hnewest).mp hadmits
    split
    · exact repeats_withoutCaller hnew
    · exact hnew
  · rw [if_neg hadmits, List.append_nil]
    exact h

theorem namelessAlone_accept (hpos : 0 < s.stack.size) (h : s.stack.NamelessAlone) (f : Frame) :
    (s.accept ctx f).stack.NamelessAlone := by
  rcases stack_accept_cases ctx s f with hstack | hstack
  · rw [hstack]
    exact h
  · rw [hstack]
    exact namelessAlone_append hpos f

theorem FrameStack.IsDistinct.accept (h : s.stack.IsDistinct ctx.limits) (f : Frame) :
    (s.accept ctx f).stack.IsDistinct ctx.limits :=
  ⟨pos_accept ctx h.pos f, namelessAlone_accept h.pos h.alone f, unrepeated_accept h.pos h.frames f⟩

theorem isDistinct_innermost (ctx : Context) :
    (State.initial.addInnermost ctx).stack.IsDistinct ctx.limits where
  pos := Nat.one_pos
  alone := by
    rintro - f hf
    cases hf
    rfl
  frames := List.isChain_singleton _

/-- What every round keeps: the frames are distinct, and a restart leaves at least frame 0. -/
structure State.Distinct (ctx : Context) (s : State) : Prop where
  floor : 0 < s.restartFloor
  stack : s.stack.IsDistinct ctx.limits

namespace State.Distinct

theorem setTally (h : s.Distinct ctx) (t : Tally) : (s.setTally t).Distinct ctx :=
  ⟨h.floor, h.stack⟩

theorem accept (h : s.Distinct ctx) (f : Frame) : (s.accept ctx f).Distinct ctx where
  floor := by
    rw [restartFloor_accept]
    exact h.floor
  stack := h.stack.accept f

theorem start (ctx : Context) : (State.start ctx).Distinct ctx := by
  have hinnermost (t : Tally) :
      ((initial.addInnermost ctx).setTally t).stack.IsDistinct ctx.limits := isDistinct_innermost ctx
  rcases start_cases ctx with ⟨t, h⟩ | ⟨lr, call, t, -, -, h⟩
  · rw [h]
    exact ⟨Nat.one_pos, hinnermost t⟩
  · have hlink := (hinnermost t).accept (ctx.linkFrame call lr)
    rw [h]
    exact ⟨hlink.pos, hlink⟩

theorem recovers (h : s.Distinct ctx) {resume : Address} (hround : Recovers ctx s s' resume) :
    s'.Distinct ctx := by
  have hcut := hround.isCut h.stack.pos h.floor
  refine ⟨?_, hcut.pos, hcut.namelessAlone, h.stack.frames.prefix hround.cuts_found⟩
  cases hround with
  | restarted hfew hnot t =>
      rw [restartFloor_backToRegisters]
      exact h.floor
  | rolledBack hmore hsite hfree t =>
      rw [restartFloor_rollBack]
      exact h.floor

theorem gathers (h : s.Distinct ctx) (hround : Gathers ctx s s') : s'.Distinct ctx :=
  hround.preserves h (fun _ t h => h.setTally t) fun _ f h => h.accept f

theorem scans (h : s.Distinct ctx) (hround : Scans ctx s s') : s'.Distinct ctx := by
  cases hround with
  | looked cursor hlooks =>
      exact hlooks.preserves h (fun _ t h => h.setTally t) fun _ f h => h.accept f
  | recovered resume hrecovers => exact h.recovers hrecovers

end State.Distinct

theorem distinct_outcome (ctx : Context) : (outcome ctx).1.Distinct ctx :=
  outcome_induction (P := State.Distinct ctx) (State.Distinct.start ctx)
    (fun _ _ h hround => h.gathers hround) (fun _ h => ⟨h.floor, h.stack⟩)
    (fun _ _ h hround => h.scans hround)

theorem distinct_phaseAt (ctx : Context) (n : Nat) : (phaseAt ctx n).state.Distinct ctx :=
  Phase.holds_self.mp <|
    holds_phaseAt (State.Distinct.start ctx) (fun _ _ h hround => h.gathers hround)
      (fun _ h => ⟨h.floor, h.stack⟩) (fun _ _ h hround => h.scans hround) n

/-! ## Where frames are offered -/

/-- The states in which a walk offers a frame to the stack: the frame of the link register above frame 0,
what a word or a link shows in a round, and a second frame in the same round; counters may have moved
since. -/
inductive Offers (ctx : Context) : State → Prop
  | registers : Offers ctx (State.initial.addInnermost ctx)
  | round (n : Nat) : Offers ctx (phaseAt ctx n).state
  | counted {s : State} (h : Offers ctx s) (t : Tally) : Offers ctx (s.setTally t)
  | behind {s : State} (h : Offers ctx s) (f : Frame) : Offers ctx (s.accept ctx f)

/-- Wherever a frame is offered, the frames found so far are distinct. -/
theorem Offers.isDistinct (h : Offers ctx s) : s.stack.IsDistinct ctx.limits := by
  induction h with
  | registers => exact isDistinct_innermost ctx
  | round n => exact (distinct_phaseAt ctx n).stack
  | counted _ t ih => exact ih
  | behind _ f ih => exact ih.accept f

end Rounds

/-! ## The trace -/

theorem unrepeated_reported {frames : List Frame} {limits : Limits}
    (h : Unrepeated limits (asFound frames)) : Unrepeated limits (asFound (reported limits frames)) := by
  unfold reported
  split
  · rw [asFound_take]
    exact h.take _
  · exact h

theorem unrepeated_run (ctx : Context) : Unrepeated ctx.limits (asFound (run ctx).frames) := by
  by_cases hkernel : ctx.arch.isKernelAddress ctx.registers.pc = true
  · rw [run_of_kernel hkernel]
    exact List.isChain_nil
  · rw [run_of_outcome hkernel]
    exact unrepeated_reported (distinct_outcome ctx).stack.frames

/-- **No frame of a trace repeats the one below it.**  Where recursion is not preserved, neighbours are about
different instructions; where callees are collapsed, neighbours above frame 0 do not call the same name.
What frame 0 has taken over from its caller never costs a frame: wherever one is offered, it is refused
only for the instruction of the newest frame, or for the callee of a newest frame that is not frame 0. -/
theorem run_unrepeated (ctx : Context) :
    (ctx.limits.preserveRecursion = false →
      (run ctx).frames.IsChain fun below f => f.ip ≠ below.ip) ∧
    (ctx.limits.collapseCallees = true →
      (run ctx).frames.tail.IsChain fun below f => ¬ SameCallee below f) ∧
    ∀ s, Offers ctx s → ∀ f, s.admits ctx f = false ↔
      ∃ newest, s.stack.last? = some newest ∧
        ((ctx.limits.preserveRecursion = false ∧ f.ip = newest.ip) ∨
          (ctx.limits.collapseCallees = true ∧ 1 < s.stack.size ∧ SameCallee newest f)) := by
  have hframes := unrepeated_run ctx
  refine ⟨?_, ?_, ?_⟩
  · intro hpreserve
    -- the address of frame 0 is as it was found
    have hignores : IgnoresCaller fun below f => f.ip ≠ below.ip := fun _ _ => Iff.rfl
    apply (isChain_asFound hignores).mp
    exact hframes.imp fun _ _ h => ip_ne_of_repeats hpreserve h
  · intro hcollapse
    -- and so is all of the frames above it
    have htail : (asFound (run ctx).frames).tail = (run ctx).frames.tail := by
      unfold asFound
      cases (run ctx).frames <;> rfl
    rw [← htail]
    exact hframes.tail.imp fun _ _ h => not_sameCallee_of_repeats hcollapse h
  · intro s hoffers f
    exact hoffers.isDistinct.alone.admits_eq_false_iff

/-- A thread in `fact`, which has called itself from two places; callees are collapsed. -/
def twoRecursions : Context where
  arch := .x86_64
  target := Tables.target
    { images := [(⟨"app"⟩, .main, 0x400000, 0x410000)]
      routines := [("fact", 0x401000, 0x100), ("main", 0x401100, 0x100), ("start", 0x401200, 0x100)]
      code := [(0x401010, ⟨1, "nop"⟩), (0x401020, ⟨5, "call 0x401000"⟩),
        (0x401030, ⟨5, "call 0x401000"⟩), (0x401110, ⟨5, "call 0x401000"⟩),
        (0x401210, ⟨5, "call 0x401100"⟩)]
      words := [(0x7FFE0000, 0x401025), (0x7FFE0008, 0x401035), (0x7FFE0010, 0x401115),
        (0x7FFE0018, 0x401215)] }
  registers := Registers.ofPcSp ⟨0x401010⟩ ⟨0x7FFE0000⟩
  limits := { Limits.standard with stackBase := some ⟨0x7FFE0018⟩, collapseCallees := true }

/-- The frame of the call from the second place. -/
def secondRecursion : Frame :=
  { Frame.bare ⟨0x401030⟩ ⟨0x7FFE0008⟩ ⟨"app"⟩ with calleeName := some "fact" }

/-- Both recursive calls and that of `main` name `fact`, as frame 0 does; only the first one is kept, and
the second is refused for it and not for frame 0. -/
theorem twoRecursions_unrepeated :
    twoRecursions.limits.preserveRecursion = false ∧ twoRecursions.limits.collapseCallees = true ∧
      (run twoRecursions).frames.map (fun f => (f.ip, f.calleeName)) =
        [(⟨0x401010⟩, some "fact"), (⟨0x401020⟩, some "fact"), (⟨0x401210⟩, some "main")] ∧
      ((run twoRecursions).frames.IsChain fun below f => f.ip ≠ below.ip) ∧
      ((run twoRecursions).frames.tail.IsChain fun below f => ¬ SameCallee below f) ∧
      Offers twoRecursions (phaseAt twoRecursions 2).state ∧
      ∃ newest, (phaseAt twoRecursions 2).state.stack.last? = some newest ∧
        1 < (phaseAt twoRecursions 2).state.stack.size ∧ SameCallee newest secondRecursion := by
  obtain ⟨hips, hcallees, hoffers⟩ := run_unrepeated twoRecursions
  have hframes : (run twoRecursions).frames.map (fun f => (f.ip, f.calleeName)) =
      [(⟨0x401010⟩, some "fact"), (⟨0x401020⟩, some "fact"), (⟨0x401210⟩, some "main")] := by
    decide +kernel
  have hrefused : (phaseAt twoRecursions 2).state.admits twoRecursions secondRecursion = false := by
    decide +kernel
  have hother : (phaseAt twoRecursions 2).state.stack.last?.map Frame.ip = some ⟨0x401020⟩ := by
    decide +kernel
  refine ⟨rfl, rfl, hframes, hips rfl, hcallees rfl, .round 2, ?_⟩
  obtain ⟨newest, hnewest, ⟨-, hip⟩ | ⟨-, hmore, hsame⟩⟩ :=
    (hoffers _ (.round 2) secondRecursion).mp hrefused
  · rw [hnewest, Option.map_some, ← hip] at hother
    cases hother
  · exact ⟨newest, hnewest, hmore, hsame⟩

end StackWalk.Walk
