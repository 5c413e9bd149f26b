import StackWalk.Proofs.Walk.Evidence
import StackWalk.Proofs.Walk.Halting
import StackWalk.Proofs.Walk.Look

/-!
# StackWalk.Proofs.Walk.CallPath — the calls that have led to an instruction

A thread has come to its instruction by a path of calls: each of them calls the routine that contains the
next, and the last one the routine of the program counter.  Whatever way a walk finds the return
addresses of such a path, it has no reason to refuse their frames.

`State.Traced` says how far along a path a state has come.  Accepting the next frame takes it one call
further, and `frames_of_traced` says what a walk reports that ends there.
-/

namespace StackWalk.Walk

namespace Context

/-- What a call site calls, with the site itself. -/
def callOf (ctx : Context) (site : CallSite) : Call :=
  ⟨site, Callee.ofSite ctx.arch ctx.target site⟩

/-- A call, from another place, of the routine that contains `ip`. -/
structure CallsInto (ctx : Context) (site : CallSite) (ip : Address) : Prop where
  into : ∃ start, (ctx.callOf site).callee.start = some start ∧
    ctx.target.symbols.sameRoutine start ip = true
  apart : site.address ≠ ip

/-- The calls that have led to `ip`, the innermost one first. -/
inductive CallPath (ctx : Context) : Address → List CallSite → Prop
  | nil (ip : Address) : CallPath ctx ip []
  | cons {ip : Address} {site : CallSite} {sites : List CallSite} (call : ctx.CallsInto site ip)
      (rest : CallPath ctx site.address sites) : CallPath ctx ip (site :: sites)

variable {ctx : Context}

theorem CallsInto.reaches {site : CallSite} {ip : Address} (h : ctx.CallsInto site ip) :
    ctx.reaches (ctx.callOf site).callee ip = true := by
  obtain ⟨start, hstart, hsame⟩ := h.into
  have hreaches : (ctx.callOf site).callee.start.any (fun start => ctx.startReaches start ip) = true := by
    rw [hstart]
    unfold startReaches
    exact Bool.or_eq_true_iff.mpr (Or.inl hsame)
  unfold Context.reaches
  split
  · rfl
  · rw [hreaches]
    rfl

/-- A value with a call in front of it is a code address. -/
theorem isCodePointer_of_before {value : Address} {site : CallSite}
    (h : (CallSite.before ctx.arch ctx.target value).site = some site) :
    ctx.isCodePointer value = true := by
  unfold CallSite.before at h
  split at h
  · cases h
  case isFalse hgood =>
    rw [Bool.or_eq_true_iff, not_or] at hgood
    obtain ⟨hhigh, hcode⟩ := hgood
    have hnull : value.isNull = false := by
      refine eq_false_of_ne_true fun hnull => hhigh ?_
      have hzero : value.value = 0 := eq_of_beq hnull
      rw [hzero]
      decide
    unfold isCodePointer
    rw [hnull]
    simpa using hcode

theorem callBefore_of_before {value : Address} {site : CallSite}
    (h : (CallSite.before ctx.arch ctx.target value).site = some site) :
    (ctx.callBefore value).1 = some (ctx.callOf site) := by
  unfold callBefore
  dsimp only
  rw [h]
  rfl

end Context

/-! ## States along a path -/

/-- The state has come to `ip`, by way of these callers. -/
structure State.Traced (s : State) (callers : List Frame) (ip : Address) : Prop where
  pos : 0 < s.stack.size
  callers : s.stack.callers = callers
  newest : s.stack.last?.map Frame.ip = some ip

section Traced

variable {ctx : Context} {s : State} {callers : List Frame} {ip : Address}

theorem State.Traced.setTally (h : s.Traced callers ip) (t : Tally) : (s.setTally t).Traced callers ip :=
  ⟨h.pos, h.callers, h.newest⟩

theorem State.Traced.exists_newest (h : s.Traced callers ip) :
    ∃ newest, s.stack.last? = some newest ∧ newest.ip = ip :=
  Option.map_eq_some_iff.mp h.newest

theorem State.Traced.currentIp (h : s.Traced callers ip) : s.currentIp ctx = ip := by
  obtain ⟨newest, hnewest, rfl⟩ := h.exists_newest
  exact currentIp_of_last? hnewest

/-- Where callees are not collapsed, the stack takes the frame of a call from another place. -/
theorem State.Traced.admits (h : s.Traced callers ip) (hseparate : ctx.limits.collapseCallees = false)
    {f : Frame} (hapart : f.ip ≠ ip) : s.admits ctx f = true := by
  obtain ⟨newest, hnewest, rfl⟩ := h.exists_newest
  have hrepeats : FrameStack.repeats ctx.limits newest f = false := by
    unfold FrameStack.repeats
    rw [hseparate, beq_false_of_ne hapart, Bool.and_false]
    rfl
  unfold State.admits FrameStack.admits
  rw [hnewest]
  show (!FrameStack.repeats ctx.limits newest f) = true
  rw [hrepeats]
  rfl

theorem State.Traced.accept (h : s.Traced callers ip) {f : Frame} (hadmits : s.admits ctx f = true) :
    (s.accept ctx f).Traced (callers ++ [f]) f.ip where
  pos := pos_accept ctx h.pos f
  callers := by rw [callers_accept ctx h.pos, if_pos hadmits, h.callers]
  newest := by
    rw [last?_accept h.pos hadmits]
    rfl

/-- Where the link register shows nothing, the walk starts with frame 0 alone. -/
theorem start_of_no_link (h : ctx.linkAddress? = none) :
    State.start ctx = { State.initial.addInnermost ctx with restartFloor := 1 } := by
  unfold State.start State.addLinkFrame
  rw [h]
  rfl

theorem traced_start (h : ctx.linkAddress? = none) :
    (State.start ctx).Traced [] ctx.registers.pc := by
  rw [start_of_no_link h]
  exact ⟨Nat.one_pos, rfl, rfl⟩

end Traced

/-! ## What is reported -/

section Report

variable {ctx : Context}

theorem reported_of_le {limits : Limits} {frames : List Frame}
    (h : ∀ max, limits.maxFrames = some max → frames.length ≤ max.toNat) :
    reported limits frames = frames := by
  unfold reported
  split
  case h_1 max hmax => exact List.take_of_length_le (h max hmax)
  case h_2 => rfl

/-- Frame 0 is reported with all callers, if they are fewer than the limit. -/
theorem frames_of_callers {callers : List Frame} (h : (outcome ctx).1.stack.callers = callers)
    (hlimit : ∀ max, ctx.limits.maxFrames = some max → callers.length < max.toNat) :
    ∃ f₀, IsInnermost ctx f₀ ∧
      (report ctx.limits (outcome ctx).1 (outcome ctx).2).frames = f₀ :: callers := by
  have hjustified := (outcome_isJustified ctx).stack
  obtain ⟨f₀, hf₀⟩ := FrameStack.exists_innermost hjustified.pos
  have hframes : (outcome ctx).1.stack.frames.toList = f₀ :: callers := by
    rw [FrameStack.toList_frames, hf₀, h]
    rfl
  refine ⟨f₀, hjustified.innermost f₀ hf₀, ?_⟩
  show reported ctx.limits (outcome ctx).1.stack.frames.toList = f₀ :: callers
  rw [hframes]
  exact reported_of_le hlimit

end Report

end StackWalk.Walk
