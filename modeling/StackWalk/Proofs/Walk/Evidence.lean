import StackWalk.Proofs.Walk.Phase

/-!
# StackWalk.Proofs.Walk.Evidence — every frame of a trace has its evidence

A frame above frame 0 is believed for one of three reasons: a stack slot holds the return address of the
call that it is about, the link register holds it, or the frame is about the tail call by which a callee
leads on to the function below.  The three exclude each other, because a return address with a slot, one
without a slot, and none at all are told apart by the frame alone.

`run_justified` says that the frames of every trace have such evidence, whatever recoveries and restarts
came in between.  The invariant is stated frame by frame, so that it survives cutting frames off, and it
does not speak of what frame 0 takes over from its caller.
-/

namespace StackWalk.Walk

/-! ## The three kinds of evidence -/

/-- A slot of the stack holds the return address of the frame: a code address that is not null, right
behind the call that the frame is about. -/
def OnStack (ctx : Context) (f : Frame) : Prop :=
  ∃ slot value site, f.returnSlot = some slot ∧ f.returnAddress = some value ∧
    ctx.target.addressIn ctx.arch slot = some value ∧ value.isNull = false ∧
    ctx.target.isCode value = true ∧
    (CallSite.before ctx.arch ctx.target value).site = some site ∧ site.address = f.ip

/-- The link register holds the return address of the frame, right behind the call that the frame is
about. -/
def InLinkRegister (ctx : Context) (f : Frame) : Prop :=
  ∃ lr site, f.fromLinkRegister = true ∧ ctx.registers.lr = some lr ∧ f.returnSlot = none ∧
    f.returnAddress = some (lr.masked ctx.arch.addressMask) ∧
    (CallSite.before ctx.arch ctx.target (lr.masked ctx.arch.addressMask)).site = some site ∧
    site.address = f.ip

/-- The frame is about a direct jump to the entry of a routine, and has no return address. -/
def ByTailCall (ctx : Context) (f : Frame) : Prop :=
  ∃ i target, f.returnSlot = none ∧ f.returnAddress = none ∧ ctx.target.decode f.ip = some i ∧
    ctx.arch.isJump i.text = true ∧ (Disassembly.ofText i.text).target? = some (.direct target) ∧
    f.calleeStart = some target ∧ ctx.target.symbols.isEntry target = true

/-- Of three statements exactly one is true. -/
def ExactlyOne (a b c : Prop) : Prop :=
  (a ∧ ¬b ∧ ¬c) ∨ (¬a ∧ b ∧ ¬c) ∨ (¬a ∧ ¬b ∧ c)

/-- The frame is about the interrupted instruction. -/
structure IsInnermost (ctx : Context) (f : Frame) : Prop where
  ip : f.ip = ctx.registers.pc
  cursor : f.cursor = ctx.registers.sp
  callSite : f.callSite = none

/-- What the frame at each index is believed for; only the frame right above frame 0 can come from the
link register. -/
def JustifiedAt (ctx : Context) (index : Nat) (f : Frame) : Prop :=
  match index with
  | 0 => IsInnermost ctx f
  | i + 1 =>
    f.callSite = some f.ip ∧
      ExactlyOne (OnStack ctx f) (i = 0 ∧ InLinkRegister ctx f) (ByTailCall ctx f)

/-- Every frame of the list is believed for a reason. -/
def Justified (ctx : Context) (frames : List Frame) : Prop :=
  ∀ i f, frames[i]? = some f → JustifiedAt ctx i f

section Exclusion

variable {ctx : Context} {f : Frame}

theorem OnStack.not_inLinkRegister (h : OnStack ctx f) : ¬ InLinkRegister ctx f := by
  rintro ⟨lr, site, -, -, hslot, -⟩
  obtain ⟨slot, value, site, hslot', -⟩ := h
  rw [hslot] at hslot'
  cases hslot'

theorem OnStack.not_byTailCall (h : OnStack ctx f) : ¬ ByTailCall ctx f := by
  rintro ⟨i, target, hslot, -⟩
  obtain ⟨slot, value, site, hslot', -⟩ := h
  rw [hslot] at hslot'
  cases hslot'

theorem InLinkRegister.not_byTailCall (h : InLinkRegister ctx f) : ¬ ByTailCall ctx f := by
  rintro ⟨i, target, -, hreturn, -⟩
  obtain ⟨lr, site, -, -, -, hreturn', -⟩ := h
  rw [hreturn] at hreturn'
  cases hreturn'

theorem justifiedAt_of_onStack (hsite : f.callSite = some f.ip) (h : OnStack ctx f) (i : Nat) :
    JustifiedAt ctx (i + 1) f :=
  ⟨hsite, Or.inl ⟨h, fun hlink => h.not_inLinkRegister hlink.2, h.not_byTailCall⟩⟩

theorem justifiedAt_of_inLinkRegister (hsite : f.callSite = some f.ip) (h : InLinkRegister ctx f) :
    JustifiedAt ctx 1 f :=
  ⟨hsite, Or.inr (Or.inl ⟨fun hstack => hstack.not_inLinkRegister h, ⟨rfl, h⟩, h.not_byTailCall⟩)⟩

theorem justifiedAt_of_byTailCall (hsite : f.callSite = some f.ip) (h : ByTailCall ctx f) (i : Nat) :
    JustifiedAt ctx (i + 1) f :=
  ⟨hsite, Or.inr (Or.inr
    ⟨fun hstack => hstack.not_byTailCall h, fun hlink => hlink.2.not_byTailCall h, h⟩)⟩

end Exclusion

/-! ## The frames that the phases offer -/

namespace Context

variable {ctx : Context}

theorem site_of_callBefore {value : Address} {call : Call}
    (h : (ctx.callBefore value).1 = some call) :
    (CallSite.before ctx.arch ctx.target value).site = some call.site := by
  unfold callBefore at h
  obtain ⟨site, hsite, rfl⟩ := Option.map_eq_some_iff.mp h
  exact hsite

theorem Shows.onStack {slot value : Address} {call : Call} (h : ctx.Shows slot value call)
    (cursor : Address) : OnStack ctx (ctx.callFrame call value slot cursor) := by
  obtain ⟨hnull, hcode⟩ : value.isNull = false ∧ ctx.target.isCode value = true := by
    simpa [isCodePointer] using h.code
  exact ⟨slot, value, call.site, rfl, rfl, h.held, hnull, hcode, site_of_callBefore h.found, rfl⟩

theorem inLinkRegister_linkFrame {lr : Address} {call : Call} (hlr : ctx.linkAddress? = some lr)
    (hcall : (ctx.callBefore lr).1 = some call) : InLinkRegister ctx (ctx.linkFrame call lr) := by
  unfold linkAddress? at hlr
  obtain ⟨raw, hraw, rfl⟩ := Option.map_eq_some_iff.mp (Option.filter_eq_some_iff.mp hlr).1
  have hheld : ctx.registers.lr = some raw := by
    unfold Architecture.linkRegister? at hraw
    split at hraw
    · exact (Option.filter_eq_some_iff.mp hraw).1
    · cases hraw
  exact ⟨raw, call.site, rfl, hheld, rfl, rfl, site_of_callBefore hcall, rfl⟩

theorem tailBranch?_eq_some {start target : Address} {i : Instruction}
    (h : Callee.tailBranch? ctx.arch ctx.target start = some (target, i)) :
    ctx.target.decode start = some i ∧ ctx.arch.isJump i.text = true ∧
      (Disassembly.ofText i.text).target? = some (.direct target) ∧
      ctx.target.symbols.isEntry target = true := by
  unfold Callee.tailBranch? at h
  obtain ⟨j, hdecode, h⟩ := Option.bind_eq_some_iff.mp h
  split at h
  case isTrue hjump =>
    split at h
    case h_1 dest hdest =>
      split at h
      case isTrue hentry =>
        cases h
        exact ⟨hdecode, hjump, hdest, hentry⟩
      case isFalse => cases h
    case h_2 => cases h
  case isFalse => cases h

/-- The frame of a tail call is about the entry of the callee, where the direct jump stands. -/
theorem branchFrame?_eq_some {cursor below : Address} {callee : Callee} {branch : Frame}
    (h : ctx.branchFrame? cursor callee below = some branch) :
    branch.cursor = cursor ∧ branch.callSite = some branch.ip ∧ ByTailCall ctx branch := by
  unfold branchFrame? at h
  obtain ⟨start, -, h⟩ := Option.bind_eq_some_iff.mp h
  obtain ⟨⟨target, i⟩, htail, h⟩ := Option.bind_eq_some_iff.mp h
  obtain ⟨hdecode, hjump, hdest, hentry⟩ := tailBranch?_eq_some htail
  dsimp only at h
  split at h
  · cases h
    exact ⟨rfl, rfl, i, target, rfl, rfl, hdecode, hjump, hdest, rfl, hentry⟩
  · cases h

end Context

/-! ## The invariant -/

/-- A frame stack whose frames are believed for a reason.  Frame 0 is there from the start on. -/
structure FrameStack.IsJustified (ctx : Context) (s : FrameStack) : Prop where
  pos : 0 < s.size
  innermost : ∀ f, s.innermost? = some f → IsInnermost ctx f
  callers : ∀ i f, s.callers[i]? = some f → JustifiedAt ctx (i + 1) f

namespace FrameStack.IsJustified

variable {ctx : Context} {s : FrameStack}

theorem justified (h : s.IsJustified ctx) : Justified ctx s.frames.toList := by
  intro i f hf
  obtain ⟨g, hg⟩ := exists_innermost h.pos
  rw [toList_frames, hg] at hf
  cases i with
  | zero => exact h.innermost f (hg.trans hf)
  | succ i => exact h.callers i f hf

theorem isInnermost_takeOver {caller f : Frame} (h : IsInnermost ctx f) :
    IsInnermost ctx (takeOver caller f) := by
  unfold takeOver
  split
  · exact h
  · exact ⟨h.ip, h.cursor, h.callSite⟩

/-- A frame that is justified where it comes to stand may be offered. -/
theorem push (h : s.IsJustified ctx) {f : Frame} (hf : JustifiedAt ctx s.size f) :
    ((s.append ctx.limits f).backfill f).IsJustified ctx where
  pos := by
    rw [size_backfill, size_append]
    omega
  innermost g hg := by
    rw [innermost?_backfill, innermost?_append _ h.pos] at hg
    obtain ⟨g₀, hg₀, rfl⟩ := Option.map_eq_some_iff.mp hg
    have hold : IsInnermost ctx g₀ := h.innermost g₀ hg₀
    split
    · exact isInnermost_takeOver hold
    · exact hold
  callers i g hg := by
    rw [callers_backfill, callers_append _ h.pos] at hg
    rcases Nat.lt_or_ge i s.callers.length with hlt | hge
    · rw [List.getElem?_append_left hlt] at hg
      exact h.callers i g hg
    · -- behind the old callers there is only the new frame, at the index that was the size
      rw [List.getElem?_append_right hge] at hg
      have hlast : i - s.callers.length = 0 ∧ f = g := by
        cases hi : i - s.callers.length with
        | zero => simpa [hi] using hg
        | succ k => simp [hi] at hg
      have hsize : i + 1 = s.size := by
        have hlen := s.length_callers
        have hpos := h.pos
        omega
      rw [hsize, ← hlast.2]
      exact hf

theorem truncate (h : s.IsJustified ctx) {count : Nat} (hcount : 0 < count) :
    (s.truncate count).IsJustified ctx where
  pos := by
    have hpos := h.pos
    rw [size_truncate]
    omega
  innermost f hf := by
    rw [innermost?_truncate s hcount] at hf
    obtain ⟨f₀, hf₀, rfl⟩ := Option.map_eq_some_iff.mp hf
    have hold : IsInnermost ctx f₀ := h.innermost f₀ hf₀
    split
    · exact ⟨hold.ip, hold.cursor, hold.callSite⟩
    · exact hold
  callers i f hf := by
    rw [callers_truncate, List.getElem?_take] at hf
    split at hf
    · exact h.callers i f hf
    · cases hf

theorem rollback (h : s.IsJustified ctx) : s.rollback.IsJustified ctx :=
  have hcut := h.truncate s.keptByRollback_pos
  ⟨hcut.pos, hcut.innermost, hcut.callers⟩

end FrameStack.IsJustified

/-- What is kept by every round: the frames are justified, and a restart keeps at least frame 0. -/
structure State.IsJustified (ctx : Context) (s : State) : Prop where
  floor : 0 < s.restartFloor
  stack : s.stack.IsJustified ctx

namespace State.IsJustified

variable {ctx : Context} {s s' : State}

theorem accept (h : s.IsJustified ctx) {f : Frame} (hf : JustifiedAt ctx s.stack.size f) :
    (s.accept ctx f).IsJustified ctx where
  floor := by
    rw [restartFloor_accept]
    exact h.floor
  stack := by
    rw [stack_accept]
    split
    · exact h.stack.push hf
    · exact h.stack

/-- The frame of a call that a slot shows may be offered anywhere above frame 0. -/
theorem accept_callFrame (h : s.IsJustified ctx) {slot value : Address} {call : Context.Call}
    (hshows : ctx.Shows slot value call) (cursor : Address) :
    (s.accept ctx (ctx.callFrame call value slot cursor)).IsJustified ctx := by
  obtain ⟨n, hn⟩ : ∃ n, s.stack.size = n + 1 := ⟨s.stack.size - 1, by have := h.stack.pos; omega⟩
  apply h.accept
  rw [hn]
  exact justifiedAt_of_onStack rfl (hshows.onStack cursor) n

theorem setTally (h : s.IsJustified ctx) (t : Tally) : (s.setTally t).IsJustified ctx :=
  ⟨h.floor, h.stack⟩

theorem start (ctx : Context) : (State.start ctx).IsJustified ctx := by
  have halone (t : Tally) :
      ({ (initial.addInnermost ctx).setTally t with restartFloor := 1 } : State).IsJustified ctx :=
    { floor := Nat.one_pos
      stack :=
        { pos := Nat.one_pos
          innermost := by
            intro f hf
            cases hf
            exact ⟨rfl, rfl, rfl⟩
          callers := by
            intro i f hf
            cases hf } }
  rcases start_cases ctx with ⟨t, h⟩ | ⟨lr, call, t, hlr, hcall, h⟩
  · rw [h]
    exact halone t
  · rw [h]
    have hframe : JustifiedAt ctx 1 (ctx.linkFrame call lr) :=
      justifiedAt_of_inLinkRegister rfl (Context.inLinkRegister_linkFrame hlr hcall)
    -- the floor of the restarts is raised above this frame, which leaves the stack as it is
    have hstack := ((halone t).accept (f := ctx.linkFrame call lr) hframe).stack
    rw [stack_accept] at hstack
    dsimp only
    rw [stack_accept]
    exact ⟨hstack.pos, hstack⟩

theorem gathers (h : s.IsJustified ctx) (hround : Gathers ctx s s') : s'.IsJustified ctx := by
  cases hround with
  | counted t => exact h.setTally t
  | call hshows cursor t t' => exact ((h.setTally t).accept_callFrame hshows cursor).setTally t'

theorem looks (h : s.IsJustified ctx) {cursor : Address} (hround : Looks ctx s cursor s') :
    s'.IsJustified ctx := by
  cases hround with
  | counted t => exact h.setTally t
  | call hshows hfree t t' => exact ((h.setTally t).accept_callFrame hshows cursor).setTally t'
  | @behind value call below branch hshows hfree hbelow hbranch t t' =>
      -- the tail call is offered first, on top of at least frame 0, and the call behind it
      obtain ⟨n, hn⟩ : ∃ n, s.stack.size = n + 1 :=
        ⟨s.stack.size - 1, by have := h.stack.pos; omega⟩
      obtain ⟨-, hsite, htail⟩ := Context.branchFrame?_eq_some hbranch
      have hjustified : JustifiedAt ctx (s.setTally t).stack.size branch := by
        rw [stack_setTally, hn]
        exact justifiedAt_of_byTailCall hsite htail n
      exact (((h.setTally t).accept hjustified).accept_callFrame hshows cursor).setTally t'

theorem scans (h : s.IsJustified ctx) (hround : Scans ctx s s') : s'.IsJustified ctx := by
  cases hround with
  | looked cursor hlooks => exact h.looks hlooks
  | recovered resume hrecovers =>
      cases hrecovers with
      | restarted hfew hnot t =>
          refine ⟨?_, ?_⟩
          · rw [restartFloor_backToRegisters]
            exact h.floor
          · rw [stack_backToRegisters]
            exact h.stack.truncate h.floor
      | rolledBack hmore hsite hfree t =>
          refine ⟨?_, ?_⟩
          · rw [restartFloor_rollBack]
            exact h.floor
          · rw [stack_rollBack]
            exact h.stack.rollback

end State.IsJustified

/-! ## The trace -/

theorem beforeScan_isJustified (ctx : Context) : (beforeScan ctx).1.IsJustified ctx :=
  have h : ((State.start ctx).addChain ctx).1.IsJustified ctx :=
    addChain_induction (State.IsJustified.start ctx) fun _ _ h hround => h.gathers hround
  ⟨h.floor, h.stack⟩

theorem outcome_isJustified (ctx : Context) : (outcome ctx).1.IsJustified ctx :=
  outcome_induction (P := State.IsJustified ctx) (State.IsJustified.start ctx)
    (fun _ _ h hround => h.gathers hround) (fun _ h => ⟨h.floor, h.stack⟩)
    (fun _ _ h hround => h.scans hround)

/-- Wherever a walk comes to, the frames found so far are justified. -/
theorem phaseAt_isJustified (ctx : Context) (n : Nat) : (phaseAt ctx n).state.IsJustified ctx :=
  Phase.holds_self.mp <|
    holds_phaseAt (State.IsJustified.start ctx) (fun _ _ h hround => h.gathers hround)
      (fun _ h => ⟨h.floor, h.stack⟩) (fun _ _ h hround => h.scans hround) n

theorem Justified.reported {ctx : Context} {frames : List Frame} (h : Justified ctx frames)
    (limits : Limits) : Justified ctx (reported limits frames) := by
  unfold Walk.reported
  split
  · intro i f hf
    rw [List.getElem?_take] at hf
    split at hf
    · exact h i f hf
    · cases hf
  · exact h

/-- **Every frame of every trace has its evidence.** -/
theorem run_justified (ctx : Context) : Justified ctx (run ctx).frames := by
  unfold run
  split
  · intro i f hf
    cases hf
  · exact (outcome_isJustified ctx).stack.justified.reported ctx.limits

end StackWalk.Walk
