import StackWalk.Proofs.Tables
import StackWalk.Proofs.Walk.CallPath

/-!
# StackWalk.Proofs.Walk.ChainPath — a chain of frame pointers that shows all calls

A thread has come to its instruction by a path of calls, and every routine on it has saved the frame
pointer of its caller below its return address.  From the live frame pointer the saved ones lead up the
stack to the last one, which is null.  The walk then finds each call of the path and nothing else, along
the chain alone: no word is scanned and no gap is met.

Before that the probe for a function without a frame goes past a few words, which must show nothing.  It
takes rounds from the budget like the links of the chain.
-/

namespace StackWalk.Walk

/-! ## The chain -/

/-- A saved frame pointer at `base`, the return address above it, and the call in front of that. -/
structure ChainLink where
  base : Address
  value : Address
  site : CallSite

namespace Context

/-- The frame of the call that a link shows. -/
def chainFrame (ctx : Context) (l : ChainLink) : Frame :=
  ctx.callFrame (ctx.callOf l.site) l.value (ctx.slotAbove l.base) l.base

/-- From a frame pointer the saved ones lead through these links, each to a higher one, and the last one
to null. -/
inductive Chained (ctx : Context) : Address → List ChainLink → Prop
  | nil : Chained ctx .null []
  | cons {link saved : Address} {l : ChainLink} {links : List ChainLink} (hbase : l.base = link)
      (hsaved : ctx.slot? l.base = some saved) (hup : links = [] ∨ l.base < saved)
      (hheld : ctx.slot? (ctx.slotAbove l.base) = some l.value)
      (hfound : (CallSite.before ctx.arch ctx.target l.value).site = some l.site)
      (rest : Chained ctx saved links) : Chained ctx link (l :: links)

theorem Chained.eq_null {ctx : Context} {link : Address} (h : ctx.Chained link []) : link = .null := by
  cases h
  rfl

/-- The first link; the next saved frame pointer is that of the next link, or null. -/
theorem Chained.first {ctx : Context} {link : Address} {l : ChainLink} {links : List ChainLink}
    (h : ctx.Chained link (l :: links)) :
    ∃ saved, link = l.base ∧ ctx.slot? l.base = some saved ∧
      (links = [] ∧ saved = .null ∨ l.base < saved) ∧
      ctx.slot? (ctx.slotAbove l.base) = some l.value ∧
      (CallSite.before ctx.arch ctx.target l.value).site = some l.site ∧ ctx.Chained saved links := by
  cases h with
  | @cons _ saved _ _ hbase hsaved hup hheld hfound hrest =>
      refine ⟨saved, hbase.symm, hsaved, ?_, hheld, hfound, hrest⟩
      rcases hup with rfl | hlt
      · exact Or.inl ⟨rfl, hrest.eq_null⟩
      · exact Or.inr hlt

/-- How many words lie between the stack pointer and the end of the probe. -/
def probeWords (ctx : Context) (fp : Address) : Nat :=
  ((ctx.leafEnd fp).toNat - ctx.registers.sp.toNat + ctx.word.toNat - 1) / ctx.word.toNat

/-- A thread outside of the kernel with a live frame pointer, and a walk that has enough rounds for the
probe and the chain and takes every frame. -/
structure LeftToChain (ctx : Context) (fp : Address) (links : List ChainLink) : Prop where
  user : ctx.arch.isKernelAddress ctx.registers.pc = false
  chainsFrames : ctx.arch.chainsFrames = true
  framePointer : ctx.registers.fp = some fp
  live : ctx.isLive fp = true
  separate : ctx.limits.collapseCallees = false
  frames : ∀ max, ctx.limits.maxFrames = some max → links.length < max.toNat
  budget : ctx.probeWords fp + links.length ≤ ctx.limits.maxIterations.toNat

/-- The frame pointer leads along the calls of the path to the program counter.  The probe comes by no
code address on its way. -/
structure ChainsPath (ctx : Context) (fp : Address) (links : List ChainLink) : Prop where
  chained : ctx.Chained fp links
  room : ∀ l ∈ links, l.base.toNat + ctx.word.toNat < 0x1_0000_0000_0000_0000
  calls : ctx.CallPath ctx.registers.pc (links.map ChainLink.site)
  quiet : ∀ k < ctx.probeWords fp, ∀ value, ctx.slot? (ctx.probeSlot k) = some value →
    ctx.isCodePointer value = false

end Context

/-- What the rounds before the scan have counted. -/
structure Tally.Quick (t : Tally) (rounds produced : Nat) : Prop where
  iterations : t.iterations = rounds
  chainFrames : t.chainFrames = produced
  bytes : t.bytes = 0
  recoveries : t.recoveries = 0

section Chain

variable {ctx : Context} {fp : Address} {links : List ChainLink}

theorem Tally.Quick.looked {t : Tally} {rounds produced : Nat} (h : t.Quick rounds produced)
    (counter : UInt32 → UInt32) : (t.looked counter).Quick (rounds + 1) produced :=
  ⟨congrArg (· + 1) h.iterations, h.chainFrames, h.bytes, h.recoveries⟩

namespace Context.LeftToChain

theorem livePointer?_eq_some (h : ctx.LeftToChain fp links) : ctx.livePointer? = some fp := by
  unfold Context.livePointer? Architecture.framePointer?
  rw [if_pos h.chainsFrames, h.framePointer]
  exact Option.filter_eq_some_iff.mpr ⟨rfl, h.live⟩

theorem linkAddress?_eq_none (h : ctx.LeftToChain fp links) : ctx.linkAddress? = none := by
  have harm : ctx.arch.isArm = false := by
    have hchains := h.chainsFrames
    unfold Architecture.chainsFrames at hchains
    simpa using hchains
  unfold Context.linkAddress? Architecture.linkRegister?
  rw [harm]
  rfl

/-- A live frame pointer lies above the stack pointer, so it is not null. -/
theorem isNull_eq_false (h : ctx.LeftToChain fp links) :
    fp.isNull = false ∧ ctx.registers.sp < fp := by
  have hlive := h.live
  unfold Context.isLive at hlive
  simp only [Bool.and_eq_true, Bool.not_eq_true', decide_eq_true_eq] at hlive
  exact ⟨hlive.1.1.1, hlive.1.1.2⟩

end Context.LeftToChain

/-! ## The probe -/

theorem leafFrameAt_of_quiet {cursor : Address}
    (h : ∀ value, ctx.slot? cursor = some value → ctx.isCodePointer value = false) :
    (ctx.leafFrameAt cursor).1 = none := by
  have hnone : (ctx.slot? cursor).filter ctx.isCodePointer = none := by
    rw [Option.filter_eq_none_iff]
    intro value hvalue
    rw [h value hvalue]
    exact Bool.false_ne_true
  unfold Context.leafFrameAt
  rw [hnone]

/-- Below the last address the probe has so many words before its end. -/
theorem probeSlot_lt_iff (hsp : ctx.registers.sp < fp)
    (hroom : fp.toNat + ctx.word.toNat < 0x1_0000_0000_0000_0000) {k : Nat}
    (hk : k ≤ ctx.probeWords fp) :
    ctx.probeSlot k < ctx.leafEnd fp ↔ k < ctx.probeWords fp := by
  have hend := ctx.toNat_leafEnd fp
  rw [Address.lt_iff_toNat] at hsp ⊢
  unfold Context.probeWords at hk ⊢
  rw [Context.toNat_probeSlot]
  rcases ctx.toNat_word with hword | hword <;> rw [hword] at hroom hk ⊢ <;> omega

/-- The probe finds nothing. -/
theorem probe_of_quiet (hleft : ctx.LeftToChain fp links)
    (hroom : fp.toNat + ctx.word.toNat < 0x1_0000_0000_0000_0000)
    (hquiet : ∀ k < ctx.probeWords fp, ∀ value, ctx.slot? (ctx.probeSlot k) = some value →
      ctx.isCodePointer value = false) :
    (LeafProbe.run ctx fp (State.start ctx)).Traced [] ctx.registers.pc ∧
      (LeafProbe.run ctx fp (State.start ctx)).tally.Quick (ctx.probeWords fp) 0 := by
  obtain ⟨-, hsp⟩ := hleft.isNull_eq_false
  refine iterate_total
    (I := fun p : LeafProbe => ∃ k ≤ ctx.probeWords fp, p.cursor = ctx.probeSlot k ∧
      p.state.Traced [] ctx.registers.pc ∧ p.state.tally.Quick k 0)
    (Q := fun s : State => s.Traced [] ctx.registers.pc ∧ s.tally.Quick (ctx.probeWords fp) 0)
    (M := fun p => ctx.probeWords fp - p.state.tally.iterations) ?_ _ ?_ ?_
  · rintro ⟨s, cursor⟩ ⟨k, hk, rfl, htraced, hquick⟩
    rcases Nat.lt_or_eq_of_le hk with hlt | rfl
    · obtain ⟨counter, hround⟩ := LeafProbe.round_of_nothing (p := ⟨s, ctx.probeSlot k⟩)
        ((probeSlot_lt_iff hsp hroom hk).mpr hlt) (leafFrameAt_of_quiet (hquiet k hlt))
      refine Or.inl ⟨_, hround, ⟨k + 1, hlt, (Context.probeSlot_succ ctx k).symm,
        htraced.setTally _, hquick.looked counter⟩, ?_⟩
      show ctx.probeWords fp - (s.tally.iterations + 1) < ctx.probeWords fp - s.tally.iterations
      rw [hquick.iterations]
      omega
    · have hge : ¬ ctx.probeSlot (ctx.probeWords fp) < ctx.leafEnd fp := fun hlt =>
        Nat.lt_irrefl _ ((probeSlot_lt_iff hsp hroom hk).mp hlt)
      exact Or.inr ⟨s, if_neg hge, htraced, hquick⟩
  · obtain ⟨failures, htally⟩ := State.tally_start ctx
    refine ⟨0, Nat.zero_le _, (Context.probeSlot_zero ctx).symm, traced_start hleft.linkAddress?_eq_none, ?_⟩
    rw [htally]
    exact ⟨rfl, rfl, rfl, rfl⟩
  · have hend := (ctx.leafEnd fp).toNat_lt
    refine Nat.lt_of_le_of_lt (Nat.sub_le _ _) ?_
    unfold Context.probeWords LeafProbe.maxSlots
    rcases ctx.toNat_word with hword | hword <;> rw [hword] <;> omega

/-! ## One link -/

/-- The walk has followed the first links of the chain; the next one is the first of those ahead. -/
structure ChainAt (ctx : Context) (probed : Nat) (found ahead : List ChainLink) (c : PointerChain) :
    Prop where
  chained : ctx.Chained c.link ahead
  goesOn : ahead = [] ∨ c.link.isNull = false
  produced : c.produced = found.length
  quick : c.state.tally.Quick (probed + found.length) found.length
  traced : ∃ ip, c.state.Traced (found.map ctx.chainFrame) ip ∧
    ctx.CallPath ip (ahead.map ChainLink.site)

/-- A link that shows the next call of the path is confirmed. -/
theorem followLink_of_call {l : ChainLink} {ip saved : Address}
    (hsaved : ctx.slot? l.base = some saved) (hne : saved ≠ l.base)
    (hheld : ctx.slot? (ctx.slotAbove l.base) = some l.value)
    (hfound : (CallSite.before ctx.arch ctx.target l.value).site = some l.site)
    (hcall : ctx.CallsInto l.site ip) :
    (ctx.followLink l.base ip).1 = some (ctx.chainFrame l, saved) := by
  have hgood : ¬ ((saved == l.base) || !ctx.isCodePointer l.value) = true := by
    rw [beq_false_of_ne hne, Context.isCodePointer_of_before hfound]
    decide
  have hleads : (some (ctx.callOf l.site)).filter (fun call => ctx.reaches call.callee ip) =
      some (ctx.callOf l.site) :=
    Option.filter_eq_some_iff.mpr ⟨rfl, hcall.reaches⟩
  unfold Context.followLink
  dsimp only
  rw [hsaved, hheld]
  dsimp only
  rw [if_neg hgood, Context.callBefore_of_before hfound, hleads]
  rfl

/-- Within the chain neither limit is reached. -/
theorem ChainAt.limit?_eq_none {found ahead : List ChainLink} {c : PointerChain}
    (h : ChainAt ctx (ctx.probeWords fp) found ahead c)
    (hleft : ctx.LeftToChain fp (found ++ ahead)) (hahead : ahead ≠ []) :
    PointerChain.limit? ctx c.state = none := by
  have hlength : found.length < (found ++ ahead).length := by
    rw [List.length_append]
    exact Nat.lt_add_of_pos_right (List.length_pos_iff.mpr hahead)
  obtain ⟨ip, htraced, -⟩ := h.traced
  have hsize : c.state.stack.size = found.length + 1 := by
    have hcallers := congrArg List.length htraced.callers
    have hpos := htraced.pos
    rw [FrameStack.length_callers, List.length_map] at hcallers
    omega
  have hframes : ctx.limits.framesExhausted c.state.stack.size = false := by
    unfold Limits.framesExhausted
    cases hmax : ctx.limits.maxFrames with
    | none => rfl
    | some max =>
        have hlt := hleft.frames max hmax
        refine decide_eq_false ?_
        omega
  have hbudget : ¬ ctx.limits.maxIterations.toNat ≤ c.state.tally.iterations := by
    have hbudget := hleft.budget
    rw [h.quick.iterations]
    omega
  unfold PointerChain.limit? State.frameLimit? State.iterationLimit?
  rw [hframes, if_neg hbudget]
  rfl

/-- The stack takes the frame of the next call. -/
theorem ChainAt.extend {l : ChainLink} {found ahead : List ChainLink} {c : PointerChain}
    {saved : Address} {probed : Nat} (h : ChainAt ctx probed found (l :: ahead) c)
    (hseparate : ctx.limits.collapseCallees = false) (hrest : ctx.Chained saved ahead)
    (hgoesOn : ahead = [] ∨ saved.isNull = false) (counter : UInt32 → UInt32) :
    ChainAt ctx probed (found ++ [l]) ahead
      { c.extend ctx (c.state.setTally (c.state.tally.looked counter)) (ctx.chainFrame l) with
        link := saved } := by
  obtain ⟨ip, htraced, hpath⟩ := h.traced
  obtain ⟨hcall, hcalls⟩ : ctx.CallsInto l.site ip ∧
      ctx.CallPath l.site.address (ahead.map ChainLink.site) := by
    cases hpath with
    | cons hcall hcalls => exact ⟨hcall, hcalls⟩
  have hlooked := htraced.setTally (c.state.tally.looked counter)
  have hquick := h.quick.looked counter
  have hlength : (found ++ [l]).length = found.length + 1 := List.length_append
  have hadmits := hlooked.admits hseparate (f := ctx.chainFrame l) hcall.apart
  have hextend : c.extend ctx (c.state.setTally (c.state.tally.looked counter)) (ctx.chainFrame l) =
      { c with
        state := ((c.state.setTally (c.state.tally.looked counter)).accept ctx
          (ctx.chainFrame l)).countChainFrame
        produced := c.produced + 1
        lastSlot := some (ctx.slotAbove c.link) } :=
    if_pos hadmits
  rw [hextend]
  refine ⟨hrest, hgoesOn, ?_, ?_, l.site.address, ?_, hcalls⟩
  · rw [hlength]
    exact congrArg (· + 1) h.produced
  · have htally := State.tally_accept ctx (c.state.setTally (c.state.tally.looked counter))
      (ctx.chainFrame l)
    rw [hlength]
    unfold State.countChainFrame
    dsimp only
    rw [htally]
    exact ⟨hquick.iterations, congrArg (· + 1) hquick.chainFrames, hquick.bytes, hquick.recoveries⟩
  · rw [List.map_append]
    exact (hlooked.accept hadmits).setTally _

/-- Behind the last link the chain ends. -/
theorem ChainAt.round_of_nil {found : List ChainLink} {c : PointerChain} {probed : Nat}
    (h : ChainAt ctx probed found [] c) (hsome : found ≠ []) :
    PointerChain.round ctx c = .done (c.state, .stop .complete) := by
  have hnull : c.link.isNull = true := by
    rw [h.chained.eq_null]
    rfl
  have hproduced : 0 < c.produced := by
    rw [h.produced]
    exact List.length_pos_iff.mpr hsome
  have honward : c.onward ctx = (c.state, .stop .complete) := by
    unfold PointerChain.onward
    rw [hnull, decide_eq_true hproduced]
    rfl
  unfold PointerChain.round
  rw [if_pos hnull, honward]

/-- The next link is followed. -/
theorem ChainAt.round_of_cons {found ahead : List ChainLink} {l : ChainLink} {c : PointerChain}
    (h : ChainAt ctx (ctx.probeWords fp) found (l :: ahead) c)
    (hleft : ctx.LeftToChain fp (found ++ l :: ahead)) :
    ∃ c', PointerChain.round ctx c = .next c' ∧
      ChainAt ctx (ctx.probeWords fp) (found ++ [l]) ahead c' := by
  obtain ⟨saved, hbase, hsaved, hup, hheld, hfound, hrest⟩ := h.chained.first
  have hnull : c.link.isNull = false := h.goesOn.resolve_left (List.cons_ne_nil _ _)
  have hnext : (saved.isNull = true ∨ ¬ saved < c.link) ∧ saved ≠ l.base ∧
      (ahead = [] ∨ saved.isNull = false) := by
    rw [hbase] at hnull ⊢
    rcases hup with ⟨rfl, rfl⟩ | hlt
    · refine ⟨Or.inl rfl, ?_, Or.inl rfl⟩
      intro heq
      rw [← heq] at hnull
      cases hnull
    · rw [Address.lt_iff_toNat] at hlt ⊢
      refine ⟨Or.inr (Nat.lt_asymm hlt), ?_, Or.inr (Address.isNull_eq_false_of_lt hlt)⟩
      rintro rfl
      exact Nat.lt_irrefl _ hlt
  obtain ⟨hgoesOn, hne, hagain⟩ := hnext
  obtain ⟨ip, htraced, hpath⟩ := h.traced
  have hcall : ctx.CallsInto l.site ip := by
    cases hpath with
    | cons hcall hrest => exact hcall
  have hfollow : (ctx.followLink c.link (c.state.currentIp ctx)).1 = some (ctx.chainFrame l, saved) := by
    rw [htraced.currentIp, hbase]
    exact followLink_of_call hsaved hne hheld hfound hcall
  obtain ⟨counter, hround⟩ := PointerChain.round_of_link hnull
    (h.limit?_eq_none hleft (List.cons_ne_nil _ _)) hfollow hgoesOn
  exact ⟨_, hround, h.extend hleft.separate hrest hagain counter⟩

/-! ## The whole walk -/

/-- There is a first link, at the frame pointer. -/
theorem Context.ChainsPath.first_link (hpath : ctx.ChainsPath fp links)
    (hleft : ctx.LeftToChain fp links) :
    links ≠ [] ∧ fp.toNat + ctx.word.toNat < 0x1_0000_0000_0000_0000 := by
  have hchained := hpath.chained
  cases links with
  | nil =>
      obtain ⟨hnull, -⟩ := hleft.isNull_eq_false
      rw [hchained.eq_null] at hnull
      cases hnull
  | cons l links =>
      obtain ⟨saved, hbase, -⟩ := hchained.first
      rw [hbase]
      exact ⟨List.cons_ne_nil _ _, hpath.room l List.mem_cons_self⟩

/-- The chain ends with all calls found. -/
theorem chain_of_path (hleft : ctx.LeftToChain fp links) (hpath : ctx.ChainsPath fp links) {s : State}
    (htraced : s.Traced [] ctx.registers.pc) (hquick : s.tally.Quick (ctx.probeWords fp) 0) :
    (PointerChain.run ctx fp s).2 = .stop .complete ∧
      (PointerChain.run ctx fp s).1.stack.callers = links.map ctx.chainFrame ∧
      (PointerChain.run ctx fp s).1.tally.Quick (ctx.probeWords fp + links.length) links.length := by
  obtain ⟨hsome, -⟩ := hpath.first_link hleft
  obtain ⟨hnull, -⟩ := hleft.isNull_eq_false
  -- each round leaves one link less
  refine iterate_total
    (I := fun c => ∃ found ahead, found ++ ahead = links ∧
      ChainAt ctx (ctx.probeWords fp) found ahead c)
    (Q := fun r : State × Onward => r.2 = .stop .complete ∧
      r.1.stack.callers = links.map ctx.chainFrame ∧
      r.1.tally.Quick (ctx.probeWords fp + links.length) links.length)
    (M := fun c => links.length - c.produced) ?_ _ ?_ ?_
  · rintro c ⟨found, ahead, rfl, h⟩
    cases ahead with
    | nil =>
        obtain ⟨ip, hreached, -⟩ := h.traced
        rw [List.append_nil] at hsome ⊢
        exact Or.inr ⟨_, h.round_of_nil hsome, rfl, hreached.callers, h.quick⟩
    | cons l rest =>
        obtain ⟨c', hround, h'⟩ := h.round_of_cons hleft
        refine Or.inl ⟨c', hround, ⟨found ++ [l], rest, (List.append_cons found l rest).symm, h'⟩, ?_⟩
        rw [h.produced, h'.produced, List.length_append, List.length_append, List.length_cons,
          List.length_singleton]
        omega
  · exact ⟨[], links, rfl, hpath.chained, Or.inr hnull, rfl, hquick, _, htraced, hpath.calls⟩
  · have hbudget := hleft.budget
    unfold State.rounds
    omega

/-- The chain accounts for the whole stack, so there is no scan. -/
theorem outcome_of_chainedPath (hleft : ctx.LeftToChain fp links) (hpath : ctx.ChainsPath fp links) :
    (outcome ctx).2 = .complete ∧ (outcome ctx).1.stack.callers = links.map ctx.chainFrame ∧
      (outcome ctx).1.tally.Quick (ctx.probeWords fp + links.length) links.length := by
  obtain ⟨-, hroom⟩ := hpath.first_link hleft
  obtain ⟨htraced, hquick⟩ := probe_of_quiet hleft hroom hpath.quiet
  obtain ⟨hstop, hcallers, hcounted⟩ := chain_of_path hleft hpath htraced hquick
  rw [← addChain_some hleft.livePointer?_eq_some] at hstop hcallers hcounted
  rw [outcome_stop (show (beforeScan ctx).2 = .stop .complete from hstop)]
  exact ⟨rfl, hcallers, hcounted⟩

theorem halts_of_chainedPath (hleft : ctx.LeftToChain fp links) (hpath : ctx.ChainsPath fp links) :
    ctx.Halts := by
  intro fp' hfp'
  obtain rfl := Option.some.inj (hleft.livePointer?_eq_some.symm.trans hfp')
  obtain ⟨-, hroom⟩ := hpath.first_link hleft
  left
  unfold Context.ProbeFits
  rw [Context.toNat_leafEnd]
  omega

end Chain

/-- **A walk along an unbroken chain of frame pointers finds exactly the calls that it shows**, without a
look at any other word of the stack but those that the probe goes past. -/
theorem run_finds_chained_path {ctx : Context} {fp : Address} {links : List ChainLink}
    (hleft : ctx.LeftToChain fp links) (hpath : ctx.ChainsPath fp links) :
    Returns ctx (run ctx) ∧ (run ctx).status = .complete ∧
      (∃ f₀, IsInnermost ctx f₀ ∧ (run ctx).frames = f₀ :: links.map ctx.chainFrame) ∧
      (run ctx).stats.chainFrames.toNat = links.length ∧ (run ctx).stats.bytesScanned = 0 ∧
      (run ctx).stats.recoveries = 0 := by
  have huser : ¬ ctx.arch.isKernelAddress ctx.registers.pc = true := ne_true_of_eq_false hleft.user
  obtain ⟨hstatus, hcallers, hcounted⟩ := outcome_of_chainedPath hleft hpath
  refine ⟨returns_run_iff.mpr (Or.inr (halts_of_chainedPath hleft hpath)), ?_, ?_, ?_, ?_, ?_⟩ <;>
    rw [run_of_outcome huser]
  · exact hstatus
  · refine frames_of_callers hcallers fun max hmax => ?_
    rw [List.length_map]
    exact hleft.frames max hmax
  · show (UInt32.ofNat (outcome ctx).1.tally.chainFrames).toNat = links.length
    have hbudget := hleft.budget
    have hlt := ctx.limits.maxIterations.toNat_lt
    rw [hcounted.chainFrames, UInt32.toNat_ofNat', Nat.mod_eq_of_lt (by omega)]
  · show UInt64.ofNat (outcome ctx).1.tally.bytes = 0
    rw [hcounted.bytes]
    rfl
  · show UInt32.ofNat (outcome ctx).1.tally.recoveries = 0
    rw [hcounted.recoveries]
    rfl

/-- A thread in `compute`, which `handle` has called, which `dispatch` has called, which `main` has called;
all of them keep frame pointers. -/
def unbrokenChain : Context where
  arch := .x86_64
  target := Tables.target
    { images := [(⟨"app"⟩, .main, 0x400000, 0x410000)]
      routines := [("main", 0x401000, 0x100), ("dispatch", 0x401100, 0x100),
        ("handle", 0x401200, 0x100), ("compute", 0x401300, 0x100)]
      code := [(0x401010, ⟨5, "call 0x401100"⟩), (0x401110, ⟨5, "call 0x401200"⟩),
        (0x401210, ⟨5, "call 0x401300"⟩), (0x401310, ⟨1, "nop"⟩)]
      words := [(0x7FFE0000, 7), (0x7FFE0008, 0), (0x7FFE0018, 0x7FFE0020),
        (0x7FFE0020, 0x7FFE0040), (0x7FFE0028, 0x401215), (0x7FFE0040, 0x7FFE0060),
        (0x7FFE0048, 0x401115), (0x7FFE0060, 0), (0x7FFE0068, 0x401015)] }
  registers := (Registers.ofPcSp ⟨0x401310⟩ ⟨0x7FFE0000⟩).withFp ⟨0x7FFE0020⟩
  limits := { Limits.standard with stackBase := some ⟨0x7FFE0068⟩ }

/-- The links of `handle`, `dispatch` and `main`. -/
def unbrokenLinks : List ChainLink :=
  [⟨⟨0x7FFE0020⟩, ⟨0x401215⟩, ⟨⟨0x401210⟩, ⟨5, "call 0x401300"⟩⟩⟩,
    ⟨⟨0x7FFE0040⟩, ⟨0x401115⟩, ⟨⟨0x401110⟩, ⟨5, "call 0x401200"⟩⟩⟩,
    ⟨⟨0x7FFE0060⟩, ⟨0x401015⟩, ⟨⟨0x401010⟩, ⟨5, "call 0x401100"⟩⟩⟩]

theorem unbrokenChain_leftToChain : unbrokenChain.LeftToChain ⟨0x7FFE0020⟩ unbrokenLinks where
  user := by decide +kernel
  chainsFrames := rfl
  framePointer := rfl
  live := by decide +kernel
  separate := rfl
  frames max hmax := by cases hmax
  budget := by decide +kernel

theorem unbrokenChain_chained : unbrokenChain.Chained ⟨0x7FFE0020⟩ unbrokenLinks :=
  .cons rfl (by decide +kernel) (Or.inr (by decide)) (by decide +kernel) (by decide +kernel) <|
  .cons rfl (by decide +kernel) (Or.inr (by decide)) (by decide +kernel) (by decide +kernel) <|
  .cons rfl (by decide +kernel) (Or.inl rfl) (by decide +kernel) (by decide +kernel) .nil

theorem unbrokenChain_chainsPath : unbrokenChain.ChainsPath ⟨0x7FFE0020⟩ unbrokenLinks := by
  have hquiet : ∀ k < unbrokenChain.probeWords ⟨0x7FFE0020⟩,
      (unbrokenChain.slot? (unbrokenChain.probeSlot k)).all (fun a => !unbrokenChain.isCodePointer a) =
        true := by
    decide +kernel
  refine ⟨unbrokenChain_chained, by decide +kernel,
    .cons ⟨⟨⟨0x401300⟩, by decide +kernel, by decide +kernel⟩, by decide⟩
      (.cons ⟨⟨⟨0x401200⟩, by decide +kernel, by decide +kernel⟩, by decide⟩
        (.cons ⟨⟨⟨0x401100⟩, by decide +kernel, by decide +kernel⟩, by decide⟩ (.nil _))),
    fun k hk value hvalue => ?_⟩
  have hword := hquiet k hk
  rw [hvalue] at hword
  simpa using hword

theorem unbrokenChain_finds_path :
    Returns unbrokenChain (run unbrokenChain) ∧ (run unbrokenChain).status = .complete ∧
      (∃ f₀, IsInnermost unbrokenChain f₀ ∧
        (run unbrokenChain).frames = f₀ :: unbrokenLinks.map unbrokenChain.chainFrame) ∧
      (run unbrokenChain).stats.chainFrames.toNat = unbrokenLinks.length ∧
      (run unbrokenChain).stats.bytesScanned = 0 ∧ (run unbrokenChain).stats.recoveries = 0 :=
  run_finds_chained_path unbrokenChain_leftToChain unbrokenChain_chainsPath

end StackWalk.Walk
