import StackWalk.Proofs.Tables
import StackWalk.Proofs.Walk.CallPath

/-!
# StackWalk.Proofs.Walk.ScanPath — a scan that finds all calls

A thread of the program has come to its instruction by a path of calls, and nothing shows this but the
return addresses on its stack.  Between them, and above the last one, lie words that are no code
addresses, as many as there may be.  The scan then finds each call of the path, and nothing else.

A round of such a scan either looks at padding and only counts, or looks at the return address of the
next call and takes its frame.  `ScanAt` is what holds after `k` of these rounds: which calls are found,
which are still ahead, and that nothing has happened that makes a gap or refuses a call of the program.
-/

namespace StackWalk.Walk

/-! ## The stack and the calls -/

/-- A return address on the stack, so many slots above the stack pointer, and the call in front of it. -/
structure ReturnWord where
  position : Nat
  value : Address
  site : CallSite

namespace Context

/-- The frame of the call that a word of the stack shows.  The scan looks at the slots of the probe, one
after the other. -/
def wordFrame (ctx : Context) (w : ReturnWord) : Frame :=
  ctx.callFrame (ctx.callOf w.site) w.value (ctx.probeSlot w.position) (ctx.probeSlot w.position)

/-- A thread outside of the kernel, of which nothing but the stack shows callers, and a walk that has
enough rounds for the stack and takes every frame. -/
structure LeftToScan (ctx : Context) (words : Nat) : Prop where
  user : ctx.arch.isKernelAddress ctx.registers.pc = false
  noFramePointer : ctx.registers.fp = none
  noLinkRegister : ctx.registers.lr = none
  noFrameLimit : ctx.limits.maxFrames = none
  noByteLimit : ctx.limits.maxBytes = none
  separate : ctx.limits.collapseCallees = false
  budget : words ≤ ctx.limits.maxIterations.toNat

/-- The stack consists of so many words that can be read: the return addresses of the path, from the
innermost one on, and padding. -/
structure HoldsPath (ctx : Context) (words : Nat) (path : List ReturnWord) : Prop where
  base : ∃ base, ctx.limits.stackBase = some base ∧
    base.toNat + ctx.word.toNat = ctx.registers.sp.toNat + words * ctx.word.toNat
  ascending : path.Pairwise fun w w' => w.position < w'.position
  inside : ∀ w ∈ path, w.position < words
  held : ∀ w ∈ path, ctx.slot? (ctx.probeSlot w.position) = some w.value
  found : ∀ w ∈ path, (CallSite.before ctx.arch ctx.target w.value).site = some w.site
  padding : ∀ k < words, (∀ w ∈ path, w.position ≠ k) →
    ∃ value, ctx.slot? (ctx.probeSlot k) = some value ∧ ctx.isCodePointer value = false

/-- The path has led to the program counter, through routines of the program alone, and none of the
routines starts with a jump. -/
structure StaysInProgram (ctx : Context) (path : List ReturnWord) : Prop where
  calls : ctx.CallPath ctx.registers.pc (path.map ReturnWord.site)
  noJumps : ∀ w ∈ path, ∀ start i, (ctx.callOf w.site).callee.start = some start →
    ctx.target.decode start = some i → ctx.arch.isJump i.text = false
  main : ctx.target.isMain ctx.registers.pc = true ∧
    ∀ w ∈ path, ctx.target.isMain w.site.address = true
  image : ∀ w ∈ path, ctx.target.moduleAt w.site.address = ctx.target.moduleAt ctx.registers.pc

end Context

/-! ## States in which a call of the program is taken -/

/-- The walk has not left the program: it has met no gap, and refuses no call for where it has been. -/
structure State.AtHome (ctx : Context) (s : State) : Prop where
  newest : ∀ f ∈ s.stack.last?, ctx.target.isMain f.ip = true ∧
    f.module = ctx.target.moduleAt ctx.registers.pc
  noGap : s.stack.gapSeen = false
  below : s.beenAboveCLibrary = false
  blacklist : s.blacklist = []

section AtHome

variable {ctx : Context} {s : State}

theorem isLibrary_of_isMain {a : Address} (h : ctx.target.isMain a = true) :
    ctx.target.isLibrary a = false := by
  have hkind : ctx.target.kindOf a = some .main := eq_of_beq h
  unfold Target.isLibrary
  rw [hkind]
  rfl

theorem isCLibrary_of_isMain {a : Address} (h : ctx.target.isMain a = true) :
    ctx.target.isCLibrary a = false := by
  have hkind : ctx.target.kindOf a = some .main := eq_of_beq h
  unfold Target.isCLibrary
  rw [hkind]
  rfl

theorem State.AtHome.setTally (h : s.AtHome ctx) (t : Tally) : (s.setTally t).AtHome ctx :=
  ⟨h.newest, h.noGap, h.below, h.blacklist⟩

theorem State.AtHome.gapAt (h : s.AtHome ctx) (cursor : Address) : s.gapAt ctx cursor = false := by
  unfold State.gapAt
  rw [h.noGap, Bool.false_or]
  cases hlast : s.stack.last? with
  | none => rfl
  | some newest =>
      have hlibrary := isLibrary_of_isMain (h.newest newest hlast).1
      show (_ && ctx.target.isLibrary newest.ip) = false
      rw [hlibrary, Bool.and_false]

/-- A frame above one of the program does not leave the C library. -/
theorem beenAboveCLibrary_accept (h : s.AtHome ctx) (f : Frame) :
    (s.accept ctx f).beenAboveCLibrary = false := by
  unfold State.accept State.advanceTo
  split
  · split
    case h_1 below hbelow =>
      show (s.beenAboveCLibrary || (ctx.target.isCLibrary below.ip && _)) = false
      rw [h.below, isCLibrary_of_isMain (h.newest below hbelow).1]
      rfl
    · exact h.below
  · exact h.below

/-- Neighbours from one image make no gap. -/
theorem State.AtHome.gapSeen_accept (h : s.AtHome ctx) {f : Frame}
    (himage : f.module = ctx.target.moduleAt ctx.registers.pc) :
    (s.accept ctx f).stack.gapSeen = false := by
  have hfar : (s.stack.last?.any fun below => FrameStack.isFarFrom ctx.limits below f) = false := by
    cases hlast : s.stack.last? with
    | none => rfl
    | some below =>
        have hsame : (below.module != f.module) = false := by
          rw [(h.newest below hlast).2, himage]
          exact bne_self_eq_false _
        show FrameStack.isFarFrom ctx.limits below f = false
        unfold FrameStack.isFarFrom
        rw [hsame, Bool.and_false, Bool.false_and]
  rw [Walk.gapSeen_accept, h.noGap, hfar, Bool.and_false]
  rfl

theorem State.AtHome.accept (h : s.AtHome ctx) (hpos : 0 < s.stack.size) {f : Frame}
    (hadmits : s.admits ctx f = true) (hmain : ctx.target.isMain f.ip = true)
    (himage : f.module = ctx.target.moduleAt ctx.registers.pc) : (s.accept ctx f).AtHome ctx := by
  refine ⟨?_, h.gapSeen_accept himage, beenAboveCLibrary_accept h f, ?_⟩
  · rw [last?_accept hpos hadmits]
    rintro newest ⟨⟩
    exact ⟨hmain, himage⟩
  · rw [State.blacklist_accept]
    exact h.blacklist

/-! ## The verdict -/

theorem behindStub?_of_no_jump {start : Address}
    (h : ∀ i, ctx.target.decode start = some i → ctx.arch.isJump i.text = false) :
    Callee.behindStub? ctx.arch ctx.target start = none := by
  unfold Callee.behindStub?
  cases hdecode : ctx.target.decode start with
  | none => rfl
  | some i => exact if_neg (ne_true_of_eq_false (h i hdecode))

/-- The call of a routine that starts with no jump is accepted above a frame in that routine. -/
theorem verdict_of_call (h : s.AtHome ctx) {callers : List Frame} {ip cursor value : Address}
    {site : CallSite} (htraced : s.Traced callers ip) (hcall : ctx.CallsInto site ip)
    (hnoJump : ∀ start i, (ctx.callOf site).callee.start = some start →
      ctx.target.decode start = some i → ctx.arch.isJump i.text = false) :
    s.verdict ctx cursor value (ctx.callOf site) = .accept := by
  obtain ⟨newest, hnewest, rfl⟩ := htraced.exists_newest
  obtain ⟨start, hstart, -⟩ := hcall.into
  have hreaches := hcall.reaches
  have hstub : ctx.leadsElsewhere (ctx.callOf site).site.address (ctx.callOf site).callee newest.ip =
      false := by
    unfold Context.leadsElsewhere
    rw [hstart, Option.bind_some, behindStub?_of_no_jump (hnoJump start · hstart)]
  unfold State.verdict
  rw [hnewest]
  show s.judge ctx cursor value (ctx.callOf site) newest.ip = .accept
  unfold State.judge
  dsimp only
  rw [hreaches, hstub, h.below]
  rfl

end AtHome

/-! ## The rounds of the scan -/

/-- Before the `k`th slot the first calls of the path have been found, whose return addresses lie below;
those of the others lie there or above. -/
structure State.Follows (ctx : Context) (k : Nat) (found ahead : List ReturnWord) (s : State) : Prop where
  atHome : s.AtHome ctx
  traced : ∃ ip, s.Traced (found.map ctx.wordFrame) ip ∧
    ctx.CallPath ip (ahead.map ReturnWord.site)
  behind : ∀ w ∈ found, w.position < k
  above : ∀ w ∈ ahead, k ≤ w.position

/-- The scan has done `k` rounds, one for each slot below its cursor. -/
structure ScanAt (ctx : Context) (k : Nat) (found ahead : List ReturnWord) (s : StackScan) : Prop where
  cursor : s.cursor.toNat = ctx.registers.sp.toNat + k * ctx.word.toNat
  rounds : s.state.tally.iterations = k
  follows : s.state.Follows ctx k found ahead

section Rounds

variable {ctx : Context} {words k : Nat} {found ahead : List ReturnWord}

theorem probeSlot_eq {a : Address} (h : a.toNat = ctx.registers.sp.toNat + k * ctx.word.toNat) :
    ctx.probeSlot k = a := by
  rw [← Address.toNat_inj, Context.toNat_probeSlot, ← h, Nat.mod_eq_of_lt a.toNat_lt]

/-! ### One word -/

theorem State.Follows.setTally {s : State} (h : s.Follows ctx k found ahead) (t : Tally) :
    (s.setTally t).Follows ctx k found ahead := by
  obtain ⟨ip, htraced, hpath⟩ := h.traced
  exact ⟨h.atHome.setTally t, ⟨ip, htraced.setTally t, hpath⟩, h.behind, h.above⟩

/-- Padding is passed over. -/
theorem State.Follows.padding {s : State} (h : s.Follows ctx k found ahead)
    (hnot : ∀ w ∈ ahead, w.position ≠ k) : s.Follows ctx (k + 1) found ahead where
  atHome := h.atHome
  traced := h.traced
  behind w hw := Nat.lt_succ_of_lt (h.behind w hw)
  above w hw := Nat.lt_of_le_of_ne (h.above w hw) (hnot w hw).symm

theorem State.Follows.exists_call {s : State} {w : ReturnWord} (h : s.Follows ctx k found (w :: ahead)) :
    ∃ ip, s.Traced (found.map ctx.wordFrame) ip ∧ ctx.CallsInto w.site ip ∧
      ctx.CallPath w.site.address (ahead.map ReturnWord.site) := by
  obtain ⟨ip, htraced, hpath⟩ := h.traced
  cases hpath with
  | cons hcall hrest => exact ⟨ip, htraced, hcall, hrest⟩

/-- The stack takes the frame of the next call. -/
theorem State.Follows.accept {s : State} {w : ReturnWord}
    (h : s.Follows ctx w.position found (w :: ahead))
    (hseparate : ctx.limits.collapseCallees = false)
    (hprogram : ctx.StaysInProgram (found ++ w :: ahead))
    (hascending : ∀ w' ∈ ahead, w.position < w'.position) :
    (s.accept ctx (ctx.wordFrame w)).Follows ctx (w.position + 1) (found ++ [w]) ahead := by
  obtain ⟨ip, htraced, hcall, hrest⟩ := h.exists_call
  have hmem : w ∈ found ++ w :: ahead := List.mem_append_right _ List.mem_cons_self
  have hadmits : s.admits ctx (ctx.wordFrame w) = true := htraced.admits hseparate hcall.apart
  refine ⟨?_, ⟨w.site.address, ?_, hrest⟩, ?_, hascending⟩
  · exact h.atHome.accept htraced.pos hadmits (hprogram.main.2 w hmem) (hprogram.image w hmem)
  · rw [List.map_append]
    exact htraced.accept hadmits
  · intro w' hw'
    rcases List.mem_append.mp hw' with hw' | hw'
    · exact Nat.lt_succ_of_lt (h.behind w' hw')
    · rw [List.mem_singleton.mp hw']
      exact Nat.lt_succ_self _

/-- The return address of the next call is a candidate that is accepted. -/
theorem State.Follows.consider_call {s : State} {w : ReturnWord}
    (h : s.Follows ctx w.position found (w :: ahead))
    (hbefore : (CallSite.before ctx.arch ctx.target w.value).site = some w.site)
    (hnoJump : ∀ start i, (ctx.callOf w.site).callee.start = some start →
      ctx.target.decode start = some i → ctx.arch.isJump i.text = false) :
    s.consider ctx (ctx.probeSlot w.position) w.value =
      (s.countFailures (ctx.callBefore w.value).2).accept ctx (ctx.wordFrame w) := by
  have hfree : (ctx.callOf w.site).site.address ∉ s.blacklist := by
    rw [h.atHome.blacklist]
    exact List.not_mem_nil
  have hcounted : (s.countFailures (ctx.callBefore w.value).2).Follows ctx w.position found
      (w :: ahead) := h.setTally _
  obtain ⟨ip, htraced, hcall, -⟩ := hcounted.exists_call
  rw [consider_of_call (Context.isCodePointer_of_before hbefore) (Context.callBefore_of_before hbefore)
    hfree]
  unfold State.settle
  rw [verdict_of_call hcounted.atHome htraced hcall hnoJump]
  rfl

/-- A look at the `k`th word passes over it, or takes the call that it shows. -/
theorem State.Follows.consider {s : State} (h : s.Follows ctx k found ahead)
    (hseparate : ctx.limits.collapseCallees = false) (hstack : ctx.HoldsPath words (found ++ ahead))
    (hprogram : ctx.StaysInProgram (found ++ ahead)) (hk : k < words) :
    ∃ value found' ahead', ctx.slot? (ctx.probeSlot k) = some value ∧
      found' ++ ahead' = found ++ ahead ∧
      (s.consider ctx (ctx.probeSlot k) value).Follows ctx (k + 1) found' ahead' := by
  have hascending := (List.pairwise_append.mp hstack.ascending).2.1
  by_cases hnext : ∃ w rest, ahead = w :: rest ∧ w.position = k
  · obtain ⟨w, rest, rfl, rfl⟩ := hnext
    have hmem : w ∈ found ++ w :: rest := List.mem_append_right _ List.mem_cons_self
    refine ⟨w.value, found ++ [w], rest, hstack.held w hmem, (List.append_cons found w rest).symm, ?_⟩
    rw [h.consider_call (hstack.found w hmem) (hprogram.noJumps w hmem)]
    exact (h.setTally _).accept hseparate hprogram (List.pairwise_cons.mp hascending).1
  · -- the first call ahead lies above this word, and so do all the others
    have hahead : ∀ w ∈ ahead, w.position ≠ k := by
      intro w hw
      cases ahead with
      | nil => cases hw
      | cons w₀ rest =>
          have hlt : k < w₀.position :=
            Nat.lt_of_le_of_ne (h.above w₀ List.mem_cons_self) fun heq => hnext ⟨w₀, rest, rfl, heq.symm⟩
          rcases List.mem_cons.mp hw with rfl | hw
          · exact Nat.ne_of_gt hlt
          · exact Nat.ne_of_gt (Nat.lt_trans hlt ((List.pairwise_cons.mp hascending).1 w hw))
    have hall : ∀ w ∈ found ++ ahead, w.position ≠ k := by
      intro w hw
      rcases List.mem_append.mp hw with hw | hw
      · exact Nat.ne_of_lt (h.behind w hw)
      · exact hahead w hw
    obtain ⟨value, hheld, hcode⟩ := hstack.padding k hk hall
    refine ⟨value, found, ahead, hheld, rfl, ?_⟩
    rw [consider_of_no_code hcode]
    exact h.padding hahead

/-! ### One round -/

/-- Within the stack the scan has no reason to end. -/
theorem ScanAt.limit?_eq_none {s : StackScan} (h : ScanAt ctx k found ahead s)
    (hleft : ctx.LeftToScan words) {base : Address} (hbase : ctx.limits.stackBase = some base)
    (hend : base.toNat + ctx.word.toNat = ctx.registers.sp.toNat + words * ctx.word.toNat)
    (hk : k < words) : s.limit? ctx = none := by
  have hinside : ctx.limits.pastStackBase s.cursor = false := by
    have hcursor := h.cursor
    have hmul := Nat.mul_le_mul_right ctx.word.toNat hk
    rw [Nat.succ_mul] at hmul
    unfold Limits.pastStackBase
    rw [hbase]
    refine decide_eq_false ?_
    rw [Address.lt_iff_toNat]
    omega
  have hbudget : ¬ ctx.limits.maxIterations.toNat ≤ s.state.tally.iterations := by
    have := hleft.budget
    rw [h.rounds]
    omega
  unfold StackScan.limit? State.frameLimit? State.byteLimit? State.iterationLimit?
    Limits.framesExhausted Limits.bytesExhausted
  rw [hinside, hleft.noFrameLimit, hleft.noByteLimit, if_neg hbudget]
  rfl

/-- Behind the stack the scan ends. -/
theorem ScanAt.limit?_eq_complete {s : StackScan} (h : ScanAt ctx words found ahead s) {base : Address}
    (hbase : ctx.limits.stackBase = some base)
    (hend : base.toNat + ctx.word.toNat = ctx.registers.sp.toNat + words * ctx.word.toNat) :
    s.limit? ctx = some .complete := by
  have hpast : ctx.limits.pastStackBase s.cursor = true := by
    have hcursor := h.cursor
    have hword := ctx.word_pos
    unfold Limits.pastStackBase
    rw [hbase]
    refine decide_eq_true ?_
    rw [Address.lt_iff_toNat]
    omega
  unfold StackScan.limit?
  rw [if_pos hpast]

/-- When all words have been looked at, all calls have been found. -/
theorem State.Follows.callers_eq {s : State} (h : s.Follows ctx words found ahead)
    (hstack : ctx.HoldsPath words (found ++ ahead)) :
    s.stack.callers = (found ++ ahead).map ctx.wordFrame := by
  have hnil : ahead = [] := by
    refine List.eq_nil_iff_forall_not_mem.mpr fun w hw => ?_
    have hinside := hstack.inside w (List.mem_append_right _ hw)
    exact absurd (h.above w hw) (Nat.not_le.mpr hinside)
  obtain ⟨ip, htraced, -⟩ := h.traced
  rw [htraced.callers, hnil, List.append_nil]

/-- A round of the scan looks at one more word, or ends with all calls found. -/
theorem ScanAt.round {s : StackScan} (h : ScanAt ctx k found ahead s) (hk : k ≤ words)
    (hleft : ctx.LeftToScan words) (hstack : ctx.HoldsPath words (found ++ ahead))
    (hprogram : ctx.StaysInProgram (found ++ ahead)) :
    (k < words ∧ ∃ s' found' ahead', StackScan.round ctx s = .next s' ∧
        found' ++ ahead' = found ++ ahead ∧ ScanAt ctx (k + 1) found' ahead' s') ∨
      ∃ r, StackScan.round ctx s = .done r ∧
        r.1.stack.callers = (found ++ ahead).map ctx.wordFrame ∧ r.2 = .complete := by
  obtain ⟨base, hbase, hend⟩ := hstack.base
  rcases Nat.lt_or_eq_of_le hk with hlt | rfl
  · have hcounted : s.state.countIteration.Follows ctx k found ahead := h.follows.setTally _
    obtain ⟨value, found', ahead', hheld, happend, hfollows⟩ :=
      hcounted.consider hleft.separate hstack hprogram hlt
    have hslot := probeSlot_eq h.cursor
    rw [hslot] at hheld hfollows
    have hround := StackScan.round_of_held (h.limit?_eq_none hleft hbase hend hlt)
      (h.follows.atHome.gapAt s.cursor) hheld
    have hrounds := (judged_consider ctx s.state.countIteration s.cursor value).iterations
    have hadvanced := StackScan.sameRounds_advance ctx
      ⟨s.state.countIteration.consider ctx s.cursor value, s.cursor, 0⟩
    rcases StackScan.advance_cases ctx
      ⟨s.state.countIteration.consider ctx s.cursor value, s.cursor, 0⟩ with
      ⟨next, t, hnext, hadvance⟩ | ⟨t, hnone, hadvance⟩
    · refine Or.inl ⟨hlt, _, found', ahead', hround.trans hadvance, happend, ?_, ?_, hfollows.setTally t⟩
      · show next.toNat = _
        rw [Address.toNat_of_above? hnext, h.cursor, Nat.succ_mul, Nat.add_assoc]
      · rw [hadvance] at hadvanced
        rw [← h.rounds]
        exact hadvanced.iterations.trans hrounds
    · -- the last address lies in this slot, so the stack has no further one
      refine Or.inr ⟨_, hround.trans hadvance, ?_, rfl⟩
      have hwords : words = k + 1 := by
        have hover := Address.le_of_above?_eq_none hnone
        have hbaseLt := base.toNat_lt
        rw [h.cursor] at hover
        rcases ctx.toNat_word with hword | hword <;> rw [hword] at hover hend <;> omega
      rw [← happend] at hstack ⊢
      rw [← hwords] at hfollows
      exact hfollows.callers_eq hstack
  · exact Or.inr ⟨_, StackScan.round_of_limit (h.limit?_eq_complete hbase hend),
      h.follows.callers_eq hstack, rfl⟩

end Rounds

/-! ## The whole walk -/

section Walk

variable {ctx : Context} {words : Nat} {path : List ReturnWord}

namespace Context.LeftToScan

theorem linkAddress?_eq_none (h : ctx.LeftToScan words) : ctx.linkAddress? = none := by
  unfold Context.linkAddress? Architecture.linkRegister?
  rw [h.noLinkRegister]
  split <;> rfl

theorem livePointer?_eq_none (h : ctx.LeftToScan words) : ctx.livePointer? = none :=
  Context.livePointer?_eq_none h.noFramePointer

/-- The scan has all to do. -/
theorem outcome_eq (h : ctx.LeftToScan words) :
    outcome ctx = StackScan.run ctx (State.start ctx).floored ctx.registers.sp := by
  have hbefore := beforeScan_of_no_pointer h.livePointer?_eq_none
  rw [outcome_scan (congrArg Prod.snd hbefore), hbefore]

end Context.LeftToScan

theorem scanAt_start (hleft : ctx.LeftToScan words) (hprogram : ctx.StaysInProgram path) :
    ScanAt ctx 0 [] path ⟨(State.start ctx).floored, ctx.registers.sp, 0⟩ := by
  have hlink := hleft.linkAddress?_eq_none
  obtain ⟨hpos, hcallers, hnewest⟩ := traced_start hlink
  refine ⟨?_, ?_, ⟨?_, ⟨_, ⟨hpos, hcallers, hnewest⟩, hprogram.calls⟩, ?_, ?_⟩⟩
  · rw [Nat.zero_mul]
    rfl
  · obtain ⟨failures, htally⟩ := State.tally_start ctx
    exact congrArg Tally.iterations htally
  · rw [start_of_no_link hlink]
    refine ⟨?_, rfl, rfl, rfl⟩
    rintro newest ⟨⟩
    exact ⟨hprogram.main.1, rfl⟩
  · intro w hw
    cases hw
  · intro w _
    exact Nat.zero_le _

/-- The scan ends with all calls found. -/
theorem outcome_of_heldPath (hleft : ctx.LeftToScan words) (hstack : ctx.HoldsPath words path)
    (hprogram : ctx.StaysInProgram path) :
    (outcome ctx).1.stack.callers = path.map ctx.wordFrame ∧ (outcome ctx).2 = .complete := by
  rw [hleft.outcome_eq]
  -- each round leaves one word less
  refine iterate_total
    (I := fun s => ∃ k found ahead, k ≤ words ∧ found ++ ahead = path ∧ ScanAt ctx k found ahead s)
    (Q := fun r : State × Status => r.1.stack.callers = path.map ctx.wordFrame ∧ r.2 = .complete)
    (M := fun s => words - s.state.tally.iterations) ?_ _ ?_ ?_
  · rintro s ⟨k, found, ahead, hk, rfl, h⟩
    rcases h.round hk hleft hstack hprogram with
      ⟨hlt, s', found', ahead', hnext, happend, h'⟩ | ⟨r, hdone, hr⟩
    · refine Or.inl ⟨s', hnext, ⟨k + 1, found', ahead', hlt, happend, h'⟩, ?_⟩
      rw [h.rounds, h'.rounds]
      omega
    · exact Or.inr ⟨r, hdone, hr⟩
  · exact ⟨0, [], path, Nat.zero_le _, rfl, scanAt_start hleft hprogram⟩
  · have := hleft.budget
    unfold State.rounds
    omega

end Walk

/-- **A walk with nothing but a stack to look at finds exactly the calls whose return addresses lie
there**, whatever padding there is between them. -/
theorem run_finds_scanned_path {ctx : Context} {words : Nat} {path : List ReturnWord}
    (hleft : ctx.LeftToScan words) (hstack : ctx.HoldsPath words path)
    (hprogram : ctx.StaysInProgram path) :
    Returns ctx (run ctx) ∧ (run ctx).status = .complete ∧
      ∃ f₀, IsInnermost ctx f₀ ∧ (run ctx).frames = f₀ :: path.map ctx.wordFrame := by
  have huser : ¬ ctx.arch.isKernelAddress ctx.registers.pc = true := ne_true_of_eq_false hleft.user
  have hhalts : ctx.Halts := by
    intro fp hfp
    rw [hleft.livePointer?_eq_none] at hfp
    cases hfp
  obtain ⟨hcallers, hstatus⟩ := outcome_of_heldPath hleft hstack hprogram
  refine ⟨returns_run_iff.mpr (Or.inr hhalts), ?_, ?_⟩
  · rw [run_of_outcome huser]
    exact hstatus
  · rw [run_of_outcome huser]
    refine frames_of_callers hcallers fun max hmax => ?_
    rw [hleft.noFrameLimit] at hmax
    cases hmax

/-- A thread in `leaf`, which `dispatch` has called, which `main` has called. -/
def paddedStack : Context where
  arch := .x86
  target := Tables.target
    { images := [(⟨"app"⟩, .main, 0x8048000, 0x8050000)]
      routines := [("main", 0x8048100, 0x100), ("dispatch", 0x8048200, 0x100),
        ("leaf", 0x8048300, 0x100)]
      code := [(0x8048110, ⟨5, "call 0x8048200"⟩), (0x8048210, ⟨5, "call 0x8048300"⟩),
        (0x8048310, ⟨1, "nop"⟩)]
      words := [(0xBFFF0000, 0), (0xBFFF0004, 0), (0xBFFF0008, 0x8048215), (0xBFFF000C, 7),
        (0xBFFF0010, 0), (0xBFFF0014, 0x8048115), (0xBFFF0018, 0)] }
  registers := Registers.ofPcSp ⟨0x8048310⟩ ⟨0xBFFF0000⟩
  limits := { Limits.standard with stackBase := some ⟨0xBFFF0018⟩ }

/-- The return addresses of `dispatch` and of `main` on that stack. -/
def paddedPath : List ReturnWord :=
  [⟨2, ⟨0x8048215⟩, ⟨⟨0x8048210⟩, ⟨5, "call 0x8048300"⟩⟩⟩,
    ⟨5, ⟨0x8048115⟩, ⟨⟨0x8048110⟩, ⟨5, "call 0x8048200"⟩⟩⟩]

theorem paddedStack_leftToScan : paddedStack.LeftToScan 7 := by
  constructor <;> decide +kernel

theorem paddedStack_holdsPath : paddedStack.HoldsPath 7 paddedPath := by
  have hpadding : ∀ k < 7, (∀ w ∈ paddedPath, w.position ≠ k) →
      (paddedStack.slot? (paddedStack.probeSlot k)).any (fun a => !paddedStack.isCodePointer a) =
        true := by
    decide +kernel
  refine ⟨⟨⟨0xBFFF0018⟩, rfl, by decide +kernel⟩, by decide, by decide, by decide +kernel,
    by decide +kernel, fun k hk hnot => ?_⟩
  obtain ⟨value, hheld, hcode⟩ := (Option.any_eq_true _ _).mp (hpadding k hk hnot)
  exact ⟨value, hheld, by simpa using hcode⟩

theorem paddedStack_staysInProgram : paddedStack.StaysInProgram paddedPath := by
  have hentries : ∀ w ∈ paddedPath,
      (paddedStack.callOf w.site).callee.start.bind paddedStack.target.decode = none := by
    decide +kernel
  refine ⟨.cons ⟨⟨⟨0x8048300⟩, by decide +kernel, by decide +kernel⟩, by decide⟩
    (.cons ⟨⟨⟨0x8048200⟩, by decide +kernel, by decide +kernel⟩, by decide⟩ (.nil _)), ?_,
    by decide +kernel, by decide +kernel⟩
  intro w hw start i hstart hdecode
  have hnone := hentries w hw
  rw [hstart, Option.bind_some, hdecode] at hnone
  cases hnone

theorem paddedStack_finds_path :
    Returns paddedStack (run paddedStack) ∧ (run paddedStack).status = .complete ∧
      ∃ f₀, IsInnermost paddedStack f₀ ∧
        (run paddedStack).frames = f₀ :: paddedPath.map paddedStack.wordFrame :=
  run_finds_scanned_path paddedStack_leftToScan paddedStack_holdsPath paddedStack_staysInProgram

end StackWalk.Walk
