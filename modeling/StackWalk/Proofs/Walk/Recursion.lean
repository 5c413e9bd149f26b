import Mathlib.Data.List.Destutter
import StackWalk.Proofs.Walk.FrameLimit
import StackWalk.Proofs.Walk.Ratchets

/-!
# StackWalk.Proofs.Walk.Recursion — walks with and without repeated frames

A function that calls itself leaves one frame after the other about the same call.  A walk that does not
preserve recursion keeps the first one of them.  It should find the same calls otherwise, although it has
fewer frames, and although its newest frame has been found further down the stack.

Here the two walks are run side by side.  What a candidate is judged by are the address of the newest frame
and the ratchets, and a repeated frame changes neither; so both walks accept the same candidates, and the
addresses of the one are those of the other without repetitions (`State.Collapses`).  What does depend on
where the newest frame has been found are the gaps, so nothing is said of walks that recover from one.
-/

namespace StackWalk.Walk

/-! ## Lists without repetitions -/

section Destutter

variable {α : Type} [DecidableEq α]

theorem destutter'_concat (a x : α) (xs : List α) :
    (xs ++ [x]).destutter' (· ≠ ·) a =
      xs.destutter' (· ≠ ·) a ++ if x = xs.getLast?.getD a then [] else [x] := by
  induction xs generalizing a with
  | nil => by_cases h : x = a <;> simp [h, eq_comm]
  | cons b xs ih =>
      rw [List.cons_append, List.getLast?_cons, Option.getD_some]
      by_cases h : a = b
      · subst h
        simp [ih]
      · simp [h, ih]

/-- One more element matters only together with the last one before it. -/
theorem destutter_concat {xs : List α} {a x : α} (h : xs.getLast? = some a) :
    (xs ++ [x]).destutter (· ≠ ·) = xs.destutter (· ≠ ·) ++ if x = a then [] else [x] := by
  cases xs with
  | nil => cases h
  | cons b xs =>
      rw [List.getLast?_cons, Option.some.injEq] at h
      rw [← h]
      exact destutter'_concat b x xs

theorem getLast?_destutter' (a : α) (xs : List α) :
    (xs.destutter' (· ≠ ·) a).getLast? = some (xs.getLast?.getD a) := by
  induction xs generalizing a with
  | nil => rfl
  | cons b xs ih =>
      rw [List.getLast?_cons, Option.getD_some]
      by_cases h : a = b
      · subst h
        simp [ih]
      · simp [h, ih, List.getLast?_cons]

theorem getLast?_destutter (xs : List α) :
    (xs.destutter (· ≠ ·)).getLast? = xs.getLast? := by
  cases xs with
  | nil => rfl
  | cons a xs =>
      rw [List.getLast?_cons]
      exact getLast?_destutter' a xs

end Destutter

/-! ## Two loops side by side -/

/-- Two rounds both go on, with states in one relation, or both end, with results in another. -/
inductive Round.Related {σ ρ : Type} (R : σ → σ → Prop) (Q : ρ → ρ → Prop) : Round σ ρ → Round σ ρ → Prop
  | next {s t : σ} (h : R s t) : Related R Q (.next s) (.next t)
  | done {r r' : ρ} (h : Q r r') : Related R Q (.done r) (.done r')

/-- If related states make related rounds, or the loops come to related results from there anyway, then
they always do. -/
theorem iterate_related {σ ρ : Type} {round round' : σ → Round σ ρ} {spent : σ → ρ} {R : σ → σ → Prop}
    {Q : ρ → ρ → Prop}
    (hround : ∀ s t, R s t → (round s).Related R Q (round' t) ∨
      ∀ rounds, Q (iterate round spent (rounds + 1) s) (iterate round' spent (rounds + 1) t))
    (hspent : ∀ s t, R s t → Q (spent s) (spent t)) (rounds : Nat) {s t : σ} (h : R s t) :
    Q (iterate round spent rounds s) (iterate round' spent rounds t) := by
  induction rounds generalizing s t with
  | zero => exact hspent s t h
  | succ rounds ih =>
      rcases hround s t h with hrelated | hanyway
      · unfold iterate
        generalize round s = first at hrelated
        generalize round' t = second at hrelated
        cases hrelated with
        | next hst => exact ih hst
        | done hresults => exact hresults
      · exact hanyway rounds

/-! ## The two walks -/

/-- The same walk, which preserves recursion or does not. -/
def Context.withRecursion (ctx : Context) (preserve : Bool) : Context :=
  { ctx with limits := { ctx.limits with preserveRecursion := preserve } }

@[simp]
theorem Context.word_withRecursion (ctx : Context) (preserve : Bool) :
    (ctx.withRecursion preserve).word = ctx.word := rfl

@[simp]
theorem Context.slot?_withRecursion (ctx : Context) (preserve : Bool) :
    (ctx.withRecursion preserve).slot? = ctx.slot? := rfl

/-- The second state is that of a walk that drops repeated frames, and has found all that the first one has
but for these. -/
structure State.Collapses (ctx : Context) (s t : State) : Prop where
  pos : 0 < s.stack.size
  pos' : 0 < t.stack.size
  ips : t.ips = s.ips.destutter (· ≠ ·)
  main : t.beenInMain = s.beenInMain
  above : t.beenAboveCLibrary = s.beenAboveCLibrary
  blacklist : t.blacklist = s.blacklist
  tally : t.tally = s.tally
  home : ∀ below, s.stack.last? = some below → ctx.target.isMain below.ip = true → s.beenInMain = true

section Recursion

variable {ctx : Context} {s t : State}

/-! ## Frames that are offered to both -/

/-- A walk that preserves recursion takes every frame. -/
theorem admits_of_preserved (hcallees : ctx.limits.collapseCallees = false) (s : State) (f : Frame) :
    s.admits (ctx.withRecursion true) f = true := by
  have hrepeats (below : Frame) :
      FrameStack.repeats (ctx.withRecursion true).limits below f = false := by
    simp [FrameStack.repeats, Context.withRecursion, hcallees]
  simp [State.admits, FrameStack.admits, hrepeats]

/-- The other walk takes a frame unless it repeats the newest one. -/
theorem admits_of_collapsed (hcallees : ctx.limits.collapseCallees = false) {below : Frame}
    (hlast : s.stack.last? = some below) (f : Frame) :
    s.admits (ctx.withRecursion false) f = (f.ip != below.ip) := by
  have hrepeats : FrameStack.repeats (ctx.withRecursion false).limits below f = (f.ip == below.ip) := by
    simp [FrameStack.repeats, Context.withRecursion, hcallees]
  simp [State.admits, FrameStack.admits, hlast, hrepeats, bne]

namespace State.Collapses

theorem setTally (h : s.Collapses ctx t) (tally : Tally) :
    (s.setTally tally).Collapses ctx (t.setTally tally) :=
  ⟨h.pos, h.pos', h.ips, h.main, h.above, h.blacklist, rfl, h.home⟩

/-- Both walks count alike. -/
theorem count (h : s.Collapses ctx t) (change : Tally → Tally) :
    (s.setTally (change s.tally)).Collapses ctx (t.setTally (change t.tally)) := by
  rw [h.tally]
  exact h.setTally _

theorem countRejected (h : s.Collapses ctx t) : s.countRejected.Collapses ctx t.countRejected :=
  h.count fun tally => { tally with rejected := tally.rejected + 1 }

theorem countFailures (h : s.Collapses ctx t) (counter : UInt32 → UInt32) :
    (s.countFailures counter).Collapses ctx (t.countFailures counter) :=
  h.count fun tally => { tally with failures := counter tally.failures }

/-- Both walks have the same newest address. -/
theorem exists_newest (h : s.Collapses ctx t) :
    ∃ below below', s.stack.last? = some below ∧ t.stack.last? = some below' ∧
      below'.ip = below.ip := by
  obtain ⟨below, -, hbelow, -⟩ := State.exists_last_ip h.pos
  obtain ⟨below', -, hbelow', -⟩ := State.exists_last_ip h.pos'
  have hlast := State.getLast?_ips t
  rw [h.ips, getLast?_destutter, State.getLast?_ips, hbelow, hbelow'] at hlast
  exact ⟨below, below', hbelow, hbelow', (Option.some.inj hlast).symm⟩

/-- Both walks find the same address, unless it repeats the newest one. -/
theorem ips_accept (hcallees : ctx.limits.collapseCallees = false) (h : s.Collapses ctx t) (f : Frame) :
    (t.accept (ctx.withRecursion false) f).ips =
      (s.accept (ctx.withRecursion true) f).ips.destutter (· ≠ ·) := by
  obtain ⟨below, below', hlast, hlast', hsame⟩ := h.exists_newest
  have hnewest : s.ips.getLast? = some below.ip := by
    rw [State.getLast?_ips, hlast]
    rfl
  rw [State.ips_accept h.pos, State.ips_accept h.pos', if_pos (admits_of_preserved hcallees s f),
    admits_of_collapsed hcallees hlast', destutter_concat hnewest, h.ips, hsame]
  by_cases hrepeats : f.ip = below.ip <;> simp [hrepeats]

/-- A frame that repeats the newest one moves no ratchet. -/
theorem ratchets_accept (hcallees : ctx.limits.collapseCallees = false) (h : s.Collapses ctx t)
    (f : Frame) :
    (t.accept (ctx.withRecursion false) f).beenInMain =
        (s.accept (ctx.withRecursion true) f).beenInMain ∧
      (t.accept (ctx.withRecursion false) f).beenAboveCLibrary =
        (s.accept (ctx.withRecursion true) f).beenAboveCLibrary := by
  obtain ⟨below, below', hlast, hlast', hsame⟩ := h.exists_newest
  obtain ⟨hmain, habove⟩ := ratchets_of_admits hlast (admits_of_preserved hcallees s f)
  have htakes := admits_of_collapsed hcallees hlast' f
  rw [hmain, habove]
  by_cases hrepeats : f.ip = below.ip
  · have hdrops : t.accept (ctx.withRecursion false) f = t := by
      apply if_neg
      simp [htakes, hsame, hrepeats]
    rw [hdrops, h.main, h.above, hrepeats, Bool.and_not_self, Bool.or_false]
    refine ⟨?_, rfl⟩
    show s.beenInMain = (s.beenInMain || ctx.target.isMain below.ip)
    cases hhome : ctx.target.isMain below.ip with
    | false => exact (Bool.or_false _).symm
    | true =>
        rw [h.home below hlast hhome]
        rfl
  · have hadmits : t.admits (ctx.withRecursion false) f = true := by
      rw [htakes, hsame]
      simp [hrepeats]
    obtain ⟨hmain', habove'⟩ := ratchets_of_admits hlast' hadmits
    rw [hmain', habove', h.main, h.above, hsame]
    exact ⟨rfl, rfl⟩

theorem accept (hcallees : ctx.limits.collapseCallees = false) (h : s.Collapses ctx t) (f : Frame) :
    (s.accept (ctx.withRecursion true) f).Collapses ctx (t.accept (ctx.withRecursion false) f) := by
  obtain ⟨below, -, hlast, -⟩ := h.exists_newest
  have hadmits := admits_of_preserved hcallees s f
  obtain ⟨hmain, habove⟩ := h.ratchets_accept hcallees f
  refine ⟨pos_accept _ h.pos f, pos_accept _ h.pos' f, h.ips_accept hcallees f, hmain, habove, ?_, ?_, ?_⟩
  · rw [State.blacklist_accept, State.blacklist_accept]
    exact h.blacklist
  · rw [State.tally_accept, State.tally_accept]
    exact h.tally
  · intro newest hnewest hhome
    rw [last?_accept h.pos hadmits] at hnewest
    obtain rfl := Option.some.inj hnewest
    rw [(ratchets_of_admits hlast hadmits).1]
    exact Bool.or_eq_true_iff.mpr (Or.inr hhome)

/-! ## A look at a word -/

/-- What a candidate is judged by is the same for both. -/
theorem verdict (h : s.Collapses ctx t) (cursor value : Address) (call : Context.Call) :
    t.verdict (ctx.withRecursion false) cursor value call =
      s.verdict (ctx.withRecursion true) cursor value call := by
  obtain ⟨below, below', hlast, hlast', hsame⟩ := h.exists_newest
  unfold State.verdict
  rw [hlast, hlast']
  show t.judge _ cursor value call below'.ip = s.judge _ cursor value call below.ip
  unfold State.judge State.throughJumpTable
  rw [hsame, h.main, h.above]
  rfl

theorem settle (hcallees : ctx.limits.collapseCallees = false) (h : s.Collapses ctx t)
    (cursor value : Address) (call : Context.Call) :
    (s.settle (ctx.withRecursion true) cursor value call).Collapses ctx
      (t.settle (ctx.withRecursion false) cursor value call) := by
  unfold State.settle
  rw [h.verdict]
  split
  · exact h.countRejected
  · exact h.accept hcallees _
  · exact (h.accept hcallees _).accept hcallees _

theorem consider (hcallees : ctx.limits.collapseCallees = false) (h : s.Collapses ctx t)
    (cursor value : Address) :
    (s.consider (ctx.withRecursion true) cursor value).Collapses ctx
      (t.consider (ctx.withRecursion false) cursor value) := by
  -- what a word shows has nothing to do with recursion
  have hfailures := h.countFailures (ctx.callBefore value).2
  cases hcode : ctx.isCodePointer value with
  | false =>
      have hcodes (preserve : Bool) : (ctx.withRecursion preserve).isCodePointer value = false := hcode
      rw [State.consider_of_no_code (hcodes true), State.consider_of_no_code (hcodes false)]
      exact h
  | true =>
      have hcodes (preserve : Bool) : (ctx.withRecursion preserve).isCodePointer value = true := hcode
      cases hcall : (ctx.callBefore value).1 with
      | none =>
          have hcalls (preserve : Bool) : ((ctx.withRecursion preserve).callBefore value).1 = none := hcall
          rw [State.consider_of_no_call (hcodes true) (hcalls true),
            State.consider_of_no_call (hcodes false) (hcalls false)]
          exact hfailures.countRejected
      | some call =>
          have hcalls (preserve : Bool) :
              ((ctx.withRecursion preserve).callBefore value).1 = some call := hcall
          by_cases hlisted : call.site.address ∈ s.blacklist
          · have hlisted' : call.site.address ∈ t.blacklist := h.blacklist ▸ hlisted
            rw [State.consider_of_listed (hcodes true) (hcalls true) hlisted,
              State.consider_of_listed (hcodes false) (hcalls false) hlisted']
            exact hfailures.countRejected
          · have hfree : call.site.address ∉ t.blacklist := h.blacklist ▸ hlisted
            rw [State.consider_of_call (hcodes true) (hcalls true) hlisted,
              State.consider_of_call (hcodes false) (hcalls false) hfree]
            exact hfailures.settle hcallees cursor value call

end State.Collapses

/-! ## A round of both -/

/-- Both walks have come to the same slot. -/
structure StackScan.Collapses (ctx : Context) (s t : StackScan) : Prop where
  state : s.state.Collapses ctx t.state
  cursor : t.cursor = s.cursor
  unreadable : t.unreadable = s.unreadable

/-- Both walks have ended alike. -/
structure EndsAlike (r r' : State × Status) : Prop where
  status : r'.2 = r.2
  ips : r'.1.ips = r.1.ips.destutter (· ≠ ·)

/-- Unless one of them has met a gap, both walks have ended alike. -/
def EndsAlikeWithoutGap (r r' : State × Status) : Prop :=
  r.1.tally.recoveries = 0 → r'.1.tally.recoveries = 0 → EndsAlike r r'

theorem endsAlike_of_collapses {s t : State} (h : s.Collapses ctx t) (status : Status) :
    EndsAlikeWithoutGap (s, status) (t, status) :=
  fun _ _ => ⟨rfl, h.ips⟩

namespace StackScan.Collapses

variable {s t : StackScan}

theorem advance (h : s.Collapses ctx t) :
    (StackScan.advance (ctx.withRecursion true) s).Related (StackScan.Collapses ctx) EndsAlikeWithoutGap
      (StackScan.advance (ctx.withRecursion false) t) := by
  have hcount : (s.state.countBytes ctx.word.toNat).Collapses ctx (t.state.countBytes ctx.word.toNat) :=
    h.state.count fun tally => { tally with bytes := tally.bytes + ctx.word.toNat }
  unfold StackScan.advance
  rw [Context.word_withRecursion, Context.word_withRecursion, h.cursor]
  dsimp only
  cases s.cursor.above? ctx.word with
  | none => exact .done (endsAlike_of_collapses hcount _)
  | some next => exact .next ⟨hcount, rfl, h.unreadable⟩

theorem look (hcallees : ctx.limits.collapseCallees = false) (h : s.Collapses ctx t) :
    (StackScan.look (ctx.withRecursion true) s).Related (StackScan.Collapses ctx) EndsAlikeWithoutGap
      (StackScan.look (ctx.withRecursion false) t) := by
  have hcount : s.state.countUnreadable.Collapses ctx t.state.countUnreadable :=
    h.state.count fun tally => { tally with unreadable := tally.unreadable + 1 }
  unfold StackScan.look
  rw [Context.slot?_withRecursion, Context.slot?_withRecursion, Context.word_withRecursion,
    Context.word_withRecursion, h.cursor, h.unreadable]
  dsimp only
  cases ctx.slot? s.cursor with
  | none =>
      by_cases hend : StackScan.unreadableLimit ≤ s.unreadable + ctx.word.toNat
      · rw [if_pos hend, if_pos hend]
        exact .done (endsAlike_of_collapses hcount _)
      · rw [if_neg hend, if_neg hend]
        exact advance ⟨hcount, rfl, rfl⟩
  | some value => exact advance ⟨h.state.consider hcallees s.cursor value, rfl, rfl⟩

/-- Without a limit on frames both walks meet the same limits. -/
theorem limit? (hframes : ctx.limits.maxFrames = none) (h : s.Collapses ctx t) :
    t.limit? (ctx.withRecursion false) = s.limit? (ctx.withRecursion true) := by
  have hnone (preserve : Bool) (s : State) : s.frameLimit? (ctx.withRecursion preserve) = none := by
    simp [State.frameLimit?, Limits.framesExhausted, Context.withRecursion, hframes]
  unfold StackScan.limit? State.byteLimit? State.iterationLimit? State.spentStatus
  rw [hnone, hnone, h.cursor, h.state.tally]
  rfl

end StackScan.Collapses

/-! ## The whole walk -/

/-- A walk that has come to a gap counts a recovery, whatever it does then. -/
theorem recoveries_pos_of_gap {ctx : Context} {s : StackScan} (hlimit : s.limit? ctx = none)
    (hgap : s.state.gapAt ctx s.cursor = true) (rounds : Nat) :
    0 < (iterate (StackScan.round ctx) (fun s => (s.state, s.state.spentStatus)) (rounds + 1)
      s).1.tally.recoveries := by
  have hround : 0 < (StackScan.found (StackScan.round ctx s)).tally.recoveries := by
    have htally := tally_recover ctx s.state.countIteration s.cursor
    rw [StackScan.round_of_gap hlimit hgap]
    split
    case h_1 state resume hrecover =>
      rw [hrecover] at htally
      show 0 < state.tally.recoveries
      rw [htally]
      exact Nat.succ_pos _
    case h_2 state fault hrecover =>
      rw [hrecover] at htally
      show 0 < state.tally.recoveries
      rw [htally]
      exact Nat.succ_pos _
  unfold iterate
  cases hnext : StackScan.round ctx s with
  | next s' =>
      rw [hnext] at hround
      exact Nat.lt_of_lt_of_le hround (StackScan.leadsTo_iterate s' rounds).recoveries
  | done r =>
      rw [hnext] at hround
      exact hround

/-- Both scans end alike, unless one of them meets a gap. -/
theorem StackScan.Collapses.iterate (hcallees : ctx.limits.collapseCallees = false)
    (hframes : ctx.limits.maxFrames = none) {s t : StackScan} (h : s.Collapses ctx t) (rounds : Nat) :
    EndsAlikeWithoutGap
      (iterate (round (ctx.withRecursion true)) (fun s => (s.state, s.state.spentStatus)) rounds s)
      (iterate (round (ctx.withRecursion false)) (fun s => (s.state, s.state.spentStatus)) rounds t) := by
  refine iterate_related (R := StackScan.Collapses ctx) ?_ ?_ rounds h
  · intro s t h
    have hsame := h.limit? hframes
    cases hlimit : s.limit? (ctx.withRecursion true) with
    | some status =>
        rw [round_of_limit hlimit, round_of_limit (hsame.trans hlimit)]
        exact Or.inl (.done (endsAlike_of_collapses h.state status))
    | none =>
        cases hgap : s.state.gapAt (ctx.withRecursion true) s.cursor with
        | true =>
            refine Or.inr fun rounds hnone _ => ?_
            have hpos := recoveries_pos_of_gap hlimit hgap rounds
            omega
        | false =>
            cases hgap' : t.state.gapAt (ctx.withRecursion false) t.cursor with
            | true =>
                refine Or.inr fun rounds _ hnone => ?_
                have hpos := recoveries_pos_of_gap (hsame.trans hlimit) hgap' rounds
                omega
            | false =>
                have hcount : s.state.countIteration.Collapses ctx t.state.countIteration :=
                  h.state.count fun tally => { tally with iterations := tally.iterations + 1 }
                rw [round_of_no_gap hlimit hgap, round_of_no_gap (hsame.trans hlimit) hgap']
                exact Or.inl (look hcallees ⟨hcount, h.cursor, h.unreadable⟩)
  · intro s t h
    have hspent : t.state.spentStatus = s.state.spentStatus := by
      unfold State.spentStatus
      rw [h.state.tally]
    rw [hspent]
    exact endsAlike_of_collapses h.state _

/-- The link register shows both walks the same frame. -/
theorem State.Collapses.addLinkFrame (hcallees : ctx.limits.collapseCallees = false)
    (h : s.Collapses ctx t) :
    (s.addLinkFrame (ctx.withRecursion true)).Collapses ctx
      (t.addLinkFrame (ctx.withRecursion false)) := by
  have hlink (preserve : Bool) : (ctx.withRecursion preserve).linkAddress? = ctx.linkAddress? := rfl
  have hbefore (preserve : Bool) : (ctx.withRecursion preserve).callBefore = ctx.callBefore := rfl
  have hreaches (preserve : Bool) : (ctx.withRecursion preserve).linkReaches = ctx.linkReaches := rfl
  unfold State.addLinkFrame
  rw [hlink, hlink, hbefore, hbefore, hreaches, hreaches]
  cases ctx.linkAddress? with
  | none => exact h
  | some lr =>
      have hfailures := h.countFailures (ctx.callBefore lr).2
      dsimp only
      cases (ctx.callBefore lr).1 with
      | none => exact hfailures
      | some call =>
          dsimp only
          by_cases hleads : ctx.linkReaches call.callee = true
          · rw [if_pos hleads, if_pos hleads]
            exact hfailures.accept hcallees _
          · rw [if_neg hleads, if_neg hleads]
            exact hfailures

theorem collapses_start (hcallees : ctx.limits.collapseCallees = false) :
    (State.start (ctx.withRecursion true)).floored.Collapses ctx
      (State.start (ctx.withRecursion false)).floored := by
  have halone : (State.initial.addInnermost (ctx.withRecursion true)).Collapses ctx
      (State.initial.addInnermost (ctx.withRecursion false)) := by
    refine ⟨Nat.one_pos, Nat.one_pos, rfl, rfl, rfl, rfl, rfl, ?_⟩
    rintro _ ⟨⟩ hhome
    exact hhome
  have hlink := halone.addLinkFrame hcallees
  exact ⟨hlink.pos, hlink.pos', hlink.ips, hlink.main, hlink.above, hlink.blacklist, hlink.tally,
    hlink.home⟩

/-- Where no frame pointer is followed, both walks end alike, unless one of them meets a gap. -/
theorem endsAlike_outcome (hpointer : ctx.livePointer? = none)
    (hcallees : ctx.limits.collapseCallees = false) (hframes : ctx.limits.maxFrames = none) :
    EndsAlikeWithoutGap (outcome (ctx.withRecursion true)) (outcome (ctx.withRecursion false)) := by
  have hbefore (preserve : Bool) : beforeScan (ctx.withRecursion preserve) =
      ((State.start (ctx.withRecursion preserve)).floored, .scan ctx.registers.sp) :=
    beforeScan_of_no_pointer hpointer
  have houtcome (preserve : Bool) : outcome (ctx.withRecursion preserve) =
      StackScan.run (ctx.withRecursion preserve) (State.start (ctx.withRecursion preserve)).floored
        ctx.registers.sp := by
    rw [outcome_scan (congrArg Prod.snd (hbefore preserve)), hbefore]
  have hstart : StackScan.Collapses ctx
      ⟨(State.start (ctx.withRecursion true)).floored, ctx.registers.sp, 0⟩
      ⟨(State.start (ctx.withRecursion false)).floored, ctx.registers.sp, 0⟩ :=
    ⟨collapses_start hcallees, rfl, rfl⟩
  rw [houtcome, houtcome]
  exact hstart.iterate hcallees hframes _

end Recursion

/-- **A walk that drops repeated frames finds what the other one finds, without the repetitions**, if neither
of them has to recover from a gap. -/
theorem run_withRecursion (ctx : Context) (hfp : ctx.registers.fp = none)
    (hcallees : ctx.limits.collapseCallees = false) (hframes : ctx.limits.maxFrames = none)
    (hdrops : (run (ctx.withRecursion false)).stats.recoveries = 0)
    (hkeeps : (run (ctx.withRecursion true)).stats.recoveries = 0) :
    (run (ctx.withRecursion false)).status = (run (ctx.withRecursion true)).status ∧
      (run (ctx.withRecursion false)).frames.map Frame.ip =
        ((run (ctx.withRecursion true)).frames.map Frame.ip).destutter (· ≠ ·) := by
  by_cases hkernel : ctx.arch.isKernelAddress ctx.registers.pc = true
  · have hrun (preserve : Bool) : run (ctx.withRecursion preserve) = refused ctx.registers.pc :=
      run_of_kernel hkernel
    rw [hrun, hrun]
    exact ⟨rfl, rfl⟩
  · have hrun (preserve : Bool) : run (ctx.withRecursion preserve) =
        ⟨(outcome (ctx.withRecursion preserve)).1.stack.frames.toList,
          (outcome (ctx.withRecursion preserve)).2,
          (outcome (ctx.withRecursion preserve)).1.tally.toStats⟩ := by
      have huser : ¬ (ctx.withRecursion preserve).arch.isKernelAddress
          (ctx.withRecursion preserve).registers.pc = true := hkernel
      have hall (frames : List Frame) : reported (ctx.withRecursion preserve).limits frames = frames := by
        simp [reported, Context.withRecursion, hframes]
      rw [run_of_outcome huser, report, hall]
    rw [hrun] at hdrops hkeeps
    rw [hrun, hrun]
    have halike := endsAlike_outcome (Context.livePointer?_eq_none hfp) hcallees hframes
      (recoveries_eq_zero hkeeps) (recoveries_eq_zero hdrops)
    exact ⟨halike.status, halike.ips⟩

/-- A thread in `fact`, which has called itself three times and was called by `main`. -/
def recursiveCall : Context where
  arch := .x86_64
  target := Tables.target
    { images := [(⟨"app"⟩, .main, 0x400000, 0x410000)]
      routines := [("fact", 0x401000, 0x100), ("main", 0x401100, 0x100)]
      code := [(0x401010, ⟨1, "nop"⟩), (0x401020, ⟨5, "call 0x401000"⟩),
        (0x401110, ⟨5, "call 0x401000"⟩)]
      words := [(0x7FFE0000, 0x401025), (0x7FFE0008, 0x401025), (0x7FFE0010, 0x401025),
        (0x7FFE0018, 0x401115)] }
  registers := Registers.ofPcSp ⟨0x401010⟩ ⟨0x7FFE0000⟩
  limits := { Limits.standard with stackBase := some ⟨0x7FFE0018⟩ }

/-- One frame stands for the three calls. -/
theorem recursiveCall_collapses :
    (run (recursiveCall.withRecursion false)).stats.recoveries = 0 ∧
      (run (recursiveCall.withRecursion true)).stats.recoveries = 0 ∧
      (run (recursiveCall.withRecursion true)).frames.map Frame.ip =
        [⟨0x401010⟩, ⟨0x401020⟩, ⟨0x401020⟩, ⟨0x401020⟩, ⟨0x401110⟩] ∧
      (run (recursiveCall.withRecursion false)).frames.map Frame.ip =
        ((run (recursiveCall.withRecursion true)).frames.map Frame.ip).destutter (· ≠ ·) := by
  have hdrops : (run (recursiveCall.withRecursion false)).stats.recoveries = 0 := by decide +kernel
  have hkeeps : (run (recursiveCall.withRecursion true)).stats.recoveries = 0 := by decide +kernel
  have hframes : (run (recursiveCall.withRecursion true)).frames.map Frame.ip =
      [⟨0x401010⟩, ⟨0x401020⟩, ⟨0x401020⟩, ⟨0x401020⟩, ⟨0x401110⟩] := by
    decide +kernel
  exact ⟨hdrops, hkeeps, hframes, (run_withRecursion recursiveCall rfl rfl rfl hdrops hkeeps).2⟩

end StackWalk.Walk
