import Mathlib.Logic.Relation
import StackWalk.Proofs.Tables
import StackWalk.Proofs.Walk.Floor
import StackWalk.Proofs.Walk.Scanning

/-!
# StackWalk.Proofs.Walk.Ratchets — what the ratchets remember

The two ratchets are moved one frame at a time, where a frame is accepted, and are put anew, from all
frames that are left, where a recovery has taken some away.  Both ways must agree, or the judgement on a
candidate would depend on how the walk has come to its frames.

The first section gives the ratchets as functions of the frames alone.  An operation of the walk then has
one effect on the frames and one on the ratchets, and `ratchets_coherent` compares the two after any
number of operations: they are equal where a recovery puts the ratchets anew, and where it does not, the
ratchets only ever move forward and are never behind.
-/

namespace StackWalk.Walk

/-! ## The ratchets as functions of the frames -/

namespace Context

variable {ctx : Context}

/-- Whether one of the addresses lies in the program. -/
def entersMain (ctx : Context) (ips : List Address) : Bool :=
  ips.any ctx.target.isMain

/-- Whether one of the addresses lies in the C library, and the next one does not. -/
def leavesCLibrary (ctx : Context) : List Address → Bool
  | below :: ip :: ips =>
    (ctx.target.isCLibrary below && !ctx.target.isCLibrary ip) || ctx.leavesCLibrary (ip :: ips)
  | _ => false

theorem leavesCLibrary_cons_cons (below ip : Address) (ips : List Address) :
    ctx.leavesCLibrary (below :: ip :: ips) =
      ((ctx.target.isCLibrary below && !ctx.target.isCLibrary ip) || ctx.leavesCLibrary (ip :: ips)) :=
  rfl

theorem entersMain_append (ips ips' : List Address) :
    ctx.entersMain (ips ++ ips') = (ctx.entersMain ips || ctx.entersMain ips') :=
  List.any_append

/-- One more address matters only together with the last one before it. -/
theorem leavesCLibrary_concat (ips : List Address) (below ip : Address) :
    ctx.leavesCLibrary (ips ++ [below] ++ [ip]) =
      (ctx.leavesCLibrary (ips ++ [below]) ||
        (ctx.target.isCLibrary below && !ctx.target.isCLibrary ip)) := by
  induction ips with
  | nil => simp [leavesCLibrary]
  | cons first ips ih =>
      -- the first address is followed by the next of `ips`, or else by `below`
      cases ips with
      | nil => simp [leavesCLibrary]
      | cons next ips =>
          simp only [List.cons_append, leavesCLibrary_cons_cons] at ih ⊢
          rw [ih, Bool.or_assoc]

/-- What some addresses show, more addresses show as well. -/
theorem leavesCLibrary_append {ips : List Address} (h : ctx.leavesCLibrary ips = true)
    (ips' : List Address) : ctx.leavesCLibrary (ips ++ ips') = true := by
  induction ips with
  | nil => cases h
  | cons below ips ih =>
      cases ips with
      | nil => cases h
      | cons ip ips =>
          simp only [List.cons_append, leavesCLibrary_cons_cons, Bool.or_eq_true] at h ih ⊢
          exact h.imp_right ih

end Context

namespace State

variable {ctx : Context} {s : State}

/-- The addresses of the frames. -/
def ips (s : State) : List Address := s.stack.frames.toList.map Frame.ip

theorem ips_eq (s : State) : s.ips = s.stack.found.map Frame.ip :=
  (map_ip_asFound _).symm

theorem advanceAlong_eq_or (s : State) (below : Address) (ips : List Address) :
    s.advanceAlong ctx below ips =
      { s with
        beenInMain := s.beenInMain || ctx.entersMain ips
        beenAboveCLibrary := s.beenAboveCLibrary || ctx.leavesCLibrary (below :: ips) } := by
  induction ips generalizing s below with
  | nil => simp [advanceAlong, Context.entersMain, Context.leavesCLibrary]
  | cons ip ips ih =>
      rw [advanceAlong, ih]
      simp [advanceRatchets, Context.entersMain, Context.leavesCLibrary, Bool.or_assoc]

/-- A recomputation moves the ratchets to where the frames alone put them. -/
theorem recomputeRatchets_eq (s : State) :
    s.recomputeRatchets ctx =
      { s with
        beenInMain := ctx.entersMain s.ips
        beenAboveCLibrary := ctx.leavesCLibrary s.ips } := by
  unfold recomputeRatchets
  split
  case h_1 hips =>
    rw [ips, hips]
    rfl
  case h_2 ip ips hips =>
    rw [advanceAlong_eq_or, State.ips, hips]
    simp [Context.entersMain]

/-! ## One operation -/

/-- Every ratchet that has moved in the one state has moved in the other. -/
structure RatchetsLe (s s' : State) : Prop where
  main : s.beenInMain = true → s'.beenInMain = true
  above : s.beenAboveCLibrary = true → s'.beenAboveCLibrary = true

theorem ratchetsLe_refl (s : State) : s.RatchetsLe s := ⟨id, id⟩

theorem RatchetsLe.trans {s' s'' : State} (h : s.RatchetsLe s') (h' : s'.RatchetsLe s'') :
    s.RatchetsLe s'' :=
  ⟨fun hmain => h'.main (h.main hmain), fun habove => h'.above (h.above habove)⟩

/-- A recomputation changes nothing exactly if the ratchets are where the frames put them. -/
theorem recomputeRatchets_eq_self_iff :
    s.recomputeRatchets ctx = s ↔
      s.beenInMain = ctx.entersMain s.ips ∧ s.beenAboveCLibrary = ctx.leavesCLibrary s.ips := by
  rw [recomputeRatchets_eq]
  constructor
  · intro h
    exact ⟨(congrArg beenInMain h).symm, (congrArg beenAboveCLibrary h).symm⟩
  · rintro ⟨hmain, habove⟩
    rw [← hmain, ← habove]

theorem recompute_ratchetsLe_iff :
    (s.recomputeRatchets ctx).RatchetsLe s ↔
      (ctx.entersMain s.ips = true → s.beenInMain = true) ∧
        (ctx.leavesCLibrary s.ips = true → s.beenAboveCLibrary = true) := by
  rw [recomputeRatchets_eq]
  exact ⟨fun h => ⟨h.main, h.above⟩, fun h => ⟨h.1, h.2⟩⟩

theorem ips_accept (hpos : 0 < s.stack.size) (f : Frame) :
    (s.accept ctx f).ips = s.ips ++ if s.admits ctx f then [f.ip] else [] := by
  rw [ips_eq, ips_eq, found_accept ctx hpos, List.map_append]
  split <;> rfl

/-- The newest frame has the last address. -/
theorem exists_last_ip (hpos : 0 < s.stack.size) :
    ∃ below ips, s.stack.last? = some below ∧ s.ips = ips ++ [below.ip] := by
  unfold ips FrameStack.last?
  rw [← Array.getLast?_toList]
  rcases List.eq_nil_or_concat s.stack.frames.toList with hnil | ⟨front, below, hlist⟩
  · have hsize : s.stack.frames.toList.length = s.stack.size := Array.length_toList
    rw [hnil] at hsize
    rw [← hsize] at hpos
    cases hpos
  · rw [hlist]
    exact ⟨below, front.map Frame.ip, by simp, by simp⟩

theorem getLast?_ips (s : State) : s.ips.getLast? = s.stack.last?.map Frame.ip := by
  unfold ips FrameStack.last?
  rw [List.getLast?_map, ← Array.getLast?_toList]

/-- A frame that is taken moves the ratchets by what it shows together with the newest one. -/
theorem ratchets_of_admits {below : Frame} (hlast : s.stack.last? = some below) {f : Frame}
    (hadmits : s.admits ctx f = true) :
    (s.accept ctx f).beenInMain = (s.beenInMain || ctx.target.isMain f.ip) ∧
      (s.accept ctx f).beenAboveCLibrary =
        (s.beenAboveCLibrary || (ctx.target.isCLibrary below.ip && !ctx.target.isCLibrary f.ip)) := by
  unfold accept advanceTo
  rw [if_pos hadmits, hlast]
  exact ⟨rfl, rfl⟩

/-- An offer moves the ratchets by what it adds to the frames. -/
theorem ratchets_accept (hpos : 0 < s.stack.size) (f : Frame) :
    ∃ main above,
      (s.accept ctx f).beenInMain = (s.beenInMain || main) ∧
      ctx.entersMain (s.accept ctx f).ips = (ctx.entersMain s.ips || main) ∧
      (s.accept ctx f).beenAboveCLibrary = (s.beenAboveCLibrary || above) ∧
      ctx.leavesCLibrary (s.accept ctx f).ips = (ctx.leavesCLibrary s.ips || above) := by
  obtain ⟨below, ips, hlast, hips⟩ := exists_last_ip hpos
  rw [ips_accept hpos]
  by_cases hadmits : s.admits ctx f = true
  · -- the ratchets look at the new frame and the one below it, and so does the last step of the frames
    obtain ⟨hmain, habove⟩ := ratchets_of_admits hlast hadmits
    refine ⟨ctx.target.isMain f.ip, ctx.target.isCLibrary below.ip && !ctx.target.isCLibrary f.ip,
      hmain, ?_, habove, ?_⟩
    · rw [if_pos hadmits, Context.entersMain_append]
      simp [Context.entersMain]
    · rw [if_pos hadmits, hips, Context.leavesCLibrary_concat]
  · have haccept : s.accept ctx f = s := if_neg hadmits
    refine ⟨false, false, ?_⟩
    simp [haccept, hadmits]

theorem ips_backToRegisters (s : State) :
    (s.backToRegisters ctx).ips = s.ips.take s.restartFloor := by
  rw [ips_eq, ips_eq, stack_backToRegisters, FrameStack.found_truncate, List.map_take]

theorem ips_rollBack (s : State) (site : Address) :
    (s.rollBack ctx site).ips = s.ips.take s.stack.keptByRollback := by
  rw [ips_eq, ips_eq, stack_rollBack, FrameStack.found_rollback, List.map_take]

theorem resetRatchets_of_keep (h : ctx.limits.resetRatchets = false) (s : State) :
    s.resetRatchets ctx = s :=
  if_neg (ne_true_of_eq_false h)

/-- Where ratchets are put anew, they are where the frames put them. -/
theorem recomputeRatchets_resetRatchets (h : ctx.limits.resetRatchets = true) (s : State) :
    (s.resetRatchets ctx).recomputeRatchets ctx = s.resetRatchets ctx := by
  have hreset : s.resetRatchets ctx = s.recomputeRatchets ctx := if_pos h
  rw [hreset, recomputeRatchets_eq, recomputeRatchets_eq]
  rfl

end State

/-! ## Any number of operations -/

/-- The operations on what a walk has found.  They are more than a walk makes: any frame may be offered,
and a recovery may come at any time. -/
inductive Operates (ctx : Context) (s : State) : State → Prop
  | counted (t : Tally) : Operates ctx s (s.setTally t)
  | floored : Operates ctx s s.floored
  | offered (f : Frame) : Operates ctx s (s.accept ctx f)
  | rolledBack (site : Address) : Operates ctx s (s.rollBack ctx site)
  | restarted : Operates ctx s (s.backToRegisters ctx)

/-- The later state comes from the earlier one by operations. -/
abbrev ComesTo (ctx : Context) : State → State → Prop := Relation.ReflTransGen (Operates ctx)

section Operations

variable {ctx : Context} {s s' : State}

theorem Gathers.comesTo (h : Gathers ctx s s') : ComesTo ctx s s' := by
  cases h with
  | counted t => exact .single (.counted t)
  | call hshows cursor t t' =>
      exact ((Relation.ReflTransGen.single (.counted t)).tail (.offered _)).tail (.counted t')

theorem Looks.comesTo {cursor : Address} (h : Looks ctx s cursor s') : ComesTo ctx s s' := by
  cases h with
  | counted t => exact .single (.counted t)
  | call hshows hfree t t' =>
      exact ((Relation.ReflTransGen.single (.counted t)).tail (.offered _)).tail (.counted t')
  | behind hshows hfree hbelow hbranch t t' =>
      exact (((Relation.ReflTransGen.single (.counted t)).tail (.offered _)).tail
        (.offered _)).tail (.counted t')

theorem Recovers.comesTo {resume : Address} (h : Recovers ctx s s' resume) : ComesTo ctx s s' := by
  cases h with
  | restarted hfew hnot t => exact (Relation.ReflTransGen.single (.counted t)).tail .restarted
  | rolledBack hmore hsite hfree t =>
      exact (Relation.ReflTransGen.single (.counted t)).tail (.rolledBack _)

theorem Phase.comesTo_step (ctx : Context) (p : Phase) : ComesTo ctx p.state (p.step ctx).state := by
  rcases p.step_effect ctx with heq | heq | hgathers | hscans
  · rw [heq]
  · rw [heq]
    exact .single .floored
  · exact hgathers.comesTo
  · cases hscans with
    | looked cursor hlooks => exact hlooks.comesTo
    | recovered resume hrecovers => exact hrecovers.comesTo

/-- The rounds of a walk are made of operations. -/
theorem comesTo_phaseAt (ctx : Context) (m n : Nat) :
    ComesTo ctx (phaseAt ctx m).state (phaseAt ctx (m + n)).state := by
  induction n with
  | zero => exact .refl
  | succ n ih =>
      rw [← Nat.add_assoc, phaseAt_succ]
      exact ih.trans (Phase.comesTo_step ctx _)

/-- There is a frame, and a restart keeps one. -/
structure State.Rooted (s : State) : Prop where
  stack : 0 < s.stack.size
  restart : 0 < s.restartFloor

theorem State.Rooted.operates (h : s.Rooted) (hop : Operates ctx s s') : s'.Rooted := by
  have hstack := h.stack
  have hrestart := h.restart
  cases hop with
  | counted t => exact ⟨hstack, hrestart⟩
  | floored => exact ⟨hstack, hrestart⟩
  | offered f => exact ⟨pos_accept ctx hstack f, by simpa using hrestart⟩
  | rolledBack site =>
      have hkept := s.stack.keptByRollback_pos
      refine ⟨?_, by simpa using hrestart⟩
      rw [State.stack_rollBack, FrameStack.size_rollback]
      omega
  | restarted =>
      refine ⟨?_, by simpa using hrestart⟩
      rw [State.stack_backToRegisters, FrameStack.size_truncate]
      omega

/-- Where recoveries put the ratchets anew, every operation leaves them where the frames put them. -/
theorem recomputeRatchets_operates (hreset : ctx.limits.resetRatchets = true) (hrooted : s.Rooted)
    (h : s.recomputeRatchets ctx = s) (hop : Operates ctx s s') :
    s'.recomputeRatchets ctx = s' := by
  have hratchets := State.recomputeRatchets_eq_self_iff.mp h
  cases hop with
  | counted t => exact State.recomputeRatchets_eq_self_iff.mpr hratchets
  | floored => exact State.recomputeRatchets_eq_self_iff.mpr hratchets
  | offered f =>
      obtain ⟨main, above, hmain, hips, habove, hips'⟩ := State.ratchets_accept hrooted.stack f
      rw [State.recomputeRatchets_eq_self_iff, hmain, hips, habove, hips', hratchets.1, hratchets.2]
      exact ⟨rfl, rfl⟩
  | rolledBack site => exact State.recomputeRatchets_resetRatchets hreset _
  | restarted => exact State.recomputeRatchets_resetRatchets hreset _

/-- Where recoveries leave the ratchets alone, no operation moves them back. -/
theorem ratchetsLe_operates (hkeep : ctx.limits.resetRatchets = false) (hrooted : s.Rooted)
    (hop : Operates ctx s s') : s.RatchetsLe s' := by
  cases hop with
  | counted t => exact ⟨id, id⟩
  | floored => exact ⟨id, id⟩
  | offered f =>
      obtain ⟨main, above, hmain, -, habove, -⟩ := State.ratchets_accept hrooted.stack f
      constructor
      · intro h
        rw [hmain, h, Bool.true_or]
      · intro h
        rw [habove, h, Bool.true_or]
  | rolledBack site =>
      rw [State.rollBack, State.resetRatchets_of_keep hkeep]
      exact ⟨id, id⟩
  | restarted =>
      rw [State.backToRegisters, State.resetRatchets_of_keep hkeep]
      exact ⟨id, id⟩

/-- Then they are never behind the frames: what is cut off can only have moved them further. -/
theorem recompute_ratchetsLe_operates (hkeep : ctx.limits.resetRatchets = false) (hrooted : s.Rooted)
    (h : (s.recomputeRatchets ctx).RatchetsLe s) (hop : Operates ctx s s') :
    (s'.recomputeRatchets ctx).RatchetsLe s' := by
  obtain ⟨hmain, habove⟩ := State.recompute_ratchetsLe_iff.mp h
  have hcut {count : Nat} (hips : s'.ips = s.ips.take count) :
      (s'.recomputeRatchets ctx).RatchetsLe s' := by
    have hforward := ratchetsLe_operates hkeep hrooted hop
    have hsplit : s'.ips ++ s.ips.drop count = s.ips := hips ▸ List.take_append_drop count s.ips
    rw [State.recompute_ratchetsLe_iff]
    constructor
    · intro henters
      apply hforward.main
      apply hmain
      rw [← hsplit, Context.entersMain_append, henters, Bool.true_or]
    · intro hleaves
      apply hforward.above
      apply habove
      rw [← hsplit]
      exact Context.leavesCLibrary_append hleaves _
  cases hop with
  | counted t => exact State.recompute_ratchetsLe_iff.mpr ⟨hmain, habove⟩
  | floored => exact State.recompute_ratchetsLe_iff.mpr ⟨hmain, habove⟩
  | offered f =>
      obtain ⟨main, above, hmain', hips, habove', hips'⟩ := State.ratchets_accept hrooted.stack f
      rw [State.recompute_ratchetsLe_iff, hmain', hips, habove', hips']
      simp only [Bool.or_eq_true]
      exact ⟨Or.imp_left hmain, Or.imp_left habove⟩
  | rolledBack site => exact hcut (State.ips_rollBack s site)
  | restarted => exact hcut (State.ips_backToRegisters s)

/-- What the registers show moves the ratchets to where its frames put them. -/
theorem recomputeRatchets_start (ctx : Context) :
    (State.start ctx).recomputeRatchets ctx = State.start ctx := by
  have halone : (State.initial.addInnermost ctx).beenInMain =
      ctx.entersMain (State.initial.addInnermost ctx).ips := (Bool.or_false _).symm
  rw [State.recomputeRatchets_eq_self_iff]
  rcases State.start_cases ctx with ⟨t, h⟩ | ⟨lr, call, t, -, -, h⟩
  · rw [h]
    exact ⟨halone, rfl⟩
  · obtain ⟨main, above, hmain, hips, habove, hips'⟩ := State.ratchets_accept
      (s := (State.initial.addInnermost ctx).setTally t) Nat.one_pos (ctx.linkFrame call lr)
    rw [h]
    refine ⟨hmain.trans ?_, habove.trans ?_⟩
    · refine Eq.trans ?_ hips.symm
      exact congrArg (· || main) halone
    · exact hips'.symm

theorem State.rooted_start (ctx : Context) : (State.start ctx).Rooted := by
  have hgrows := State.Grows.start ctx
  have hsize := hgrows.registers.size
  exact ⟨Nat.lt_of_lt_of_le hgrows.registers.pos hsize, hgrows.registers.pos⟩

theorem State.Rooted.comesTo (h : s.Rooted) (hcomes : ComesTo ctx s s') : s'.Rooted := by
  induction hcomes with
  | refl => exact h
  | tail _ hop ih => exact ih.operates hop

/-- The ratchets of a walk are never behind its frames, whatever its recoveries do to them. -/
theorem recompute_ratchetsLe_comesTo (hcomes : ComesTo ctx (State.start ctx) s) :
    (s.recomputeRatchets ctx).RatchetsLe s := by
  have hrooted {s : State} (h : ComesTo ctx (State.start ctx) s) : s.Rooted :=
    (State.rooted_start ctx).comesTo h
  cases hreset : ctx.limits.resetRatchets with
  | true =>
      have hsame : s.recomputeRatchets ctx = s := by
        induction hcomes with
        | refl => exact recomputeRatchets_start ctx
        | tail hbefore hop ih => exact recomputeRatchets_operates hreset (hrooted hbefore) ih hop
      rw [hsame]
      exact State.ratchetsLe_refl s
  | false =>
      induction hcomes with
      | refl =>
          rw [recomputeRatchets_start]
          exact State.ratchetsLe_refl _
      | tail hbefore hop ih => exact recompute_ratchetsLe_operates hreset (hrooted hbefore) ih hop

/-- Where no frame pointer is followed, what holds of the frames from the registers, and what every look at
a word and every recovery keep, is true of the state that is reported. -/
theorem outcome_of_operations {P : State → Prop} (hpointer : ctx.livePointer? = none)
    (hstart : P (State.start ctx).floored) (hcount : ∀ s t, P s → P (s.setTally t))
    (hconsider : ∀ s cursor value, ComesTo ctx (State.start ctx) s → P s →
      s.gapAt ctx cursor = false → ctx.slot? cursor = some value → P (s.consider ctx cursor value))
    (hrecover : ∀ s s' resume, P s → Recovers ctx s s' resume → P s') : P (outcome ctx).1 := by
  have hbefore := beforeScan_of_no_pointer hpointer
  refine (outcome_of_rounds (P := fun s => ComesTo ctx (State.start ctx) s ∧ P s) ?_ ?_).2
  · rw [hbefore]
    exact ⟨.single .floored, hstart⟩
  · rintro s ⟨hcomes, hs⟩
    apply StackScan.keeps_round (P := fun s => ComesTo ctx (State.start ctx) s ∧ P s)
    · intro s t h
      exact ⟨h.1.tail (.counted t), hcount s t h.2⟩
    · exact ⟨hcomes, hs⟩
    · intro hgap value hheld
      have hcounted : ComesTo ctx (State.start ctx) s.state.countIteration := hcomes.tail (.counted _)
      have hlooks : Looks ctx s.state.countIteration s.cursor _ := State.looks_consider hheld
      exact ⟨hcounted.trans hlooks.comesTo,
        hconsider _ _ _ hcounted (hcount s.state _ hs) hgap hheld⟩
    · intro s' _ _ hrecovers
      exact ⟨hcomes.trans hrecovers.comesTo, hrecover _ _ _ hs hrecovers⟩

end Operations

/-- **The ratchets and the frames agree.**  A recomputation asks whether one of the frames lies in the program,
and whether one in the C library has one outside of it above.  A walk comes to its states by operations.
Where recoveries put the ratchets anew, a recomputation changes nothing after any number of operations;
where they do not, no ratchet moves back and none is behind the frames. -/
theorem ratchets_coherent (ctx : Context) :
    (∀ s : State, s.recomputeRatchets ctx =
      { s with beenInMain := ctx.entersMain s.ips, beenAboveCLibrary := ctx.leavesCLibrary s.ips }) ∧
    (∀ m n, ComesTo ctx (phaseAt ctx m).state (phaseAt ctx (m + n)).state) ∧
    (ctx.limits.resetRatchets = true →
      ∀ s, ComesTo ctx (phaseAt ctx 0).state s → s.recomputeRatchets ctx = s) ∧
    (ctx.limits.resetRatchets = false →
      ∀ s, ComesTo ctx (phaseAt ctx 0).state s →
        (s.recomputeRatchets ctx).RatchetsLe s ∧ ∀ s', ComesTo ctx s s' → s.RatchetsLe s') := by
  have hrooted {s : State} (h : ComesTo ctx (State.start ctx) s) : s.Rooted :=
    (State.rooted_start ctx).comesTo h
  rw [state_first]
  refine ⟨State.recomputeRatchets_eq, comesTo_phaseAt ctx, ?_, ?_⟩
  · intro hreset s hcomes
    induction hcomes with
    | refl => exact recomputeRatchets_start ctx
    | tail hbefore hop ih => exact recomputeRatchets_operates hreset (hrooted hbefore) ih hop
  · intro hkeep s hcomes
    constructor
    · induction hcomes with
      | refl =>
          rw [recomputeRatchets_start]
          exact State.ratchetsLe_refl _
      | tail hbefore hop ih =>
          exact recompute_ratchetsLe_operates hkeep (hrooted hbefore) ih hop
    · intro s' hlater
      induction hlater with
      | refl => exact State.ratchetsLe_refl _
      | tail hbefore hop ih =>
          exact ih.trans (ratchetsLe_operates hkeep (hrooted (hcomes.trans hbefore)) hop)

/-- A thread in `read` of the C library, which `caller` of another library calls.  The stack has nothing else
to show, and few bytes without a frame are a gap. -/
def readByPlugin (resetRatchets : Bool) : Context where
  arch := .x86_64
  target := Tables.target
    { images := [(⟨"libc.so.6"⟩, .cLibrary, 0x500000, 0x510000),
        (⟨"libplug.so"⟩, .library, 0x600000, 0x610000)]
      routines := [("read", 0x500000, 0x100), ("caller", 0x600000, 0x100)]
      code := [(0x500010, ⟨1, "nop"⟩), (0x600010, ⟨5, "call 0x500000"⟩)]
      words := [(0x7FFE0000, 0x600015), (0x7FFE0008, 0), (0x7FFE0010, 0), (0x7FFE0018, 0)] }
  registers := Registers.ofPcSp ⟨0x500010⟩ ⟨0x7FFE0000⟩
  limits := { Limits.standard with
    stackBase := some ⟨0x7FFE0020⟩
    gapThreshold := 16
    resetRatchets := resetRatchets }

/-- The call takes the walk out of the C library, and the rollback in the fifth round takes it away.  The
ratchet goes back with it, or stays and is ahead of the frames. -/
theorem readByPlugin_ratchets :
    ((phaseAt (readByPlugin true) 4).state.beenAboveCLibrary = true ∧
      (phaseAt (readByPlugin true) 5).state.beenAboveCLibrary = false ∧
      (phaseAt (readByPlugin true) 5).state.recomputeRatchets (readByPlugin true) =
        (phaseAt (readByPlugin true) 5).state) ∧
    (phaseAt (readByPlugin false) 4).state.beenAboveCLibrary = true ∧
      (phaseAt (readByPlugin false) 5).state.beenAboveCLibrary = true ∧
      ((phaseAt (readByPlugin false) 5).state.recomputeRatchets
        (readByPlugin false)).beenAboveCLibrary = false := by
  obtain ⟨-, hcomes, hreset, -⟩ := ratchets_coherent (readByPlugin true)
  obtain ⟨hrecompute, hcomes', -, hkeep⟩ := ratchets_coherent (readByPlugin false)
  have hmoved : (phaseAt (readByPlugin false) 4).state.beenAboveCLibrary = true := by decide +kernel
  have hforward := (hkeep rfl _ (hcomes' 0 4)).2 _ (hcomes' 4 1)
  refine ⟨⟨by decide +kernel, by decide +kernel, hreset rfl _ (hcomes 0 5)⟩, hmoved,
    hforward.above hmoved, ?_⟩
  rw [hrecompute]
  decide +kernel

end StackWalk.Walk
