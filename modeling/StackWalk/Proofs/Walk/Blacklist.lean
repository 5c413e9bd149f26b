import StackWalk.Proofs.Tables
import StackWalk.Proofs.Walk.Evidence
import StackWalk.Proofs.Walk.Look

/-!
# StackWalk.Proofs.Walk.Blacklist — which call sites come back

A recovery blacklists the call site of the newest frame, so that the scan, which comes to the same slots
again, is not led astray by the same call again.  It should be so for good: no later round puts a frame
about that call site on the stack, before or after the restart.

A candidate is held against the blacklist.  The frame of a tail call that is put below it is not, and a
rollback can leave such a frame as the newest one, whose call site is then the next to be blacklisted.
`keepsBlacklist_iff_never_revives` says that this is the only way back: a call site stays out for good
unless it is the entry of a callee that starts with a tail call, and the blacklist is kept exactly until
a candidate is accepted behind the tail call of a blacklisted callee.
-/

namespace StackWalk.Walk

/-- A routine that starts here leads on at once, by a direct jump to the entry of another. -/
def TailCallAt (ctx : Context) (site : Address) : Prop :=
  ∃ i target, ctx.target.decode site = some i ∧ ctx.arch.isJump i.text = true ∧
    (Disassembly.ofText i.text).target? = some (.direct target) ∧
    ctx.target.symbols.isEntry target = true

/-- From the `n`th round on no frame about the call site is put on the stack. -/
def StaysOut (ctx : Context) (n : Nat) (site : Address) : Prop :=
  ∀ m ≥ n, ∀ f ∈ (phaseAt ctx m).state.stack.added (phaseAt ctx (m + 1)).state.stack,
    f.callSite ≠ some site

/-- What is blacklisted stays out. -/
def KeepsBlacklist (ctx : Context) : Prop :=
  ∀ n, ∀ site ∈ (phaseAt ctx n).state.blacklist, StaysOut ctx n site

/-- The scan comes to a candidate that it accepts behind the tail call of a blacklisted callee, and the
stack takes the frame of that tail call. -/
def Phase.Revives (ctx : Context) : Phase → Prop
  | .scanning s =>
    s.limit? ctx = none ∧ s.state.gapAt ctx s.cursor = false ∧
      ∃ value call branch, ctx.Shows s.cursor value call ∧
        call.site.address ∉ s.state.blacklist ∧
        s.state.verdict ctx s.cursor value call = .acceptBehind branch ∧
        s.state.admits ctx branch = true ∧
        ∃ site ∈ s.state.blacklist, branch.callSite = some site
  | _ => False

section Blacklist

variable {ctx : Context}

/-! ## What a round adds -/

/-- Before the scan nothing is blacklisted. -/
theorem holds_blacklist (ctx : Context) (n : Nat) :
    (phaseAt ctx n).Holds (fun s => s.blacklist = []) fun _ => True :=
  holds_phaseAt (P := fun s => s.blacklist = []) (State.start_fresh ctx).1
    (fun _ _ h hgathers => hgathers.steady.blacklist.trans h) (fun _ _ => trivial)
    (fun _ _ _ _ => trivial) n

/-- The frame of a tail call is about the entry of the callee. -/
theorem tailCallAt_of_branch {cursor below site : Address} {callee : Callee} {branch : Frame}
    (h : ctx.branchFrame? cursor callee below = some branch) (hsite : branch.callSite = some site) :
    TailCallAt ctx site := by
  obtain ⟨-, hip, i, target, -, -, hdecode, hjump, htarget, -, hentry⟩ :=
    Context.branchFrame?_eq_some h
  obtain rfl : branch.ip = site := Option.some.inj (hip.symm.trans hsite)
  exact ⟨i, target, hdecode, hjump, htarget, hentry⟩

/-- A round that adds a frame about a blacklisted call site revives it, and there is a tail call. -/
theorem revives_of_added {p : Phase} (hpos : 0 < p.state.stack.size)
    (hbefore : p.Holds (fun s => s.blacklist = []) fun _ => True) {f : Frame} {site : Address}
    (hf : f ∈ p.state.stack.added (p.step ctx).state.stack) (hsite : f.callSite = some site)
    (hlisted : site ∈ p.state.blacklist) : p.Revives ctx ∧ TailCallAt ctx site := by
  have hempty (s : State) (h : s.blacklist = []) (hlisted : site ∈ s.blacklist) : False := by
    rw [h] at hlisted
    exact List.not_mem_nil hlisted
  have hnothing (s : State) (h : s.stack.callers <+: p.state.stack.callers) :
      f ∉ p.state.stack.added s.stack := by
    rw [FrameStack.added_of_prefix h]
    exact List.not_mem_nil
  cases p with
  | probing fp q => exact absurd hlisted (hempty _ hbefore)
  | chaining c => exact absurd hlisted (hempty _ hbefore)
  | leaving s onward => exact absurd hlisted (hempty _ hbefore)
  | ended s status => exact absurd hf (hnothing s List.prefix_rfl)
  | scanning s =>
      rcases Phase.stack_step_scanning ctx s with ⟨value, hlimit, hgap, hheld, hstack⟩ | hcut
      · rw [hstack] at hf
        obtain ⟨call, hcode, hcall, hfree, rfl | ⟨hverdict, hadmits⟩⟩ :=
          State.mem_added_consider (s := s.state.countIteration) hpos hf
        · -- the call itself has been held against the blacklist
          obtain rfl : call.site.address = site := Option.some.inj hsite
          exact absurd hlisted hfree
        · obtain ⟨below, -, hbranch⟩ := State.exists_below_of_verdict hverdict
          exact ⟨⟨hlimit, hgap, value, call, f, ⟨hheld, hcode, hcall⟩, hfree, hverdict, hadmits,
            site, hlisted, hsite⟩, tailCallAt_of_branch hbranch hsite⟩
      · exact absurd hf (hnothing _ hcut)

/-- A round that revives a call site adds a frame about it. -/
theorem Phase.Revives.exists_added {p : Phase} (hpos : 0 < p.state.stack.size)
    (h : p.Revives ctx) :
    ∃ f ∈ p.state.stack.added (p.step ctx).state.stack,
      ∃ site ∈ p.state.blacklist, f.callSite = some site := by
  cases p with
  | probing fp q => exact h.elim
  | chaining c => exact h.elim
  | leaving s onward => exact h.elim
  | ended s status => exact h.elim
  | scanning s =>
      obtain ⟨hlimit, hgap, value, call, branch, hshows, hfree, hverdict, hadmits, site, hlisted,
        hsite⟩ := h
      have hround := StackScan.round_of_held hlimit hgap hshows.held
      have hconsider : s.state.countIteration.consider ctx s.cursor value =
          (s.state.countIteration.countFailures (ctx.callBefore value).2).settle ctx s.cursor value
            call :=
        State.consider_of_call hshows.code hshows.found hfree
      have hcallers := State.callers_settle_behind
        (s := s.state.countIteration.countFailures (ctx.callBefore value).2) hpos hverdict
      -- the tail call is added first, and the call behind it if the stack takes that as well
      have hadmits : (s.state.countIteration.countFailures (ctx.callBefore value).2).admits ctx branch =
        true := hadmits
      rw [if_pos hadmits, ← List.append_assoc] at hcallers
      refine ⟨branch, FrameStack.mem_added_of_prefix ?_, site, hlisted, hsite⟩
      rw [stack_step_of_advance hround, hconsider, hcallers]
      exact List.prefix_append _ _

end Blacklist

/-- **A blacklisted call site stays out, unless a candidate is accepted behind a tail call that starts
there.** -/
theorem keepsBlacklist_iff_never_revives (ctx : Context) :
    (∀ n, ∀ site ∈ (phaseAt ctx n).state.blacklist, ¬ TailCallAt ctx site → StaysOut ctx n site) ∧
      (KeepsBlacklist ctx ↔ ∀ n, ¬ (phaseAt ctx n).Revives ctx) := by
  have hpos (n : Nat) : 0 < (phaseAt ctx n).state.stack.size :=
    (phaseAt_isJustified ctx n).stack.pos
  have hround {n m : Nat} (hle : n ≤ m) {site : Address}
      (hlisted : site ∈ (phaseAt ctx n).state.blacklist) {f : Frame}
      (hf : f ∈ (phaseAt ctx m).state.stack.added (phaseAt ctx (m + 1)).state.stack)
      (hsite : f.callSite = some site) : (phaseAt ctx m).Revives ctx ∧ TailCallAt ctx site := by
    rw [phaseAt_succ] at hf
    exact revives_of_added (hpos m) (holds_blacklist ctx m) hf hsite
      ((retained_of_le ctx hle).blacklist hlisted)
  refine ⟨?_, ?_, ?_⟩
  · intro n site hlisted hnot m hm f hf hsite
    exact hnot (hround hm hlisted hf hsite).2
  · intro hkeeps n hrevives
    obtain ⟨f, hf, site, hlisted, hsite⟩ := hrevives.exists_added (hpos n)
    rw [← phaseAt_succ] at hf
    exact hkeeps n site hlisted n (Nat.le_refl n) f hf hsite
  · intro hnever n site hlisted m hm f hf hsite
    exact hnever m (hround hm hlisted hf hsite).1

/-- A thread in `work` of the program, to which `wrapper` of a library jumps; two calls of `wrapper` are on
the stack, further apart than the few bytes that are a gap. -/
def revivedTailCall : Context where
  arch := .x86_64
  target := Tables.target
    { images := [(⟨"app"⟩, .main, 0x400000, 0x410000), (⟨"libplug.so"⟩, .library, 0x500000, 0x510000)]
      routines := [("work", 0x401000, 0x100), ("caller", 0x500000, 0x100), ("wrapper", 0x500200, 0x10),
        ("other", 0x500300, 0x100)]
      code := [(0x401010, ⟨1, "nop"⟩), (0x500010, ⟨5, "call 0x500200"⟩), (0x500200, ⟨5, "jmp 0x401000"⟩),
        (0x500310, ⟨5, "call 0x500200"⟩)]
      words := [(0x7FFE0000, 0x500015), (0x7FFE0008, 0), (0x7FFE0010, 0), (0x7FFE0018, 0),
        (0x7FFE0020, 0x500315)] }
  registers := Registers.ofPcSp ⟨0x401010⟩ ⟨0x7FFE0000⟩
  limits := { Limits.standard with stackBase := some ⟨0x7FFE0020⟩, gapThreshold := 16 }

/-- Two gaps take away the call from `caller` and then the jump at `wrapper`; the call from `other`
brings the jump back. -/
theorem revivedTailCall_not_keepsBlacklist : ¬ KeepsBlacklist revivedTailCall := by
  intro hkeeps
  have hlisted : (⟨0x500200⟩ : Address) ∈ (phaseAt revivedTailCall 9).state.blacklist := by
    decide +kernel
  have hback : some ⟨0x500200⟩ ∈
      ((phaseAt revivedTailCall 13).state.stack.added (phaseAt revivedTailCall 14).state.stack).map
        Frame.callSite := by
    decide +kernel
  obtain ⟨f, hf, hsite⟩ := List.mem_map.mp hback
  exact hkeeps 9 ⟨0x500200⟩ hlisted 13 (by decide) f hf hsite

end StackWalk.Walk
