import StackWalk.Proofs.Tables
import StackWalk.Proofs.Walk.Neighbours
import StackWalk.Proofs.Walk.Order
import StackWalk.Proofs.Walk.Recoveries

/-!
# StackWalk.Proofs.Walk.StackBase — frames beyond the base of the stack

No frame should come from beyond the base of the stack.  The scan asks for it in front of every slot, and
the frame pointer is believed only below it, which covers the words that the probe looks at as well.  The
chain does not ask: a saved frame pointer may lead beyond the base, and what it leads to is as good as any
other link.

`frames_below_base_iff` says that this is the one way.  The frame of such a link stays in the trace, for no
rollback takes frames of the chain away; the restart does.
-/

namespace StackWalk.Walk

/-- The chain follows a link beyond the base of the stack, and the stack takes its frame. -/
def Phase.Strays (ctx : Context) : Phase → Prop
  | .chaining c =>
    ctx.limits.pastStackBase c.link = true ∧ PointerChain.limit? ctx c.state = none ∧
      ∃ f saved, (ctx.followLink c.link (c.state.currentIp ctx)).1 = some (f, saved) ∧
        c.state.admits ctx f = true
  | _ => False

/-- No caller lies above the address. -/
def State.Within (base : Address) (s : State) : Prop :=
  ∀ f ∈ s.stack.callers, f.cursor ≤ base

/-! ## What is offered to the stack -/

section Offers

variable {ctx : Context} {base : Address}

theorem le_of_pastStackBase (hbase : ctx.limits.stackBase = some base) {a : Address}
    (h : ctx.limits.pastStackBase a = false) : a ≤ base := by
  unfold Limits.pastStackBase at h
  rw [hbase] at h
  exact Address.not_lt.mp (of_decide_eq_false h)

theorem lt_of_pastStackBase (hbase : ctx.limits.stackBase = some base) {a : Address}
    (h : ctx.limits.pastStackBase a = true) : base < a := by
  unfold Limits.pastStackBase at h
  rw [hbase] at h
  exact of_decide_eq_true h

theorem State.Within.accept {s : State} (h : s.Within base) (hpos : 0 < s.stack.size) {f : Frame}
    (hf : s.admits ctx f = true → f.cursor ≤ base) : (s.accept ctx f).Within base := by
  intro g hg
  rw [callers_accept ctx hpos] at hg
  rcases List.mem_append.mp hg with hg | hg
  · exact h g hg
  · split at hg
    case isTrue hadmits =>
      obtain rfl := List.mem_singleton.mp hg
      exact hf hadmits
    case isFalse => cases hg

theorem within_start (hsp : ctx.registers.sp ≤ base) : (State.start ctx).Within base := by
  intro f hf
  rw [((State.fromRegisters_start ctx).2 f hf).1]
  exact hsp

/-- A look at a slot below the base offers frames that lie there. -/
theorem State.Within.looks {s s' : State} {cursor : Address} (h : s.Within base)
    (hpos : 0 < s.stack.size) (hcursor : cursor ≤ base) (hlooks : Looks ctx s cursor s') :
    s'.Within base := by
  cases hlooks with
  | counted t => exact h
  | call hshows hfree t t' =>
      exact State.Within.accept (s := s.setTally t) h hpos fun _ => hcursor
  | @behind value call below branch hshows hfree hbelow hbranch t t' =>
      have hbehind : ((s.setTally t).accept ctx branch).Within base := by
        refine State.Within.accept (s := s.setTally t) h hpos fun _ => ?_
        rw [Context.cursor_branchFrame hbranch]
        exact hcursor
      exact hbehind.accept (pos_accept (s := s.setTally t) ctx hpos branch) fun _ => hcursor

end Offers

/-! ## One round -/

section Rounds

variable {ctx : Context} {base : Address} {n : Nat}

theorem pos_phaseAt (ctx : Context) (n : Nat) : 0 < (phaseAt ctx n).state.stack.size :=
  (phaseAt_isJustified ctx n).stack.pos

/-- The words that the probe looks at lie below the frame pointer, which is below the base. -/
theorem cursor_le_base (hbase : ctx.limits.stackBase = some base) {fp : Address} {p : LeafProbe}
    (hp : phaseAt ctx n = .probing fp p) (hlt : p.cursor < ctx.leafEnd fp) : p.cursor ≤ base := by
  obtain ⟨hfp, -, -⟩ := probing_cases hp
  have hlive : ctx.isLive fp = true := (Option.filter_eq_some_iff.mp hfp).2
  unfold Context.isLive at hlive
  rw [Bool.and_eq_true, Bool.not_eq_true'] at hlive
  have hle := le_of_pastStackBase hbase hlive.2
  rw [Address.lt_iff_toNat, Context.toNat_leafEnd] at hlt
  rw [Address.le_iff_toNat] at hle ⊢
  omega

/-- A link that does not stray offers a frame below the base, unless the stack does not take it. -/
theorem PointerChain.within_extend (hbase : ctx.limits.stackBase = some base) {c : PointerChain}
    {f : Frame} {saved : Address} (h : c.state.Within base) (hpos : 0 < c.state.stack.size)
    (hlimit : limit? ctx c.state = none)
    (hlink : (ctx.followLink c.link (c.state.currentIp ctx)).1 = some (f, saved))
    (hnot : ¬ (Phase.chaining c).Strays ctx) (t : Tally) :
    (c.extend ctx (c.state.setTally t) f).state.Within base := by
  have hcursor : c.state.admits ctx f = true → f.cursor ≤ base := by
    intro hadmits
    obtain ⟨value, call, -, -, -, rfl⟩ := Context.followLink_eq_some hlink
    refine le_of_pastStackBase hbase (eq_false_of_ne_true fun hpast => ?_)
    exact hnot ⟨hpast, hlimit, _, saved, hlink, hadmits⟩
  unfold extend
  split
  · exact State.Within.accept (s := c.state.setTally t) h hpos hcursor
  · exact h

/-- A round of the scan asks for the base in front of its slot. -/
theorem StackScan.within_step (hbase : ctx.limits.stackBase = some base) {s : StackScan}
    (h : s.state.Within base) (hpos : 0 < s.state.stack.size) :
    ((Phase.scanning s).step ctx).state.Within base := by
  rcases Phase.stack_step_scanning ctx s with ⟨value, hlimit, -, hheld, hstack⟩ | hfirst
  · have hcursor := le_of_pastStackBase hbase (not_past_of_limit hlimit)
    have hconsider : (s.state.countIteration.consider ctx s.cursor value).Within base :=
      State.Within.looks (s := s.state.countIteration) h hpos hcursor (State.looks_consider hheld)
    unfold State.Within at hconsider ⊢
    rw [hstack]
    exact hconsider
  · intro f hf
    exact h f (hfirst.subset hf)

/-- A round that does not stray leaves no caller above the base that was not there before. -/
theorem within_succ (hbase : ctx.limits.stackBase = some base)
    (h : (phaseAt ctx n).state.Within base) (hnot : ¬ (phaseAt ctx n).Strays ctx) :
    (phaseAt ctx (n + 1)).state.Within base := by
  have hpos := pos_phaseAt ctx n
  rw [phaseAt_succ]
  cases hp : phaseAt ctx n with
  | probing fp p =>
      rw [hp] at h hpos
      cases hround : LeafProbe.round ctx fp p with
      | next p' =>
          rw [Phase.step_probing_next hround]
          obtain ⟨counter, -, -, rfl⟩ := LeafProbe.next_cases hround
          exact h
      | done s =>
          rw [Phase.step_probing_done hround]
          rcases LeafProbe.done_cases hround with ⟨-, rfl⟩ | ⟨counter, f, hlt, hf, rfl⟩
          · exact h
          · obtain ⟨value, call, -, rfl⟩ := Context.leafFrameAt_eq_some hf
            exact State.Within.accept
              (s := p.state.setTally (p.state.tally.looked counter)) h hpos
              fun _ => cursor_le_base hbase hp hlt
  | chaining c =>
      rw [hp] at h hpos hnot
      cases hround : PointerChain.round ctx c with
      | next c' =>
          rw [Phase.step_chaining_next hround]
          obtain ⟨counter, f, saved, -, hlimit, hlink, -, rfl⟩ := PointerChain.next_cases hround
          exact PointerChain.within_extend hbase h hpos hlimit hlink hnot _
      | done r =>
          rw [Phase.step_chaining_done hround]
          show r.1.Within base
          rcases PointerChain.done_cases hround with
            hr | ⟨counter, -, hr⟩ | ⟨counter, f, saved, -, hlimit, hlink, rfl⟩
          · rw [hr]
            exact h
          · rw [hr]
            exact h
          · rw [PointerChain.onward_fst]
            exact PointerChain.within_extend hbase h hpos hlimit hlink hnot _
  | leaving s onward =>
      rw [hp] at h
      cases onward <;> exact h
  | scanning s =>
      rw [hp] at h hpos
      exact StackScan.within_step hbase h hpos
  | ended s status =>
      rw [hp] at h
      exact h

/-- The restart leaves the frames that the registers show. -/
theorem within_of_restart (hsp : ctx.registers.sp ≤ base)
    (hbefore : (phaseAt ctx n).state.restarted = false)
    (hafter : (phaseAt ctx (n + 1)).state.restarted = true) :
    (phaseAt ctx (n + 1)).state.Within base := by
  have hkeeps : (phaseAt ctx n).state.KeepsRegisters ctx := by
    have hfloor := holds_floor ctx n
    generalize phaseAt ctx n = p at hfloor
    cases p <;> exact hfloor.registers
  rw [phaseAt_succ] at hafter ⊢
  generalize phaseAt ctx n = p at hbefore hafter hkeeps ⊢
  have hsteady (h : (p.step ctx).state.restarted = p.state.restarted) : False := by
    rw [hafter, hbefore] at h
    cases h
  rcases p.step_effect ctx with heq | heq | hgathers | hscans
  · exact (hsteady (by rw [heq])).elim
  · exact (hsteady (by rw [heq]; rfl)).elim
  · exact (hsteady hgathers.steady.restarted).elim
  · generalize (p.step ctx).state = s' at hscans hsteady
    cases hscans with
    | looked cursor hlooks => exact (hsteady hlooks.steady.restarted).elim
    | recovered resume hrecovers =>
        cases hrecovers with
        | rolledBack hmore hsite hfree t => exact (hsteady (State.restarted_rollBack ctx _ _)).elim
        | restarted hfew hnot t =>
            intro f hf
            rw [State.stack_backToRegisters, FrameStack.callers_truncate] at hf
            refine within_start hsp f ?_
            rw [← hkeeps.callers]
            exact hf

/-- Before the restart there is the chain, after it there is none. -/
theorem not_strays_of_restarted (h : (phaseAt ctx n).state.restarted = true) :
    ¬ (phaseAt ctx n).Strays ctx := by
  have hfresh : (phaseAt ctx n).Holds (fun s => s.restarted = false) fun _ => True :=
    holds_phaseAt (State.start_fresh ctx).2 (fun _ _ hs hround => hround.steady.restarted.trans hs)
      (fun _ _ => trivial) (fun _ _ _ _ => trivial) n
  intro hstrays
  generalize phaseAt ctx n = p at h hfresh hstrays
  cases p with
  | chaining c =>
      have hnot : c.state.restarted = false := hfresh
      rw [show c.state.restarted = true from h] at hnot
      cases hnot
  | _ => exact hstrays.elim

/-! ## The frame of a link that strays -/

theorem PointerChain.state_step_of_link {c : PointerChain} {f : Frame} {saved : Address}
    (hnull : c.link.isNull = false) (hlimit : limit? ctx c.state = none)
    (hlink : (ctx.followLink c.link (c.state.currentIp ctx)).1 = some (f, saved)) :
    ∃ t, ((Phase.chaining c).step ctx).state = (c.extend ctx (c.state.setTally t) f).state := by
  obtain ⟨t, hround⟩ : ∃ t, round ctx c =
      if (!saved.isNull &&
          decide (saved < (c.extend ctx (c.state.setTally t) f).link)) = true then
        .done ((c.extend ctx (c.state.setTally t) f).onward ctx)
      else .next { c.extend ctx (c.state.setTally t) f with link := saved } := by
    unfold round
    rw [if_neg (ne_true_of_eq_false hnull), hlimit]
    dsimp only
    rw [hlink]
    exact ⟨_, rfl⟩
  refine ⟨t, ?_⟩
  split at hround
  · rw [Phase.step_chaining_done hround]
    exact PointerChain.onward_fst ctx _
  · rw [Phase.step_chaining_next hround]
    rfl

/-- The stack has room for that frame, and takes it behind the others. -/
theorem Phase.Strays.exists_frame (hbase : ctx.limits.stackBase = some base)
    (h : (phaseAt ctx n).Strays ctx) :
    ∃ f, base < f.cursor ∧ (phaseAt ctx n).state.frameLimit? ctx = none ∧
      (phaseAt ctx (n + 1)).state.stack.callers = (phaseAt ctx n).state.stack.callers ++ [f] := by
  have hpos := pos_phaseAt ctx n
  rw [phaseAt_succ]
  generalize phaseAt ctx n = p at h hpos ⊢
  cases p with
  | chaining c =>
      obtain ⟨hpast, hlimit, f, saved, hlink, hadmits⟩ := h
      have hlt := lt_of_pastStackBase hbase hpast
      obtain ⟨t, hstate⟩ :=
        PointerChain.state_step_of_link (Address.isNull_eq_false_of_lt hlt) hlimit hlink
      obtain ⟨value, call, -, -, -, hf⟩ := Context.followLink_eq_some hlink
      refine ⟨f, ?_, (Option.or_eq_none_iff.mp hlimit).1, ?_⟩
      · rw [hf]
        exact hlt
      · have hadmits' : (c.state.setTally t).admits ctx f = true := hadmits
        rw [hstate]
        unfold PointerChain.extend
        rw [if_pos hadmits']
        show ((c.state.setTally t).accept ctx f).stack.callers = _
        rw [callers_accept (s := c.state.setTally t) ctx hpos, if_pos hadmits']
        rfl
  | _ => exact h.elim

/-- Until the chain is left no frame is taken away. -/
theorem callers_prefix_of_rank (m k : Nat) (h : (phaseAt ctx (m + k)).rank ≤ 2) :
    (phaseAt ctx m).state.stack.callers <+: (phaseAt ctx (m + k)).state.stack.callers := by
  induction k with
  | zero => exact List.prefix_rfl
  | succ k ih =>
      have hmono : (phaseAt ctx (m + k)).rank ≤ (phaseAt ctx (m + k + 1)).rank :=
        rank_mono ctx (Nat.le_succ _)
      refine (ih (Nat.le_trans hmono h)).trans ?_
      have hpos := pos_phaseAt ctx (m + k)
      have hsteps := (phaseAt ctx (m + k)).steps ctx
      rw [← phaseAt_succ] at hsteps
      have h : (phaseAt ctx (m + k + 1)).rank ≤ 2 := h
      show _ <+: (phaseAt ctx (m + k + 1)).state.stack.callers
      generalize phaseAt ctx (m + k) = p, phaseAt ctx (m + k + 1) = q at h hpos hsteps ⊢
      cases hsteps with
      | probe hround => exact (LeafProbe.gathers_of_next hround).keeps_callers hpos
      | probed hround => exact (LeafProbe.gathers_of_done hround).keeps_callers hpos
      | chain hround => exact (PointerChain.gathers_of_next hround).keeps_callers hpos
      | chained hround => exact (PointerChain.gathers_of_done hround).keeps_callers hpos
      | _ => simp [Phase.rank] at h

end Rounds

/-! ## The whole walk -/

section Walk

variable {ctx : Context} {base : Address} {n : Nat}

/-- Where no link has strayed, or the scan has been restarted, no caller lies above the base. -/
theorem within_phaseAt (hbase : ctx.limits.stackBase = some base) (hsp : ctx.registers.sp ≤ base)
    (h : (∀ m, ¬ (phaseAt ctx m).Strays ctx) ∨ (phaseAt ctx n).state.restarted = true) :
    (phaseAt ctx n).state.Within base := by
  induction n with
  | zero =>
      rw [state_first]
      exact within_start hsp
  | succ n ih =>
      rcases h with hnever | hnow
      · exact within_succ hbase (ih (Or.inl hnever)) (hnever n)
      · cases hbefore : (phaseAt ctx n).state.restarted with
        | true =>
            exact within_succ hbase (ih (Or.inr hbefore)) (not_strays_of_restarted hbefore)
        | false => exact within_of_restart hsp hbefore hnow

/-- Frame 0 lies at the stack pointer. -/
theorem State.Within.frames {s : State} (h : s.Within base) (hjustified : s.IsJustified ctx)
    (hsp : ctx.registers.sp ≤ base) : ∀ f ∈ s.stack.frames.toList, f.cursor ≤ base := by
  intro f hf
  rw [FrameStack.toList_frames] at hf
  rcases List.mem_append.mp hf with hf | hf
  · rw [(hjustified.stack.innermost f (Option.mem_toList.mp hf)).cursor]
    exact hsp
  · exact h f hf

/-- The frame of a link that strays is below those of the scan, unless the scan has been restarted. -/
theorem Phase.Strays.kept (hbase : ctx.limits.stackBase = some base) (hhalts : ctx.Halts)
    (hnot : (outcome ctx).1.restarted = false) (h : (phaseAt ctx n).Strays ctx) :
    ∃ f, base < f.cursor ∧ (phaseAt ctx n).state.frameLimit? ctx = none ∧
      (phaseAt ctx n).state.stack.callers ++ [f] <+: (outcome ctx).1.stack.callers := by
  obtain ⟨f, hlt, hroom, hcallers⟩ := h.exists_frame hbase
  refine ⟨f, hlt, hroom, ?_⟩
  -- the chain is left after the link has been followed
  obtain ⟨m, hleaving⟩ := leaving_of_halts hhalts
  have hlater : n + 1 ≤ m := by
    by_contra hlt
    have hmono : (phaseAt ctx m).rank ≤ (phaseAt ctx n).rank := rank_mono ctx (by omega)
    rw [hleaving] at hmono
    generalize phaseAt ctx n = p at h hmono
    cases p with
    | chaining c => exact absurd hmono (by simp [rank])
    | _ => exact h.elim
  obtain ⟨k, rfl⟩ := Nat.exists_eq_add_of_le hlater
  have hbefore : (phaseAt ctx n).state.stack.callers ++ [f] <+:
      (beforeScan ctx).1.stack.callers := by
    have hfirst : (phaseAt ctx (n + 1)).state.stack.callers <+:
        (phaseAt ctx (n + 1 + k)).state.stack.callers := by
      refine callers_prefix_of_rank (n + 1) k ?_
      rw [hleaving]
      exact Nat.le_refl 2
    rw [hcallers, hleaving] at hfirst
    exact hfirst
  -- the frames before the scan are those that no rollback takes away
  have hrests : (outcome ctx).1.Rests ctx :=
    outcome_of_beforeScan (rests_beforeScan ctx) fun _ _ hs hround => hs.scans hround
  have hgrounds := hrests.grounds.callers
  unfold State.grounds at hgrounds
  rw [hnot] at hgrounds
  exact hbefore.trans hgrounds

/-- A frame that was found below the frame limit is reported. -/
theorem mem_reported {s earlier : State} {f : Frame} (hpos : 0 < s.stack.size)
    (hearlier : 0 < earlier.stack.size) (hroom : earlier.frameLimit? ctx = none)
    (h : earlier.stack.callers ++ [f] <+: s.stack.callers) :
    f ∈ reported ctx.limits s.stack.frames.toList := by
  obtain ⟨f₀, hf₀⟩ := FrameStack.exists_innermost hpos
  have hframes : s.stack.frames.toList = f₀ :: s.stack.callers := by
    rw [FrameStack.toList_frames, hf₀]
    rfl
  have hmem : f ∈ f₀ :: (earlier.stack.callers ++ [f]) := by simp
  have hfirst : f₀ :: (earlier.stack.callers ++ [f]) <+: s.stack.frames.toList := by
    rw [hframes]
    exact List.cons_prefix_cons.mpr ⟨rfl, h⟩
  unfold reported
  cases hmax : ctx.limits.maxFrames with
  | none => exact hfirst.subset hmem
  | some max =>
      have hless : earlier.stack.size < max.toNat := by
        by_contra hge
        have hfull : ctx.limits.framesExhausted earlier.stack.size = true := by
          unfold Limits.framesExhausted
          rw [hmax]
          exact decide_eq_true (Nat.le_of_not_lt hge)
        unfold State.frameLimit? at hroom
        rw [if_pos hfull] at hroom
        cases hroom
      refine (List.prefix_take_iff.mpr ⟨hfirst, ?_⟩).subset hmem
      rw [List.length_cons, List.length_append, FrameStack.length_callers, List.length_singleton]
      omega

/-- The trace has no frame beyond the base exactly if none was found there, or the restart has taken it
away. -/
theorem run_below_base_iff (hbase : ctx.limits.stackBase = some base)
    (hsp : ctx.registers.sp ≤ base) (hhalts : ctx.Halts)
    (huser : ¬ ctx.arch.isKernelAddress ctx.registers.pc = true) :
    (∀ f ∈ (run ctx).frames, f.cursor ≤ base) ↔
      (outcome ctx).1.restarted = true ∨ ∀ n, ¬ (phaseAt ctx n).Strays ctx := by
  constructor
  · intro hall
    by_contra hnot
    obtain ⟨hfresh, hsome⟩ := not_or.mp hnot
    obtain ⟨n, hstrays⟩ := not_forall_not.mp hsome
    obtain ⟨f, hlt, hroom, hkept⟩ := hstrays.kept hbase hhalts (eq_false_of_ne_true hfresh)
    refine Address.not_le.mpr hlt (hall f ?_)
    rw [run_of_outcome huser]
    exact mem_reported (outcome_isJustified ctx).stack.pos (pos_phaseAt ctx n) hroom hkept
  · intro hgood f hf
    obtain ⟨m, hm⟩ := ended_of_halts hhalts
    have hwithin : (phaseAt ctx m).state.Within base := by
      refine within_phaseAt hbase hsp (hgood.symm.imp_right fun hrestarted => ?_)
      rw [hm]
      exact hrestarted
    have hframes := hwithin.frames (phaseAt_isJustified ctx m) hsp
    rw [hm] at hframes
    exact hframes f ((run_prefix_outcome ctx).subset hf)

end Walk

/-- **A frame lies beyond the base of the stack exactly where the chain follows a link there.**  Once
found it stays in the trace, unless the scan is restarted. -/
theorem frames_below_base_iff (ctx : Context) {base : Address}
    (hbase : ctx.limits.stackBase = some base) (hsp : ctx.registers.sp ≤ base) :
    ((∀ n, ∀ f ∈ (phaseAt ctx n).state.stack.frames.toList, f.cursor ≤ base) ↔
      ∀ n, ¬ (phaseAt ctx n).Strays ctx) ∧
    (∀ t, Returns ctx t → ((∀ f ∈ t.frames, f.cursor ≤ base) ↔
      ctx.arch.isKernelAddress ctx.registers.pc = true ∨ (outcome ctx).1.restarted = true ∨
        ∀ n, ¬ (phaseAt ctx n).Strays ctx)) := by
  refine ⟨⟨?_, ?_⟩, ?_⟩
  · intro hall n hstrays
    obtain ⟨f, hlt, -, hcallers⟩ := hstrays.exists_frame hbase
    refine Address.not_le.mpr hlt (hall (n + 1) f ?_)
    rw [FrameStack.toList_frames, hcallers]
    simp
  · intro hnever n
    exact (within_phaseAt hbase hsp (Or.inl hnever)).frames (phaseAt_isJustified ctx n) hsp
  · intro t ht
    obtain rfl := eq_run_of_returns ht
    by_cases hkernel : ctx.arch.isKernelAddress ctx.registers.pc = true
    · rw [run_of_kernel hkernel]
      exact iff_of_true (fun f hf => absurd hf List.not_mem_nil) (Or.inl hkernel)
    · rw [or_iff_right hkernel]
      exact run_below_base_iff hbase hsp ((returns_run_iff.mp ht).resolve_left hkernel) hkernel

/-- A thread in `compute`, called by `handle`, called by `dispatch`.  The frame of `handle` is the last
thing on the stack; what it has saved as its caller's frame pointer is up to memory. -/
def savedPointer (saved : UInt64) : Context where
  arch := .x86_64
  target := Tables.target
    { images := [(⟨"app"⟩, .main, 0x400000, 0x410000)]
      routines := [("dispatch", 0x401100, 0x100), ("handle", 0x401200, 0x100),
        ("compute", 0x401300, 0x100)]
      code := [(0x401110, ⟨5, "call 0x401200"⟩), (0x401210, ⟨5, "call 0x401300"⟩),
        (0x401310, ⟨1, "nop"⟩)]
      words := [(0x7FFE0010, saved), (0x7FFE0018, 0x401215), (0x7FFE1000, 0),
        (0x7FFE1008, 0x401115)] }
  registers := (Registers.ofPcSp ⟨0x401310⟩ ⟨0x7FFE0000⟩).withFp ⟨0x7FFE0010⟩
  limits := { Limits.standard with stackBase := some ⟨0x7FFE0018⟩ }

/-- A chain that ends within the stack does not stray. -/
theorem savedPointer_never_strays :
    (savedPointer 0).limits.stackBase = some ⟨0x7FFE0018⟩ ∧
      (savedPointer 0).registers.sp ≤ ⟨0x7FFE0018⟩ ∧
      ∀ n, ¬ (phaseAt (savedPointer 0) n).Strays (savedPointer 0) := by
  have hsp : (savedPointer 0).registers.sp ≤ ⟨0x7FFE0018⟩ := by decide +kernel
  have hframes : ∀ f ∈ (run (savedPointer 0)).frames, f.cursor ≤ ⟨0x7FFE0018⟩ := by decide +kernel
  have hroom : (savedPointer 0).HasRoom := by decide +kernel
  have hkernel : ¬ (savedPointer 0).arch.isKernelAddress (savedPointer 0).registers.pc = true := by
    decide +kernel
  have hfresh : ¬ (outcome (savedPointer 0)).1.restarted = true := by decide +kernel
  have hiff := (frames_below_base_iff (savedPointer 0) rfl hsp).2 _ hroom.returns_run
  refine ⟨rfl, hsp, ?_⟩
  exact ((hiff.mp hframes).resolve_left hkernel).resolve_left hfresh

/-- One that leads beyond the base brings a frame from there. -/
theorem savedPointer_strays :
    ¬ ∀ base ∈ (savedPointer 0x7FFE1000).limits.stackBase,
      (savedPointer 0x7FFE1000).registers.sp ≤ base →
        ∀ f ∈ (run (savedPointer 0x7FFE1000)).frames, f.cursor ≤ base := by
  decide +kernel

end StackWalk.Walk
