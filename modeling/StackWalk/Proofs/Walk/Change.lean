import StackWalk.Proofs.Address
import StackWalk.Proofs.Walk.Callers
import StackWalk.Walk.Innermost
import StackWalk.Walk.PointerChain
import StackWalk.Walk.StackScan

/-!
# StackWalk.Proofs.Walk.Change — all that a round can do to the state of a walk

A round of a loop looks at one stack word or at one link.  Whatever it meets, its effect on what the
walk has found is one of a few: counters move, a frame with its evidence is offered to the stack, with a
tail call below it or without, or a recovery takes frames away.  `Gathers` lists the effects of a round
before the scan, `Scans` those of a round of the scan, each with the guards under which it happens.

The lemmas that end each section say that there are no others.  An invariant of the walk is proved by
cases on these two relations, and no proof after this module opens a round again to see what it does to
the state.
-/

namespace StackWalk.Walk

namespace State

/-! ## What an operation leaves alone -/

/-- The state with other counters. -/
def setTally (s : State) (t : Tally) : State := { s with tally := t }

@[simp] theorem stack_setTally (s : State) (t : Tally) : (s.setTally t).stack = s.stack := rfl
@[simp] theorem tally_setTally (s : State) (t : Tally) : (s.setTally t).tally = t := rfl
@[simp] theorem restartFloor_setTally (s : State) (t : Tally) :
    (s.setTally t).restartFloor = s.restartFloor := rfl
@[simp] theorem rollbackFloor_setTally (s : State) (t : Tally) :
    (s.setTally t).rollbackFloor = s.rollbackFloor := rfl
@[simp] theorem blacklist_setTally (s : State) (t : Tally) :
    (s.setTally t).blacklist = s.blacklist := rfl
@[simp] theorem restarted_setTally (s : State) (t : Tally) :
    (s.setTally t).restarted = s.restarted := rfl

/-- Acceptance moves the ratchets and the frames, and nothing else. -/
theorem accept_eq (ctx : Context) (s : State) (f : Frame) :
    ∃ main above, s.accept ctx f =
      { s with
        beenInMain := main
        beenAboveCLibrary := above
        stack := if s.admits ctx f then (s.stack.append ctx.limits f).backfill f else s.stack } := by
  unfold accept advanceTo
  split
  · split
    · exact ⟨_, _, rfl⟩
    · exact ⟨s.beenInMain, s.beenAboveCLibrary, rfl⟩
  · exact ⟨s.beenInMain, s.beenAboveCLibrary, rfl⟩

theorem stack_accept (ctx : Context) (s : State) (f : Frame) :
    (s.accept ctx f).stack =
      if s.admits ctx f then (s.stack.append ctx.limits f).backfill f else s.stack := by
  obtain ⟨_, _, h⟩ := accept_eq ctx s f
  rw [h]

@[simp]
theorem tally_accept (ctx : Context) (s : State) (f : Frame) :
    (s.accept ctx f).tally = s.tally := by
  obtain ⟨_, _, h⟩ := accept_eq ctx s f
  rw [h]

@[simp]
theorem restartFloor_accept (ctx : Context) (s : State) (f : Frame) :
    (s.accept ctx f).restartFloor = s.restartFloor := by
  obtain ⟨_, _, h⟩ := accept_eq ctx s f
  rw [h]

@[simp]
theorem rollbackFloor_accept (ctx : Context) (s : State) (f : Frame) :
    (s.accept ctx f).rollbackFloor = s.rollbackFloor := by
  obtain ⟨_, _, h⟩ := accept_eq ctx s f
  rw [h]

@[simp]
theorem blacklist_accept (ctx : Context) (s : State) (f : Frame) :
    (s.accept ctx f).blacklist = s.blacklist := by
  obtain ⟨_, _, h⟩ := accept_eq ctx s f
  rw [h]

@[simp]
theorem restarted_accept (ctx : Context) (s : State) (f : Frame) :
    (s.accept ctx f).restarted = s.restarted := by
  obtain ⟨_, _, h⟩ := accept_eq ctx s f
  rw [h]

theorem advanceAlong_eq (ctx : Context) (s : State) (below : Address) (ips : List Address) :
    ∃ main above, s.advanceAlong ctx below ips =
      { s with beenInMain := main, beenAboveCLibrary := above } := by
  induction ips generalizing s below with
  | nil => exact ⟨s.beenInMain, s.beenAboveCLibrary, rfl⟩
  | cons ip ips ih =>
      obtain ⟨main, above, h⟩ := ih (s.advanceRatchets ctx below ip) ip
      exact ⟨main, above, h⟩

/-- A reset moves the ratchets and nothing else. -/
theorem resetRatchets_eq (ctx : Context) (s : State) :
    ∃ main above, s.resetRatchets ctx =
      { s with beenInMain := main, beenAboveCLibrary := above } := by
  unfold resetRatchets recomputeRatchets
  split
  · split
    · exact ⟨false, false, rfl⟩
    case h_2 ip ips _ =>
      exact advanceAlong_eq ctx
        { s with beenInMain := ctx.target.isMain ip, beenAboveCLibrary := false } ip ips
  · exact ⟨s.beenInMain, s.beenAboveCLibrary, rfl⟩

/-- The state after the restart, with the frames that the registers show. -/
def backToRegisters (ctx : Context) (s : State) : State :=
  { s with
    restarted := true
    stack := s.stack.truncate s.restartFloor
    rollbackFloor := s.restartFloor }.resetRatchets ctx

/-- The restart cuts the frames to its floor, which becomes the floor of later rollbacks. -/
theorem backToRegisters_eq (ctx : Context) (s : State) :
    ∃ main above, s.backToRegisters ctx =
      { s with
        beenInMain := main
        beenAboveCLibrary := above
        restarted := true
        stack := s.stack.truncate s.restartFloor
        rollbackFloor := s.restartFloor } :=
  resetRatchets_eq ctx _

theorem rollBack_eq (ctx : Context) (s : State) (site : Address) :
    ∃ main above, s.rollBack ctx site =
      { s with
        beenInMain := main
        beenAboveCLibrary := above
        blacklist := site :: s.blacklist
        stack := s.stack.rollback } :=
  resetRatchets_eq ctx _

@[simp]
theorem stack_backToRegisters (ctx : Context) (s : State) :
    (s.backToRegisters ctx).stack = s.stack.truncate s.restartFloor := by
  obtain ⟨_, _, h⟩ := backToRegisters_eq ctx s
  rw [h]

@[simp]
theorem tally_backToRegisters (ctx : Context) (s : State) :
    (s.backToRegisters ctx).tally = s.tally := by
  obtain ⟨_, _, h⟩ := backToRegisters_eq ctx s
  rw [h]

@[simp]
theorem restartFloor_backToRegisters (ctx : Context) (s : State) :
    (s.backToRegisters ctx).restartFloor = s.restartFloor := by
  obtain ⟨_, _, h⟩ := backToRegisters_eq ctx s
  rw [h]

@[simp]
theorem rollbackFloor_backToRegisters (ctx : Context) (s : State) :
    (s.backToRegisters ctx).rollbackFloor = s.restartFloor := by
  obtain ⟨_, _, h⟩ := backToRegisters_eq ctx s
  rw [h]

@[simp]
theorem blacklist_backToRegisters (ctx : Context) (s : State) :
    (s.backToRegisters ctx).blacklist = s.blacklist := by
  obtain ⟨_, _, h⟩ := backToRegisters_eq ctx s
  rw [h]

@[simp]
theorem restarted_backToRegisters (ctx : Context) (s : State) :
    (s.backToRegisters ctx).restarted = true := by
  obtain ⟨_, _, h⟩ := backToRegisters_eq ctx s
  rw [h]

@[simp]
theorem stack_rollBack (ctx : Context) (s : State) (site : Address) :
    (s.rollBack ctx site).stack = s.stack.rollback := by
  obtain ⟨_, _, h⟩ := rollBack_eq ctx s site
  rw [h]

@[simp]
theorem tally_rollBack (ctx : Context) (s : State) (site : Address) :
    (s.rollBack ctx site).tally = s.tally := by
  obtain ⟨_, _, h⟩ := rollBack_eq ctx s site
  rw [h]

@[simp]
theorem restartFloor_rollBack (ctx : Context) (s : State) (site : Address) :
    (s.rollBack ctx site).restartFloor = s.restartFloor := by
  obtain ⟨_, _, h⟩ := rollBack_eq ctx s site
  rw [h]

@[simp]
theorem rollbackFloor_rollBack (ctx : Context) (s : State) (site : Address) :
    (s.rollBack ctx site).rollbackFloor = s.rollbackFloor := by
  obtain ⟨_, _, h⟩ := rollBack_eq ctx s site
  rw [h]

@[simp]
theorem blacklist_rollBack (ctx : Context) (s : State) (site : Address) :
    (s.rollBack ctx site).blacklist = site :: s.blacklist := by
  obtain ⟨_, _, h⟩ := rollBack_eq ctx s site
  rw [h]

@[simp]
theorem restarted_rollBack (ctx : Context) (s : State) (site : Address) :
    (s.rollBack ctx site).restarted = s.restarted := by
  obtain ⟨_, _, h⟩ := rollBack_eq ctx s site
  rw [h]

end State

/-! ## Evidence on the stack -/

theorem Context.toNat_word (ctx : Context) : ctx.word.toNat = 4 ∨ ctx.word.toNat = 8 := by
  unfold word
  rcases ctx.arch.wordSize_eq with h | h
  · rw [h]
    exact Or.inl rfl
  · rw [h]
    exact Or.inr rfl

theorem Context.word_pos (ctx : Context) : 0 < ctx.word.toNat := by
  rcases ctx.toNat_word with h | h <;> omega

/-- A slot shows a call: it holds a value that can be a return address, with the call in front of it. -/
structure Context.Shows (ctx : Context) (slot value : Address) (call : Context.Call) : Prop where
  held : ctx.slot? slot = some value
  code : ctx.isCodePointer value = true
  found : (ctx.callBefore value).1 = some call

namespace Context

theorem leafFrameAt_eq_some {ctx : Context} {cursor : Address} {f : Frame}
    (h : (ctx.leafFrameAt cursor).1 = some f) :
    ∃ value call, ctx.Shows cursor value call ∧ f = ctx.callFrame call value cursor cursor := by
  unfold leafFrameAt at h
  split at h
  · simp at h
  case h_2 value hvalue =>
    obtain ⟨hheld, hcode⟩ := Option.filter_eq_some_iff.mp hvalue
    obtain ⟨call, hcall, rfl⟩ := Option.map_eq_some_iff.mp h
    exact ⟨value, call, ⟨hheld, hcode, (Option.filter_eq_some_iff.mp hcall).1⟩, rfl⟩

theorem followLink_eq_some {ctx : Context} {link ip saved : Address} {f : Frame}
    (h : (ctx.followLink link ip).1 = some (f, saved)) :
    ∃ value call, ctx.slot? link = some saved ∧ saved ≠ link ∧
      ctx.Shows (ctx.slotAbove link) value call ∧
      f = ctx.callFrame call value (ctx.slotAbove link) link := by
  unfold followLink at h
  dsimp only at h
  split at h
  case h_1 saved' value hsaved hvalue =>
    split at h
    · simp at h
    case isFalse hgood =>
      obtain ⟨call, hcall, hpair⟩ := Option.map_eq_some_iff.mp h
      obtain ⟨rfl, rfl⟩ := Prod.mk.inj hpair
      obtain ⟨hne, hcode⟩ : saved' ≠ link ∧ ctx.isCodePointer value = true := by
        simpa using hgood
      exact ⟨value, call, hsaved, hne,
        ⟨hvalue, hcode, (Option.filter_eq_some_iff.mp hcall).1⟩, rfl⟩
  · simp at h

end Context

/-! ## The frames that the registers show -/

namespace State

/-- The link register adds nothing but counters to frame 0, or offers the frame of a call that it
shows. -/
theorem start_cases (ctx : Context) :
    (∃ t, State.start ctx = { (initial.addInnermost ctx).setTally t with restartFloor := 1 }) ∨
      (∃ lr call t, ctx.linkAddress? = some lr ∧ (ctx.callBefore lr).1 = some call ∧
        State.start ctx =
          let s := ((initial.addInnermost ctx).setTally t).accept ctx (ctx.linkFrame call lr)
          { s with restartFloor := s.stack.size }) := by
  unfold State.start addLinkFrame
  dsimp only
  split
  · exact Or.inl ⟨_, rfl⟩
  case h_2 lr hlr =>
    split
    · exact Or.inl ⟨_, rfl⟩
    case h_2 call hcall =>
      split
      · exact Or.inr ⟨lr, call, _, hlr, hcall, rfl⟩
      · exact Or.inl ⟨_, rfl⟩

/-- The registers blacklist nothing and restart nothing. -/
theorem start_fresh (ctx : Context) :
    (State.start ctx).blacklist = [] ∧ (State.start ctx).restarted = false := by
  rcases start_cases ctx with ⟨t, h⟩ | ⟨lr, call, t, -, -, h⟩
  · rw [h]
    exact ⟨rfl, rfl⟩
  · rw [h]
    exact ⟨blacklist_accept ctx _ _, restarted_accept ctx _ _⟩

theorem tally_addInnermost (ctx : Context) :
    (initial.addInnermost ctx).tally = { Tally.zero with undecoded := ctx.undecodedAtPc } := by
  have hzero : Tally.zero.undecoded + ctx.undecodedAtPc = ctx.undecodedAtPc := UInt32.zero_add _
  change { Tally.zero with undecoded := Tally.zero.undecoded + ctx.undecodedAtPc } = _
  rw [hzero]

/-- At the start nothing but failures to decode has been counted, for frame 0 and in front of the link
register. -/
theorem tally_start (ctx : Context) :
    ∃ failures, (State.start ctx).tally =
      { Tally.zero with undecoded := ctx.undecodedAtPc, failures := failures } := by
  have hcounted (counter : UInt32 → UInt32) : ((initial.addInnermost ctx).countFailures counter).tally =
      { Tally.zero with undecoded := ctx.undecodedAtPc, failures := counter 0 } := by
    unfold countFailures
    dsimp only
    rw [tally_addInnermost]
    rfl
  unfold State.start addLinkFrame
  dsimp only
  split
  · exact ⟨_, tally_addInnermost ctx⟩
  · split
    · exact ⟨_, hcounted _⟩
    · split
      · rw [tally_accept]
        exact ⟨_, hcounted _⟩
      · exact ⟨_, hcounted _⟩

end State

/-! ## Before the scan -/

/-- The effects of a round before the scan: counters move, or the frame of a call that a slot shows is
offered to the stack. -/
inductive Gathers (ctx : Context) (s : State) : State → Prop
  | counted (t : Tally) : Gathers ctx s (s.setTally t)
  | call {slot value : Address} {call : Context.Call} (h : ctx.Shows slot value call)
      (cursor : Address) (t t' : Tally) :
      Gathers ctx s (((s.setTally t).accept ctx (ctx.callFrame call value slot cursor)).setTally t')

/-- The counters after a look at one more word or link, and a search that has moved its own. -/
def Tally.looked (t : Tally) (counter : UInt32 → UInt32) : Tally :=
  { t with iterations := t.iterations + 1, failures := counter t.failures }

/-- The search for the return address of a function without a frame ends at the frame pointer, a fixed
distance above the stack pointer, or at the last address. -/
theorem Context.toNat_leafEnd (ctx : Context) (fp : Address) :
    (ctx.leafEnd fp).toNat =
      min fp.toNat (min (ctx.registers.sp.toNat + leafBytes.toNat) (0x1_0000_0000_0000_0000 - 1)) := by
  rw [← Address.toNat_aboveOrLast]
  unfold leafEnd Address.toNat
  exact apply_ite UInt64.toNat _ _ _

/-- Below its end the probe goes on behind a slot that shows nothing. -/
theorem LeafProbe.round_of_nothing {ctx : Context} {fp : Address} {p : LeafProbe}
    (hlt : p.cursor < ctx.leafEnd fp) (hnone : (ctx.leafFrameAt p.cursor).1 = none) :
    ∃ counter, LeafProbe.round ctx fp p =
      .next ⟨p.state.setTally (p.state.tally.looked counter), ctx.slotAbove p.cursor⟩ := by
  unfold LeafProbe.round
  rw [if_pos hlt]
  dsimp only
  rw [hnone]
  exact ⟨_, rfl⟩

/-- A round of the probe that goes on has found nothing in its slot. -/
theorem LeafProbe.next_cases {ctx : Context} {fp : Address} {p p' : LeafProbe}
    (h : LeafProbe.round ctx fp p = .next p') :
    ∃ counter, p.cursor < ctx.leafEnd fp ∧ (ctx.leafFrameAt p.cursor).1 = none ∧
      p' = ⟨p.state.setTally (p.state.tally.looked counter), ctx.slotAbove p.cursor⟩ := by
  unfold LeafProbe.round at h
  dsimp only at h
  split at h
  case isTrue hlt =>
    split at h
    · cases h
    case h_2 hnone =>
      cases h
      exact ⟨_, hlt, hnone, rfl⟩
  · cases h

/-- The probe ends where it is to end, or with the frame that it has found. -/
theorem LeafProbe.done_cases {ctx : Context} {fp : Address} {p : LeafProbe} {s : State}
    (h : LeafProbe.round ctx fp p = .done s) :
    (¬ p.cursor < ctx.leafEnd fp ∧ s = p.state) ∨
      ∃ (counter : UInt32 → UInt32) (f : Frame), p.cursor < ctx.leafEnd fp ∧
        (ctx.leafFrameAt p.cursor).1 = some f ∧
        s = (p.state.setTally (p.state.tally.looked counter)).accept ctx f := by
  unfold LeafProbe.round at h
  dsimp only at h
  split at h
  case isTrue hlt =>
    split at h
    case h_1 f hf =>
      cases h
      exact Or.inr ⟨_, f, hlt, hf, rfl⟩
    · cases h
  case isFalse hge =>
    cases h
    exact Or.inl ⟨hge, rfl⟩

theorem LeafProbe.gathers_of_next {ctx : Context} {fp : Address} {p p' : LeafProbe}
    (h : LeafProbe.round ctx fp p = .next p') : Gathers ctx p.state p'.state := by
  obtain ⟨counter, -, -, rfl⟩ := next_cases h
  exact .counted _

theorem LeafProbe.gathers_of_done {ctx : Context} {fp : Address} {p : LeafProbe} {s : State}
    (h : LeafProbe.round ctx fp p = .done s) : Gathers ctx p.state s := by
  rcases done_cases h with ⟨-, rfl⟩ | ⟨counter, f, -, hf, rfl⟩
  · exact .counted p.state.tally
  · obtain ⟨value, call, hshows, rfl⟩ := Context.leafFrameAt_eq_some hf
    exact .call hshows p.cursor _ _

theorem PointerChain.onward_fst (ctx : Context) (c : PointerChain) : (c.onward ctx).1 = c.state := by
  unfold PointerChain.onward
  split <;> rfl

@[simp]
theorem PointerChain.link_extend (ctx : Context) (c : PointerChain) (s : State) (f : Frame) :
    (c.extend ctx s f).link = c.link := by
  unfold extend
  split <;> rfl

/-- The chain goes on behind a confirmed link, if the next link is the last one or lies above. -/
theorem PointerChain.round_of_link {ctx : Context} {c : PointerChain} {f : Frame} {saved : Address}
    (hnull : c.link.isNull = false) (hlimit : limit? ctx c.state = none)
    (hlink : (ctx.followLink c.link (c.state.currentIp ctx)).1 = some (f, saved))
    (hup : saved.isNull = true ∨ ¬ saved < c.link) :
    ∃ counter, PointerChain.round ctx c =
      .next { c.extend ctx (c.state.setTally (c.state.tally.looked counter)) f with link := saved } := by
  have hgo (c' : PointerChain) (hlink : c'.link = c.link) :
      ¬ (!saved.isNull && decide (saved < c'.link)) = true := by
    rw [hlink]
    rcases hup with hnull | hge
    · rw [hnull]
      exact Bool.false_ne_true
    · rw [decide_eq_false hge, Bool.and_false]
      exact Bool.false_ne_true
  unfold PointerChain.round
  rw [if_neg (ne_true_of_eq_false hnull), hlimit]
  dsimp only
  rw [hlink]
  exact ⟨_, if_neg (hgo _ (link_extend ctx c _ f))⟩

/-- A round of the chain that goes on has confirmed its link, and the next link is the last one or lies
above. -/
theorem PointerChain.next_cases {ctx : Context} {c c' : PointerChain}
    (h : PointerChain.round ctx c = .next c') :
    ∃ (counter : UInt32 → UInt32) (f : Frame) (saved : Address),
      c.link.isNull = false ∧ limit? ctx c.state = none ∧
      (ctx.followLink c.link (c.state.currentIp ctx)).1 = some (f, saved) ∧
      (saved.isNull = true ∨ ¬ saved < c.link) ∧
      c' = { c.extend ctx (c.state.setTally (c.state.tally.looked counter)) f with link := saved } := by
  unfold PointerChain.round at h
  dsimp only at h
  split at h
  · cases h
  case isFalse hnull =>
    split at h
    · cases h
    case h_2 hlimit =>
      split at h
      · cases h
      case h_2 f saved hlink =>
        split at h
        · cases h
        case isFalse hnot =>
          cases h
          refine ⟨_, f, saved, eq_false_of_ne_true hnull, hlimit, hlink, ?_, rfl⟩
          by_cases hnull : saved.isNull = true
          · exact Or.inl hnull
          · refine Or.inr fun hlt => hnot ?_
            rw [link_extend, eq_false_of_ne_true hnull, decide_eq_true hlt]
            rfl

/-- The chain ends before a link that it does not follow or that is not confirmed, or behind one that
leads down. -/
theorem PointerChain.done_cases {ctx : Context} {c : PointerChain} {r : State × Onward}
    (h : PointerChain.round ctx c = .done r) :
    r.1 = c.state ∨
      (∃ counter, limit? ctx c.state = none ∧
        r.1 = c.state.setTally (c.state.tally.looked counter)) ∨
      ∃ (counter : UInt32 → UInt32) (f : Frame) (saved : Address),
        c.link.isNull = false ∧ limit? ctx c.state = none ∧
        (ctx.followLink c.link (c.state.currentIp ctx)).1 = some (f, saved) ∧
        r = (c.extend ctx (c.state.setTally (c.state.tally.looked counter)) f).onward ctx := by
  unfold PointerChain.round at h
  dsimp only at h
  split at h
  · cases h
    exact Or.inl (onward_fst ctx c)
  case isFalse hnull =>
    split at h
    · cases h
      exact Or.inl rfl
    case h_2 hlimit =>
      split at h
      · cases h
        exact Or.inr (Or.inl ⟨_, hlimit, onward_fst ctx _⟩)
      case h_2 f saved hlink =>
        split at h
        · cases h
          exact Or.inr (Or.inr ⟨_, f, saved, eq_false_of_ne_true hnull, hlimit, hlink, rfl⟩)
        · cases h

/-- The chain ends the walk where it is complete or where a limit is met. -/
theorem PointerChain.stop_cases {ctx : Context} {c : PointerChain} {r : State × Onward}
    {status : Status} (h : PointerChain.round ctx c = .done r) (hstop : r.2 = .stop status) :
    status = .complete ∨ r.1 = c.state ∧ limit? ctx c.state = some status := by
  have honward (c : PointerChain) (hstop : (c.onward ctx).2 = .stop status) :
      status = .complete := by
    unfold onward at hstop
    split at hstop <;> cases hstop
    rfl
  unfold PointerChain.round at h
  dsimp only at h
  split at h
  · cases h
    exact Or.inl (honward c hstop)
  · split at h
    case h_1 status' hlimit =>
      cases h
      cases hstop
      exact Or.inr ⟨rfl, hlimit⟩
    case h_2 =>
      split at h
      · cases h
        exact Or.inl (honward _ hstop)
      · split at h
        · cases h
          exact Or.inl (honward _ hstop)
        · cases h

/-- A confirmed link offers its frame. -/
theorem PointerChain.gathers_extend {ctx : Context} {c : PointerChain} {saved : Address} {f : Frame}
    (h : (ctx.followLink c.link (c.state.currentIp ctx)).1 = some (f, saved)) (t : Tally) :
    Gathers ctx c.state (c.extend ctx (c.state.setTally t) f).state := by
  obtain ⟨value, call, -, -, hshows, rfl⟩ := Context.followLink_eq_some h
  unfold PointerChain.extend
  split
  · exact .call hshows c.link _ _
  · exact .counted t

theorem PointerChain.gathers_of_next {ctx : Context} {c c' : PointerChain}
    (h : PointerChain.round ctx c = .next c') : Gathers ctx c.state c'.state := by
  obtain ⟨counter, f, saved, -, -, hlink, -, rfl⟩ := next_cases h
  exact gathers_extend hlink _

theorem PointerChain.gathers_of_done {ctx : Context} {c : PointerChain} {r : State × Onward}
    (h : PointerChain.round ctx c = .done r) : Gathers ctx c.state r.1 := by
  rcases done_cases h with hr | ⟨counter, -, hr⟩ | ⟨counter, f, saved, -, -, hlink, rfl⟩
  · rw [hr]
    exact .counted c.state.tally
  · rw [hr]
    exact .counted _
  · rw [onward_fst]
    exact gathers_extend hlink _

/-! ## A look at a word -/

namespace State

variable {ctx : Context} {s : State} {cursor value : Address} {call : Context.Call}

theorem consider_of_no_code (h : ctx.isCodePointer value = false) :
    s.consider ctx cursor value = s := by
  unfold consider
  rw [h]
  rfl

/-- A code address without a call in front of it is rejected. -/
theorem consider_of_no_call (hcode : ctx.isCodePointer value = true)
    (hcall : (ctx.callBefore value).1 = none) :
    s.consider ctx cursor value = (s.countFailures (ctx.callBefore value).2).countRejected := by
  unfold consider
  rw [if_pos hcode]
  dsimp only
  rw [hcall]

theorem consider_of_listed (hcode : ctx.isCodePointer value = true)
    (hcall : (ctx.callBefore value).1 = some call) (hlisted : call.site.address ∈ s.blacklist) :
    s.consider ctx cursor value = (s.countFailures (ctx.callBefore value).2).countRejected := by
  unfold consider
  rw [if_pos hcode]
  dsimp only
  rw [hcall]
  exact if_pos (List.contains_iff_mem.mpr hlisted)

theorem consider_of_call (hcode : ctx.isCodePointer value = true)
    (hcall : (ctx.callBefore value).1 = some call) (hfree : call.site.address ∉ s.blacklist) :
    s.consider ctx cursor value =
      (s.countFailures (ctx.callBefore value).2).settle ctx cursor value call := by
  have hnot : ¬ (s.countFailures (ctx.callBefore value).2).blacklist.contains call.site.address =
      true := fun h => hfree (List.contains_iff_mem.mp h)
  unfold consider
  rw [if_pos hcode]
  dsimp only
  rw [hcall]
  exact if_neg hnot

/-- A look at a word only counts, unless it finds a call in front of it that is not blacklisted; then it
comes to the verdict. -/
theorem consider_cases (ctx : Context) (s : State) (cursor value : Address) :
    (∃ t, s.consider ctx cursor value = s.setTally t) ∨
      ∃ call t, ctx.isCodePointer value = true ∧ (ctx.callBefore value).1 = some call ∧
        call.site.address ∉ s.blacklist ∧
        s.consider ctx cursor value = (s.setTally t).settle ctx cursor value call := by
  cases hcode : ctx.isCodePointer value with
  | false => exact Or.inl ⟨s.tally, consider_of_no_code hcode⟩
  | true =>
      cases hcall : (ctx.callBefore value).1 with
      | none => exact Or.inl ⟨_, consider_of_no_call hcode hcall⟩
      | some call =>
          by_cases hlisted : call.site.address ∈ s.blacklist
          · exact Or.inl ⟨_, consider_of_listed hcode hcall hlisted⟩
          · exact Or.inr ⟨call, _, rfl, rfl, hlisted, consider_of_call hcode hcall hlisted⟩

end State

/-! ## A look at one slot of the scan -/

/-- The effects of a look at the slot at `cursor`: counters move, or the frame of the call that the slot
shows is offered to the stack, behind the frame of a tail call where there is one.  A blacklisted call
site is never offered. -/
inductive Looks (ctx : Context) (s : State) (cursor : Address) : State → Prop
  | counted (t : Tally) : Looks ctx s cursor (s.setTally t)
  | call {value : Address} {call : Context.Call} (h : ctx.Shows cursor value call)
      (hfree : call.site.address ∉ s.blacklist) (t t' : Tally) :
      Looks ctx s cursor
        (((s.setTally t).accept ctx (ctx.callFrame call value cursor cursor)).setTally t')
  | behind {value : Address} {call : Context.Call} {below branch : Frame}
      (h : ctx.Shows cursor value call) (hfree : call.site.address ∉ s.blacklist)
      (hbelow : s.stack.last? = some below)
      (hbranch : ctx.branchFrame? cursor call.callee below.ip = some branch) (t t' : Tally) :
      Looks ctx s cursor
        ((((s.setTally t).accept ctx branch).accept ctx
          (ctx.callFrame call value cursor cursor)).setTally t')

namespace Looks

variable {ctx : Context} {s s' : State} {cursor : Address}

/-- Counting before a look does not change what it can do. -/
theorem of_setTally {t : Tally} (h : Looks ctx (s.setTally t) cursor s') : Looks ctx s cursor s' := by
  cases h with
  | counted t' => exact .counted t'
  | call h hfree t' t'' => exact .call (s := s) h hfree t' t''
  | behind h hfree hbelow hbranch t' t'' => exact .behind (s := s) h hfree hbelow hbranch t' t''

/-- Counting after a look does not change what it has done. -/
theorem setTally (h : Looks ctx s cursor s') (t : Tally) : Looks ctx s cursor (s'.setTally t) := by
  cases h with
  | counted _ => exact .counted t
  | call h hfree t' _ => exact .call h hfree t' t
  | behind h hfree hbelow hbranch t' _ => exact .behind h hfree hbelow hbranch t' t

end Looks

/-- A candidate is put behind a tail call only above a frame that the tail call leads to. -/
theorem State.exists_below_of_verdict {ctx : Context} {s : State} {cursor value : Address}
    {call : Context.Call} {branch : Frame}
    (h : s.verdict ctx cursor value call = .acceptBehind branch) :
    ∃ below, s.stack.last? = some below ∧
      ctx.branchFrame? cursor call.callee below.ip = some branch := by
  unfold State.verdict at h
  split at h
  · cases h
  case h_2 below hbelow =>
    refine ⟨below, hbelow, ?_⟩
    unfold State.judge at h
    dsimp only at h
    -- only the middle of the judgement asks for a tail call; all other ends are `accept` or `reject`
    repeat' split at h
    all_goals first | cases h; assumption | cases h

theorem State.looks_settle {ctx : Context} {s : State} {cursor value : Address} {call : Context.Call}
    (h : ctx.Shows cursor value call) (hfree : call.site.address ∉ s.blacklist) :
    Looks ctx s cursor (s.settle ctx cursor value call) := by
  unfold State.settle
  split
  · exact .counted _
  · exact .call h hfree s.tally _
  case h_3 branch hverdict =>
    obtain ⟨below, hbelow, hbranch⟩ := exists_below_of_verdict hverdict
    exact .behind h hfree hbelow hbranch s.tally _

theorem State.looks_consider {ctx : Context} {s : State} {cursor value : Address}
    (hheld : ctx.slot? cursor = some value) : Looks ctx s cursor (s.consider ctx cursor value) := by
  rcases consider_cases ctx s cursor value with ⟨t, hcount⟩ | ⟨call, t, hcode, hcall, hfree, hsettle⟩
  · rw [hcount]
    exact .counted t
  · rw [hsettle]
    exact (looks_settle (s := s.setTally t) ⟨hheld, hcode, hcall⟩ hfree).of_setTally

/-! ## What rounds without a recovery keep -/

/-- The blacklist, the floors, and whether the scan has been restarted, are as they were. -/
structure State.Steady (s s' : State) : Prop where
  blacklist : s'.blacklist = s.blacklist
  restarted : s'.restarted = s.restarted
  restartFloor : s'.restartFloor = s.restartFloor
  rollbackFloor : s'.rollbackFloor = s.rollbackFloor

/-- What counting and every offer of a frame keep, a round before the scan keeps. -/
theorem Gathers.preserves {ctx : Context} {s s' : State} {P : State → Prop} (h : Gathers ctx s s')
    (hs : P s) (hcount : ∀ s t, P s → P (s.setTally t))
    (hoffer : ∀ s f, P s → P (s.accept ctx f)) : P s' := by
  cases h with
  | counted t => exact hcount s t hs
  | call hshows cursor t t' => exact hcount _ t' (hoffer _ _ (hcount s t hs))

/-- What counting and every offer of a frame keep, a look at a slot keeps. -/
theorem Looks.preserves {ctx : Context} {s s' : State} {cursor : Address} {P : State → Prop}
    (h : Looks ctx s cursor s') (hs : P s) (hcount : ∀ s t, P s → P (s.setTally t))
    (hoffer : ∀ s f, P s → P (s.accept ctx f)) : P s' := by
  cases h with
  | counted t => exact hcount s t hs
  | call hshows hfree t t' => exact hcount _ t' (hoffer _ _ (hcount s t hs))
  | behind hshows hfree hbelow hbranch t t' =>
      exact hcount _ t' (hoffer _ _ (hoffer _ _ (hcount s t hs)))

theorem Gathers.steady {ctx : Context} {s s' : State} (h : Gathers ctx s s') : s.Steady s' := by
  cases h <;> constructor <;> simp

theorem Looks.steady {ctx : Context} {s s' : State} {cursor : Address} (h : Looks ctx s cursor s') :
    s.Steady s' := by
  cases h <;> constructor <;> simp

/-! ## Recoveries -/

/-- The effects of a successful recovery, and where the scan goes on: the restart, which comes once and
only where no frame may be rolled back, or a rollback that blacklists the newest frame. -/
inductive Recovers (ctx : Context) (s : State) : State → Address → Prop
  | restarted (hfew : s.stack.size ≤ s.rollbackFloor ∨ s.stack.last?.bind Frame.callSite = none)
      (hnot : s.restarted = false) (t : Tally) :
      Recovers ctx s ((s.setTally t).backToRegisters ctx) ctx.registers.sp
  | rolledBack {site : Address} (hmore : s.rollbackFloor < s.stack.size)
      (hsite : s.stack.last?.bind Frame.callSite = some site) (hfree : site ∉ s.blacklist)
      (t : Tally) :
      Recovers ctx s ((s.setTally t).rollBack ctx site)
        (((s.setTally t).rollBack ctx site).resumePoint ctx)

theorem Recovers.of_setTally {ctx : Context} {s s' : State} {t : Tally} {resume : Address}
    (h : Recovers ctx (s.setTally t) s' resume) : Recovers ctx s s' resume := by
  cases h with
  | restarted hfew hnot t' => exact .restarted (s := s) hfew hnot t'
  | rolledBack hmore hsite hfree t' => exact .rolledBack (s := s) hmore hsite hfree t'

theorem State.restart_cases (ctx : Context) (s : State) (cursor : Address) :
    (s.restarted = true ∧ s.restart ctx cursor = (s, .error (.gapUnrecoverable cursor))) ∨
      (s.restarted = false ∧ s.restart ctx cursor = (s.backToRegisters ctx, .ok ctx.registers.sp)) := by
  unfold State.restart
  cases s.restarted with
  | true => exact Or.inl ⟨rfl, rfl⟩
  | false => exact Or.inr ⟨rfl, rfl⟩

/-- A recovery either takes frames away or does nothing but count. -/
theorem State.recover_cases (ctx : Context) (s : State) (cursor : Address) :
    (∃ s' resume, s.recover ctx cursor = (s', .ok resume) ∧ Recovers ctx s s' resume) ∨
      s.recover ctx cursor = (s.countRecovery, .error (.gapUnrecoverable cursor)) := by
  have hrestart (hfew : s.stack.size ≤ s.rollbackFloor ∨ s.stack.last?.bind Frame.callSite = none) :
      (∃ s' resume, s.countRecovery.restart ctx cursor = (s', .ok resume) ∧
        Recovers ctx s s' resume) ∨
      s.countRecovery.restart ctx cursor =
        (s.countRecovery, .error (.gapUnrecoverable cursor)) := by
    rcases restart_cases ctx s.countRecovery cursor with ⟨-, h⟩ | ⟨hnot, h⟩
    · exact Or.inr h
    · exact Or.inl ⟨_, _, h, .restarted hfew hnot _⟩
  unfold State.recover
  dsimp only
  split
  case isTrue hfew => exact hrestart (Or.inl hfew)
  case isFalse hmore =>
    split
    case h_1 hnone => exact hrestart (Or.inr hnone)
    case h_2 site hsite =>
      split
      · exact Or.inr rfl
      case isFalse hlisted =>
        have hfree : site ∉ s.blacklist := fun hmem => hlisted (List.contains_iff_mem.mpr hmem)
        exact Or.inl ⟨_, _, rfl, .rolledBack (s := s) (Nat.lt_of_not_le hmore) hsite hfree _⟩

theorem State.recovers_of_recover {ctx : Context} {s s' : State} {cursor resume : Address}
    (h : s.recover ctx cursor = (s', .ok resume)) : Recovers ctx s s' resume := by
  rcases recover_cases ctx s cursor with ⟨state, resume', hrecover, hrecovers⟩ | hrecover
  · rw [hrecover] at h
    cases h
    exact hrecovers
  · rw [hrecover] at h
    cases h

/-- A recovery takes the newest frames away and changes no other caller. -/
theorem Recovers.cuts_callers {ctx : Context} {s s' : State} {resume : Address}
    (h : Recovers ctx s s' resume) : s'.stack.callers <+: s.stack.callers := by
  cases h with
  | restarted hfew hnot t =>
      rw [State.stack_backToRegisters, FrameStack.callers_truncate]
      exact List.take_prefix _ _
  | rolledBack hmore hsite hfree t =>
      rw [State.stack_rollBack, FrameStack.callers_rollback]
      exact List.take_prefix _ _

/-- As they were found, the frames that a recovery leaves are the first ones. -/
theorem Recovers.cuts_found {ctx : Context} {s s' : State} {resume : Address}
    (h : Recovers ctx s s' resume) : s'.stack.found <+: s.stack.found := by
  cases h with
  | restarted hfew hnot t =>
      rw [State.stack_backToRegisters, FrameStack.found_truncate]
      exact List.take_prefix _ _
  | rolledBack hmore hsite hfree t =>
      rw [State.stack_rollBack, FrameStack.found_rollback]
      exact List.take_prefix _ _

/-! ## The scan -/

/-- The effects of a round of the scan. -/
inductive Scans (ctx : Context) (s s' : State) : Prop
  | looked (cursor : Address) (h : Looks ctx s cursor s')
  | recovered (resume : Address) (h : Recovers ctx s s' resume)

namespace StackScan

variable {ctx : Context} {s s' : StackScan} {r : State × Status}

theorem advance_cases (ctx : Context) (s : StackScan) :
    (∃ next t, s.cursor.above? ctx.word = some next ∧
        advance ctx s = .next ⟨s.state.setTally t, next, s.unreadable⟩) ∨
      (∃ t, s.cursor.above? ctx.word = none ∧
        advance ctx s = .done (s.state.setTally t, .complete)) := by
  unfold advance
  dsimp only
  split
  case h_1 hnone => exact Or.inr ⟨_, hnone, rfl⟩
  case h_2 next hnext => exact Or.inl ⟨next, _, hnext, rfl⟩

theorem look_cases (ctx : Context) (s : StackScan) :
    (∃ state next unreadable, Looks ctx s.state s.cursor state ∧
        s.cursor.above? ctx.word = some next ∧ look ctx s = .next ⟨state, next, unreadable⟩) ∨
      (∃ state, Looks ctx s.state s.cursor state ∧ look ctx s = .done (state, .complete)) := by
  -- an advance only counts, so it keeps what the look before it has done
  have hadvance (s₁ : StackScan) (hlooks : Looks ctx s.state s.cursor s₁.state)
      (hcursor : s₁.cursor = s.cursor) :
      (∃ state next unreadable, Looks ctx s.state s.cursor state ∧
          s.cursor.above? ctx.word = some next ∧ advance ctx s₁ = .next ⟨state, next, unreadable⟩) ∨
        (∃ state, Looks ctx s.state s.cursor state ∧ advance ctx s₁ = .done (state, .complete)) := by
    rcases advance_cases ctx s₁ with ⟨next, t, hnext, h⟩ | ⟨t, -, h⟩
    · exact Or.inl ⟨_, next, _, hlooks.setTally t, hcursor ▸ hnext, h⟩
    · exact Or.inr ⟨_, hlooks.setTally t, h⟩
  unfold look
  split
  · dsimp only
    split
    · exact Or.inr ⟨_, .counted _, rfl⟩
    · exact hadvance _ (.counted _) rfl
  case h_2 value hvalue => exact hadvance _ (State.looks_consider hvalue) rfl

theorem round_of_limit {status : Status} (h : s.limit? ctx = some status) :
    round ctx s = .done (s.state, status) := by
  unfold round
  rw [h]

/-- A scan that goes on is not beyond the base of the stack. -/
theorem not_past_of_limit (h : s.limit? ctx = none) : ctx.limits.pastStackBase s.cursor = false := by
  unfold limit? at h
  split at h
  · cases h
  case isFalse hnot => exact eq_false_of_ne_true hnot

theorem round_of_gap (hlimit : s.limit? ctx = none) (hgap : s.state.gapAt ctx s.cursor = true) :
    round ctx s =
      match s.state.countIteration.recover ctx s.cursor with
      | (state, .ok cursor) => .next ⟨state, cursor, 0⟩
      | (state, .error fault) => .done (state, .incomplete fault) := by
  have hgap : s.state.countIteration.gapAt ctx s.cursor = true := hgap
  unfold round
  rw [hlimit]
  exact if_pos hgap

theorem round_of_no_gap (hlimit : s.limit? ctx = none)
    (hgap : s.state.gapAt ctx s.cursor = false) :
    round ctx s = look ctx { s with state := s.state.countIteration } := by
  have hgap : ¬ s.state.countIteration.gapAt ctx s.cursor = true := ne_true_of_eq_false hgap
  unfold round
  rw [hlimit]
  exact if_neg hgap

/-- A round of the scan ends at a limit, recovers from a gap or fails to, or looks at its slot. -/
theorem round_cases (ctx : Context) (s : StackScan) :
    (∃ status, s.limit? ctx = some status ∧ round ctx s = .done (s.state, status)) ∨
      (∃ state resume, s.limit? ctx = none ∧ s.state.gapAt ctx s.cursor = true ∧
        s.state.countIteration.recover ctx s.cursor = (state, .ok resume) ∧
        round ctx s = .next ⟨state, resume, 0⟩) ∨
      (s.limit? ctx = none ∧ s.state.gapAt ctx s.cursor = true ∧
        round ctx s = .done (s.state.countIteration.countRecovery,
          .incomplete (.gapUnrecoverable s.cursor))) ∨
      (s.limit? ctx = none ∧ s.state.gapAt ctx s.cursor = false ∧
        round ctx s = look ctx { s with state := s.state.countIteration }) := by
  cases hlimit : s.limit? ctx with
  | some status => exact Or.inl ⟨status, rfl, round_of_limit hlimit⟩
  | none =>
      cases hgap : s.state.gapAt ctx s.cursor with
      | true =>
          have hround := round_of_gap hlimit hgap
          rcases State.recover_cases ctx s.state.countIteration s.cursor with
            ⟨state, resume, hrecover, -⟩ | hrecover
          · rw [hrecover] at hround
            exact Or.inr (Or.inl ⟨state, resume, rfl, rfl, hrecover, hround⟩)
          · rw [hrecover] at hround
            exact Or.inr (Or.inr (Or.inl ⟨rfl, rfl, hround⟩))
      | false => exact Or.inr (Or.inr (Or.inr ⟨rfl, rfl, round_of_no_gap hlimit hgap⟩))

/-- A round of the scan that goes on has looked at its slot and moves to the next one, or, where there is
a gap, has recovered and moves to where the recovery leads. -/
theorem next_cases (h : round ctx s = .next s') :
    (s.state.gapAt ctx s.cursor = false ∧ Looks ctx s.state s.cursor s'.state ∧
        s.cursor.above? ctx.word = some s'.cursor) ∨
      (s.state.gapAt ctx s.cursor = true ∧ Recovers ctx s.state s'.state s'.cursor) := by
  rcases round_cases ctx s with ⟨status, -, hround⟩ | ⟨state, resume, -, hgap, hrecover, hround⟩ |
    ⟨-, -, hround⟩ | ⟨-, hgap, hround⟩ <;> rw [hround] at h
  · cases h
  · cases h
    exact Or.inr ⟨hgap, (State.recovers_of_recover hrecover).of_setTally⟩
  · cases h
  · rcases look_cases ctx { s with state := s.state.countIteration } with
      ⟨state, next, unreadable, hlooks, hnext, hlook⟩ | ⟨state, -, hlook⟩
    · rw [hlook] at h
      cases h
      exact Or.inl ⟨hgap, hlooks.of_setTally, hnext⟩
    · rw [hlook] at h
      cases h

theorem looks_of_no_gap (hgap : s.state.gapAt ctx s.cursor = false) (h : round ctx s = .next s') :
    Looks ctx s.state s.cursor s'.state := by
  rcases next_cases h with ⟨-, hlooks, -⟩ | ⟨hseen, -⟩
  · exact hlooks
  · rw [hgap] at hseen
    cases hseen

theorem recovers_of_gap (hgap : s.state.gapAt ctx s.cursor = true) (h : round ctx s = .next s') :
    Recovers ctx s.state s'.state s'.cursor := by
  rcases next_cases h with ⟨hnot, -⟩ | ⟨-, hrecovers⟩
  · rw [hgap] at hnot
    cases hnot
  · exact hrecovers

/-- A round that ends the scan has done no more than look at its slot. -/
theorem looks_of_done (h : round ctx s = .done r) : Looks ctx s.state s.cursor r.1 := by
  rcases round_cases ctx s with ⟨status, -, hround⟩ | ⟨state, resume, -, -, -, hround⟩ |
    ⟨-, -, hround⟩ | ⟨-, -, hround⟩ <;> rw [hround] at h
  · cases h
    exact .counted s.state.tally
  · cases h
  · cases h
    exact .counted _
  · rcases look_cases ctx { s with state := s.state.countIteration } with
      ⟨state, next, unreadable, -, -, hlook⟩ | ⟨state, hlooks, hlook⟩
    · rw [hlook] at h
      cases h
    · rw [hlook] at h
      cases h
      exact hlooks.of_setTally

theorem scans_of_next (h : round ctx s = .next s') : Scans ctx s.state s'.state := by
  rcases next_cases h with ⟨-, hlooks, -⟩ | ⟨-, hrecovers⟩
  · exact .looked s.cursor hlooks
  · exact .recovered s'.cursor hrecovers

theorem scans_of_done (h : round ctx s = .done r) : Scans ctx s.state r.1 :=
  .looked s.cursor (looks_of_done h)

end StackScan

end StackWalk.Walk
