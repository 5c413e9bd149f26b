import StackWalk.Proofs.Walk.Floor

/-!
# StackWalk.Proofs.Walk.Look — what a round of the scan does with the word in its slot

`Looks` and `Recovers` say what a round can do to what the walk has found.  Here is what it does do, as
far as it is known what the slot holds.  A word that comes to no verdict adds no frame (`consider_cases`);
one that does adds what the verdict says, which is the frame of its call, behind that of a tail call where
there is one.

The statements come in two layers.  `mem_added_settle` and `mem_added_consider` are about the word itself,
`StackScan.round_of_held` and its neighbours carry them through a round.
-/

namespace StackWalk.Walk

/-! ## Frames that are added -/

namespace FrameStack

variable {s s' : FrameStack}

/-- The callers that a stack has above as many as an earlier one had. -/
def added (s s' : FrameStack) : List Frame := s'.callers.drop s.callers.length

theorem added_of_prefix (h : s'.callers <+: s.callers) : s.added s' = [] :=
  List.drop_eq_nil_of_le h.length_le

theorem added_of_append {fs : List Frame} (h : s'.callers = s.callers ++ fs) : s.added s' = fs := by
  unfold added
  rw [h, List.drop_left]

theorem mem_added_of_prefix {f : Frame} (h : s.callers ++ [f] <+: s'.callers) : f ∈ s.added s' := by
  obtain ⟨fs, hfs⟩ := h
  rw [List.append_assoc] at hfs
  rw [added_of_append hfs.symm]
  exact List.mem_append_left _ (List.mem_singleton_self f)

end FrameStack

section Accept

variable {ctx : Context} {s : State}

/-- A frame that the stack takes becomes the newest one. -/
theorem last?_accept (hpos : 0 < s.stack.size) {f : Frame} (h : s.admits ctx f = true) :
    (s.accept ctx f).stack.last? = some f := by
  rw [FrameStack.last?_eq, callers_accept ctx hpos, if_pos h, List.getLast?_concat]
  rfl

theorem currentIp_of_last? {newest : Frame} (h : s.stack.last? = some newest) :
    s.currentIp ctx = newest.ip := by
  unfold State.currentIp
  rw [h]
  rfl

end Accept

/-! ## The word in the slot -/

namespace State

variable {ctx : Context} {s : State} {cursor value : Address} {call : Context.Call}

/-- Behind a tail call two frames are offered, one after the other. -/
theorem callers_settle_behind (hpos : 0 < s.stack.size) {branch : Frame}
    (h : s.verdict ctx cursor value call = .acceptBehind branch) :
    (s.settle ctx cursor value call).stack.callers =
      s.stack.callers ++ ((if s.admits ctx branch then [branch] else []) ++
        if (s.accept ctx branch).admits ctx (ctx.callFrame call value cursor cursor) then
          [ctx.callFrame call value cursor cursor] else []) := by
  have hpos' := pos_accept ctx hpos branch
  unfold settle
  rw [h]
  dsimp only
  rw [callers_accept ctx hpos', callers_accept ctx hpos, List.append_assoc]

/-- What the verdict on a candidate adds is the frame of its call, or that of the tail call below it. -/
theorem mem_added_settle (hpos : 0 < s.stack.size) {f : Frame}
    (hf : f ∈ s.stack.added (s.settle ctx cursor value call).stack) :
    f = ctx.callFrame call value cursor cursor ∨
      s.verdict ctx cursor value call = .acceptBehind f ∧ s.admits ctx f = true := by
  cases hverdict : s.verdict ctx cursor value call with
  | reject =>
      have hcallers : (s.settle ctx cursor value call).stack.callers <+: s.stack.callers := by
        unfold settle
        rw [hverdict]
        exact List.prefix_rfl
      rw [FrameStack.added_of_prefix hcallers] at hf
      exact absurd hf List.not_mem_nil
  | accept =>
      have hcallers := callers_accept ctx hpos (ctx.callFrame call value cursor cursor)
      unfold settle at hf
      rw [hverdict] at hf
      rw [FrameStack.added_of_append hcallers] at hf
      split at hf
      · exact Or.inl (List.mem_singleton.mp hf)
      · exact absurd hf List.not_mem_nil
  | acceptBehind branch =>
      rw [FrameStack.added_of_append (callers_settle_behind hpos hverdict)] at hf
      rcases List.mem_append.mp hf with hf | hf
      · split at hf
        case isTrue hadmits =>
          obtain rfl := List.mem_singleton.mp hf
          exact Or.inr ⟨rfl, hadmits⟩
        · exact absurd hf List.not_mem_nil
      · split at hf
        · exact Or.inl (List.mem_singleton.mp hf)
        · exact absurd hf List.not_mem_nil

/-- What a look at a word adds comes from a candidate whose call site is not blacklisted. -/
theorem mem_added_consider (hpos : 0 < s.stack.size) {f : Frame}
    (hf : f ∈ s.stack.added (s.consider ctx cursor value).stack) :
    ∃ call, ctx.isCodePointer value = true ∧ (ctx.callBefore value).1 = some call ∧
      call.site.address ∉ s.blacklist ∧
      (f = ctx.callFrame call value cursor cursor ∨
        s.verdict ctx cursor value call = .acceptBehind f ∧ s.admits ctx f = true) := by
  rcases consider_cases ctx s cursor value with ⟨t, hcount⟩ | ⟨call, t, hcode, hcall, hfree, hsettle⟩
  · rw [hcount, State.stack_setTally, FrameStack.added_of_prefix List.prefix_rfl] at hf
    exact absurd hf List.not_mem_nil
  · rw [hsettle] at hf
    exact ⟨call, hcode, hcall, hfree, mem_added_settle (s := s.setTally t) hpos hf⟩

end State

/-! ## A round of the scan -/

section Rounds

variable {ctx : Context} {s : StackScan}

namespace StackScan

theorem round_of_held {value : Address} (hlimit : s.limit? ctx = none)
    (hgap : s.state.gapAt ctx s.cursor = false) (hheld : ctx.slot? s.cursor = some value) :
    round ctx s =
      advance ctx ⟨s.state.countIteration.consider ctx s.cursor value, s.cursor, 0⟩ := by
  rw [round_of_no_gap hlimit hgap]
  unfold look
  rw [hheld]

end StackScan

namespace Phase

/-- An advance only counts. -/
theorem stack_step_of_advance {s₁ : StackScan}
    (h : StackScan.round ctx s = StackScan.advance ctx s₁) :
    ((scanning s).step ctx).state.stack = s₁.state.stack := by
  rcases StackScan.advance_cases ctx s₁ with ⟨next, t, -, hadvance⟩ | ⟨t, -, hadvance⟩
  · rw [step_scanning_next (h.trans hadvance)]
    rfl
  · rw [step_scanning_done (h.trans hadvance)]
    rfl

/-- A round of the scan that does not come to look at a word puts no frame on the stack. -/
theorem stack_step_scanning (ctx : Context) (s : StackScan) :
    (∃ value, s.limit? ctx = none ∧ s.state.gapAt ctx s.cursor = false ∧
        ctx.slot? s.cursor = some value ∧
        ((scanning s).step ctx).state.stack =
          (s.state.countIteration.consider ctx s.cursor value).stack) ∨
      ((scanning s).step ctx).state.stack.callers <+: s.state.stack.callers := by
  rcases StackScan.round_cases ctx s with ⟨status, hlimit, hround⟩ |
    ⟨state, resume, -, -, hrecover, hround⟩ | ⟨-, -, hround⟩ | ⟨hlimit, hgap, hround⟩
  · refine Or.inr ?_
    rw [step_scanning_done hround]
    exact List.prefix_rfl
  · refine Or.inr ?_
    rw [step_scanning_next hround]
    have hprefix := (State.recovers_of_recover hrecover).cuts_callers
    exact hprefix
  · refine Or.inr ?_
    rw [step_scanning_done hround]
    exact List.prefix_rfl
  · cases hheld : ctx.slot? s.cursor with
    | some value =>
        exact Or.inl ⟨value, hlimit, hgap, rfl,
          stack_step_of_advance (StackScan.round_of_held hlimit hgap hheld)⟩
    | none =>
        refine Or.inr ?_
        unfold StackScan.look at hround
        rw [hheld] at hround
        dsimp only at hround
        split at hround
        · rw [step_scanning_done hround]
          exact List.prefix_rfl
        · rw [stack_step_of_advance hround]
          exact List.prefix_rfl

end Phase

end Rounds

end StackWalk.Walk
