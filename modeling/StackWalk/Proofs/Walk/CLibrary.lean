import StackWalk.Proofs.Tables
import StackWalk.Proofs.Walk.Neighbours
import StackWalk.Proofs.Walk.Ratchets

/-!
# StackWalk.Proofs.Walk.CLibrary — no way back into the C library

The C library calls the program, and the program calls the C library.  But once a walk has come out of it,
a return address in it is more likely one that was left behind, and is refused.  What the walk asks is a
ratchet; what it should know is where its frames have been.  The ratchets are never behind the frames,
whether a recovery puts them anew or leaves them alone, so the answer is right after any number of
recoveries (`run_leavesForGood`).

A call that is put on a tail call is the exception.  It is judged before the frame of the tail call is
there, so it does not matter to it if that frame is the first one outside of the C library.
-/

namespace StackWalk.Walk

namespace Context

/-- The frame at this index lies in the C library, and the one above it, which is `f`, does not. -/
def LeavesAt (ctx : Context) (frames : List Frame) (i : Nat) (f : Frame) : Prop :=
  ∃ below, frames[i]? = some below ∧ frames[i + 1]? = some f ∧
    ctx.target.isCLibrary below.ip = true ∧ ctx.target.isCLibrary f.ip = false

/-- Once the frames have left the C library, none above returns into it.  Where the first one outside of
it is that of a tail call, nothing is said of the call that is put on it. -/
def LeavesForGood (ctx : Context) (frames : List Frame) : Prop :=
  ∀ i j f g value, ctx.LeavesAt frames i f → i + 1 < j → frames[j]? = some g →
    g.returnAddress = some value → ¬ (j = i + 2 ∧ f.IsTailCall) →
    ctx.target.isCLibrary value = false

end Context

section Frames

variable {ctx : Context} {frames frames' : List Frame} {i : Nat} {f g : Frame}

/-! ## Frames that are added and taken away -/

theorem getElem?_of_isPrefix {α : Type} {xs ys : List α} (h : xs <+: ys) {a : α}
    (ha : xs[i]? = some a) : ys[i]? = some a := by
  obtain ⟨rest, rfl⟩ := h
  have hlt : i < xs.length := (List.getElem?_eq_some_iff.mp ha).1
  rw [List.getElem?_append_left hlt]
  exact ha

/-- What stands in a list with one more element is an old element, or that one. -/
theorem getElem?_concat_cases {α : Type} {xs : List α} {x a : α} (h : (xs ++ [x])[i]? = some a) :
    i < xs.length ∧ xs[i]? = some a ∨ i = xs.length ∧ a = x := by
  have hi : i < (xs ++ [x]).length := (List.getElem?_eq_some_iff.mp h).1
  rw [List.length_append, List.length_singleton] at hi
  rcases Nat.lt_or_ge i xs.length with hlt | hge
  · rw [List.getElem?_append_left hlt] at h
    exact Or.inl ⟨hlt, h⟩
  · obtain rfl : i = xs.length := by omega
    rw [List.getElem?_concat_length] at h
    exact Or.inr ⟨rfl, (Option.some.inj h).symm⟩

theorem Context.LeavesAt.mono (h : ctx.LeavesAt frames i f) (hkept : frames <+: frames') :
    ctx.LeavesAt frames' i f := by
  obtain ⟨below, hbelow, hf, hinside, houtside⟩ := h
  exact ⟨below, getElem?_of_isPrefix hkept hbelow, getElem?_of_isPrefix hkept hf, hinside, houtside⟩

/-- What holds of all frames holds of the first ones. -/
theorem Context.LeavesForGood.cut (h : ctx.LeavesForGood frames') (hkept : frames <+: frames') :
    ctx.LeavesForGood frames := by
  intro i j f g value hleaves hlt hg
  exact h i j f g value (hleaves.mono hkept) hlt (getElem?_of_isPrefix hkept hg)

/-- What frame 0 has taken over does not matter. -/
theorem leavesForGood_asFound (h : ctx.LeavesForGood (asFound frames)) : ctx.LeavesForGood frames := by
  have hsame (i : Nat) : (asFound frames)[i + 1]? = frames[i + 1]? := by
    cases frames <;> rfl
  intro i j f g value hleaves hlt hg
  obtain ⟨below, hbelow, hf, hinside, houtside⟩ := hleaves
  obtain ⟨k, rfl⟩ : ∃ k, j = k + 1 := ⟨j - 1, by omega⟩
  refine h i (k + 1) f g value ?_ hlt ((hsame k).trans hg)
  cases i with
  | succ i => exact ⟨below, (hsame i).trans hbelow, (hsame _).trans hf, hinside, houtside⟩
  | zero =>
      refine ⟨FrameStack.withoutCaller below, ?_, (hsame 0).trans hf, hinside, houtside⟩
      unfold asFound
      rw [List.getElem?_modifyHead, hbelow]
      rfl

/-- Two frames are too few to leave the C library and return. -/
theorem leavesForGood_of_length (h : frames.length ≤ 2) : ctx.LeavesForGood frames := by
  intro i j f g value _ hlt hg
  have hj := (List.getElem?_eq_some_iff.mp hg).1
  omega

/-- With one more frame the frames leave the C library where they did, or at the new frame. -/
theorem Context.LeavesAt.of_concat (h : ctx.LeavesAt (frames ++ [g]) i f) :
    ctx.LeavesAt frames i f ∨ frames.length = i + 1 ∧ f = g := by
  obtain ⟨below, hbelow, hf, hinside, houtside⟩ := h
  rcases getElem?_concat_cases hf with ⟨hlt, hold⟩ | ⟨hlast, rfl⟩
  · rw [List.getElem?_append_left (Nat.lt_of_succ_lt hlt)] at hbelow
    exact Or.inl ⟨below, hbelow, hold, hinside, houtside⟩
  · exact Or.inr ⟨hlast.symm, rfl⟩

/-- A new frame must not return into the C library if the frames have left it before, unless it is put on
a tail call by which they do. -/
theorem Context.LeavesForGood.concat (h : ctx.LeavesForGood frames)
    (hg : ∀ value, g.returnAddress = some value →
      ∀ i f, ctx.LeavesAt frames i f → ¬ (frames.length = i + 2 ∧ f.IsTailCall) →
        ctx.target.isCLibrary value = false) :
    ctx.LeavesForGood (frames ++ [g]) := by
  intro i j f g' value hleaves hlt hg' hvalue hnot
  rcases getElem?_concat_cases hg' with ⟨hold, hg'⟩ | ⟨rfl, rfl⟩
  · rcases hleaves.of_concat with hleaves | ⟨hlast, -⟩
    · exact h i j f g' value hleaves hlt hg' hvalue hnot
    · omega
  · rcases hleaves.of_concat with hleaves | ⟨hlast, -⟩
    · exact hg value hvalue i f hleaves hnot
    · omega

/-! ## What the ratchet knows -/

theorem leavesCLibrary_of_getElem {ips : List Address} {below ip : Address}
    (hbelow : ips[i]? = some below) (hip : ips[i + 1]? = some ip)
    (hinside : ctx.target.isCLibrary below = true) (houtside : ctx.target.isCLibrary ip = false) :
    ctx.leavesCLibrary ips = true := by
  induction ips generalizing i with
  | nil => simp at hbelow
  | cons first ips ih =>
      cases ips with
      | nil => simp at hip
      | cons next ips =>
          rw [Context.leavesCLibrary_cons_cons]
          cases i with
          | zero =>
              obtain rfl : first = below := Option.some.inj hbelow
              obtain rfl : next = ip := Option.some.inj hip
              rw [hinside, houtside]
              rfl
          | succ i => rw [ih hbelow hip, Bool.or_true]

theorem Context.LeavesAt.leavesCLibrary (h : ctx.LeavesAt frames i f) :
    ctx.leavesCLibrary (frames.map Frame.ip) = true := by
  obtain ⟨below, hbelow, hf, hinside, houtside⟩ := h
  apply leavesCLibrary_of_getElem (i := i) _ _ hinside houtside
  · rw [List.getElem?_map, hbelow]
    rfl
  · rw [List.getElem?_map, hf]
    rfl

end Frames

section Walk

variable {ctx : Context} {s : State}

/-- Where the frames have left the C library, the walk knows. -/
theorem beenAbove_of_leavesAt (hcomes : ComesTo ctx (State.start ctx) s) {i : Nat} {f : Frame}
    (h : ctx.LeavesAt s.stack.found i f) : s.beenAboveCLibrary = true := by
  have hratchets := State.recompute_ratchetsLe_iff.mp (recompute_ratchetsLe_comesTo hcomes)
  apply hratchets.2
  rw [State.ips_eq]
  exact h.leavesCLibrary

/-- Above the C library a candidate in it is refused. -/
theorem isCLibrary_of_verdict (hpos : 0 < s.stack.size) (habove : s.beenAboveCLibrary = true)
    {cursor value : Address} {call : Context.Call}
    (h : s.verdict ctx cursor value call ≠ .reject) : ctx.target.isCLibrary value = false := by
  obtain ⟨below, -, hbelow, -⟩ := State.exists_last_ip hpos
  cases hvalue : ctx.target.isCLibrary value with
  | false => rfl
  | true =>
      refine absurd ?_ h
      unfold State.verdict
      rw [hbelow]
      show s.judge ctx cursor value call below.ip = .reject
      unfold State.judge
      rw [habove, hvalue]
      dsimp only
      split
      · rfl
      · rfl

theorem leavesForGood_accept (hpos : 0 < s.stack.size) (h : ctx.LeavesForGood s.stack.found) {f : Frame}
    (hf : ∀ value, f.returnAddress = some value →
      ∀ i g, ctx.LeavesAt s.stack.found i g → ¬ (s.stack.found.length = i + 2 ∧ g.IsTailCall) →
        ctx.target.isCLibrary value = false) :
    ctx.LeavesForGood (s.accept ctx f).stack.found := by
  rw [found_accept ctx hpos]
  by_cases hadmits : s.admits ctx f = true
  · rw [if_pos hadmits]
    exact h.concat hf
  · rw [if_neg hadmits, List.append_nil]
    exact h

/-- A candidate that is not refused may be put on what is there. -/
theorem leavesForGood_settle (hcomes : ComesTo ctx (State.start ctx) s)
    (h : ctx.LeavesForGood s.stack.found) (cursor value : Address) (call : Context.Call) :
    ctx.LeavesForGood (s.settle ctx cursor value call).stack.found := by
  have hpos : 0 < s.stack.size := ((State.rooted_start ctx).comesTo hcomes).stack
  have hallowed (hverdict : s.verdict ctx cursor value call ≠ .reject) (i : Nat) (g : Frame)
      (hleaves : ctx.LeavesAt s.stack.found i g) : ctx.target.isCLibrary value = false :=
    isCLibrary_of_verdict hpos (beenAbove_of_leavesAt hcomes hleaves) hverdict
  unfold State.settle
  cases hverdict : s.verdict ctx cursor value call with
  | reject => exact h
  | accept =>
      have haccepted : s.verdict ctx cursor value call ≠ .reject := by simp [hverdict]
      apply leavesForGood_accept hpos h
      rintro _ ⟨⟩ i g hleaves -
      exact hallowed haccepted i g hleaves
  | acceptBehind branch =>
      have haccepted : s.verdict ctx cursor value call ≠ .reject := by simp [hverdict]
      obtain ⟨below, -, hbranch⟩ := State.exists_below_of_verdict hverdict
      have htail := Context.isTailCall_branchFrame hbranch
      have hfirst : ctx.LeavesForGood (s.accept ctx branch).stack.found := by
        apply leavesForGood_accept hpos h
        intro value' hvalue'
        rw [htail.noReturn] at hvalue'
        cases hvalue'
      apply leavesForGood_accept (pos_accept ctx hpos branch) hfirst
      rintro _ ⟨⟩ i g hleaves hnot
      -- the verdict knows where the frames have been without the tail call, which is the exception
      have hbefore : ctx.LeavesAt s.stack.found i g := by
        rw [found_accept ctx hpos] at hleaves hnot
        by_cases hadmits : s.admits ctx branch = true
        · rw [if_pos hadmits] at hleaves hnot
          rcases hleaves.of_concat with hold | ⟨hlast, rfl⟩
          · exact hold
          · refine absurd ⟨?_, htail⟩ hnot
            rw [List.length_append, hlast]
            rfl
        · rw [if_neg hadmits, List.append_nil] at hleaves
          exact hleaves
      exact hallowed haccepted i g hbefore

theorem leavesForGood_consider (hcomes : ComesTo ctx (State.start ctx) s)
    (h : ctx.LeavesForGood s.stack.found) (cursor value : Address) :
    ctx.LeavesForGood (s.consider ctx cursor value).stack.found := by
  rcases State.consider_cases ctx s cursor value with ⟨t, hcount⟩ | ⟨call, t, -, -, -, hsettle⟩
  · rw [hcount]
    exact h
  · rw [hsettle]
    exact leavesForGood_settle (s := s.setTally t) (hcomes.tail (.counted t)) h cursor value call

theorem size_start_le (ctx : Context) : (State.start ctx).stack.size ≤ 2 := by
  rcases State.start_cases ctx with ⟨t, h⟩ | ⟨lr, call, t, -, -, h⟩
  · rw [h]
    exact Nat.le_succ 1
  · rw [h]
    show (State.accept ctx _ _).stack.size ≤ 2
    rcases stack_accept_cases ctx ((State.initial.addInnermost ctx).setTally t)
      (ctx.linkFrame call lr) with hstack | hstack
    · rw [hstack]
      exact Nat.le_succ 1
    · rw [hstack, FrameStack.size_backfill, FrameStack.size_append]
      exact Nat.le_refl 2

end Walk

/-- **A trace that has left the C library does not return into it**, whatever recoveries came in between
and whatever they did to the ratchets. -/
theorem run_leavesForGood (ctx : Context) (h : ctx.registers.fp = none) :
    ctx.LeavesForGood (run ctx).frames := by
  have houtcome : ctx.LeavesForGood (outcome ctx).1.stack.found := by
    apply outcome_of_operations (P := fun s => ctx.LeavesForGood s.stack.found)
      (Context.livePointer?_eq_none h)
    · apply leavesForGood_of_length
      rw [FrameStack.length_found]
      exact size_start_le ctx
    · intro s t hs
      exact hs
    · intro s cursor value hcomes hs _ _
      exact leavesForGood_consider hcomes hs cursor value
    · intro s s' resume hs hrecovers
      exact hs.cut hrecovers.cuts_found
  exact (leavesForGood_asFound houtcome).cut (run_prefix_outcome ctx)

/-- A thread in `wait` of the C library, which `work` of the program calls.  On the stack below the call of
`work` is a return address that a call of `work` by `sort`, which is in the C library, has left. -/
def calledBack : Context where
  arch := .x86_64
  target := Tables.target
    { images := [(⟨"app"⟩, .main, 0x400000, 0x410000), (⟨"libc.so.6"⟩, .cLibrary, 0x500000, 0x510000)]
      routines := [("work", 0x401000, 0x100), ("caller", 0x401100, 0x100), ("wait", 0x500000, 0x100),
        ("sort", 0x500100, 0x100)]
      code := [(0x401010, ⟨5, "call 0x500000"⟩), (0x401110, ⟨5, "call 0x401000"⟩),
        (0x500010, ⟨1, "nop"⟩), (0x500110, ⟨5, "call 0x401000"⟩)]
      words := [(0x7FFE0000, 0x401015), (0x7FFE0008, 0x500115), (0x7FFE0010, 0x401115)] }
  registers := Registers.ofPcSp ⟨0x500010⟩ ⟨0x7FFE0000⟩
  limits := { Limits.standard with stackBase := some ⟨0x7FFE0010⟩ }

/-- The call by `sort` leads to `work`, but it is refused. -/
theorem calledBack_leavesForGood :
    calledBack.registers.fp = none ∧ (run calledBack).stats.rejected = 1 ∧
      (run calledBack).frames.map Frame.ip = [⟨0x500010⟩, ⟨0x401010⟩, ⟨0x401110⟩] ∧
      calledBack.LeavesForGood (run calledBack).frames := by
  have hrejected : (run calledBack).stats.rejected = 1 := by decide +kernel
  have hframes : (run calledBack).frames.map Frame.ip = [⟨0x500010⟩, ⟨0x401010⟩, ⟨0x401110⟩] := by
    decide +kernel
  exact ⟨rfl, hrejected, hframes, run_leavesForGood calledBack rfl⟩

end StackWalk.Walk
