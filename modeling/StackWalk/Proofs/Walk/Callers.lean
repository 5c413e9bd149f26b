import StackWalk.Walk.State

/-!
# StackWalk.Proofs.Walk.Callers — frame 0 and the frames above it

Every operation on the frames treats frame 0 and the frames above it differently: frame 0 is filled in
and cleared again, the callers above it are only appended and cut off.  Here a frame stack is read as
these two parts, and each operation is given its effect on either.  All later statements about the
frames of a walk rest on these equations and never open an operation again.

Where the frames are compared as a whole, they are read as they were found, without what frame 0 has
taken over since: `found` only grows at its end and is only cut there.
-/

namespace StackWalk.Walk

namespace FrameStack

/-- Frame 0, once it has been added. -/
def innermost? (s : FrameStack) : Option Frame := s.frames.toList.head?

/-- The frames above frame 0, the innermost one first. -/
def callers (s : FrameStack) : List Frame := s.frames.toList.tail

theorem toList_frames (s : FrameStack) :
    s.frames.toList = s.innermost?.toList ++ s.callers := by
  unfold innermost? callers
  cases s.frames.toList <;> rfl

theorem length_callers (s : FrameStack) : s.callers.length = s.size - 1 := by
  simp [callers, size]

theorem exists_innermost {s : FrameStack} (h : 0 < s.size) : ∃ f, s.innermost? = some f := by
  unfold innermost?
  cases hl : s.frames.toList with
  | nil => simp [size, ← Array.length_toList, hl] at h
  | cons f rest => exact ⟨f, rfl⟩

/-- The newest frame is the newest caller, or else frame 0. -/
theorem last?_eq (s : FrameStack) : s.last? = s.callers.getLast?.or s.innermost? := by
  unfold last? callers innermost?
  rw [← Array.getLast?_toList]
  cases s.frames.toList with
  | nil => rfl
  | cons f rest =>
      cases rest with
      | nil => rfl
      | cons g rest => simp [List.getLast?_cons]

/-! ## Adding frames -/

theorem callers_append (limits : Limits) {s : FrameStack} (h : 0 < s.size) (f : Frame) :
    (s.append limits f).callers = s.callers ++ [f] := by
  show (s.frames.push f).toList.tail = s.callers ++ [f]
  obtain ⟨g, hg⟩ := exists_innermost h
  rw [Array.toList_push, toList_frames, hg]
  rfl

theorem innermost?_append (limits : Limits) {s : FrameStack} (h : 0 < s.size) (f : Frame) :
    (s.append limits f).innermost? = s.innermost? := by
  show (s.frames.push f).toList.head? = s.innermost?
  obtain ⟨g, hg⟩ := exists_innermost h
  rw [Array.toList_push, toList_frames, hg]
  rfl

/-! ## Frame 0 -/

@[simp]
theorem callers_mapInnermost (change : Frame → Frame) (s : FrameStack) :
    (s.mapInnermost change).callers = s.callers := by
  unfold mapInnermost callers
  rw [Array.toList_modify]
  cases s.frames.toList <;> simp

@[simp]
theorem innermost?_mapInnermost (change : Frame → Frame) (s : FrameStack) :
    (s.mapInnermost change).innermost? = s.innermost?.map change := by
  unfold mapInnermost innermost?
  rw [Array.toList_modify]
  cases s.frames.toList <;> simp

@[simp]
theorem callers_backfill (s : FrameStack) (caller : Frame) :
    (s.backfill caller).callers = s.callers := by
  unfold backfill
  split <;> simp

/-- What a frame takes over from its caller: nothing from one without a return address. -/
theorem innermost?_backfill (s : FrameStack) (caller : Frame) :
    (s.backfill caller).innermost? =
      s.innermost?.map (if caller.returnAddress.isSome then takeOver caller else id) := by
  unfold backfill
  split <;> simp

@[simp]
theorem gapSeen_backfill (s : FrameStack) (caller : Frame) :
    (s.backfill caller).gapSeen = s.gapSeen := by
  unfold backfill
  split <;> rfl

/-! ## Taking frames away -/

@[simp]
theorem callers_truncate (s : FrameStack) (count : Nat) :
    (s.truncate count).callers = s.callers.take (count - 1) := by
  have htake : (s.frames.take count).toList.tail = s.callers.take (count - 1) := by
    unfold callers
    rw [Array.take, Array.toList_extract]
    cases count <;> cases s.frames.toList <;> simp
  unfold truncate
  dsimp only
  split
  · rw [callers_mapInnermost]
    exact htake
  · exact htake

/-- Frame 0 loses what it has taken over as soon as it is alone. -/
theorem innermost?_truncate (s : FrameStack) {count : Nat} (h : 0 < count) :
    (s.truncate count).innermost? =
      s.innermost?.map (if min count s.size = 1 then withoutCaller else id) := by
  have htake : (s.frames.take count).toList.head? = s.innermost? := by
    obtain ⟨n, rfl⟩ : ∃ n, count = n + 1 := ⟨count - 1, by omega⟩
    unfold innermost?
    rw [Array.take, Array.toList_extract]
    cases s.frames.toList <;> simp
  -- whether frame 0 is alone is asked after the cut, of the frames that are left
  have hsize : (s.frames.take count).size = min count s.size := by
    simp [size]
  by_cases hone : min count s.size = 1
  · have hcut : s.truncate count =
        mapInnermost withoutCaller { s with frames := s.frames.take count, gapSeen := false } :=
      if_pos (hsize.trans hone)
    rw [if_pos hone, hcut, innermost?_mapInnermost]
    exact congrArg (Option.map withoutCaller) htake
  · have hcut : s.truncate count = { s with frames := s.frames.take count, gapSeen := false } :=
      if_neg fun h => hone (hsize.symm.trans h)
    rw [if_neg hone, hcut, Option.map_id_fun, id]
    exact htake

/-- What has been cut is not seen as a gap any more. -/
@[simp]
theorem gapSeen_truncate (s : FrameStack) (count : Nat) : (s.truncate count).gapSeen = false := by
  unfold truncate
  dsimp only
  split <;> rfl

@[simp]
theorem gapSeen_rollback (s : FrameStack) : s.rollback.gapSeen = false :=
  gapSeen_truncate s s.keptByRollback

theorem keptByRollback_pos (s : FrameStack) : 0 < s.keptByRollback := by
  unfold keptByRollback
  omega

/-- A rollback takes the newest frame away, if there is another one. -/
theorem keptByRollback_lt {s : FrameStack} (h : 1 < s.size) : s.keptByRollback < s.size := by
  unfold keptByRollback
  omega

@[simp]
theorem callers_rollback (s : FrameStack) :
    s.rollback.callers = s.callers.take (s.keptByRollback - 1) :=
  callers_truncate s s.keptByRollback

@[simp]
theorem size_rollback (s : FrameStack) : s.rollback.size = min s.keptByRollback s.size :=
  size_truncate s s.keptByRollback

end FrameStack

/-! ## Frames as they were found -/

/-- Frames as they were found: without what frame 0 has taken over since. -/
def asFound (frames : List Frame) : List Frame :=
  frames.modifyHead FrameStack.withoutCaller

@[simp]
theorem length_asFound (frames : List Frame) : (asFound frames).length = frames.length :=
  List.length_modifyHead

theorem asFound_take (frames : List Frame) (count : Nat) :
    asFound (frames.take count) = (asFound frames).take count := by
  unfold asFound
  cases count <;> cases frames <;> rfl

theorem map_ip_asFound (frames : List Frame) :
    (asFound frames).map Frame.ip = frames.map Frame.ip := by
  unfold asFound
  cases frames <;> rfl

/-- Frame 0 is found as it was before it took anything over. -/
theorem asFound_modify {change : Frame → Frame}
    (h : ∀ f, FrameStack.withoutCaller (change f) = FrameStack.withoutCaller f)
    (frames : List Frame) : asFound (frames.modify 0 change) = asFound frames := by
  cases frames with
  | nil => rfl
  | cons f rest => exact congrArg (· :: rest) (h f)

namespace FrameStack

/-- The frames of a stack as they were found. -/
def found (s : FrameStack) : List Frame := asFound s.frames.toList

@[simp]
theorem length_found (s : FrameStack) : s.found.length = s.size := by
  unfold found
  rw [length_asFound]
  exact Array.length_toList

/-- The newest frame is the last one that has been found; if it is frame 0, it may have taken something
over since. -/
theorem getLast?_found (s : FrameStack) :
    s.found.getLast? = s.last?.map (if s.size = 1 then withoutCaller else id) := by
  unfold found last? size
  rw [← Array.getLast?_toList, ← Array.length_toList]
  cases s.frames.toList with
  | nil => rfl
  | cons f rest =>
      cases rest with
      | nil => rfl
      | cons g rest => simp [asFound, List.getLast?_cons]

theorem withoutCaller_takeOver (caller f : Frame) :
    withoutCaller (takeOver caller f) = withoutCaller f := by
  unfold takeOver
  split <;> rfl

theorem found_append (limits : Limits) {s : FrameStack} (h : 0 < s.size) (f : Frame) :
    (s.append limits f).found = s.found ++ [f] := by
  obtain ⟨f₀, hf₀⟩ := exists_innermost h
  unfold found
  rw [toList_frames, toList_frames, innermost?_append _ h, callers_append _ h, hf₀]
  rfl

theorem found_mapInnermost (change : Frame → Frame)
    (h : ∀ f, withoutCaller (change f) = withoutCaller f) (s : FrameStack) :
    (s.mapInnermost change).found = s.found := by
  unfold found mapInnermost
  rw [Array.toList_modify]
  exact asFound_modify h _

@[simp]
theorem found_backfill (s : FrameStack) (caller : Frame) : (s.backfill caller).found = s.found := by
  unfold backfill
  split
  · exact found_mapInnermost _ (withoutCaller_takeOver caller) s
  · rfl

@[simp]
theorem found_truncate (s : FrameStack) (count : Nat) :
    (s.truncate count).found = s.found.take count := by
  have htake : asFound (s.frames.take count).toList = s.found.take count := by
    rw [Array.take, Array.toList_extract]
    exact asFound_take s.frames.toList count
  unfold truncate
  dsimp only
  split
  · exact (found_mapInnermost withoutCaller (fun _ => rfl) _).trans htake
  · exact htake

@[simp]
theorem found_rollback (s : FrameStack) :
    s.rollback.found = s.found.take s.keptByRollback :=
  found_truncate s s.keptByRollback

end FrameStack

end StackWalk.Walk
