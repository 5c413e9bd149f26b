import StackWalk.Proofs.Json.Faithful
import StackWalk.Trace

/-!
# StackWalk.Proofs.Trace.RoundTrip — a stored trace is read back

A trace is written as one object in which the members of its status stand between the frames and the counters.
A reader sets aside whatever is neither, and reads the status from what it has set aside; the reason of the
status is a choice of its own, with fields of seven shapes.  So the status is read back if its members have
other keys and nest within the depth that can be set aside.
-/

namespace StackWalk

/-! ## Frames and counters -/

theorem ModuleId.codec_faithful : codec.Faithful :=
  ⟨codec_lawful, fun m => .string m.name⟩

namespace Frame

theorem schema_faithful : schema.Faithful where
  fields :=
    have address := Address.codec_faithful
    have nullable {name : String} : (Json.Field.nullable name Address.codec).Faithful :=
      .nullable address Address.codec_neverNull
    have named {name : String} : (Json.Field.nullable name .text).Faithful := .nullable .text fun _ => nofun
    ⟨.required address, nullable, .required ModuleId.codec_faithful, .required .text, .required address,
      nullable, nullable, nullable, named, named, .withDefault .truth, trivial⟩
  distinct := by decide

theorem codec_faithful : codec.Faithful :=
  Json.Schema.codec_faithful schema_faithful _ fun _ => rfl

end Frame

namespace Stats

theorem schema_faithful : schema.Faithful where
  fields := ⟨.required .word32, .required .word32, .required .word32, .required .word32, .required .word32,
    .required .word, .required .word32, trivial⟩
  distinct := by decide

theorem codec_faithful : codec.Faithful :=
  Json.Schema.codec_faithful schema_faithful _ fun _ => rfl

end Stats

/-! ## Faults -/

namespace Fault

theorem addressField_faithful (name : String) : (addressField name).Faithful :=
  ⟨⟨.required Address.codec_faithful, trivial⟩, List.pairwise_singleton _ _⟩

theorem contextFields_faithful : contextFields.Faithful :=
  ⟨⟨.required Address.codec_faithful, .required .text, trivial⟩, by decide⟩

theorem iterationsField_faithful : iterationsField.Faithful :=
  ⟨⟨.required .word32, trivial⟩, by decide⟩

theorem maxField_faithful (expected : String) : (maxField expected).Faithful :=
  ⟨⟨.required .word, trivial⟩, List.pairwise_singleton _ _⟩

/-- A fault is read back from the value that is written for it. -/
theorem ofValue_encode (fault : Fault) : ofValue fault.encode = .ok fault := by
  cases fault with
  | unreadableMemory a =>
    exact tag.read_write ofTagged "unreadable_memory" (addressField_faithful "address")
      (fun row => .unreadableMemory row.1) (a, ()) (by decide) (by decide) fun _ => rfl
  | decodeFailure a =>
    exact tag.read_write ofTagged "decode_failure" (addressField_faithful "address")
      (fun row => .decodeFailure row.1) (a, ()) (by decide) (by decide) fun _ => rfl
  | unsupportedContext pc reason =>
    exact tag.read_write ofTagged "unsupported_context" contextFields_faithful
      (fun row => .unsupportedContext row.1 row.2.1) (pc, reason, ()) (by decide) (by decide)
      fun _ => rfl
  | iterationsExhausted n =>
    exact tag.read_write ofTagged "iteration_exhausted" iterationsField_faithful
      (fun row => .iterationsExhausted row.1) (n, ()) (by decide) (by decide) fun _ => rfl
  | gapUnrecoverable cursor =>
    exact tag.read_write ofTagged "gap_unrecoverable" (addressField_faithful "stack_cursor")
      (fun row => .gapUnrecoverable row.1) (cursor, ()) (by decide) (by decide) fun _ => rfl
  | frameLimit n =>
    exact tag.read_write ofTagged "frame_limit" (maxField_faithful "usize")
      (fun row => .frameLimit row.1) (n, ()) (by decide) (by decide) fun _ => rfl
  | byteLimit n =>
    exact tag.read_write ofTagged "byte_limit" (maxField_faithful "u64")
      (fun row => .byteLimit row.1) (n, ()) (by decide) (by decide) fun _ => rfl

theorem exact_encode (fault : Fault) : Json.Exact fault.encode := by
  cases fault with
  | unreadableMemory | decodeFailure | gapUnrecoverable =>
    exact tag.exact_write _ ((addressField_faithful _).fields.exact_members _)
  | unsupportedContext => exact tag.exact_write _ (contextFields_faithful.fields.exact_members _)
  | iterationsExhausted => exact tag.exact_write _ (iterationsField_faithful.fields.exact_members _)
  | frameLimit | byteLimit => exact tag.exact_write _ ((maxField_faithful _).fields.exact_members _)

/-- All members of a written fault are texts and numbers. -/
theorem fits_encode {depth : Nat} (hdepth : 0 < depth) (fault : Fault) :
    Json.Fits (depth + 1) fault.encode := by
  cases fault with
  | unreadableMemory | decodeFailure | gapUnrecoverable =>
    exact .object hdepth (List.forall_mem_cons.mpr ⟨.string _, List.forall_mem_cons.mpr ⟨.string _, nofun⟩⟩)
  | unsupportedContext =>
    exact .object hdepth (List.forall_mem_cons.mpr ⟨.string _, List.forall_mem_cons.mpr ⟨.string _,
      List.forall_mem_cons.mpr ⟨.string _, nofun⟩⟩⟩)
  | iterationsExhausted | frameLimit | byteLimit =>
    exact .object hdepth (List.forall_mem_cons.mpr ⟨.string _, List.forall_mem_cons.mpr ⟨.number _, nofun⟩⟩)

end Fault

/-! ## Status -/

namespace Status

theorem reasonField_faithful : reasonField.Faithful := by
  refine ⟨⟨.required ⟨fun fault => ?_, Fault.exact_encode⟩, trivial⟩, by decide⟩
  have kept : (Json.Document.ofValue fault.encode).toValue Json.Document.nestingLimit = .ok fault.encode :=
    (Fault.fits_encode (by decide : 0 < 126) fault).toValue_ofValue
  simp [kept, Fault.ofValue_encode, bind, Except.bind]

theorem exact_members (status : Status) : ∀ m ∈ status.members, Json.Exact m.2 := by
  cases status with
  | complete => exact List.forall_mem_cons.mpr ⟨.string _, nofun⟩
  | incomplete | unsupported =>
    exact List.forall_mem_cons.mpr ⟨.string _, reasonField_faithful.fields.exact_members _⟩

theorem fits_members (status : Status) : ∀ m ∈ status.members, Json.Fits Json.Document.nestingLimit m.2 := by
  cases status with
  | complete => exact List.forall_mem_cons.mpr ⟨.string _, nofun⟩
  | incomplete reason | unsupported reason =>
    exact List.forall_mem_cons.mpr ⟨.string _,
      List.forall_mem_cons.mpr ⟨Fault.fits_encode (by decide : 0 < 126) reason, nofun⟩⟩

theorem key_mem_members (status : Status) : ∀ m ∈ status.members, m.1 = "status" ∨ m.1 = "reason" := by
  cases status with
  | complete => exact List.forall_mem_cons.mpr ⟨.inl rfl, nofun⟩
  | incomplete reason | unsupported reason =>
    exact List.forall_mem_cons.mpr ⟨.inl rfl, List.forall_mem_cons.mpr ⟨.inr rfl, nofun⟩⟩

/-- A status is read back from its members. -/
theorem read_members (status : Status) : (tag.splitValue (.object status.members)).bind ofTagged = .ok status := by
  cases status with
  | complete => rfl
  | incomplete reason =>
    exact tag.read_write ofTagged "incomplete" reasonField_faithful
      (fun row => .incomplete row.1) (reason, ()) (by decide) (by decide) fun _ => rfl
  | unsupported reason =>
    exact tag.read_write ofTagged "unsupported" reasonField_faithful
      (fun row => .unsupported row.1) (reason, ()) (by decide) (by decide) fun _ => rfl

end Status

/-! ## Traces -/

namespace Trace

open Json (Document)

/-- Members that are neither frames nor counters are set aside, the last one first. -/
theorem decodeMembers_append (found : Found) (ms more : List (String × Json))
    (hkeys : ∀ m ∈ ms, m.1 ≠ "frames" ∧ m.1 ≠ "stats")
    (hfits : ∀ m ∈ ms, Json.Fits Document.nestingLimit m.2) :
    decodeMembers found (Document.ofMembers (ms ++ more)) =
      decodeMembers { found with rest := ms.reverse ++ found.rest } (Document.ofMembers more) := by
  induction ms generalizing found with
  | nil => rfl
  | cons m ms ih =>
    obtain ⟨key, value⟩ := m
    obtain ⟨hframes, hstats⟩ := hkeys _ List.mem_cons_self
    have kept := (hfits _ List.mem_cons_self).toValue_ofValue
    have others := ih { found with rest := (key, value) :: found.rest }
      (fun m hm => hkeys m (List.mem_cons_of_mem _ hm)) fun m hm => hfits m (List.mem_cons_of_mem _ hm)
    simp only [] at hframes hstats kept
    simp [Document.ofMembers, decodeMembers, Document.key, hframes, hstats, kept, others, bind, Except.bind]

/-- The members of a written trace are found: the frames, the counters, and those of the status. -/
theorem decodeMembers_members (t : Trace) :
    decodeMembers ⟨none, none, []⟩ (Document.ofMembers (("frames", Frame.codec.list.encode t.frames) ::
        (t.status.members ++ [("stats", Stats.codec.encode t.stats)]))) =
      .ok ⟨some t.frames, some t.stats, t.status.members.reverse⟩ := by
  have frames := Frame.codec_faithful.list.lawful t.frames
  have stats := Stats.codec_faithful.lawful t.stats
  have kept := decodeMembers_append ⟨some t.frames, none, []⟩ t.status.members
    [("stats", Stats.codec.encode t.stats)]
    (fun m hm => by rcases t.status.key_mem_members m hm with h | h <;> rw [h] <;> decide)
    t.status.fits_members
  simp [Document.ofMembers, decodeMembers, Document.key, frames, kept, stats, bind, Except.bind]

theorem codec_faithful : codec.Faithful := by
  constructor
  · intro t
    have found := decodeMembers_members t
    have status := t.status.read_members
    cases hsplit : Status.tag.splitValue (.object t.status.members) with
    | error e => simp [hsplit, Except.bind] at status
    | ok tagged =>
      have status : Status.ofTagged tagged = .ok t.status := by simpa [hsplit, Except.bind] using status
      simp [codec, Document.ofValue, found, Document.orError, hsplit, status, bind, Except.bind]
  · intro t
    refine .object fun m hm => ?_
    simp only [List.mem_cons, List.mem_append, List.cons_append] at hm
    rcases hm with rfl | hm | rfl | hm
    · exact Frame.codec_faithful.list.exact t.frames
    · exact t.status.exact_members m hm
    · exact Stats.codec_faithful.exact t.stats
    · exact absurd hm List.not_mem_nil

/-- Every trace is read back from its text. -/
theorem parse_written_trace (t : Trace) : codec.parse (codec.toPretty t) = .ok t :=
  codec_faithful.parse_toPretty t

end Trace

end StackWalk
