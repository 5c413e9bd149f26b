import StackWalk.Proofs.Json.Faithful
import StackWalk.Proofs.Maps
import StackWalk.Snapshot.Defect
import StackWalk.Snapshot.Walk

/-!
# StackWalk.Proofs.Snapshot.RoundTrip — a stored snapshot is read back

A snapshot is a record of records, so that it is read back as soon as every field is: what is left out when it is
written must be what its absence stands for.  The registers that were captured by name are the one part that is
no record; their names are the keys of an object, and they are read back because a map has every name once.
-/

namespace StackWalk

/-! ## Registers -/

namespace RegisterMap

/-- The members of an object are read into the map one by one. -/
theorem decodeMembers_ofMembers (registers : RegisterMap) (entries : List (String × UInt64)) :
    decodeMembers registers
        (Json.Document.ofMembers (entries.map fun entry => (entry.1, Json.natural entry.2))) =
      .ok (registers.insertMany entries) := by
  induction entries generalizing registers with
  | nil => rfl
  | cons entry entries ih =>
    obtain ⟨name, value⟩ := entry
    exact (ih (registers.insert name value)).trans (by rw [Std.ExtTreeMap.insertMany_cons])

theorem codec_faithful : codec.Faithful := by
  constructor
  · intro registers
    have read := decodeMembers_ofMembers ∅ registers.toList
    rw [insertMany_toList] at read
    simp [codec, Json.Document.ofValue, read, Json.Document.orError, bind, Except.bind]
  · intro registers
    refine .object fun m hm => ?_
    obtain ⟨entry, -, rfl⟩ := List.mem_map.mp hm
    exact .number trivial

end RegisterMap

namespace Registers

theorem schema_faithful : schema.Faithful where
  fields :=
    have optional {name : String} : (Json.Field.optional name Address.codec).Faithful :=
      .optional Address.codec_faithful Address.codec_neverNull
    ⟨.required Address.codec_faithful, .required Address.codec_faithful, optional, optional,
      ⟨RegisterMap.codec_faithful, fun m hm => by rw [Std.ExtTreeMap.isEmpty_iff.mp hm]; rfl⟩, trivial⟩
  distinct := by decide

theorem codec_faithful : codec.Faithful :=
  Json.Schema.codec_faithful schema_faithful _ fun _ => rfl

end Registers

/-! ## Limits -/

namespace Limits

theorem schema_faithful : schema.Faithful where
  fields :=
    have word {expected : String} : (Json.Codec.word expected).option.Faithful :=
      Json.Codec.Faithful.word.option fun _ => nofun
    ⟨.withDefault word, .withDefault word,
      .withDefault (Address.codec_faithful.option Address.codec_neverNull), .withDefault .word32,
      .withDefault .word, .withDefault .word, .withDefault .truth, .withDefault .truth, .withDefault .truth,
      trivial⟩
  distinct := by decide

theorem codec_faithful : codec.Faithful :=
  Json.Schema.codec_faithful schema_faithful _ fun _ => rfl

end Limits

/-! ## Records of a snapshot -/

namespace Symbol

theorem Routine.schema_faithful : Routine.schema.Faithful :=
  ⟨⟨.required Address.codec_faithful, .withDefault .word, .required .text, trivial⟩, by decide⟩

theorem Routine.codec_faithful : Routine.codec.Faithful :=
  Json.Schema.codec_faithful Routine.schema_faithful _ fun _ => rfl

theorem Import.schema_faithful : Import.schema.Faithful :=
  ⟨⟨.required Address.codec_faithful, .required .text, trivial⟩, by decide⟩

theorem Import.codec_faithful : Import.codec.Faithful :=
  Json.Schema.codec_faithful Import.schema_faithful _ fun _ => rfl

end Symbol

namespace Snapshot

theorem Mapping.schema_faithful : Mapping.schema.Faithful :=
  ⟨⟨.required .text, .required Address.codec_faithful, .required Address.codec_faithful,
    .optional (.choice ModuleKind.codec_lawful) fun _ => nofun, .withDefault .truth, trivial⟩, by decide⟩

theorem Mapping.codec_faithful : Mapping.codec.Faithful :=
  Json.Schema.codec_faithful Mapping.schema_faithful _ fun _ => rfl

theorem Listing.schema_faithful : Listing.schema.Faithful :=
  ⟨⟨.required Address.codec_faithful, .required .word, .required .text, trivial⟩, by decide⟩

theorem Listing.codec_faithful : Listing.codec.Faithful :=
  Json.Schema.codec_faithful Listing.schema_faithful _ fun _ => rfl

theorem Region.schema_faithful : Region.schema.Faithful :=
  ⟨⟨.required Address.codec_faithful, .required (.list .word), trivial⟩, by decide⟩

theorem Region.codec_faithful : Region.codec.Faithful :=
  Json.Schema.codec_faithful Region.schema_faithful _ fun _ => rfl

/-! ## Snapshots -/

theorem schema_faithful : schema.Faithful where
  fields := ⟨.required (.choice Architecture.codec_lawful), .withDefault .word,
    .required Registers.codec_faithful, .optional Address.codec_faithful Address.codec_neverNull,
    .optional Limits.codec_faithful fun _ => nofun, .withDefault (.list Mapping.codec_faithful),
    .withDefault (.list Symbol.Routine.codec_faithful), .withDefault (.list Symbol.Import.codec_faithful),
    .withDefault (.list Listing.codec_faithful), .withDefault (.list Region.codec_faithful), trivial⟩
  distinct := by decide

theorem codec_faithful : codec.Faithful :=
  Json.Schema.codec_faithful schema_faithful _ fun _ => rfl

/-- The text of a snapshot is refused for its defect only, and read as the snapshot if it has none. -/
theorem parse_toPretty_eq (s : Snapshot) :
    parse (codec.toPretty s) =
      match s.defect? with
      | some defect => .error (.defective defect)
      | none => .ok s := by
  cases h : s.defect? <;> simp [parse, codec_faithful.parse_toPretty s, h]

/-- A snapshot without a defect is read back from its text, and gives the same trace. -/
theorem parse_written_snapshot (s : Snapshot) (sound : s.defect? = none) :
    ∃ t, parse (codec.toPretty s) = .ok t ∧ t = s ∧ t.walk = s.walk := by
  refine ⟨s, ?_, rfl, rfl⟩
  rw [parse_toPretty_eq, sound]

/-- A capture with a value in every field that may be left out. -/
def fullCapture : Snapshot where
  architecture := .arm64
  thread := 7
  registers := ⟨⟨0x401010⟩, ⟨0x7ffe0000⟩, some ⟨0x7ffe0040⟩, some ⟨0x401020⟩,
    (∅ : RegisterMap).insert "x0" 0xFFFF_FFFF_FFFF_FFFF⟩
  stackBase := some ⟨0x7ffe0100⟩
  limits := some { Limits.standard with maxFrames := some 16, stackBase := some ⟨0x7ffe0080⟩ }
  mappings := [⟨"C:\\app \"1\".exe", ⟨0x400000⟩, ⟨0x410000⟩, some .main, false⟩]
  routines := [⟨⟨0x401000⟩, 64, "main"⟩]
  imports := [⟨⟨0x403018⟩, "free\n"⟩]
  listings := [⟨⟨0x401010⟩, 4, "bl 0x401040"⟩]
  regions := [⟨⟨0xFFFF_FFFF_FFFF_FFF8⟩, [0xFFFF_FFFF_FFFF_FFFF]⟩]

theorem fullCapture_reads_back :
    fullCapture.defect? = none ∧
      ∃ t, parse (codec.toPretty fullCapture) = .ok t ∧ t = fullCapture ∧ t.walk = fullCapture.walk :=
  have sound : fullCapture.defect? = none := by
    rw [defect?_eq_none_iff, overlap?, Mapping.sorted, fullCapture, List.mergeSort_singleton]
    decide +kernel
  ⟨sound, parse_written_snapshot fullCapture sound⟩

end Snapshot

end StackWalk
