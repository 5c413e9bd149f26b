import StackWalk.Json.Tagged
import StackWalk.Proofs.Json.Reading

/-!
# StackWalk.Proofs.Json.Faithful — codecs whose texts read back

A codec is faithful when it is lawful and writes no other numbers than integers; then every value is read back
from its text.  Faithful codecs are built from faithful ones: options, lists and choices, and records, whose
fields may be left out as long as their absence stands for the value that was left out.  A tagged choice is
found again under its name, and a value that is kept for later is kept as it is if it does not nest too deep.
-/

namespace StackWalk.Json

variable {α β : Type} {ts : List Type} {codec : Codec α}

namespace Codec

/-- A codec that is lawful and writes no other numbers than integers. -/
structure Faithful (codec : Codec α) : Prop where
  lawful : codec.Lawful
  exact : ∀ a, Exact (codec.encode a)

/-- What a faithful codec writes on indented lines is read back. -/
theorem Faithful.parse_toPretty (h : codec.Faithful) (a : α) : codec.parse (codec.toPretty a) = .ok a := by
  simp [parse, toPretty, (h.exact a).readDocument_pretty, h.lawful a, bind, Except.bind]

/-! ## Basic shapes -/

theorem Faithful.word {expected : String} : (word expected).Faithful :=
  ⟨word_lawful expected, fun _ => .number trivial⟩

theorem Faithful.word32 {expected : String} : (word32 expected).Faithful :=
  ⟨word32_lawful expected, fun _ => .number trivial⟩

theorem Faithful.truth : truth.Faithful :=
  ⟨truth_lawful, Exact.bool⟩

theorem Faithful.text : text.Faithful :=
  ⟨text_lawful, Exact.string⟩

theorem Faithful.choice {choices : List (String × α)} {nameOf : α → String}
    (h : (choice choices nameOf).Lawful) : (choice choices nameOf).Faithful :=
  ⟨h, fun a => .string (nameOf a)⟩

theorem Faithful.list (h : codec.Faithful) : codec.list.Faithful := by
  refine ⟨list_lawful h.lawful, fun values => .array fun item hitem => ?_⟩
  obtain ⟨a, -, rfl⟩ := List.mem_map.mp hitem
  exact h.exact a

/-- A codec that never writes `null`, so that `null` can stand for an absent value. -/
def NeverNull (codec : Codec α) : Prop :=
  ∀ a, codec.encode a ≠ .null

theorem Faithful.option (h : codec.Faithful) (hnull : codec.NeverNull) : codec.option.Faithful := by
  have present : ∀ v, v ≠ .null →
      codec.option.decode (.ofValue v) = (codec.decode (.ofValue v)).map some := by
    intro v hv
    cases v with
    | null => exact absurd rfl hv
    | _ => rfl
  constructor
  · intro a
    cases a with
    | none => rfl
    | some a => exact (present _ (hnull a)).trans (by rw [h.lawful a]; rfl)
  · intro a
    cases a with
    | none => exact .null
    | some a => exact h.exact a

end Codec

/-! ## Records -/

/-- A field whose codec is faithful, and which is left out only where its absence stands for its value. -/
structure Field.Faithful (field : Field α) : Prop where
  codec : field.codec.Faithful
  omitted : ∀ a, field.omits a = true → field.absent = some a

namespace Field.Faithful

variable {name : String}

theorem required (h : codec.Faithful) : (Field.required name codec).Faithful :=
  ⟨h, fun _ => nofun⟩

theorem withDefault (h : codec.Faithful) {value : α} : (Field.withDefault name codec value).Faithful :=
  ⟨h, fun _ => nofun⟩

theorem nullable (h : codec.Faithful) (hnull : codec.NeverNull) : (Field.nullable name codec).Faithful :=
  ⟨h.option hnull, fun _ => nofun⟩

theorem optional (h : codec.Faithful) (hnull : codec.NeverNull) : (Field.optional name codec).Faithful := by
  refine ⟨h.option hnull, fun a ha => ?_⟩
  obtain rfl := Option.isNone_iff_eq_none.mp ha
  rfl

end Field.Faithful

namespace Schema

/-- The keys of the fields. -/
def names {ts : List Type} : Schema ts → List String
  | .nil => []
  | .cons field fields => field.name :: fields.names

/-- Every field is faithful. -/
def FieldsFaithful {ts : List Type} : Schema ts → Prop
  | .nil => True
  | .cons field fields => field.Faithful ∧ fields.FieldsFaithful

/-- Every field is faithful, and no two of them have the same key. -/
structure Faithful (schema : Schema ts) : Prop where
  fields : schema.FieldsFaithful
  distinct : schema.names.Nodup

theorem key_mem_names (schema : Schema ts) (row : Row ts) :
    ∀ m ∈ schema.members row, m.1 ∈ schema.names := by
  induction schema with
  | nil => exact fun m hm => absurd hm List.not_mem_nil
  | cons field fields ih =>
    obtain ⟨a, row⟩ := row
    intro m hm
    rw [members] at hm
    split at hm
    · exact List.mem_cons_of_mem _ (ih row m hm)
    · rcases List.mem_cons.mp hm with rfl | hm
      · exact List.mem_cons_self
      · exact List.mem_cons_of_mem _ (ih row m hm)

theorem FieldsFaithful.exact_members {schema : Schema ts} (h : schema.FieldsFaithful) (row : Row ts) :
    ∀ m ∈ schema.members row, Exact m.2 := by
  induction schema with
  | nil => exact fun m hm => absurd hm List.not_mem_nil
  | cons field fields ih =>
    obtain ⟨a, row⟩ := row
    intro m hm
    rw [members] at hm
    split at hm
    · exact ih h.2 row m hm
    · rcases List.mem_cons.mp hm with rfl | hm
      · exact h.1.codec.exact a
      · exact ih h.2 row m hm

/-- Members with other keys go past the first field. -/
theorem fillAll_cons {field : Field α} {fields : Schema ts} (slot : Option α) (slots : Slots ts)
    (ms : List (String × Json)) (hkeys : ∀ m ∈ ms, m.1 ≠ field.name) :
    (Schema.cons field fields).fillAll (slot, slots) (Document.ofMembers ms) =
      (fields.fillAll slots (Document.ofMembers ms)).map fun slots => (slot, slots) := by
  induction ms generalizing slots with
  | nil => rfl
  | cons m ms ih =>
    obtain ⟨key, value⟩ := m
    have hkey : key ≠ field.name := hkeys _ List.mem_cons_self
    have others := fun slots => ih slots fun m hm => hkeys m (List.mem_cons_of_mem _ hm)
    simp only [Document.ofMembers, fillAll, Document.key, fill, hkey, if_false, bind, Except.bind]
    cases fields.fill slots key (Document.ofValue value) with
    | error e => rfl
    | ok found =>
      cases found with
      | none =>
        rw [Document.skip_ofValue]
        exact others slots
      | some slots => exact others slots

/-- The members of a row are read as the row. -/
theorem Faithful.fillAll_members {schema : Schema ts} (h : schema.Faithful) (row : Row ts) :
    ∃ slots, schema.fillAll schema.vacant (Document.ofMembers (schema.members row)) = .ok slots ∧
      schema.finish slots = .ok row := by
  induction schema with
  | nil => exact ⟨(), rfl, rfl⟩
  | cons field fields ih =>
    obtain ⟨a, row⟩ := row
    obtain ⟨⟨hfield, hfields⟩, hdistinct⟩ := h
    obtain ⟨fresh, hdistinct⟩ := List.nodup_cons.mp hdistinct
    obtain ⟨slots, hfill, hfinish⟩ := ih ⟨hfields, hdistinct⟩ row
    have others : ∀ slot, (Schema.cons field fields).fillAll (slot, fields.vacant)
        (Document.ofMembers (fields.members row)) = .ok (slot, slots) := by
      intro slot
      rw [fillAll_cons slot _ _ fun m hm heq => fresh (heq ▸ key_mem_names fields row m hm), hfill]
      rfl
    by_cases homits : field.omits a = true
    · -- What was left out is what the absence of the field stands for.
      refine ⟨(none, slots), ?_, ?_⟩
      · rw [members, if_pos homits]
        exact others none
      · simp [finish, hfield.omitted a homits, hfinish, Except.map]
    · refine ⟨(some a, slots), ?_, ?_⟩
      · have decoded := hfield.codec.lawful a
        rw [members, if_neg homits]
        simp [Document.ofMembers, fillAll, Document.key, vacant, fill, decoded, bind, Except.bind, Except.map,
          others]
      · simp [finish, hfinish, Except.map]

theorem Faithful.decode_members {schema : Schema ts} (h : schema.Faithful) (expected : String) (row : Row ts) :
    schema.decode expected (.ofValue (.object (schema.members row))) = .ok row := by
  obtain ⟨slots, hfill, hfinish⟩ := h.fillAll_members row
  simp [decode, Document.ofValue, hfill, Document.orError, hfinish, bind, Except.bind]

theorem codec_faithful {schema : Schema ts} (h : schema.Faithful) (expected : String) {pack : Row ts → α}
    {unpack : α → Row ts} (inverse : ∀ a, pack (unpack a) = a) :
    (schema.codec expected pack unpack).Faithful := by
  refine ⟨fun a => ?_, fun a => .object (h.fields.exact_members (unpack a))⟩
  simp [Schema.codec, h.decode_members, Except.map, inverse]

end Schema

/-! ## Kept values -/

/-- A value with at most `depth - 1` levels of arrays and objects. -/
inductive Fits : Nat → Json → Prop
  | null {depth : Nat} : Fits depth .null
  | bool {depth : Nat} (value : Bool) : Fits depth (.bool value)
  | number {depth : Nat} (value : Number) : Fits depth (.number value)
  | string {depth : Nat} (text : String) : Fits depth (.string text)
  | array {depth : Nat} {items : List Json} (hdepth : 0 < depth) (h : ∀ v ∈ items, Fits depth v) :
      Fits (depth + 1) (.array items)
  | object {depth : Nat} {members : List (String × Json)} (hdepth : 0 < depth)
      (h : ∀ m ∈ members, Fits depth m.2) : Fits (depth + 1) (.object members)

theorem toItems_ofItems {depth : Nat} (items : List Json)
    (h : ∀ v ∈ items, (Document.ofValue v).toValue depth = .ok v) :
    Document.toItems depth (Document.ofItems items) = .ok items := by
  induction items with
  | nil => rfl
  | cons item items ih =>
    simp [Document.ofItems, Document.toItems, h item, ih fun v hv => h v (List.mem_cons_of_mem _ hv), bind,
      Except.bind]

theorem toMembers_ofMembers {depth : Nat} (members : List (String × Json))
    (h : ∀ m ∈ members, (Document.ofValue m.2).toValue depth = .ok m.2) :
    Document.toMembers depth (Document.ofMembers members) = .ok members := by
  induction members with
  | nil => rfl
  | cons member members ih =>
    obtain ⟨key, value⟩ := member
    simp [Document.ofMembers, Document.toMembers, Document.key, h (key, value),
      ih fun m hm => h m (List.mem_cons_of_mem _ hm), bind, Except.bind]

/-- A value that does not nest too deep is kept as it is. -/
theorem Fits.toValue_ofValue {depth : Nat} {v : Json} (h : Fits depth v) :
    (Document.ofValue v).toValue depth = .ok v := by
  induction h with
  | null => rfl
  | bool => rfl
  | number => rfl
  | string => rfl
  | @array depth items hdepth _ ih =>
    have items := toItems_ofItems items ih
    simp [Document.ofValue, Document.toValue, Nat.ne_of_gt hdepth, items, Document.orError, bind, Except.bind]
  | @object depth members hdepth _ ih =>
    have members := toMembers_ofMembers members ih
    simp [Document.ofValue, Document.toValue, Nat.ne_of_gt hdepth, members, Document.orError, bind,
      Except.bind]

/-! ## Tagged choices -/

namespace Tag

theorem splitKept_members (tag : Tag) (name : Option String) (front ms : List (String × Json))
    (hkeys : ∀ m ∈ ms, m.1 ≠ tag.key) : tag.splitKept name front ms = .ok (name, front.reverse ++ ms) := by
  induction ms generalizing front with
  | nil => simp [splitKept]
  | cons m ms ih =>
    obtain ⟨key, value⟩ := m
    have hkey : key ≠ tag.key := hkeys _ List.mem_cons_self
    have others := ih ((key, value) :: front) fun m hm => hkeys m (List.mem_cons_of_mem _ hm)
    simp [splitKept, hkey, others]

/-- What is written for a choice is taken apart into its name and its members. -/
theorem splitValue_write (tag : Tag) {name : String} (hname : name ∈ tag.names) (ms : List (String × Json))
    (hkeys : ∀ m ∈ ms, m.1 ≠ tag.key) : tag.splitValue (tag.write name ms) = .ok ⟨name, .object ms⟩ := by
  simp [splitValue, write, splitKept, nameInValue, known, hname, tag.splitKept_members _ _ ms hkeys, bind,
    Except.bind]

end Tag

theorem Tag.exact_write (tag : Tag) (name : String) {ms : List (String × Json)} (h : ∀ m ∈ ms, Exact m.2) :
    Exact (tag.write name ms) :=
  .object (List.forall_mem_cons.mpr ⟨.string name, h⟩)

/-- What is written for one of the choices is read by the branch of that choice. -/
theorem Tag.read_write {expected : String} {schema : Schema ts} (tag : Tag)
    (ofTagged : Tagged → Except ReadError α) (name : String) (hschema : schema.Faithful)
    (make : Row ts → α) (row : Row ts) (hname : name ∈ tag.names) (fresh : tag.key ∉ schema.names)
    (branch : ∀ content, ofTagged ⟨name, content⟩ =
      ((Tagged.mk name content).fields schema expected).map make) :
    (tag.splitValue (tag.write name (schema.members row))).bind ofTagged = .ok (make row) := by
  have found := tag.splitValue_write hname (schema.members row) fun m hm heq =>
    fresh (heq ▸ schema.key_mem_names row m hm)
  have fields : (Tagged.mk name (.object (schema.members row))).fields schema expected = .ok row :=
    hschema.decode_members expected row
  simp [found, branch, fields, Except.bind, Except.map]

end StackWalk.Json

/-! ## Addresses -/

namespace StackWalk.Address

theorem codec_faithful : codec.Faithful :=
  ⟨codec_lawful, fun a => .string a.serial⟩

theorem codec_neverNull : codec.NeverNull :=
  fun _ => nofun

end StackWalk.Address
