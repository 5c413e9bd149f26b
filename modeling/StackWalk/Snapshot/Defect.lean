import StackWalk.Snapshot

/-!
# StackWalk.Snapshot.Defect — snapshots of no real process

In a real process every image occupies at least one address, no two of them overlap, an instruction has
at least one byte, and the stack pointer does not lie above the stack.  A snapshot that breaks one of
these rules is refused; of several defects the first one in this order is reported.
-/

namespace StackWalk.Snapshot

/-- What cannot be in a real process. -/
inductive Defect
  /-- An image that ends where it starts or before. -/
  | voidMapping (m : Mapping)
  /-- Two images with an address in common. -/
  | overlap (lower upper : Mapping)
  /-- An instruction without bytes. -/
  | emptyInstruction (l : Listing)
  /-- A stack pointer above the stack. -/
  | outsideStack (base sp : Address)
deriving DecidableEq, Repr

namespace Defect

/-- The wording of a defect. -/
def message : Defect → String
  | .voidMapping m =>
    let name := m.name
    let start := m.start
    let stop := m.stop
    s!"module {name} ends at {stop} which is not above its start {start}"
  | .overlap lower upper =>
    let first := lower.name
    let second := upper.name
    s!"modules {first} and {second} overlap"
  | .emptyInstruction l =>
    let address := l.address
    s!"instruction at {address} has zero length"
  | .outsideStack base sp => s!"stack base {base} lies below sp {sp}"

end Defect

/-- The first two neighbours that overlap, in a list that is sorted by start. -/
def firstOverlap : List Mapping → Option Defect
  | lower :: upper :: rest =>
    if upper.start < lower.stop then some (.overlap lower upper) else firstOverlap (upper :: rest)
  | _ => none

/-- The first image without addresses. -/
def voidMapping? (s : Snapshot) : Option Defect :=
  (s.mappings.find? Mapping.isVoid).map .voidMapping

/-- The first two images that overlap. -/
def overlap? (s : Snapshot) : Option Defect :=
  firstOverlap (Mapping.sorted s.mappings)

/-- The first instruction without bytes. -/
def emptyInstruction? (s : Snapshot) : Option Defect :=
  (s.listings.find? fun l => l.length == 0).map .emptyInstruction

/-- A stack pointer above the stack. -/
def outsideStack? (s : Snapshot) : Option Defect :=
  (s.stackBase.filter fun base => base < s.registers.sp).map fun base =>
    .outsideStack base s.registers.sp

/-- The defect that a snapshot is refused for, if there is one. -/
def defect? (s : Snapshot) : Option Defect :=
  s.voidMapping?.or (s.overlap?.or (s.emptyInstruction?.or s.outsideStack?))

/-- Why a text is no usable snapshot. -/
inductive LoadError
  /-- The text cannot be read. -/
  | unreadable (cause : Json.ReadError)
  /-- The snapshot is of no real process. -/
  | defective (defect : Defect)

/-- Reads a snapshot and refuses one with a defect. -/
def parse (text : String) : Except LoadError Snapshot :=
  match codec.parse text with
  | .error cause => .error (.unreadable cause)
  | .ok s =>
    match s.defect? with
    | some defect => .error (.defective defect)
    | none => .ok s

/-- The defect is none exactly when every rule holds. -/
theorem defect?_eq_none_iff (s : Snapshot) :
    s.defect? = none ↔ s.voidMapping? = none ∧ s.overlap? = none ∧ s.emptyInstruction? = none ∧
      s.outsideStack? = none := by
  simp [defect?, Option.or_eq_none_iff]

end StackWalk.Snapshot
