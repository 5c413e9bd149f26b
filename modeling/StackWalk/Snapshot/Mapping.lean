import StackWalk.Address
import StackWalk.Json.Record
import StackWalk.Module

/-!
# StackWalk.Snapshot.Mapping — one image in the address space

A mapping is where an image lies: the addresses from `start` up to `stop`, which is excluded.  Its kind
may have been captured; otherwise it follows from the name.
-/

namespace StackWalk.Snapshot

/-- An image and the addresses that it occupies. -/
structure Mapping where
  /-- The path of the image. -/
  name : String
  start : Address
  /-- The first address behind the image. -/
  stop : Address
  /-- The kind, where it was captured. -/
  kind : Option ModuleKind
  /-- Whether the image holds code. -/
  executable : Bool
deriving DecidableEq, Repr, Inhabited

namespace Mapping

/-- The image. -/
def id (m : Mapping) : ModuleId := .ofPath m.name

/-- The kind that was captured, or the one that the name suggests. -/
def effectiveKind (m : Mapping) : ModuleKind :=
  m.kind.getD (if m.id.looksLikeCLibrary then .cLibrary else .library)

/-- Whether an address lies in the image. -/
def contains (m : Mapping) (a : Address) : Bool :=
  m.start ≤ a && a < m.stop

/-- Whether the image occupies no address at all. -/
def isVoid (m : Mapping) : Bool :=
  m.stop ≤ m.start

/-- Mappings in the order of their starts; those with one start keep their order. -/
def sorted (mappings : List Mapping) : List Mapping :=
  mappings.mergeSort fun a b => a.start ≤ b.start

/-- The fields in JSON. -/
def schema : Json.Schema [String, Address, Address, Option ModuleKind, Bool] :=
  .cons (.required "name" .text) <|
  .cons (.required "start" Address.codec) <|
  .cons (.required "end" Address.codec) <|
  .cons (.optional "kind" ModuleKind.codec) <|
  .cons (.withDefault "executable" .truth true)
  .nil

/-- A mapping is written as an object, without a kind that was not captured. -/
def codec : Json.Codec Mapping :=
  schema.codec "struct ModuleRecord"
    (fun (name, start, stop, kind, executable, ()) => ⟨name, start, stop, kind, executable⟩)
    fun m => (m.name, m.start, m.stop, m.kind, m.executable, ())

end Mapping

end StackWalk.Snapshot
