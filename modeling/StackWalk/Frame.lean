import StackWalk.Address
import StackWalk.Json.Record
import StackWalk.Module
import StackWalk.Symbol.Display

/-!
# StackWalk.Frame — one entry of a call stack

Frame 0 is the interrupted instruction itself.  Every other frame is a call, or a jump that stands for
one, together with the evidence for it: the value on the stack, or in the link register, that the call
has left behind.
-/

namespace StackWalk

/-- An entry of a call stack. -/
structure Frame where
  /-- The instruction that the frame is about. -/
  ip : Address
  /-- The call or jump that is responsible for the frame. -/
  callSite : Option Address
  /-- The image that contains the instruction. -/
  module : ModuleId
  /-- The instruction, with its target replaced by a name where there is one. -/
  instruction : String
  /-- The stack address at which the evidence was found. -/
  cursor : Address
  /-- Where execution goes on when the frame returns. -/
  returnAddress : Option Address
  /-- The stack slot that holds the return address. -/
  returnSlot : Option Address
  /-- The entry of the function that is called. -/
  calleeStart : Option Address
  /-- The name of the function that is called. -/
  calleeName : Option String
  /-- The name of the function that contains the instruction. -/
  function : Option String
  /-- Whether the evidence is the link register. -/
  fromLinkRegister : Bool
deriving DecidableEq, Repr, Inhabited

namespace Frame

/-- A frame of which nothing else is known. -/
def bare (ip cursor : Address) (module : ModuleId) : Frame where
  ip := ip
  callSite := none
  module := module
  instruction := ""
  cursor := cursor
  returnAddress := none
  returnSlot := none
  calleeStart := none
  calleeName := none
  function := none
  fromLinkRegister := false

/-- Whether the frame is about the interrupted instruction. -/
def isInnermost (f : Frame) : Bool :=
  f.callSite.isNone && !f.fromLinkRegister

/-- The line of the frame in a report, without white space at its end. -/
def reportLine (f : Frame) : String :=
  let function := (f.function.map Symbol.displayName).getD ""
  let line := s!"[{f.cursor}] {f.ip} {f.module.name} {f.instruction} {function}"
  String.ofList (Text.trimEnd line.toList)

/-- The fields in JSON. -/
def schema : Json.Schema [Address, Option Address, ModuleId, String, Address, Option Address,
    Option Address, Option Address, Option String, Option String, Bool] :=
  .cons (.required "ip" Address.codec) <|
  .cons (.nullable "call_site_ip" Address.codec) <|
  .cons (.required "module" ModuleId.codec) <|
  .cons (.required "instruction_text" .text) <|
  .cons (.required "stack_cursor" Address.codec) <|
  .cons (.nullable "return_address" Address.codec) <|
  .cons (.nullable "return_slot_address" Address.codec) <|
  .cons (.nullable "callee_function_start" Address.codec) <|
  .cons (.nullable "callee_function_name" .text) <|
  .cons (.nullable "function_containing_ip" .text) <|
  .cons (.withDefault "is_lr_style_return" .truth false)
  .nil

/-- A frame is written as an object of all its fields. -/
def codec : Json.Codec Frame :=
  schema.codec "struct Frame"
    (fun (ip, callSite, module, instruction, cursor, returnAddress, returnSlot, calleeStart, calleeName,
        function, fromLinkRegister, ()) =>
      ⟨ip, callSite, module, instruction, cursor, returnAddress, returnSlot, calleeStart, calleeName,
        function, fromLinkRegister⟩)
    fun f => (f.ip, f.callSite, f.module, f.instruction, f.cursor, f.returnAddress, f.returnSlot,
      f.calleeStart, f.calleeName, f.function, f.fromLinkRegister, ())

end Frame

end StackWalk
