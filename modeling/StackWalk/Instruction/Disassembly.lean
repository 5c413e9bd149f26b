import StackWalk.Architecture
import StackWalk.Instruction.Operand

/-!
# StackWalk.Instruction.Disassembly — the parts of an instruction's text

The text of an instruction is taken apart into its mnemonic and its operands.  The mnemonic is the first
token that is no modifier such as `lock` or `bnd`.  The operands are what follows the first place where
the mnemonic stands in the text, cut at the commas outside of brackets and braces; empty ones do not
count.
-/

namespace StackWalk

/-- The text of an instruction and its parts. -/
structure Disassembly where
  /-- The text without white space at its ends. -/
  text : List Char
  mnemonic : List Char
  operands : List (List Char)
deriving DecidableEq, Repr

namespace Disassembly

/-- How much deeper in brackets the text is behind the character. -/
def nesting (c : Char) : Int :=
  if c = '[' ∨ c = '\x7b' then 1
  else if c = ']' ∨ c = '\x7d' then -1
  else 0

/-- Cuts a text at its commas outside of brackets, when it stands at `depth`. -/
def cutAtCommas (depth : Int) : List Char → List (List Char)
  | [] => [[]]
  | c :: cs =>
    if c = ',' ∧ depth = 0 then [] :: cutAtCommas depth cs
    else match cutAtCommas (depth + nesting c) cs with
      | [] => [[c]]
      | piece :: rest => (c :: piece) :: rest

/-- The operands that a text lists. -/
def operandsOf (cs : List Char) : List (List Char) :=
  ((cutAtCommas 0 cs).map Text.trim).filter fun operand => !operand.isEmpty

/-- Takes the text of an instruction apart. -/
def ofText (text : String) : Disassembly :=
  let text := Text.trim text.toList
  let mnemonic := Architecture.mnemonicIn text
  let rest := (Text.after? mnemonic text).getD []
  ⟨text, mnemonic, operandsOf (Text.trim rest)⟩

/-- Whether the mnemonic is `name`, in either case. -/
def is (d : Disassembly) (name : String) : Bool :=
  Text.sameLetters d.mnemonic name.toList

/-- Whether the mnemonic starts with `stem`, in either case. -/
def startsWith (d : Disassembly) (stem : String) : Bool :=
  Text.sameLetters (d.mnemonic.take stem.length) stem.toList

/-- What the operand at an index refers to. -/
def operand? (d : Disassembly) (index : Nat) : Option Operand :=
  d.operands[index]?.map Operand.classify

/-- What the last operand refers to: the target of a call or a jump. -/
def target? (d : Disassembly) : Option Operand :=
  d.operands.getLast?.map Operand.classify

/-- Whether an operand mentions a register. -/
def usesRegister (d : Disassembly) (name : String) : Bool :=
  d.operands.any fun operand =>
    (Text.pieces (fun c => !Text.isAlphanumeric c) operand).any fun token =>
      Text.sameLetters token name.toList

/-- Whether an operand is a segment and an offset, both of them numbers. -/
def isFarPointer (operand : List Char) : Bool :=
  match Text.splitAtFirst? ':' operand with
  | some (segment, offset) => (Operand.number? segment).isSome && (Operand.number? offset).isSome
  | none => false

/-- Whether the instruction transfers control to another segment. -/
def isFar (d : Disassembly) : Bool :=
  d.is "lcall" || d.is "ljmp" ||
    (Text.tokens d.text).any (fun token => Text.sameLetters token "far".toList) ||
    d.operands.any isFarPointer

/-- The instruction with a name in the place of its operands. -/
def withTarget (d : Disassembly) (name : String) : String :=
  let mnemonic := String.ofList d.mnemonic
  s!"{mnemonic} {name}"

theorem cutAtCommas_ne_nil (depth : Int) (cs : List Char) : cutAtCommas depth cs ≠ [] := by
  cases cs with
  | nil => simp [cutAtCommas]
  | cons c cs =>
    unfold cutAtCommas
    split
    · simp
    · split <;> simp

end Disassembly

end StackWalk
