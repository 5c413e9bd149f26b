import StackWalk.Symbol.Mangling.V0.Cursor
import StackWalk.Text.Quoted

/-!
# StackWalk.Symbol.Mangling.V0.Printer — one pass over a name of the v0 scheme

Reading and printing are one pass.  Its state holds the cursor or the first flaw, what has been printed,
and the number of lifetimes that are bound around the construct at hand.  The steps here are those that
the grammar is written in: printing a fragment, reading a part, going to the target of a reference and
back, binding lifetimes, and running a step for each element of a list.

After a flaw nothing more is read: a construct that needs a part prints a question mark in its place and
ends.  A silent pass prints nothing and does not follow references.
-/

namespace StackWalk.Symbol.Mangling.V0

/-- The most bytes that are printed. -/
def maxSize : Nat := 1000000

/-- The state of the pass. -/
structure Printer where
  /-- Where the pass stands, or the first flaw. -/
  cursor : Except Flaw Cursor
  /-- The characters printed so far, the last one first; nothing is printed in a silent pass. -/
  out : Option (List Char)
  /-- How many bytes may still be printed. -/
  room : Nat
  /-- How many lifetimes are bound around the current construct. -/
  bound : Nat

/-- The output has become too long. -/
inductive Overflow
  | overflow

/-- A step of the pass. -/
abbrev Step (α : Type) := EStateM Overflow Printer α

/-- Prints a fragment; one that does not fit ends the pass. -/
def emit (fragment : List Char) : Step Unit := do
  let p ← get
  match p.out with
  | none => pure ()
  | some out =>
    let size := fragment.foldl (fun size c => size + c.utf8Size) 0
    if size ≤ p.room then
      set { p with out := some (fragment.reverse ++ out), room := p.room - size }
    else throw .overflow

/-- Prints a text as one fragment. -/
def print (text : String) : Step Unit :=
  emit text.toList

/-- Prints fragments one after the other. -/
def emitAll : List (List Char) → Step Unit
  | [] => pure ()
  | fragment :: rest => do
    emit fragment
    emitAll rest

/-- Whether a flaw has been met. -/
def isFlawed : Step Bool := do
  match (← get).cursor with
  | .ok _ => pure false
  | .error _ => pure true

/-- Whether this pass prints nothing. -/
def isSilent : Step Bool := do
  pure (← get).out.isNone

/-- Records a flaw and prints it. -/
def fail (flaw : Flaw) : Step Unit := do
  print flaw.message
  modify fun p => { p with cursor := .error flaw }

/-- Reads a part and goes on with it.  A flaw ends the construct; one from before shows as a question
mark. -/
def scan {α : Type} (part : Scan α) (next : α → Step Unit) : Step Unit := do
  match (← get).cursor with
  | .error _ => print "?"
  | .ok c =>
    match part c with
    | .error flaw => fail flaw
    | .ok (a, c) =>
      modify fun p => { p with cursor := .ok c }
      next a

/-- Passes over the character if it is there. -/
def eat (wanted : Char) : Step Bool := do
  match (← get).cursor with
  | .error _ => pure false
  | .ok c =>
    match c.eat wanted with
    | none => pure false
    | some c =>
      modify fun p => { p with cursor := .ok c }
      pure true

/-- Leaves a level of nesting. -/
def popDepth : Step Unit :=
  modify fun p => { p with cursor := p.cursor.map fun c => { c with depth := c.depth - 1 } }

/-- Runs a step without printing. -/
def silently (step : Step Unit) : Step Unit := do
  let out := (← get).out
  modify fun p => { p with out := none }
  step
  modify fun p => { p with out := out }

/-- Reads a reference and runs a step at its target, unless the pass is silent. -/
def atBackref (step : Step Unit) : Step Unit :=
  scan Cursor.backref fun target => do
    if ← isSilent then pure ()
    else
      let cursor := (← get).cursor
      modify fun p => { p with cursor := .ok target }
      step
      modify fun p => { p with cursor := cursor }

/-! ## Lifetimes -/

/-- Prints the lifetime with an index: zero is the anonymous one, the others count from the innermost
binder outwards. -/
def printLifetime (index : Nat) : Step Unit := do
  if ← isSilent then pure ()
  else
    print "'"
    if index = 0 then print "_"
    else
      let bound := (← get).bound
      if index ≤ bound then
        let depth := bound - index
        if depth < 26 then emit [Char.ofNat ('a'.toNat + depth)]
        else
          print "_"
          print (toString depth)
      else fail .invalid

/-- Prints the lifetimes of a binder. -/
def printBinder (isFirst : Bool) : Nat → Step Unit
  | 0 => pure ()
  | count + 1 => do
    if isFirst then pure () else print ", "
    modify fun p => { p with bound := p.bound + 1 }
    printLifetime 1
    printBinder false count

/-- Runs a step inside of an optional binder of lifetimes. -/
def inBinder (step : Step Unit) : Step Unit :=
  scan (Cursor.optInteger62 'G') fun count => do
    if ← isSilent then step
    else
      if 0 < count then
        print "for<"
        printBinder true count
        print "> "
      else pure ()
      step
      modify fun p => { p with bound := p.bound - count }

/-! ## Lists -/

/-- Runs a step for each element of a list up to its `E`, with separators; gives their number, which
is at most `room`. -/
def printList (step : Step Unit) (separator : String) : Nat → Nat → Step Nat
  | 0, count => pure count
  | room + 1, count => do
    if ← isFlawed then pure count
    else if ← eat 'E' then pure count
    else
      if 0 < count then print separator else pure ()
      step
      printList step separator room (count + 1)

/-- The number of elements that a list may have. -/
def listRoom : Step Nat := do
  match (← get).cursor with
  | .ok c => pure (c.symbol.size + 1)
  | .error _ => pure 0

/-- As `printList`, with room for as many elements as the name has characters. -/
def printElements (step : Step Unit) (separator : String) : Step Nat := do
  printList step separator (← listRoom) 0

/-! ## Literals -/

/-- How a character is shown between quotes of a kind. -/
def quotedChar (quote c : Char) : List (List Char) :=
  if c = '\'' then (if quote = '\'' then [['\\'], ['\'']] else [['\'']])
  else if c = '"' ∧ quote = '\'' then [['"']]
  else (Text.quoteChar c).map fun d => [d]

/-- Prints characters between quotes. -/
def printQuoted (quote : Char) (cs : List Char) : Step Unit := do
  emit [quote]
  emitAll (cs.flatMap (quotedChar quote))
  emit [quote]

/-- Prints a number that a constant holds. -/
def printUnsigned : Step Unit :=
  scan Cursor.hexNibbles fun nibbles =>
    match nibblesValue? nibbles with
    | some value => print (toString value)
    | none => do
      print "0x"
      emit nibbles

/-- Prints a text that a constant holds. -/
def printText : Step Unit :=
  scan Cursor.hexNibbles fun nibbles =>
    match nibblesText? nibbles with
    | some text => printQuoted '"' text
    | none => fail .invalid

end StackWalk.Symbol.Mangling.V0
