import StackWalk.Symbol.Mangling.V0.Ident
import StackWalk.Symbol.Mangling.V0.Printer

/-!
# StackWalk.Symbol.Mangling.V0 — names in the v0 scheme of Rust

A v0 name is a path in a compact grammar: each construct begins with a letter, and a construct that has
been written before is referred to by its position.  Reading and printing are one pass, because a
reference is printed by reading its target again.  A name is first read without printing, and without
following references, to see whether it is one; an error behind a reference shows in the output, at the
place where it is met, and the text goes on behind the reference.

Nesting is limited to 500 levels and the output to a million bytes.  The functions recurse on a number
of calls; since a construct is at most four calls deep, the limit on nesting always stops first.
-/

namespace StackWalk.Symbol.Mangling.V0

/-! ## Parts of the grammar -/

/-- The name of a basic type. -/
def basicType? (tag : Char) : Option String :=
  [('b', "bool"), ('c', "char"), ('e', "str"), ('u', "()"), ('a', "i8"), ('s', "i16"), ('l', "i32"),
    ('x', "i64"), ('n', "i128"), ('i', "isize"), ('h', "u8"), ('t', "u16"), ('m', "u32"), ('y', "u64"),
    ('o', "u128"), ('j', "usize"), ('f', "f32"), ('d', "f64"), ('z', "!"), ('p', "_"),
    ('v', "...")].lookup tag

/-- The parts of the name of a calling convention, with hyphens between them. -/
def conventionFragments (name : List Char) : List (List Char) :=
  (name.foldr (fun c parts =>
    match parts with
    | [] => [[c]]
    | part :: rest => if c = '_' then [] :: part :: rest else (c :: part) :: rest) [[]]).intersperse
      ['-']

/-- Prints the rest of an alternation up to its `E`.  An alternation in which a flaw has been met is
flawed itself. -/
def printAlternatives (step : Step Unit) : Nat → Step Unit
  | 0 => fail .invalid
  | room + 1 => do
    if ← isFlawed then fail .invalid
    else if ← eat 'E' then pure ()
    else
      print " | "
      step
      printAlternatives step room

/-- Prints the rest of the generic arguments of a trait: what is bound to associated items, up to `room`
of them, and the closing bracket.  `isOpen` tells that the opening one has been printed. -/
def printBindings (step : Step Unit) : Nat → Bool → Step Unit
  | 0, isOpen => if isOpen then print ">" else pure ()
  | room + 1, isOpen => do
    if ← eat 'p' then
      print (if isOpen then ", " else "<")
      scan ident fun name => do
        emitAll name.fragments
        print " = "
        step
        printBindings step room true
    else if isOpen then print ">"
    else pure ()

/-! ## The grammar -/

mutual

/-- A path.  `inValue` tells that it stands where a value may stand. -/
def printPath : Nat → Bool → Step Unit
  | 0, _ => fail .invalid
  | calls + 1, inValue =>
    scan Cursor.pushDepth fun () =>
    scan Cursor.nextChar fun tag =>
      if tag = 'C' then
        scan Cursor.disambiguator fun _ =>
        scan ident fun name => do
          emitAll name.fragments
          popDepth
      else if tag = 'N' then
        scan Cursor.namespaceTag fun space => do
          printPath calls inValue
          if ← isFlawed then print "::" else pure ()
          scan Cursor.disambiguator fun index =>
            scan ident fun name => do
              match space with
              | some space =>
                print "::\x7b"
                if space = 'C' then print "closure"
                else if space = 'S' then print "shim"
                else emit [space]
                if name.isEmpty then pure ()
                else
                  print ":"
                  emitAll name.fragments
                print "#"
                print (toString index)
                print "\x7d"
              | none =>
                if name.isEmpty then pure ()
                else
                  print "::"
                  emitAll name.fragments
              popDepth
      else if tag = 'M' ∨ tag = 'X' then
        scan Cursor.disambiguator fun _ => do
          silently (printPath calls false)
          printImpl calls (tag = 'X')
          popDepth
      else if tag = 'Y' then do
        printImpl calls true
        popDepth
      else if tag = 'I' then do
        printPath calls inValue
        if inValue then print "::" else pure ()
        print "<"
        let _ ← printElements (printGenericArg calls) ", "
        print ">"
        popDepth
      else if tag = 'B' then do
        atBackref (printPath calls inValue)
        popDepth
      else fail .invalid

/-- The type of an implementation, and its trait if there is one. -/
def printImpl : Nat → Bool → Step Unit
  | 0, _ => fail .invalid
  | calls + 1, hasTrait => do
    print "<"
    printType calls
    if hasTrait then
      print " as "
      printPath calls false
    else pure ()
    print ">"

/-- A lifetime, a constant or a type. -/
def printGenericArg : Nat → Step Unit
  | 0 => fail .invalid
  | calls + 1 => do
    if ← eat 'L' then scan Cursor.integer62 printLifetime
    else if ← eat 'K' then printConst calls false
    else printType calls

/-- A type, which may be marked as one whose parts are spread over the arguments of a call. -/
def printType : Nat → Step Unit
  | 0 => fail .invalid
  | calls + 1 => do
    if ← eat 'w' then print "#[splat] " else pure ()
    scan Cursor.nextChar fun tag =>
      match basicType? tag with
      | some name => print name
      | none =>
        scan Cursor.pushDepth fun () =>
          if tag = 'R' ∨ tag = 'Q' then do
            let target : Step Unit := do
              if tag = 'Q' then print "mut " else pure ()
              printType calls
              popDepth
            print "&"
            if ← eat 'L' then
              scan Cursor.integer62 fun lifetime => do
                if lifetime = 0 then pure ()
                else
                  printLifetime lifetime
                  print " "
                target
            else target
          else if tag = 'P' ∨ tag = 'O' then do
            print "*"
            print (if tag = 'O' then "mut " else "const ")
            printType calls
            popDepth
          else if tag = 'A' ∨ tag = 'S' then do
            print "["
            printType calls
            if tag = 'A' then
              print "; "
              printConst calls true
            else pure ()
            print "]"
            popDepth
          else if tag = 'T' then do
            print "("
            let count ← printElements (printType calls) ", "
            if count = 1 then print "," else pure ()
            print ")"
            popDepth
          else if tag = 'F' then do
            inBinder (printFunction calls)
            popDepth
          else if tag = 'D' then do
            print "dyn "
            inBinder do
              let _ ← printElements (printDynTrait calls) " + "
              pure ()
            if ← eat 'L' then
              scan Cursor.integer62 fun lifetime => do
                if lifetime = 0 then pure ()
                else
                  print " + "
                  printLifetime lifetime
                popDepth
            else fail .invalid
          else if tag = 'B' then do
            atBackref (printType calls)
            popDepth
          else if tag = 'W' then do
            printType calls
            print " is "
            printPattern calls
            popDepth
          else do
            -- The tag belongs to a path, which reads it again.
            modify fun p => { p with cursor := p.cursor.map fun c => { c with next := c.next - 1 } }
            printPath calls false
            popDepth

/-- The type of a function, behind its binder. -/
def printFunction : Nat → Step Unit
  | 0 => fail .invalid
  | calls + 1 => do
    let signature : Step Unit := do
      print "fn("
      let _ ← printElements (printType calls) ", "
      print ")"
      if ← eat 'u' then pure ()
      else
        print " -> "
        printType calls
    let isUnsafe ← eat 'U'
    let start : Step Unit := if isUnsafe then print "unsafe " else pure ()
    let external := fun (convention : List (List Char)) => do
      start
      print "extern \""
      emitAll convention
      print "\" "
      signature
    if ← eat 'K' then
      if ← eat 'C' then external [['C']]
      else
        scan ident fun name =>
          if name.ascii.isEmpty || !name.punycode.isEmpty then fail .invalid
          else external (conventionFragments name.ascii)
    else do
      start
      signature

/-- A path whose generic arguments may be left open for more of them; tells whether they are. -/
def printOpenPath : Nat → Step Bool
  | 0 => do
    fail .invalid
    pure false
  | calls + 1 => do
    if ← eat 'B' then
      match (← get).cursor with
      | .error _ => do
        print "?"
        pure false
      | .ok c =>
        match Cursor.backref c with
        | .error flaw => do
          fail flaw
          pure false
        | .ok (target, c) => do
          modify fun p => { p with cursor := .ok c }
          if ← isSilent then pure false
          else
            modify fun p => { p with cursor := .ok target }
            let isOpen ← printOpenPath calls
            modify fun p => { p with cursor := .ok c }
            pure isOpen
    else if ← eat 'I' then
      printPath calls false
      print "<"
      let _ ← printElements (printGenericArg calls) ", "
      pure true
    else
      printPath calls false
      pure false

/-- A trait of a trait object, with what is bound to its associated types and constants. -/
def printDynTrait : Nat → Step Unit
  | 0 => fail .invalid
  | calls + 1 => do
    let isOpen ← printOpenPath calls
    let bound : Step Unit := do
      if ← eat 'K' then printConst calls false
      else printType calls
    printBindings bound (← listRoom) isOpen

/-- A pattern. -/
def printPattern : Nat → Step Unit
  | 0 => fail .invalid
  | calls + 1 =>
    scan Cursor.nextChar fun tag =>
      if tag = 'R' then do
        printConst calls false
        print "..="
        printConst calls false
      else if tag = 'O' then
        scan Cursor.pushDepth fun () => do
          printPattern calls
          printAlternatives (printPattern calls) (← listRoom)
          popDepth
      else if tag = 'N' then print "!null"
      else fail .invalid

/-- A constant.  Outside of a value, all but literals stand in braces. -/
def printConst : Nat → Bool → Step Unit
  | 0, _ => fail .invalid
  | calls + 1, inValue =>
    scan Cursor.nextChar fun tag =>
    scan Cursor.pushDepth fun () =>
      let openBrace : Step Unit := if inValue then pure () else print "\x7b"
      let closeBrace : Step Unit := do
        if inValue then pure () else print "\x7d"
        popDepth
      if tag = 'p' then do
        print "_"
        popDepth
      else if ['h', 't', 'm', 'y', 'o', 'j'].contains tag then do
        printUnsigned
        popDepth
      else if ['a', 's', 'l', 'x', 'n', 'i'].contains tag then do
        if ← eat 'n' then print "-" else pure ()
        printUnsigned
        popDepth
      else if tag = 'b' then
        scan Cursor.hexNibbles fun nibbles =>
          match nibblesValue? nibbles with
          | some 0 => do
            print "false"
            popDepth
          | some 1 => do
            print "true"
            popDepth
          | _ => fail .invalid
      else if tag = 'c' then
        scan Cursor.hexNibbles fun nibbles =>
          match nibblesValue? nibbles with
          | some value =>
            if value.isValidChar then do
              printQuoted '\'' [Char.ofNat value]
              popDepth
            else fail .invalid
          | none => fail .invalid
      else if tag = 'e' then do
        openBrace
        print "*"
        printText
        closeBrace
      else if tag = 'R' ∨ tag = 'Q' then do
        let isText ← if tag = 'R' then eat 'e' else pure false
        if isText then
          printText
          popDepth
        else
          openBrace
          print "&"
          if tag = 'Q' then print "mut " else pure ()
          printConst calls true
          closeBrace
      else if tag = 'A' then do
        openBrace
        print "["
        let _ ← printElements (printConst calls true) ", "
        print "]"
        closeBrace
      else if tag = 'T' then do
        openBrace
        print "("
        let count ← printElements (printConst calls true) ", "
        if count = 1 then print "," else pure ()
        print ")"
        closeBrace
      else if tag = 'V' then do
        openBrace
        printPath calls true
        scan Cursor.nextChar fun form =>
          if form = 'U' then closeBrace
          else if form = 'T' then do
            print "("
            let _ ← printElements (printConst calls true) ", "
            print ")"
            closeBrace
          else if form = 'S' then do
            print " \x7b "
            let _ ← printElements (printMember calls) ", "
            print " \x7d"
            closeBrace
          else fail .invalid
      else if tag = 'B' then do
        atBackref (printConst calls inValue)
        popDepth
      else fail .invalid

/-- A member of a constant with named members. -/
def printMember : Nat → Step Unit
  | 0 => fail .invalid
  | calls + 1 =>
    scan Cursor.disambiguator fun _ =>
    scan ident fun name => do
      emitAll name.fragments
      print ": "
      printConst calls true

end

/-! ## Names -/

/-- How many calls a pass may nest: more than the limit on nesting lets it. -/
def maxCalls : Nat := 16 * maxDepth

/-- The cursor behind the path that begins at a cursor. -/
def skipPath (c : Cursor) : Option Cursor :=
  match (printPath maxCalls false).run ⟨.ok c, none, maxSize, 0⟩ with
  | .ok _ p => p.cursor.toOption
  | .error _ _ => none

/-- Whether a path can begin with the character. -/
def startsPath (c : Char) : Bool :=
  'A' ≤ c && c ≤ 'Z'

/-- The text behind the marker of the scheme. -/
def behindMarker? (cs : List Char) : Option (List Char) :=
  (("_R".toList.isPrefixOf? cs).or <| ("R".toList.isPrefixOf? cs).or <|
    "__R".toList.isPrefixOf? cs).filter fun inner => !inner.isEmpty

/-- The text of the name that begins at a cursor. -/
def nameText (c : Cursor) : List Char :=
  match (printPath maxCalls true).run ⟨.ok c, some [], maxSize, 0⟩ with
  | .ok _ p => (p.out.getD []).reverse
  | .error _ p => (p.out.getD []).reverse ++ "\x7bsize limit reached\x7d".toList

/-- The name that a v0 symbol stands for, and what follows the symbol. -/
def read? (cs : List Char) : Option (List Char × List Char) := do
  let inner ← behindMarker? cs
  let first ← inner.head?
  if startsPath first ∧ inner.all fun c => c.toNat < 0x80 then
    let start : Cursor := ⟨inner.toArray, 0, 0⟩
    let behind ← skipPath start
    let behind ← match behind.peek? with
      | some c => if startsPath c then skipPath behind else some behind
      | none => some behind
    some (nameText start, behind.remaining)
  else none

end StackWalk.Symbol.Mangling.V0
