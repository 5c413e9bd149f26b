/-!
# StackWalk.Text.Search — finding and replacing inside a text

Search for a fixed text inside another one: the rest after the first occurrence, a split at the
first or last occurrence of a character, and the replacement of all occurrences from left to right,
where the search goes on after each occurrence, so that occurrences never overlap.
-/

namespace StackWalk.Text

/-- What follows the first occurrence of `pattern`, if there is one. -/
def after? (pattern : List Char) : List Char → Option (List Char)
  | [] => pattern.isPrefixOf? []
  | c :: cs =>
    match pattern.isPrefixOf? (c :: cs) with
    | some rest => some rest
    | none => after? pattern cs

/-- Whether `pattern` occurs in the text. -/
def contains (pattern cs : List Char) : Bool :=
  (after? pattern cs).isSome

/-- The parts before and after the first `mark`. -/
def splitAtFirst? (mark : Char) : List Char → Option (List Char × List Char)
  | [] => none
  | c :: cs =>
    if c = mark then some ([], cs)
    else (splitAtFirst? mark cs).map fun parts => (c :: parts.1, parts.2)

/-- The parts before and after the last `mark`. -/
def splitAtLast? (mark : Char) (cs : List Char) : Option (List Char × List Char) :=
  (splitAtFirst? mark cs.reverse).map fun parts => (parts.2.reverse, parts.1.reverse)

/-- The replacement of every occurrence of `pattern`, with `skip` characters of an occurrence that
has already been replaced still to pass. -/
def replaceFrom (pattern new : List Char) : Nat → List Char → List Char
  | _, [] => []
  | skip + 1, _ :: cs => replaceFrom pattern new skip cs
  | 0, c :: cs =>
    if pattern.isPrefixOf (c :: cs) then new ++ replaceFrom pattern new (pattern.length - 1) cs
    else c :: replaceFrom pattern new 0 cs

/-- The text with every occurrence of the nonempty `pattern` replaced by `new`, from left to right
and without overlap. -/
def replaceAll (pattern new cs : List Char) : List Char :=
  replaceFrom pattern new 0 cs

/-- The texts joined by a separator. -/
def joinWith (separator : List Char) : List (List Char) → List Char
  | [] => []
  | [piece] => piece
  | piece :: rest => piece ++ separator ++ joinWith separator rest

end StackWalk.Text
