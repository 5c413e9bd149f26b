import StackWalk.Text.Search

/-!
# StackWalk.Symbol.Matching — whether two names mean one routine

The name of a call's target and the name of the function that was reached come from different sources
and may be spelt differently.  Two names match loosely: argument lists are left out when both have one,
qualifiers of the standard library are ignored, spaced template brackets are closed up, and then one
name has to begin with the other.  A few pairs of names that never look alike match as well.
-/

namespace StackWalk.Symbol

/-- The part of a name before its argument list. -/
def withoutArguments (cs : List Char) : List Char :=
  cs.takeWhile (· ≠ '(')

/-- What is replaced in a name before it is compared, in this order. -/
def spellings : List (String × String) :=
  [("struct_std::", ""), ("class_std::", ""), ("std::", ""), (">_>", ">>"), ("snextc", "sgetc")]

/-- The name in the spelling in which names are compared. -/
def respell (cs : List Char) : List Char :=
  spellings.foldl (fun cs rule => Text.replaceAll rule.1.toList rule.2.toList cs) cs

/-- The name as it is compared, without its argument list if `dropArguments`. -/
def normalise (dropArguments : Bool) (cs : List Char) : List Char :=
  respell (if dropArguments then withoutArguments cs else cs)

/-- The pairs of names of which the first is a call that may reach the second. -/
def aliases : List (String × String) :=
  [("timelocal", "mktime"), ("mktime", "timelocal"), ("wcscmp", "strcmp"), ("mbscmp", "strcmp"),
    ("mbscmp_l", "strcmp")]

/-- Whether a call of `callee` may reach `current`, where both are normalised. -/
def matchesNormalised (callee current : List Char) : Bool :=
  current.isPrefixOf callee || callee.isPrefixOf current ||
    aliases.any (fun pair => pair.1.toList == callee && pair.2.toList == current) ||
    ("IO_file_".toList.isPrefixOf current && callee.isSuffixOf current)

/-- Whether a call of `callee` may be a call of the function `current`. -/
def namesMatch (callee current : String) : Bool :=
  let callee := callee.toList
  let current := current.toList
  if callee.isEmpty || current.isEmpty then false
  else
    let dropArguments := callee.contains '(' && current.contains '('
    matchesNormalised (normalise dropArguments callee) (normalise dropArguments current)

end StackWalk.Symbol
