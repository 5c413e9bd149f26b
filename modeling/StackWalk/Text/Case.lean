/-!
# StackWalk.Text.Case — comparison without regard to ASCII case

Mnemonics, register names and size words are ASCII, and a disassembler may write them in either
case.  Only the letters `A` to `Z` are folded: any other character compares as itself.
-/

namespace StackWalk.Text

/-- The text with `A` to `Z` replaced by `a` to `z`. -/
def foldCase (cs : List Char) : List Char :=
  cs.map Char.toLower

/-- Equality up to the case of ASCII letters. -/
def sameLetters (a b : List Char) : Bool :=
  foldCase a == foldCase b

/-- The ASCII letters and digits. -/
def isAlphanumeric (c : Char) : Bool :=
  c.isAlphanum

/-- Whether the text is one of `names`, up to the case of ASCII letters. -/
def isOneOf (names : List String) (cs : List Char) : Bool :=
  names.any fun name => sameLetters cs name.toList

theorem sameLetters_iff {a b : List Char} : sameLetters a b = true ↔ foldCase a = foldCase b := by
  simp [sameLetters]

end StackWalk.Text
