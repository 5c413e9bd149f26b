/-!
# StackWalk.Text.Blank — white space

Which characters count as white space, and the two things done with them: trimming the ends of a
text and cutting a text into the tokens between them.  The set is the Unicode property `White_Space`,
so a no-break space and an ideographic space count and a zero-width space does not.

Texts are handled as lists of characters: each function here is a recursion or a library operation
on the list, and a `String` is converted where it enters.
-/

namespace StackWalk.Text

/-- The characters with the Unicode property `White_Space`. -/
def isBlank (c : Char) : Bool :=
  let n := c.toNat
  (9 ≤ n && n ≤ 13) || n == 0x20 || n == 0x85 || n == 0xA0 || n == 0x1680 ||
    (0x2000 ≤ n && n ≤ 0x200A) || n == 0x2028 || n == 0x2029 || n == 0x202F || n == 0x205F ||
    n == 0x3000

/-- The text without the white space it starts with. -/
def trimStart (cs : List Char) : List Char :=
  cs.dropWhile isBlank

/-- The text without the white space it ends with. -/
def trimEnd (cs : List Char) : List Char :=
  (cs.reverse.dropWhile isBlank).reverse

/-- The text without the white space at both ends. -/
def trim (cs : List Char) : List Char :=
  trimEnd (trimStart cs)

/-- The pieces between the characters that satisfy `p`; neighbouring separators leave an empty
piece, and there is always at least one piece. -/
def pieces (p : Char → Bool) : List Char → List (List Char)
  | [] => [[]]
  | c :: cs =>
    if p c then [] :: pieces p cs
    else match pieces p cs with
      | [] => [[c]]
      | piece :: rest => (c :: piece) :: rest

/-- The tokens of a text: its longest runs without white space. -/
def tokens (cs : List Char) : List (List Char) :=
  (pieces isBlank cs).filter (fun token => !token.isEmpty)

theorem pieces_ne_nil (p : Char → Bool) (cs : List Char) : pieces p cs ≠ [] := by
  cases cs with
  | nil => simp [pieces]
  | cons c cs =>
    unfold pieces
    split
    · simp
    · split <;> simp

end StackWalk.Text
