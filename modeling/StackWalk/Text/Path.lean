import StackWalk.Text.Blank
import StackWalk.Text.Search

/-!
# StackWalk.Text.Path — the parts of a path

A path consists of names between slashes.  Empty parts and single dots are nothing, so that `a//b/./c` is
`a/b/c`; two dots lead to the parent and are no name.
-/

namespace StackWalk.Text

/-- The parts of a path, without those that are nothing. -/
def pathParts (path : String) : List (List Char) :=
  (pieces (· = '/') path.toList).filter fun part => !part.isEmpty && part != ['.']

/-- Whether a path starts at the root. -/
def isAbsolute (path : String) : Bool :=
  path.toList.head? == some '/'

/-- The name at the end of a path, if it ends in one. -/
def fileNameOf (path : String) : Option String :=
  ((pathParts path).getLast?.filter fun part => part != ['.', '.']).map String.ofList

/-- The directory that contains what a path leads to. -/
def directoryOf (path : String) : String :=
  let parents := (pathParts path).dropLast
  let front := if isAbsolute path then ['/'] else if parents.isEmpty then ['.'] else []
  String.ofList (front ++ joinWith ['/'] parents)

end StackWalk.Text
