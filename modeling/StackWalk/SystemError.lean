/-!
# StackWalk.SystemError — what the system says about a path

Reading a file or making a directory may be refused by the system, which gives a reason and its number.
-/

namespace StackWalk

/-- A refusal of the system. -/
structure SystemError where
  reason : String
  code : Nat
deriving DecidableEq, Repr, Inhabited

namespace SystemError

/-- The wording of the refusal. -/
def message (e : SystemError) : String :=
  let reason := e.reason
  let code := e.code
  s!"{reason} (os error {code})"

/-- Nothing is there. -/
def notFound : SystemError := ⟨"No such file or directory", 2⟩

/-- Something is there already. -/
def alreadyExists : SystemError := ⟨"File exists", 17⟩

/-- A part of the path that should be a directory is none. -/
def notDirectory : SystemError := ⟨"Not a directory", 20⟩

/-- A directory is where a file should be. -/
def isDirectory : SystemError := ⟨"Is a directory", 21⟩

end SystemError

end StackWalk
