import Std.Time.Format
import StackWalk.CommandLine

/-!
# StackWalk.Main — the program

Collects what the program finds around it, and prints what the program as a function gives.
-/

namespace StackWalk.Program

/-- What the system says, as far as it has a number. -/
def systemError : IO.Error → SystemError
  | .noFileOrDirectory _ code reason | .permissionDenied _ code reason
  | .inappropriateType _ code reason | .alreadyExists _ code reason
  | .invalidArgument _ code reason => ⟨reason, code.toNat⟩
  | .otherError code reason => ⟨reason, code.toNat⟩
  | e => ⟨toString e, 0⟩

/-- Runs an action, and keeps what the system says where it fails. -/
def attempt {α : Type} (action : IO α) : IO (Except SystemError α) := do
  match ← action.toBaseIO with
  | .ok a => return .ok a
  | .error e => return .error (systemError e)

/-- The present day, by universal time. -/
def today : IO String := do
  let now ← Std.Time.Timestamp.now
  return (Std.Time.PlainDate.ofEpochDay now.toDaysSinceUnixEpoch).toSQLDateString

/-- Makes a directory, and says what is wrong if it cannot be made. -/
def makeDirectory : Option String → IO (Option SystemError)
  | none => return none
  | some path => do
    match ← attempt (IO.FS.createDirAll path) with
    | .ok () => return none
    | .error e => return some e

/-- Reads some files. -/
def readAll (paths : List String) : IO (List (String × Except SystemError ByteArray)) :=
  paths.mapM fun (path : String) => do
    return (path, ← attempt (IO.FS.readBinFile path))

end StackWalk.Program

open StackWalk in
/-- Runs the program. -/
def main (arguments : List String) : IO UInt32 := do
  let files ← Program.readAll (CommandLine.paths arguments)
  let around : CommandLine.Surroundings :=
    { logFormat := ← IO.getEnv "RETRACE_LOG_FORMAT"
      logFile := ← IO.getEnv "RETRACE_LOG_FILE"
      logFilter := ← IO.getEnv "RUST_LOG"
      date := ← Program.today
      makeDirectory := fun _ => none
      read := fun path => (files.lookup path).getD (.error .notFound) }
  let refusal ← Program.makeDirectory (CommandLine.logDirectory? arguments around)
  let outcome := CommandLine.run arguments { around with makeDirectory := fun _ => refusal }
  (← IO.getStdout).putStr outcome.output
  (← IO.getStderr).putStr outcome.errors
  return outcome.exitCode.toUInt32
