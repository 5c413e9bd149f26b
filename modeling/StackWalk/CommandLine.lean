import StackWalk.CommandLine.Arguments
import StackWalk.CommandLine.Report
import StackWalk.Elf
import StackWalk.Logging.Config
import StackWalk.Snapshot.Defect
import StackWalk.Snapshot.Walk

/-!
# StackWalk.CommandLine — the program as a function

The program reads its arguments, checks how it should log, reads its files, and prints a result or a
reason.  As a function it takes the arguments and the surroundings that they are read in, and gives what
is printed and the exit code: 0 for a result, 1 for a failure, 2 for arguments that are refused.
-/

namespace StackWalk.CommandLine

open Logging (Config ConfigError)

/-- What the program finds around it. -/
structure Surroundings where
  /-- The form of the log, where it is set. -/
  logFormat : Option String
  /-- The path of the log file, where it is set. -/
  logFile : Option String
  /-- The filter of the log, where it is set. -/
  logFilter : Option String
  /-- The date, for the path of the log file. -/
  date : String
  /-- What is wrong with a directory that cannot be made. -/
  makeDirectory : String → Option SystemError
  /-- The bytes of a file. -/
  read : String → Except SystemError ByteArray

/-- Why a job cannot be done. -/
inductive Failure
  /-- Logging cannot start. -/
  | logging (cause : ConfigError)
  /-- A file cannot be read. -/
  | unreadable (cause : SystemError)
  /-- A file that should be text is none. -/
  | notText
  /-- A snapshot is refused. -/
  | snapshot (cause : Snapshot.LoadError)
  /-- An image is refused. -/
  | image (path : String) (flaw : Elf.Flaw)

/-- The wording of a failure. -/
def Failure.message : Failure → String
  | .logging cause => "Failed to initialize logging: " ++ cause.message
  | .unreadable cause => "Error: IO error: " ++ cause.message
  | .notText => "Error: IO error: stream did not contain valid UTF-8"
  | .snapshot (.unreadable cause) => "Error: JSON error: " ++ cause.message
  | .snapshot (.defective defect) => "Error: Invalid snapshot: " ++ defect.message
  | .image path flaw =>
    let message := flaw.message
    s!"Error: Failed to parse object file: failed to parse {path}: {message}"

namespace Surroundings

/-- How the program should log. -/
def logging (around : Surroundings) (verbosity : Nat) : Except ConfigError Config := do
  let config ← Config.ofEnvironment around.logFormat around.logFile
  let config := config.withVerbosity verbosity around.logFilter
  config.checkFilter around.logFilter
  .ok config

/-- Checks how the program should log. -/
def checkLogging (around : Surroundings) (verbosity : Nat) : Except ConfigError Unit := do
  let config ← around.logging verbosity
  config.checkFile around.date around.makeDirectory

/-- Loads a snapshot. -/
def loadSnapshot (around : Surroundings) (path : String) : Except Failure Snapshot := do
  let bytes ← (around.read path).mapError .unreadable
  match String.fromUTF8? bytes with
  | none => .error .notText
  | some text => (Snapshot.parse text).mapError .snapshot

/-- Loads the symbols of an image. -/
def loadImage (around : Surroundings) (image : ImageSource) : Except Failure Symbol.Table := do
  let bytes ← (around.read image.path).mapError .unreadable
  (Elf.load bytes image.bias.value).mapError (.image image.path)

/-- Lays the symbols of some images over a snapshot. -/
def overlayAll (around : Surroundings) : List ImageSource → Snapshot → Except Failure Snapshot
  | [], s => .ok s
  | image :: images, s => do
    let table ← around.loadImage image
    around.overlayAll images (s.overlay table)

/-- What a job prints. -/
def perform (around : Surroundings) : Job → Except Failure String
  | .walk path images settings => do
    let s ← around.loadSnapshot path
    let s ← around.overlayAll images s
    let t := s.walkWithin (settings.limits s.effectiveLimits)
    .ok (if settings.json then traceJson t else traceText s t)
  | .list image json => do
    let table ← around.loadImage image
    .ok (if json then symbolJson table else symbolText table)

/-- What an invocation prints. -/
def serve (around : Surroundings) (invocation : Invocation) : Except Failure String := do
  (around.checkLogging invocation.verbosity).mapError .logging
  around.perform invocation.job

end Surroundings

/-- The files that a job reads. -/
def Job.paths : Job → List String
  | .walk snapshot images _ => snapshot :: images.map ImageSource.path
  | .list image _ => [image.path]

/-- The files that the program reads. -/
def paths (arguments : List String) : List String :=
  match Invocation.ofArguments arguments with
  | .ok invocation => invocation.job.paths
  | .error _ => []

/-- The directory that the program makes for its log file. -/
def logDirectory? (arguments : List String) (around : Surroundings) : Option String :=
  match Invocation.ofArguments arguments with
  | .ok invocation =>
    match around.logging invocation.verbosity with
    | .ok config => config.directoryOn around.date
    | .error _ => none
  | .error _ => none

/-- What the program prints and its exit code. -/
structure Outcome where
  exitCode : Nat
  output : String
  errors : String
deriving DecidableEq, Repr

/-- The version of the program. -/
def versionText : String := "retrace 0.0.0\n"

/-- How the program is used. -/
def usageText : String :=
  unlines ["Recover call stacks from captured process state without unwind tables", "",
    "Usage: retrace [OPTIONS] <COMMAND>", "",
    "  unwind SNAPSHOT   Unwind the thread captured in a JSON process snapshot",
    "  symbols IMAGE     List the function and relocation symbols of an ELF image", "",
    "Options of every command: --json, -v or --verbose, -h or --help",
    "Options of unwind: --max-frames, --max-bytes, --stack-base, --preserve-recursion,",
    "  --collapse-callees, --keep-ratchets, --symbols PATH[@BIAS]",
    "Options of symbols: --load-bias"]

/-- The program. -/
def run (arguments : List String) (around : Surroundings) : Outcome :=
  match Invocation.ofArguments arguments with
  | .error .help => ⟨0, usageText, ""⟩
  | .error .version => ⟨0, versionText, ""⟩
  | .error (.refused cause) =>
    let message := cause.message
    ⟨2, "", s!"error: {message}\n"⟩
  | .ok invocation =>
    match around.serve invocation with
    | .ok output => ⟨0, output, ""⟩
    | .error failure => ⟨1, "", failure.message ++ "\n"⟩

end StackWalk.CommandLine
