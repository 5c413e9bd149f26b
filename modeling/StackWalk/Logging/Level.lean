import StackWalk.Text.LowerCase

/-!
# StackWalk.Logging.Level — how much is logged, and in which form

A level has a name, or follows from how often more output was asked for.  The names of levels and of formats
are read in either case, each with its usual short forms.
-/

namespace StackWalk.Logging

/-- What is logged. -/
inductive Level
  | error
  | warn
  | info
  /-- Every decision of a walk. -/
  | debug
  /-- Every stack word that is not accepted. -/
  | trace
deriving DecidableEq, Repr, Inhabited

namespace Level

/-- The name of the level. -/
def name : Level → String
  | .error => "error"
  | .warn => "warn"
  | .info => "info"
  | .debug => "debug"
  | .trace => "trace"

/-- The level for a count of requests for more. -/
def ofVerbosity : Nat → Level
  | 0 => .warn
  | 1 => .info
  | 2 => .debug
  | _ => .trace

/-- Reads a level by any of its names. -/
def parse (text : String) : Except String Level :=
  let is := fun (names : List String) => names.contains (Text.lower text)
  if is ["error", "err"] then .ok .error
  else if is ["warn", "warning"] then .ok .warn
  else if is ["info"] then .ok .info
  else if is ["debug", "dbg"] then .ok .debug
  else if is ["trace"] then .ok .trace
  else .error s!"Unknown log level: {text}. Use 'error', 'warn', 'info', 'debug', or 'trace'"

end Level

/-- The form of log records. -/
inductive Format
  /-- For a reader. -/
  | pretty
  /-- One JSON object a line. -/
  | json
deriving DecidableEq, Repr, Inhabited

/-- Reads a format by any of its names. -/
def Format.parse (text : String) : Except String Format :=
  let is := fun (names : List String) => names.contains (Text.lower text)
  if is ["pretty", "dev", "development"] then .ok .pretty
  else if is ["json", "prod", "production"] then .ok .json
  else .error s!"Unknown log format: {text}. Use 'pretty' or 'json'"

end StackWalk.Logging
