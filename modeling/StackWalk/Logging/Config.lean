import StackWalk.Logging.Directive
import StackWalk.Logging.Level
import StackWalk.SystemError
import StackWalk.Text.Path

/-!
# StackWalk.Logging.Config — where and how to log

The form of the log and its file are taken from the environment.  The level comes from the command line,
or else a filter from the environment is used.  A configuration is checked before anything else is done:
its format has to be known, its filter well formed, and its file has to have a name and a directory that
exists or can be made.
-/

namespace StackWalk.Logging

/-- Why logging cannot start. -/
inductive ConfigError
  /-- The format is not known. -/
  | format (message : String)
  /-- The filter is none. -/
  | filter (cause : DirectiveError)
  /-- The directory of the log file cannot be made. -/
  | directory (cause : SystemError)
  /-- The path of the log file does not end in a name. -/
  | noFileName (path : String)
deriving DecidableEq, Repr

/-- The wording of the error. -/
def ConfigError.message : ConfigError → String
  | .format message => s!"Invalid log format: {message}"
  | .filter cause =>
    let message := cause.message
    s!"Invalid log level: {message}"
  | .directory cause =>
    let message := cause.message
    s!"File logging error: {message}"
  | .noFileName path => s!"Failed to initialize logging: log path {path} has no file name"

/-- How to log. -/
structure Config where
  /-- The level, where it is not left to the environment. -/
  level : Option Level
  format : Format
  /-- The path of the log file, if there is one. -/
  file : Option String
  /-- Whether the console shows colours. -/
  ansi : Bool
deriving DecidableEq, Repr

namespace Config

/-- A value of the environment without the white space around it; what is blank counts as absent. -/
def given (value : Option String) : Option String :=
  (value.map fun text => String.ofList (Text.trim text.toList)).filter fun text => !text.isEmpty

/-- The configuration that the environment asks for. -/
def ofEnvironment (format file : Option String) : Except ConfigError Config :=
  match given format with
  | none => .ok ⟨none, .pretty, given file, true⟩
  | some text =>
    match Format.parse text with
    | .ok format => .ok ⟨none, format, given file, true⟩
    | .error message => .error (.format message)

/-- The configuration with a level. -/
def withLevel (c : Config) (level : Level) : Config :=
  { c with level := some level }

/-- What stands for the date in the path of a log file. -/
def datePlaceholder : String := "\x7bdate\x7d"

/-- The path of a log file with the date filled in. -/
def expandPath (path date : String) : String :=
  String.ofList (Text.replaceAll datePlaceholder.toList date.toList path.toList)

/-- The level of the command line: more than the standard one if that was asked for, and the standard
one unless the environment has a filter. -/
def withVerbosity (c : Config) (verbosity : Nat) (filter : Option String) : Config :=
  if 0 < verbosity || filter.isNone then c.withLevel (.ofVerbosity verbosity) else c

/-- Checks the filter of the environment, which matters only where no level is set. -/
def checkFilter (c : Config) (filter : Option String) : Except ConfigError Unit :=
  match c.level, filter with
  | none, some text => (Directive.checkFilter text).mapError .filter
  | _, _ => .ok ()

/-- The path of the log file on a day. -/
def fileOn (c : Config) (date : String) : Option String :=
  c.file.map fun path => expandPath path date

/-- The directory of the log file on a day. -/
def directoryOn (c : Config) (date : String) : Option String :=
  (c.fileOn date).map Text.directoryOf

/-- Checks the log file; `makeDirectory` says what is wrong with a directory that cannot be made. -/
def checkFile (c : Config) (date : String) (makeDirectory : String → Option SystemError) :
    Except ConfigError Unit :=
  match c.fileOn date with
  | none => .ok ()
  | some path =>
    match makeDirectory (Text.directoryOf path) with
    | some cause => .error (.directory cause)
    | none => if (Text.fileNameOf path).isSome then .ok () else .error (.noFileName path)

end Config

end StackWalk.Logging
