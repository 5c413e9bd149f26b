import StackWalk.Address
import StackWalk.Limits
import StackWalk.Text.Search

/-!
# StackWalk.CommandLine.Arguments — what the arguments ask for

There are two commands: `unwind` walks the stack in a snapshot, and `symbols` lists the symbols of an
image.  Each takes one path and some options.  An option stands anywhere among the arguments of its
command; one with a value takes the next argument, or what follows an equals sign.  Two hyphens alone end
the options.  No option but `--symbols` and `--verbose` may repeat.
-/

namespace StackWalk.CommandLine

/-- Why arguments are refused. -/
inductive Refusal
  /-- There is no command. -/
  | noCommand
  | unknownCommand (name : String)
  | unknownOption (name : String)
  /-- An option without value is given one. -/
  | needlessValue (option : String)
  | missingValue (option : String)
  | badValue (option text reason : String)
  | repeated (option : String)
  /-- A path more than the command takes. -/
  | surplus (text : String)
  /-- The path that the command needs is missing. -/
  | missingPath
deriving DecidableEq, Repr

/-- The wording of the refusal. -/
def Refusal.message : Refusal → String
  | .noCommand => "a command is required"
  | .unknownCommand name => s!"unrecognized command '{name}'"
  | .unknownOption name => s!"unexpected argument '{name}'"
  | .needlessValue option => s!"'{option}' takes no value"
  | .missingValue option => s!"a value is required for '{option}'"
  | .badValue option text reason => s!"invalid value '{text}' for '{option}': {reason}"
  | .repeated option => s!"'{option}' cannot be used multiple times"
  | .surplus text => s!"unexpected argument '{text}'"
  | .missingPath => "a path is required"

/-- What keeps the arguments from being a job. -/
inductive Stop
  | refused (cause : Refusal)
  /-- The usage is asked for. -/
  | help
  /-- The version is asked for. -/
  | version
deriving DecidableEq, Repr

/-! ## The shape of an argument -/

/-- What an argument looks like. -/
inductive Shape
  /-- Two hyphens alone. -/
  | escape
  /-- An option by name, with what follows an equals sign. -/
  | long (name : String) (value : Option String)
  /-- Options by letter. -/
  | short (letters : List Char)
  /-- Anything else; also one hyphen alone. -/
  | plain (text : String)
deriving DecidableEq, Repr

/-- The shape of an argument. -/
def Shape.of (text : String) : Shape :=
  match text.toList with
  | ['-', '-'] => .escape
  | '-' :: '-' :: rest =>
    match Text.splitAtFirst? '=' rest with
    | some (name, value) => .long (String.ofList name) (some (String.ofList value))
    | none => .long (String.ofList rest) none
  | '-' :: c :: rest => .short (c :: rest)
  | _ => .plain text

/-- Whether an argument can only be an option. -/
def Shape.isOption : Shape → Bool
  | .plain _ => false
  | _ => true

/-! ## Options -/

/-- What an option does to the settings of a command. -/
inductive Effect (σ : Type)
  /-- The option has no value. -/
  | switch (turn : σ → Except Refusal σ)
  /-- The option has a value. -/
  | setting (set : String → σ → Except Refusal σ)

/-- The arguments that a command takes. -/
structure Grammar (σ : Type) where
  /-- The options by name, without hyphens. -/
  options : List (String × Effect σ)
  /-- What a path does to the settings. -/
  path : String → σ → Except Refusal σ

/-- How often more logging was asked for, and the settings. -/
structure Progress (σ : Type) where
  verbosity : Nat
  settings : σ

/-- The progress with other settings. -/
def Progress.step {σ : Type} (p : Progress σ) (change : σ → Except Refusal σ) :
    Except Stop (Progress σ) :=
  match change p.settings with
  | .ok settings => .ok { p with settings := settings }
  | .error cause => .error (.refused cause)

/-- Reads options by letter: `v` asks for more logging, `h` for the usage. -/
def readLetters (text : String) : List Char → Nat → Except Stop Nat
  | [], verbosity => .ok verbosity
  | 'v' :: letters, verbosity => readLetters text letters (verbosity + 1)
  | 'h' :: _, _ => .error .help
  | _ :: _, _ => .error (.refused (.unknownOption text))

/-- Reads the arguments of a command; behind two hyphens alone there are only paths. -/
def Grammar.read {σ : Type} (g : Grammar σ) :
    Bool → List String → Progress σ → Except Stop (Progress σ)
  | _, [], p => .ok p
  | true, text :: rest, p => do
    let p ← p.step (g.path text)
    g.read true rest p
  | false, text :: rest, p =>
    match Shape.of text with
    | .escape => g.read true rest p
    | .short letters => do
      let verbosity ← readLetters text letters p.verbosity
      g.read false rest { p with verbosity := verbosity }
    | .plain text => do
      let p ← p.step (g.path text)
      g.read false rest p
    | .long "verbose" none => g.read false rest { p with verbosity := p.verbosity + 1 }
    | .long "verbose" (some _) => .error (.refused (.needlessValue "--verbose"))
    | .long "help" none => .error .help
    | .long name value =>
      match g.options.lookup name, value with
      | none, _ => .error (.refused (.unknownOption text))
      | some (.switch turn), none => do
        let p ← p.step turn
        g.read false rest p
      | some (.switch _), some _ => .error (.refused (.needlessValue ("--" ++ name)))
      | some (.setting set), some value => do
        let p ← p.step (set value)
        g.read false rest p
      | some (.setting set), none =>
        match rest with
        | [] => .error (.refused (.missingValue ("--" ++ name)))
        | value :: rest =>
          if (Shape.of value).isOption then .error (.refused (.missingValue ("--" ++ name)))
          else do
            let p ← p.step (set value)
            g.read false rest p

/-! ## Values -/

/-- Turns a switch on, once. -/
def turnOn (option : String) : Bool → Except Refusal Bool
  | true => .error (.repeated ("--" ++ option))
  | false => .ok true

/-- Reads the value of an option that is set once. -/
def setOnce {α : Type} (option : String) (parse : String → Except String α) (text : String) :
    Option α → Except Refusal (Option α)
  | some _ => .error (.repeated ("--" ++ option))
  | none =>
    match parse text with
    | .ok a => .ok (some a)
    | .error reason => .error (.badValue ("--" ++ option) text reason)

/-- Takes the one path of a command; a path is not empty. -/
def setPath (text : String) : Option String → Except Refusal (Option String)
  | some _ => .error (.surplus text)
  | none => if text.isEmpty then .error .missingPath else .ok (some text)

/-- Reads a count. -/
def readCount (text : String) : Except String UInt64 :=
  (Text.readWord 10 text.toList).mapError Text.NumeralError.message

/-- Reads an address. -/
def readAddress (text : String) : Except String Address :=
  (Address.parse text).mapError Address.ParseError.message

/-- An image with further symbols, and the bias that it is loaded with. -/
structure ImageSource where
  path : String
  bias : Address
deriving DecidableEq, Repr

/-- Reads a path, which an at sign and a bias may follow. -/
def ImageSource.parse (text : String) : Except String ImageSource :=
  let source : Except String ImageSource :=
    match Text.splitAtLast? '@' text.toList with
    | some (path, bias) =>
      (readAddress (String.ofList bias)).map fun bias => ⟨String.ofList path, bias⟩
    | none => .ok ⟨text, .null⟩
  match source with
  | .ok source =>
    if source.path.isEmpty then
      let shown := Text.quoted text
      .error s!"symbol spec {shown} has no path"
    else .ok source
  | .error reason => .error reason

/-! ## The commands -/

/-- What `unwind` is told. -/
structure WalkSettings where
  snapshot : Option String
  maxFrames : Option UInt64
  maxBytes : Option UInt64
  stackBase : Option Address
  preserveRecursion : Bool
  collapseCallees : Bool
  keepRatchets : Bool
  /-- The images with further symbols, the last one first. -/
  images : List ImageSource
  json : Bool
deriving DecidableEq, Repr

namespace WalkSettings

/-- Nothing is set. -/
def standard : WalkSettings :=
  ⟨none, none, none, none, false, false, false, [], false⟩

/-- The limits of a snapshot, changed as the settings ask for. -/
def limits (w : WalkSettings) (l : Limits) : Limits :=
  { l with
    maxFrames := w.maxFrames.or l.maxFrames
    maxBytes := w.maxBytes.or l.maxBytes
    stackBase := w.stackBase.or l.stackBase
    preserveRecursion := l.preserveRecursion || w.preserveRecursion
    collapseCallees := l.collapseCallees || w.collapseCallees
    resetRatchets := l.resetRatchets && !w.keepRatchets }

/-- Adds an image. -/
def addImage (text : String) (w : WalkSettings) : Except Refusal WalkSettings :=
  match ImageSource.parse text with
  | .ok image => .ok { w with images := image :: w.images }
  | .error reason => .error (.badValue "--symbols" text reason)

/-- The arguments of `unwind`. -/
def grammar : Grammar WalkSettings where
  options :=
    [("max-frames", .setting fun text w =>
        (setOnce "max-frames" readCount text w.maxFrames).map fun max => { w with maxFrames := max }),
      ("max-bytes", .setting fun text w =>
        (setOnce "max-bytes" readCount text w.maxBytes).map fun max => { w with maxBytes := max }),
      ("stack-base", .setting fun text w =>
        (setOnce "stack-base" readAddress text w.stackBase).map fun a => { w with stackBase := a }),
      ("preserve-recursion", .switch fun w =>
        (turnOn "preserve-recursion" w.preserveRecursion).map fun on =>
          { w with preserveRecursion := on }),
      ("collapse-callees", .switch fun w =>
        (turnOn "collapse-callees" w.collapseCallees).map fun on => { w with collapseCallees := on }),
      ("keep-ratchets", .switch fun w =>
        (turnOn "keep-ratchets" w.keepRatchets).map fun on => { w with keepRatchets := on }),
      ("symbols", .setting addImage),
      ("json", .switch fun w => (turnOn "json" w.json).map fun on => { w with json := on })]
  path text w := (setPath text w.snapshot).map fun path => { w with snapshot := path }

end WalkSettings

/-- What `symbols` is told. -/
structure ListSettings where
  image : Option String
  bias : Option Address
  json : Bool
deriving DecidableEq, Repr

namespace ListSettings

/-- Nothing is set. -/
def standard : ListSettings := ⟨none, none, false⟩

/-- The arguments of `symbols`. -/
def grammar : Grammar ListSettings where
  options :=
    [("load-bias", .setting fun text l =>
        (setOnce "load-bias" readAddress text l.bias).map fun bias => { l with bias := bias }),
      ("json", .switch fun l => (turnOn "json" l.json).map fun on => { l with json := on })]
  path text l := (setPath text l.image).map fun path => { l with image := path }

end ListSettings

/-- What is to be done. -/
inductive Job
  /-- Walk the stack in a snapshot, with the symbols of some images. -/
  | walk (snapshot : String) (images : List ImageSource) (settings : WalkSettings)
  /-- List the symbols of an image. -/
  | list (image : ImageSource) (json : Bool)
deriving DecidableEq, Repr

/-- A job, and how often more logging was asked for. -/
structure Invocation where
  verbosity : Nat
  job : Job
deriving DecidableEq, Repr

namespace Invocation

/-- Reads the arguments of a command and makes a job of them.  A count of requests for more logging
behind the command replaces the one in front of it. -/
def ofCommand {σ : Type} (g : Grammar σ) (standard : σ) (make : σ → Option Job) (verbosity : Nat)
    (arguments : List String) : Except Stop Invocation := do
  let p ← g.read false arguments ⟨0, standard⟩
  match make p.settings with
  | some job => .ok ⟨if 0 < p.verbosity then p.verbosity else verbosity, job⟩
  | none => .error (.refused .missingPath)

/-- The job of `unwind`. -/
def walkJob (w : WalkSettings) : Option Job :=
  w.snapshot.map fun path => .walk path w.images.reverse w

/-- The job of `symbols`. -/
def listJob (l : ListSettings) : Option Job :=
  l.image.map fun path => .list ⟨path, l.bias.getD .null⟩ l.json

/-- Reads the letters in front of the command. -/
def readFront (text : String) : List Char → Nat → Except Stop Nat
  | 'V' :: _, _ => .error .version
  | 'v' :: letters, verbosity => readFront text letters (verbosity + 1)
  | letters, verbosity => readLetters text letters verbosity

/-- Reads all arguments. -/
def parse (verbosity : Nat) : List String → Except Stop Invocation
  | [] => .error (.refused .noCommand)
  | text :: rest =>
    match Shape.of text with
    | .plain "unwind" => ofCommand WalkSettings.grammar .standard walkJob verbosity rest
    | .plain "symbols" => ofCommand ListSettings.grammar .standard listJob verbosity rest
    | .plain "help" => .error .help
    | .plain name => .error (.refused (.unknownCommand name))
    | .long "verbose" none => parse (verbosity + 1) rest
    | .long "help" none => .error .help
    | .long "version" none => .error .version
    | .short letters => do
      let verbosity ← readFront text letters verbosity
      parse verbosity rest
    | .long _ _ | .escape => .error (.refused (.unknownOption text))

/-- What the arguments ask for. -/
def ofArguments (arguments : List String) : Except Stop Invocation :=
  parse 0 arguments

end Invocation

end StackWalk.CommandLine
