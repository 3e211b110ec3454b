import FaultContext.Config.Load
import FaultContext.Text.Basic

/-!
# Arguments

What a command line asks for. Options may stand before or after the name of the command, once on each
side, and the one after it counts; an environment variable stands in for an option that neither side
gives, and must make sense even where it is not needed. Anything that does not fit is a usage error.
-/

namespace FaultContext.CommandLine

set_option autoImplicit false

open Files (Path)

inductive OptionName where
  | config
  | projectRoot
  | extractExternal
  | cacheSize
  | contextLines
  | causeFrames
  | debug
  | input
  | pretty
  | version
deriving DecidableEq, Repr

inductive ValueKind where
  | flag
  | path
  | count
deriving DecidableEq, Repr

/-- Whether a text is a value of a kind. A flag has one only in an environment variable. -/
def ValueKind.admits : ValueKind → Text → Bool
  | .flag, value => value == "true".toList || value == "false".toList
  | .path, value => !value.isEmpty
  | .count, value => (Text.readNumeral? Text.maxWord64 value).isSome

namespace OptionName

def kind : OptionName → ValueKind
  | .config => .path
  | .projectRoot => .path
  | .extractExternal => .flag
  | .cacheSize => .count
  | .contextLines => .count
  | .causeFrames => .flag
  | .debug => .flag
  | .input => .path
  | .pretty => .flag
  | .version => .flag

def long : OptionName → Text
  | .config => "config".toList
  | .projectRoot => "project-root".toList
  | .extractExternal => "extract-external".toList
  | .cacheSize => "cache-size".toList
  | .contextLines => "context-lines".toList
  | .causeFrames => "cause-frames".toList
  | .debug => "debug".toList
  | .input => "input".toList
  | .pretty => "pretty".toList
  | .version => "version".toList

def short? : OptionName → Option Char
  | .config => some 'c'
  | .projectRoot => some 'p'
  | .input => some 'i'
  | .version => some 'V'
  | _ => none

def environmentName? : OptionName → Option Text
  | .config => some "STACKDETAIL_CONFIG".toList
  | .projectRoot => some "STACKDETAIL_PROJECT_ROOT".toList
  | .extractExternal => some "STACKDETAIL_EXTRACT_EXTERNAL".toList
  | _ => none

/-- The options on both sides of the command. -/
def shared : List OptionName :=
  [.config, .projectRoot, .extractExternal, .cacheSize, .contextLines, .causeFrames, .debug]

end OptionName

inductive CommandName where
  | enrich
  | details
  | config
deriving DecidableEq, Repr

namespace CommandName

def named? (name : Text) : Option CommandName :=
  if name = "enrich".toList then some .enrich
  else if name = "details".toList then some .details
  else if name = "config".toList then some .config
  else none

def ownOptions : CommandName → List OptionName
  | .enrich => [.input, .pretty]
  | .details => [.input]
  | .config => []

end CommandName

inductive UsageError where
  | unknownOption (argument : Text)
  | unexpectedArgument (argument : Text)
  | unexpectedValue (option : OptionName)
  | missingValue (option : OptionName)
  | invalidValue (option : OptionName) (value : Text)
  | repeatedOption (option : OptionName)
  | missingCommand
  | unknownCommand (name : Text)
deriving DecidableEq, Repr

def UsageError.message : UsageError → Text
  | .unknownOption argument => "unknown option ".toList ++ argument
  | .unexpectedArgument argument => "unexpected argument ".toList ++ argument
  | .unexpectedValue option => "no value can be given for --".toList ++ option.long
  | .missingValue option => "a value is required for --".toList ++ option.long
  | .invalidValue option value =>
      "invalid value for --".toList ++ option.long ++ ": ".toList ++ value
  | .repeatedOption option => "given more than once: --".toList ++ option.long
  | .missingCommand => "a command is required: enrich, details or config".toList
  | .unknownCommand name => "unknown command ".toList ++ name

inductive Argument where
  | plain
  | endOfOptions
  | long (name : Text) (value : Option Text)
  | short (letter : Char) (value : Option Text)
deriving DecidableEq, Repr

/-- An argument by its hyphens. A single hyphen alone is as plain as any word. A value may be joined
to the option with an equals sign, and to a letter also without one. -/
def Argument.of : Text → Argument
  | ['-', '-'] => .endOfOptions
  | '-' :: '-' :: rest =>
      match Text.cutFirst? '=' rest with
      | some (name, value) => .long name (some value)
      | none => .long rest none
  | ['-', letter] => .short letter none
  | '-' :: letter :: '=' :: value => .short letter (some value)
  | '-' :: letter :: value => .short letter (some value)
  | _ => .plain

/-- The option that an argument names, with the value that is joined to it. What is joined to the
letter of a flag would be further letters; the only flag with a letter is the question for the
version, behind which nothing is read. -/
def Argument.option? (allowed : List OptionName) : Argument → Option (OptionName × Option Text)
  | .long name value => (allowed.find? fun option => option.long == name).map (·, value)
  | .short letter value =>
      (allowed.find? fun option => option.short? == some letter).map fun option =>
        (option, if option.kind = .flag then none else value)
  | _ => none

abbrev Given := List (OptionName × Text)

/-- Adds an option with its value, which must fit and must be the first one. -/
def enter (option : OptionName) (value : Text) (given : Given) : Except UsageError Given :=
  if (given.lookup option).isSome then .error (.repeatedOption option)
  else if option.kind.admits value then .ok ((option, value) :: given)
  else .error (.invalidValue option value)

/-- One side of the command line: the question for the version, or options up to a plain argument. -/
inductive Side where
  | version
  | options (given : Given) (rest : List Text)
deriving DecidableEq, Repr

/-- Reads options up to the first plain argument. The question for the version ends it all. -/
def readSide (allowed : List OptionName) (given : Given) : List Text → Except UsageError Side
  | [] => .ok (.options given [])
  | argument :: rest =>
      match Argument.of argument with
      | .plain => .ok (.options given (argument :: rest))
      | .endOfOptions =>
          match rest with
          | [] => .ok (.options given [])
          | next :: _ => .error (.unexpectedArgument next)
      | shape =>
          match shape.option? allowed with
          | none => .error (.unknownOption argument)
          | some (option, joined) =>
              match option.kind, joined, rest with
              | .flag, some _, _ => .error (.unexpectedValue option)
              | .flag, none, rest =>
                  if option = .version then .ok .version
                  else (enter option "true".toList given).bind fun given =>
                    readSide allowed given rest
              | _, some value, rest =>
                  (enter option value given).bind fun given => readSide allowed given rest
              | _, none, [] => .error (.missingValue option)
              | _, none, value :: rest =>
                  if Argument.of value = .plain then
                    (enter option value given).bind fun given => readSide allowed given rest
                  else .error (.missingValue option)

abbrev Variables := List (Text × Text)

def Variables.standIn? (environment : Variables) (option : OptionName) : Option Text :=
  option.environmentName?.bind fun name => environment.lookup name

def checkVariables (environment : Variables) (given : Given) : List OptionName → Except UsageError Unit
  | [] => .ok ()
  | option :: options =>
      match given.lookup option, environment.standIn? option with
      | none, some value =>
          if option.kind.admits value then checkVariables environment given options
          else .error (.invalidValue option value)
      | _, _ => checkVariables environment given options

/-- A command with what only it needs. Without an input the standard input is read. -/
inductive Command where
  | enrich (input : Option Path) (pretty : Bool)
  | details (input : Option Path)
  | config
deriving DecidableEq, Repr

structure Invocation where
  config : Option Path
  overrides : Config.Overrides
  debug : Bool
  command : Command
deriving DecidableEq, Repr

inductive Request where
  | version
  | run (invocation : Invocation)
deriving DecidableEq, Repr

/-- Where an option has its value from: the side behind the command, the side before it, a variable. -/
def valueOf (environment : Variables) (before behind : Given) (option : OptionName) : Option Text :=
  behind.lookup option <|> before.lookup option <|> environment.standIn? option

/-- A hyphen for an input means the standard input. -/
def inputPath (value : Option Path) : Option Path := value.filter fun path => !Path.same path ['-']

def invocation (environment : Variables) (name : CommandName) (before behind : Given) : Invocation :=
  let value := valueOf environment before behind
  let flag (option : OptionName) : Bool := value option == some "true".toList
  let count (option : OptionName) : Option Nat :=
    (value option).bind (Text.readNumeral? Text.maxWord64)
  let given (option : OptionName) : Option Bool := if flag option then some true else none
  { config := value .config
    overrides :=
      { projectRoot := value .projectRoot
        extractExternal := given .extractExternal
        cacheSize := count .cacheSize
        contextLines := count .contextLines
        includeCauseFrames := given .causeFrames }
    debug := flag .debug
    command :=
      match name with
      | .enrich => .enrich (inputPath (value .input)) (flag .pretty)
      | .details => .details (inputPath (value .input))
      | .config => .config }

def readCommand (environment : Variables) (name : CommandName) (before : Given)
    (arguments : List Text) : Except UsageError Request :=
  let allowed := OptionName.shared ++ name.ownOptions
  match readSide allowed [] arguments with
  | .error error => .error error
  | .ok .version => .ok .version
  | .ok (.options _ (argument :: _)) => .error (.unexpectedArgument argument)
  | .ok (.options behind []) => do
      checkVariables environment behind allowed
      checkVariables environment before OptionName.shared
      return .run (invocation environment name before behind)

def Request.parse (environment : Variables) (arguments : List Text) : Except UsageError Request :=
  match readSide (.version :: OptionName.shared) [] arguments with
  | .error error => .error error
  | .ok .version => .ok .version
  | .ok (.options _ []) => .error .missingCommand
  | .ok (.options before (name :: rest)) =>
      match CommandName.named? name with
      | some command => readCommand environment command before rest
      | none => .error (.unknownCommand name)

end FaultContext.CommandLine
