import IdentityOperator.Text.ControlSequence
import IdentityOperator.Text.Integer
import IdentityOperator.Text.Split

/-!
The command line: what the operator is told before it starts.

An option takes its value after an equals sign or as the next argument. In the second form the value
is read only when the option is settled, that is when another option or the end is met: an argument
that is not known is therefore reported before a bad value in front of it.
-/

namespace IdentityOperator.CommandLine

/-! ## Settings and their options -/

/-- An option with a value. -/
inductive Setting where
  | watched
  | probeInterval
  | requestTimeout
  | skipTlsVerify
  | profile
  deriving DecidableEq, Repr

/-- What stands on a command line beside options with a value. -/
inductive Flag where
  | help
  | version
  deriving DecidableEq, Repr

structure Settings where
  /-- The namespace to watch, empty for all of them. -/
  watched : String := ""
  /-- Seconds from one probe of the capabilities to the next. -/
  probeInterval : Nat := 60
  /-- Seconds that a request to a server may take. -/
  requestTimeout : Nat := 10
  skipTlsVerify : Bool := true
  /-- The active profiles, in a list with commas. -/
  profile : String := ""
  deriving DecidableEq, Repr

namespace Setting

/-- The options in the order in which they are shown. -/
def all : List Setting := [.watched, .probeInterval, .requestTimeout, .skipTlsVerify, .profile]

/-- The name of the option, without its dashes. -/
def name : Setting → String
  | watched => "namespace"
  | probeInterval => "capability-probe-interval-secs"
  | requestTimeout => "request-timeout-secs"
  | skipTlsVerify => "insecure-skip-tls-verify"
  | profile => "profile"

def ofName? (text : String) : Option Setting := all.find? (·.name = text)

/-- The word that stands for the value: the name of the option in capitals and underscores. -/
def placeholder (s : Setting) : String :=
  String.ofList (s.name.toList.map fun c => if c = '-' then '_' else c.toUpper)

/-- The option with the word for its value. -/
def display (s : Setting) : String := s!"--{s.name} <{s.placeholder}>"

end Setting

namespace Flag

def ofName? : String → Option Flag
  | "help" => some .help
  | "version" => some .version
  | _ => none

def ofLetter? : Char → Option Flag
  | 'h' => some .help
  | 'V' => some .version
  | _ => none

/-- The long name of a flag, with its dashes. -/
def display : Flag → String
  | help => "--help"
  | version => "--version"

end Flag

/-! ## What may be wrong -/

/-- Why a command line is refused. -/
inductive UsageError where
  | unexpectedArgument (shown : String)
  /-- A flag takes no value. -/
  | unexpectedValue (flag : Flag) (value : String)
  | missingValue (setting : Setting)
  | repeated (setting : Setting)
  | badValue (setting : Setting) (value : String)
  | badNumber (setting : Setting) (value : String) (why : NumberError)
  deriving DecidableEq, Repr

/-- The error in words. What stood on the command line is shown without control sequences. -/
def UsageError.message : UsageError → String
  | unexpectedArgument text =>
    let shown := ControlSequence.strip text
    s!"error: unexpected argument '{shown}' found"
  | unexpectedValue flag value =>
    let shown := ControlSequence.strip value
    s!"error: unexpected value '{shown}' for '{flag.display}' found; no more were expected"
  | missingValue s => s!"error: a value is required for '{s.display}' but none was supplied"
  | repeated s => s!"error: the argument '{s.display}' cannot be used multiple times"
  | badValue s value =>
    let shown := ControlSequence.strip value
    s!"error: invalid value '{shown}' for '{s.display}'"
  | badNumber s value why =>
    let shown := ControlSequence.strip value
    s!"error: invalid value '{shown}' for '{s.display}': {why.message}"

/-! ## Arguments -/

/-- One argument, before it is known whether the option in front of it takes it as its value. -/
inductive Argument where
  /-- Two dashes: no options follow. -/
  | endOfOptions
  | setting (s : Setting) (value : Option String)
  | flag (f : Flag) (value : Option String)
  /-- It has the form of an option and is none. -/
  | unknown (shown : String)
  | plain (text : String)
  deriving DecidableEq, Repr

namespace Argument

/-- The argument of a long name, which may hold a value after an equals sign. -/
def ofLong (text : List Char) : Argument :=
  let (before, after) := Split.first '=' text
  let value := if text.contains '=' then some (String.ofList after) else none
  let name := String.ofList before
  match Setting.ofName? name, Flag.ofName? name with
  | some s, _ => .setting s value
  | none, some f => .flag f value
  | none, none => .unknown s!"--{name}"

/-- What an argument is by its form. After one dash only the first letter counts. -/
def ofText (text : String) : Argument :=
  match text.toList with
  | ['-', '-'] => .endOfOptions
  | '-' :: '-' :: rest => ofLong rest
  | '-' :: letter :: _ =>
    match Flag.ofLetter? letter with
    | some f => .flag f none
    | none => .unknown s!"-{letter}"
  | _ => .plain text

end Argument

/-! ## Reading a command line -/

/-- What a command line asks for. -/
inductive Request where
  | run (settings : Settings)
  | describe (flag : Flag)
  deriving DecidableEq, Repr

namespace Settings

/-- A value as one of the two truth values. -/
def readBool (s : Setting) : String → Except UsageError Bool
  | "true" => .ok true
  | "false" => .ok false
  | "" => .error (.missingValue s)
  | value => .error (.badValue s value)

def readNumber (s : Setting) (value : String) : Except UsageError Nat :=
  (Integer.readNat64 value).mapError (.badNumber s value)

def set (settings : Settings) (s : Setting) (value : String) : Except UsageError Settings :=
  match s with
  | .watched => .ok { settings with watched := value }
  | .probeInterval => do return { settings with probeInterval := ← readNumber s value }
  | .requestTimeout => do return { settings with requestTimeout := ← readNumber s value }
  | .skipTlsVerify => do return { settings with skipTlsVerify := ← readBool s value }
  | .profile => .ok { settings with profile := value }

end Settings

/-- How far a command line has been read. -/
structure Reading where
  settings : Settings
  /-- The options that have been given a value. -/
  given : List Setting := []
  /-- The option that was met last, and the argument behind it. -/
  pending : Option (Setting × Option String) := none
  deriving DecidableEq, Repr

namespace Reading

/-- One option takes its value. An option is given once. -/
def take (r : Reading) (s : Setting) (value : String) : Except UsageError Reading := do
  if r.given.contains s then throw (.repeated s)
  return { r with settings := ← r.settings.set s value, given := s :: r.given }

/-- The pending option takes its value. -/
def settle (r : Reading) : Except UsageError Reading :=
  match r.pending with
  | none => .ok r
  | some (s, none) => .error (.missingValue s)
  | some (s, some value) => take { r with pending := none } s value

/-- The request of the arguments that are left. -/
def finish (r : Reading) : List String → Except UsageError Request
  | [] => do return .run (← r.settle).settings
  | text :: rest =>
    match Argument.ofText text with
    | .endOfOptions =>
      match rest with
      | [] => do return .run (← r.settle).settings
      | next :: _ => .error (.unexpectedArgument next)
    | .setting s none => do
      let r ← r.settle
      finish { r with pending := some (s, none) } rest
    | .setting s (some value) => do
      let r ← (← r.settle).take s value
      finish r rest
    | .flag f none => do
      let _ ← r.settle
      return .describe f
    | .flag f (some value) => .error (.unexpectedValue f value)
    | .unknown shown => .error (.unexpectedArgument shown)
    | .plain text =>
      match r.pending with
      | some (s, none) => finish { r with pending := some (s, some text) } rest
      | _ => .error (.unexpectedArgument text)

end Reading

/-- The request of a command line. The profiles have a default from the environment. -/
def request (profile : Option String) (arguments : List String) : Except UsageError Request :=
  Reading.finish { settings := { profile := profile.getD "" } } arguments

end IdentityOperator.CommandLine
