import IdentityOperator.CommandLine

/-!
The help page: each option on a line of its own and its description below it.

The page is written for a terminal, with options in bold letters, and shown without control
sequences. A sequence that the environment leaves open therefore hides what follows it up to the
next option.
-/

namespace IdentityOperator.CommandLine

/-- The name that the program goes by on a command line. -/
def programName : String := "keycloak-operator"

def versionLine : String := s!"{programName} 0.1.0"

/-! ## Descriptions -/

namespace Setting

/-- What an option is for. -/
def purpose : Setting → String
  | watched => "Namespace to watch (empty for all namespaces)"
  | probeInterval => "Seconds between capability discovery runs"
  | requestTimeout => "Timeout for Keycloak admin API requests, in seconds"
  | skipTlsVerify => "Accept self-signed certificates from the Keycloak admin API"
  | profile => "Comma-separated list of active profiles, e.g. RHSSO"

/-- The value of an option that is not given; an empty one is shown by its quotes. -/
def defaultText (s : Setting) : String :=
  let settings : Settings := {}
  let shown (text : String) := if text = "" then "\"\"" else text
  match s with
  | watched => shown settings.watched
  | probeInterval => toString settings.probeInterval
  | requestTimeout => toString settings.requestTimeout
  | skipTlsVerify => if settings.skipTlsVerify then "true" else "false"
  | profile => shown settings.profile

/-- The description of an option: its purpose, the variable of the environment that stands for it,
its default and the values to choose from. -/
def description (env : Option String) (s : Setting) : String :=
  let set := env.getD ""
  let environment := if s = profile then s!" [env: PROFILE={set}]" else ""
  let choice := if s = skipTlsVerify then " [possible values: true, false]" else ""
  s!"{s.purpose}{environment} [default: {s.defaultText}]{choice}"

end Setting

/-! ## The page -/

def indent : String := String.ofList (List.replicate 10 ' ')

/-- An option and below it its description, each line of it indented. -/
def entry (head description : String) : List String :=
  head :: (Split.pieces '\n' description.toList).map (indent ++ String.ofList ·)

def settingEntry (profile : Option String) (s : Setting) : List String :=
  let option := ControlSequence.bold ("--" ++ s.name)
  entry s!"      {option} <{s.placeholder}>" (s.description profile)

def flagEntry (letter : Char) (flag : Flag) (description : String) : List String :=
  let short := ControlSequence.bold (String.ofList ['-', letter])
  entry s!"  {short}, {ControlSequence.bold flag.display}" description

/-- The help page as a terminal is told to show it, given the profiles of the environment. -/
def page (profile : Option String) : String :=
  "\n".intercalate <|
    ["Kubernetes Operator for Keycloak", "",
      ControlSequence.bold "Usage:" ++ " " ++ ControlSequence.bold programName ++ " [OPTIONS]", "",
      ControlSequence.bold "Options:"]
    ++ Setting.all.flatMap (settingEntry profile)
    ++ flagEntry 'h' .help "Print help"
    ++ flagEntry 'V' .version "Print version"

/-- The lines of the help page, given the profiles of the environment. -/
def helpLines (profile : Option String) : List String :=
  Split.lines (ControlSequence.strip (page profile))

end IdentityOperator.CommandLine
