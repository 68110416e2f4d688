import IdentityOperator.CommandLine.Help
import IdentityOperator.Json.Text

/-!
The start of the program: what a command line leads to as long as no cluster has been found.
-/

namespace IdentityOperator.CommandLine

/-- A line that the program writes. -/
inductive Line where
  /-- A message of the log. -/
  | info (message : String)
  | plain (text : String)
  deriving DecidableEq, Repr

/-- The line as it is written; a message of the log is a JSON object. -/
def Line.render : Line → String
  | info message =>
    (Json.object [("level", .text "INFO"),
      ("fields", .object [("message", .text message)])]).render
  | plain text => text

/-- What a run of the program leaves behind. -/
structure Outcome where
  exitCode : UInt32
  output : List Line := []
  /-- What is written beside the output. -/
  complaint : Option String := none
  deriving DecidableEq, Repr

/-- The messages before the cluster is looked for. -/
def Settings.messages (settings : Settings) : List String :=
  let scope := if settings.watched = "" then "all" else settings.watched
  ["Starting Keycloak Kubernetes Operator", s!"Watching namespace: {scope}"]

/-- The outcome of a command line where no cluster is found. -/
def start (profile : Option String) (arguments : List String) : Outcome :=
  match request profile arguments with
  | .ok (.run settings) => { exitCode := 1, output := settings.messages.map .info }
  | .ok (.describe .help) => { exitCode := 0, output := (helpLines profile).map .plain }
  | .ok (.describe .version) => { exitCode := 0, output := [.plain versionLine] }
  | .error e => { exitCode := 2, complaint := some e.message }

end IdentityOperator.CommandLine
