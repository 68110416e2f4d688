import IdentityOperator.Cluster.ApiServer
import IdentityOperator.Cluster.Discovery
import IdentityOperator.Pass.Memory
import IdentityOperator.Pass.Wire

/-!
A world in memory for passes that are spelled out: the cluster's server, the flags, a supply of
passwords, and whatever answers for the installations.
-/

namespace IdentityOperator

structure WireWorld where
  server : ApiServer := {}
  /-- The answer of an installation; none where nothing listens. -/
  installations : Http.Outgoing → Option Http.Response := fun _ => none
  capabilities : Capabilities := {}
  /-- How many passwords have been made. -/
  passwords : Nat := 0
  clock : String := ""

namespace WireWorld

/-- Ask the cluster's server. -/
def serveApi (request : ApiRequest) (world : WireWorld) : ApiResponse × WireWorld :=
  let (response, server) := world.server.serve request
  (response, { world with server })

def serve : (request : WireRequest) → WireWorld → request.Answer × WireWorld
  | .api request, world => world.serveApi request
  | .http request, world => (world.installations request, world)
  | .flag key, world => (world.capabilities.get key, world)
  | .password bytes, world =>
    (Password.numbered bytes (world.passwords + 1), { world with passwords := world.passwords + 1 })
  | .now, world => (world.clock, world)

/-- Run a part of a pass. -/
def run {α : Type} (world : WireWorld) (program : Wired α) : α × WireWorld :=
  program.run serve world

/-- Whether a request goes to the cluster's server, to a path with that end. -/
def isAtEnd (pathEnd : String) : WireRequest → Bool
  | .api request => pathEnd.toList.isSuffixOf request.target.path.toList
  | _ => false

/-- Run a part of a pass up to a request to a path with that end. Tells whether there was one. -/
def runUntil {α : Type} (world : WireWorld) (pathEnd : String) (program : Wired α) :
    Bool × WireWorld :=
  let (result, world) := program.runUntil (isAtEnd pathEnd) serve world
  (result.isNone, world)

/-- Probe which kinds the cluster serves, and set the flags by it. -/
def probe (world : WireWorld) : ApiOutcome Unit × WireWorld :=
  let (outcome, world) := Discovery.probe.run.run serveApi world
  (outcome.map fun _ => (),
    { world with capabilities := world.capabilities.afterProbe outcome })

end WireWorld

end IdentityOperator
