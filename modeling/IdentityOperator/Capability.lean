/-!
Which optional kinds the cluster serves.

A flag belongs to the subsystem that asks and to a kind. It is set by a probe and read by every
pass; a flag that nobody has set reads as unset.
-/

namespace IdentityOperator

/-- What a flag is about. -/
structure CapabilityKey where
  subsystem : String
  kind : String
  deriving DecidableEq, Repr

namespace CapabilityKey

/-- The flag of an optional kind that the installations of the operator may use. -/
def monitoring (kind : String) : CapabilityKey := ⟨"keycloak-controller", kind⟩

def prometheusRule : CapabilityKey := monitoring "PrometheusRule"

def serviceMonitor : CapabilityKey := monitoring "ServiceMonitor"

def grafanaDashboard : CapabilityKey := monitoring "GrafanaDashboard"

/-- The flag for routes, which the whole cluster has or lacks. -/
def route : CapabilityKey := ⟨"cluster", "Route"⟩

def display (key : CapabilityKey) : String := key.subsystem ++ "-watch-" ++ key.kind

end CapabilityKey

/-- The flags that have been set. -/
structure Capabilities where
  flags : List (CapabilityKey × Bool) := []

namespace Capabilities

/-- What a flag was last set to. -/
def lookup (capabilities : Capabilities) (key : CapabilityKey) : Option Bool :=
  (capabilities.flags.find? (·.1 = key)).map (·.2)

/-- A flag, unset where nobody has set it. -/
def get (capabilities : Capabilities) (key : CapabilityKey) : Bool :=
  (capabilities.lookup key).getD false

def set (capabilities : Capabilities) (key : CapabilityKey) (value : Bool) : Capabilities :=
  ⟨(key, value) :: capabilities.flags.filter (·.1 ≠ key)⟩

def routeSupported (capabilities : Capabilities) : Bool := capabilities.get .route

/-- The flags of a list, set in its order. -/
def ofList (flags : List (CapabilityKey × Bool)) : Capabilities :=
  flags.foldl (fun capabilities flag => capabilities.set flag.1 flag.2) {}

end Capabilities

/-- The flags that decide what an installation consists of. -/
structure InstallationFlags where
  prometheusRule : Bool := false
  serviceMonitor : Bool := false
  grafanaDashboard : Bool := false
  route : Bool := false
  deriving DecidableEq, Repr

def Capabilities.installationFlags (capabilities : Capabilities) : InstallationFlags where
  prometheusRule := capabilities.get .prometheusRule
  serviceMonitor := capabilities.get .serviceMonitor
  grafanaDashboard := capabilities.get .grafanaDashboard
  route := capabilities.routeSupported

end IdentityOperator
