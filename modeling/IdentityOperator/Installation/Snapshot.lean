import IdentityOperator.Installation.Part

/-!
Snapshots: what is there of an installation, part by part, and what follows from it for its users.
-/

namespace IdentityOperator

/-- What is there of the objects of an installation. -/
structure Snapshot where
  /-- The object of a part, if it was found. -/
  found : (part : Part) → Option part.kind.Object := fun _ => none

namespace Snapshot

def put (state : Snapshot) (part : Part) (object : part.kind.Object) : Snapshot where
  found other := if h : part = other then some (h ▸ object) else state.found other

def databaseSecret (state : Snapshot) : Option Secret := state.found .databaseSecret

def statefulSet (state : Snapshot) : Option StatefulSet := state.found .statefulSet

def route (state : Snapshot) : Option Route := state.found .route

def ingress (state : Snapshot) : Option Ingress := state.found .ingress

/-- Whether everything that makes the installation usable is ready. -/
def isReady (state : Snapshot) (kc : Keycloak) (routeSupported : Bool) : Bool :=
  kc.spec.unmanaged ||
    (state.statefulSet.any (·.isReady) &&
      (!(kc.spec.externalAccess.enabled && routeSupported) || state.route.any (·.isAdmitted)))

/-- The URL of the installation from outside: that of the route, else of the ingress. -/
def externalUrl (state : Snapshot) : String :=
  let routeHost := state.route.bind (·.spec.host)
  let ingressHost := state.ingress.bind fun ingress => ingress.spec.bind (·.firstHost?)
  ((nonEmpty? (routeHost.or ingressHost)).map ("https://" ++ ·)).getD ""

/-- Whether the administrator's secret lacks a password. -/
def needsAdminPassword (state : Snapshot) : Bool :=
  AdminSecret.needsPassword (state.found .adminSecret)

/-- Whether the database secret lacks a password that the operator has to make. -/
def needsDatabasePassword (state : Snapshot) (kc : Keycloak) : Bool :=
  DatabaseSecret.needsPassword kc state.databaseSecret

end Snapshot

end IdentityOperator
