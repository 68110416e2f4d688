import IdentityOperator.Capability
import IdentityOperator.Installation.Access
import IdentityOperator.Installation.Database
import IdentityOperator.Installation.Monitoring
import IdentityOperator.Installation.Workload

/-!
The parts of an installation: one object each, with its kind and key, the way it is built, and the
way an existing one is brought in line.

Which parts an installation has is said by two conditions. A pass reads some parts that the
installation should not have, but it never writes them.
-/

namespace IdentityOperator

inductive Part where
  | adminSecret
  | prometheusRule
  | serviceMonitor
  | grafanaDashboard
  | databaseSecret
  | databaseClaim
  | databaseDeployment
  | databaseService
  | probes
  | service
  | discoveryService
  | statefulSet
  | disruptionBudget
  | route
  | ingress
  deriving DecidableEq, Repr

/-- What the objects of an installation are built from. -/
structure Blueprint where
  kc : Keycloak
  profiles : Profiles
  /-- Passwords for the secrets that lack one. -/
  passwords : FreshPasswords
  /-- The database secret, as it was read. -/
  databaseSecret : Option Secret

namespace Part

/-- All parts, in the order in which they are read and written. -/
def all : List Part := [
  adminSecret, prometheusRule, serviceMonitor, grafanaDashboard, databaseSecret, databaseClaim,
  databaseDeployment, databaseService, probes, service, discoveryService, statefulSet,
  disruptionBudget, route, ingress]

/-! ## Identity -/

def kind : Part → Kind
  | adminSecret | databaseSecret => .secret
  | prometheusRule => .prometheusRule
  | serviceMonitor => .serviceMonitor
  | grafanaDashboard => .grafanaDashboard
  | databaseClaim => .persistentVolumeClaim
  | databaseDeployment => .deployment
  | databaseService | service | discoveryService => .service
  | probes => .configMap
  | statefulSet => .statefulSet
  | disruptionBudget => .podDisruptionBudget
  | route => .route
  | ingress => .ingress

def key (kc : Keycloak) : Part → ObjectKey
  | adminSecret => AdminSecret.key kc
  | prometheusRule => ServerAlerts.key kc
  | serviceMonitor => ServerMonitor.key kc
  | grafanaDashboard => ServerDashboard.key kc
  | databaseSecret => DatabaseSecret.key kc
  | databaseClaim => DatabaseClaim.key kc
  | databaseDeployment => DatabaseDeployment.key kc
  | databaseService => DatabaseService.key kc
  | probes => Probes.key kc
  | service => ServerService.key kc
  | discoveryService => DiscoveryService.key kc
  | statefulSet => ServerStatefulSet.key kc
  | disruptionBudget => DisruptionBudget.key kc
  | route => ServerRoute.key kc
  | ingress => ServerIngress.key kc

/-- What a part is called in the text of a plan. -/
def title : Part → String
  | adminSecret => "Keycloak admin secret"
  | prometheusRule => "Keycloak prometheus rule"
  | serviceMonitor => "Keycloak service monitor"
  | grafanaDashboard => "Keycloak grafana dashboard"
  | databaseSecret => "Keycloak database secret"
  | databaseClaim => "PostgreSQL persistent volume claim"
  | databaseDeployment => "PostgreSQL deployment"
  | databaseService => "PostgreSQL service"
  | probes => "Keycloak probes"
  | service => "Keycloak service"
  | discoveryService => "Keycloak discovery service"
  | statefulSet => "Keycloak deployment"
  | disruptionBudget => "Keycloak pod disruption budget"
  | route => "Keycloak route"
  | ingress => "Keycloak ingress"

/-! ## Building -/

def fresh (blueprint : Blueprint) : (part : Part) → part.kind.Object
  | adminSecret => AdminSecret.fresh blueprint.kc blueprint.passwords.admin
  | prometheusRule => ServerAlerts.fresh blueprint.kc
  | serviceMonitor => ServerMonitor.fresh blueprint.kc
  | grafanaDashboard => ServerDashboard.fresh blueprint.kc
  | databaseSecret => DatabaseSecret.fresh blueprint.kc blueprint.passwords.database
  | databaseClaim => DatabaseClaim.fresh blueprint.kc
  | databaseDeployment => DatabaseDeployment.fresh blueprint.kc
  | databaseService => DatabaseService.fresh blueprint.kc
  | probes => Probes.fresh blueprint.kc
  | service => ServerService.fresh blueprint.kc
  | discoveryService => DiscoveryService.fresh blueprint.kc
  | statefulSet =>
    ServerStatefulSet.fresh blueprint.kc blueprint.databaseSecret blueprint.profiles
  | disruptionBudget => DisruptionBudget.fresh blueprint.kc
  | route => ServerRoute.fresh blueprint.kc
  | ingress => ServerIngress.fresh blueprint.kc

/-- An existing object, brought in line. -/
def refreshed (blueprint : Blueprint) : (part : Part) → part.kind.Object → part.kind.Object
  | adminSecret => AdminSecret.refreshed blueprint.passwords.admin
  | prometheusRule => ServerAlerts.refreshed blueprint.kc
  | serviceMonitor => ServerMonitor.refreshed
  | grafanaDashboard => ServerDashboard.refreshed
  | databaseSecret => DatabaseSecret.refreshed blueprint.kc blueprint.passwords.database
  | databaseClaim => DatabaseClaim.refreshed
  | databaseDeployment => DatabaseDeployment.refreshed
  | databaseService => DatabaseService.refreshed
  | probes => Probes.refreshed
  | service => ServerService.refreshed
  | discoveryService => DiscoveryService.refreshed
  | statefulSet =>
    ServerStatefulSet.refreshed blueprint.kc blueprint.databaseSecret blueprint.profiles
  | disruptionBudget => DisruptionBudget.refreshed
  | route => ServerRoute.refreshed blueprint.kc
  | ingress => ServerIngress.refreshed blueprint.kc

/-! ## Conditions -/

/-- Whether the installation should have a part. Monitoring and routes depend on what the cluster
serves, the embedded database on whether there is an external one. -/
def isWanted (kc : Keycloak) (flags : InstallationFlags) : Part → Bool
  | prometheusRule => flags.prometheusRule
  | serviceMonitor => flags.serviceMonitor
  | grafanaDashboard => flags.grafanaDashboard
  | databaseClaim | databaseDeployment | databaseService => !kc.spec.externalDatabase.enabled
  | disruptionBudget => kc.spec.podDisruptionBudget.enabled
  | route => kc.spec.externalAccess.enabled && flags.route
  | ingress => kc.spec.externalAccess.enabled && !flags.route
  | adminSecret | databaseSecret | probes | service | discoveryService | statefulSet => true

/-- Whether a pass looks for a part. What would give access from outside, and the disruption budget,
are looked for even if they are not wanted. -/
def isRead (kc : Keycloak) (flags : InstallationFlags) : Part → Bool
  | disruptionBudget => true
  | route => flags.route
  | ingress => !flags.route
  | part => part.isWanted kc flags

/-- Whether a part, once found, is noted as belonging to the installation. -/
def isTracked (kc : Keycloak) : Part → Bool
  | disruptionBudget => kc.spec.podDisruptionBudget.enabled
  | _ => true

def wanted (kc : Keycloak) (flags : InstallationFlags) : List Part := all.filter (isWanted kc flags)

/-- The parts that a pass looks for. -/
def read (kc : Keycloak) (flags : InstallationFlags) : List Part := all.filter (isRead kc flags)

end Part

end IdentityOperator
