import IdentityOperator.Kube.Secret
import IdentityOperator.Kube.Service
import IdentityOperator.Kube.Workload
import IdentityOperator.Kube.Ingress
import IdentityOperator.Resource.Route
import IdentityOperator.Resource.Monitoring
import IdentityOperator.Resource.KeycloakRealm

/-!
The kinds of objects that the operator reads and writes, and objects of any kind.
-/

namespace IdentityOperator

inductive Kind where
  | secret
  | configMap
  | service
  | persistentVolumeClaim
  | deployment
  | statefulSet
  | podDisruptionBudget
  | ingress
  | route
  | serviceMonitor
  | prometheusRule
  | grafanaDashboard
  | keycloak
  | keycloakRealm
  deriving DecidableEq, Repr, Inhabited

namespace Kind

def all : List Kind := [
  secret, configMap, service, persistentVolumeClaim, deployment, statefulSet, podDisruptionBudget,
  ingress, route, serviceMonitor, prometheusRule, grafanaDashboard, keycloak, keycloakRealm]

def Object : Kind → Type
  | secret => Secret
  | configMap => ConfigMap
  | service => Service
  | persistentVolumeClaim => PersistentVolumeClaim
  | deployment => Deployment
  | statefulSet => StatefulSet
  | podDisruptionBudget => PodDisruptionBudget
  | ingress => Ingress
  | route => Route
  | serviceMonitor => ServiceMonitor
  | prometheusRule => PrometheusRule
  | grafanaDashboard => GrafanaDashboard
  | keycloak => Keycloak
  | keycloakRealm => KeycloakRealm

def name : Kind → String
  | secret => "Secret"
  | configMap => "ConfigMap"
  | service => "Service"
  | persistentVolumeClaim => "PersistentVolumeClaim"
  | deployment => "Deployment"
  | statefulSet => "StatefulSet"
  | podDisruptionBudget => "PodDisruptionBudget"
  | ingress => "Ingress"
  | route => "Route"
  | serviceMonitor => "ServiceMonitor"
  | prometheusRule => "PrometheusRule"
  | grafanaDashboard => "GrafanaDashboard"
  | keycloak => "Keycloak"
  | keycloakRealm => "KeycloakRealm"

def ofName? (name : String) : Option Kind := all.find? fun kind => kind.name = name

/-- The name of a kind in request paths. -/
def plural : Kind → String
  | secret => "secrets"
  | configMap => "configmaps"
  | service => "services"
  | persistentVolumeClaim => "persistentvolumeclaims"
  | deployment => "deployments"
  | statefulSet => "statefulsets"
  | podDisruptionBudget => "poddisruptionbudgets"
  | ingress => "ingresses"
  | route => "routes"
  | serviceMonitor => "servicemonitors"
  | prometheusRule => "prometheusrules"
  | grafanaDashboard => "grafanadashboards"
  | keycloak => "keycloaks"
  | keycloakRealm => "keycloakrealms"

/-- The group and version of a kind; the core group has no name. -/
def apiVersion : Kind → String
  | secret | configMap | service | persistentVolumeClaim => "v1"
  | deployment | statefulSet => "apps/v1"
  | podDisruptionBudget => "policy/v1"
  | ingress => "networking.k8s.io/v1"
  | route => "route.openshift.io/v1"
  | serviceMonitor | prometheusRule => "monitoring.coreos.com/v1"
  | grafanaDashboard => "integreatly.org/v1alpha1"
  | keycloak | keycloakRealm => Keycloak.apiVersion

/-- How objects of a kind are written and read. -/
def form : (kind : Kind) → Form kind.Object
  | secret => Secret.form
  | configMap => ConfigMap.form
  | service => Service.form
  | persistentVolumeClaim => PersistentVolumeClaim.form
  | deployment => Deployment.form
  | statefulSet => StatefulSet.form
  | podDisruptionBudget => PodDisruptionBudget.form
  | ingress => Ingress.form
  | route => Route.form
  | serviceMonitor => ServiceMonitor.form
  | prometheusRule => PrometheusRule.form
  | grafanaDashboard => GrafanaDashboard.form
  | keycloak => Keycloak.form
  | keycloakRealm => KeycloakRealm.form

def metadata : (kind : Kind) → kind.Object → ObjectMeta
  | secret => Secret.metadata
  | configMap => ConfigMap.metadata
  | service => Service.metadata
  | persistentVolumeClaim => PersistentVolumeClaim.metadata
  | deployment => Deployment.metadata
  | statefulSet => StatefulSet.metadata
  | podDisruptionBudget => PodDisruptionBudget.metadata
  | ingress => Ingress.metadata
  | route => Route.metadata
  | serviceMonitor => ServiceMonitor.metadata
  | prometheusRule => PrometheusRule.metadata
  | grafanaDashboard => GrafanaDashboard.metadata
  | keycloak => Keycloak.metadata
  | keycloakRealm => KeycloakRealm.metadata

end Kind

/-- What an object of some kind is found by. -/
structure ObjectKey where
  name : String
  /-- The namespace of the object. -/
  ns : String
  deriving DecidableEq, Repr

/-- The written form of a key. -/
def ObjectKey.display (key : ObjectKey) : String := key.ns ++ "/" ++ key.name

def ObjectMeta.key (m : ObjectMeta) : ObjectKey := ⟨m.nameAny, m.namespaceOrDefault⟩

/-- An object of any kind. -/
structure Object where
  kind : Kind
  content : kind.Object

namespace Object

def metadata (o : Object) : ObjectMeta := o.kind.metadata o.content

def key (o : Object) : ObjectKey := o.metadata.key

def name (o : Object) : String := o.metadata.nameAny

/-- The written form of what an object is found by. -/
def display (o : Object) : String := o.kind.name ++ " " ++ o.key.display

/-- The version that the cluster gave to the stored object. -/
def resourceVersion (o : Object) : Option String := o.metadata.resourceVersion

def toJson (o : Object) : Json := o.kind.form.write o.content

def as? (kind : Kind) (o : Object) : Option kind.Object :=
  if h : o.kind = kind then some (h ▸ o.content) else none

/-- The object that a JSON value with a `kind` stands for. -/
def ofJson? (json : Json) : Option Object :=
  match json.field? "kind" with
  | some (.text name) => do
    let kind ← Kind.ofName? name
    let content ← kind.form.ofJson? json
    some ⟨kind, content⟩
  | _ => none

end Object

end IdentityOperator
