import IdentityOperator.Admin.Representation
import IdentityOperator.Resource.Keycloak

/-!
The `KeycloakRealm` resource: a declared realm, the installations it is kept in, and what is
reported about it.
-/

namespace IdentityOperator

open Member

/-! ## Declared -/

/-- The labels of the installations that a realm is kept in. -/
structure InstanceSelector where
  matchLabels : TextMap String := .empty

def InstanceSelector.row :=
  Row.cons (defaulted "matchLabels" (Form.map Form.text) .empty) Row.nil

def InstanceSelector.form : Form InstanceSelector :=
  .strict "InstanceSelector" row (fun (a, _) => ⟨a⟩) (fun ⟨a⟩ => (a, ()))

/-- The selector as `key=value` parts with commas between them. -/
def InstanceSelector.toLabelSelector (selector : InstanceSelector) : String :=
  ",".intercalate (selector.matchLabels.toList.map fun entry => entry.1 ++ "=" ++ entry.2)

/-- The identity provider that a login flow redirects to. -/
structure RedirectorOverride where
  identityProvider : String
  forFlow : String := "browser"

def RedirectorOverride.row :=
  Row.cons (required "identityProvider" Form.text) <|
  Row.cons (defaulted "forFlow" Form.text "browser") Row.nil

def RedirectorOverride.form : Form RedirectorOverride :=
  .strict "RedirectorIdentityProviderOverride" row (fun (a, b, _) => ⟨a, b⟩)
    (fun ⟨a, b⟩ => (a, b, ()))

/-- What is declared about a realm. -/
structure KeycloakRealmSpec where
  unmanaged : Bool := false
  instanceSelector : InstanceSelector := {}
  realm : Admin.Realm
  realmOverrides : List RedirectorOverride := []

def KeycloakRealmSpec.row :=
  Row.cons (defaulted "unmanaged" Form.bool false) <|
  Row.cons (defaulted "instanceSelector" InstanceSelector.form {}) <|
  Row.cons (required "realm" Admin.Realm.form) <|
  Row.cons (defaulted "realmOverrides" (Form.list RedirectorOverride.form) []) Row.nil

def KeycloakRealmSpec.form : Form KeycloakRealmSpec :=
  .strict "KeycloakRealmSpec" row (fun (a, b, c, d, _) => ⟨a, b, c, d⟩)
    (fun ⟨a, b, c, d⟩ => (a, b, c, d, ()))

/-! ## Reported -/

/-- What is reported about a realm. -/
structure KeycloakRealmStatus where
  phase : Phase := .initialising
  message : String := ""
  ready : Bool := false
  loginUrl : String := ""
  conditions : List Condition := []
  observedGeneration : Option Int64 := none
  lastUpdated : Option String := none

def KeycloakRealmStatus.row :=
  Row.cons (defaulted "phase" Phase.form .initialising) <|
  Row.cons (defaulted "message" Form.text "") <|
  Row.cons (defaulted "ready" Form.bool false) <|
  Row.cons (defaulted "loginURL" Form.text "") <|
  Row.cons (defaulted "conditions" (Form.list (Condition.formNamed "RealmCondition")) []) <|
  Row.cons (optional "observedGeneration" Form.int64) <|
  Row.cons (optional "lastUpdated" Form.text) Row.nil

def KeycloakRealmStatus.form : Form KeycloakRealmStatus :=
  .strict "KeycloakRealmStatus" row (fun (a, b, c, d, e, f, g, _) => ⟨a, b, c, d, e, f, g⟩)
    (fun ⟨a, b, c, d, e, f, g⟩ => (a, b, c, d, e, f, g, ()))

structure KeycloakRealm where
  metadata : ObjectMeta := {}
  spec : KeycloakRealmSpec
  status : Option KeycloakRealmStatus := none

namespace KeycloakRealm

def row :=
  Row.cons (required "metadata" ObjectMeta.form) <|
  Row.cons (required "spec" KeycloakRealmSpec.form) <|
  Row.cons (omitted "status" KeycloakRealmStatus.form) Row.nil

def form : Form KeycloakRealm :=
  .custom Keycloak.apiVersion "KeycloakRealm" row (fun (a, b, c, _) => ⟨a, b, c⟩)
    (fun ⟨a, b, c⟩ => (a, b, c, ()))

/-- The name of the realm inside an installation. -/
def realmName (realm : KeycloakRealm) : String := realm.spec.realm.realm

/-- The declaration is being deleted, so the realm is to be removed. -/
def isTombstoned (realm : KeycloakRealm) : Bool := realm.metadata.isDeleting

def ns (realm : KeycloakRealm) : String := realm.metadata.namespaceOrDefault

def name (realm : KeycloakRealm) : String := realm.metadata.nameAny

end KeycloakRealm

end IdentityOperator
