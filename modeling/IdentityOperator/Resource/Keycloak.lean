import IdentityOperator.Resource.Custom

/-!
The `Keycloak` resource: one declared installation and what is reported about it.
-/

namespace IdentityOperator

open Member

/-- How far a resource has come. -/
inductive Phase where
  | initialising
  | reconciling
  | failing
  deriving DecidableEq, Inhabited, Repr

namespace Phase

def name : Phase → String
  | initialising => "Initialising"
  | reconciling => "Reconciling"
  | failing => "Failing"

def all : List Phase := [initialising, reconciling, failing]

def form : Form Phase := .choice all name

end Phase

/-- A statement about a resource and since when it holds. -/
structure Condition where
  conditionType : String
  status : String
  lastTransitionTime : Option String := none
  reason : Option String := none
  message : Option String := none
  deriving DecidableEq

def Condition.row :=
  Row.cons (required "type" Form.text) <|
  Row.cons (required "status" Form.text) <|
  Row.cons (optional "lastTransitionTime" Form.text) <|
  Row.cons (optional "reason" Form.text) <|
  Row.cons (optional "message" Form.text) Row.nil

/-- A condition of a resource whose conditions have a type of their own. -/
def Condition.formNamed (typeName : String) : Form Condition :=
  .strict typeName row (fun (a, b, c, d, e, _) => ⟨a, b, c, d, e⟩)
    (fun ⟨a, b, c, d, e⟩ => (a, b, c, d, e, ()))

def Condition.form : Form Condition := formNamed "KeycloakCondition"

/-! ## Declared -/

/-- An installation that someone else runs. -/
structure ExternalInstallation where
  enabled : Bool := false
  url : Option String := none

def ExternalInstallation.row :=
  Row.cons (defaulted "enabled" Form.bool false) <|
  Row.cons (optional "url" Form.text) Row.nil

def ExternalInstallation.form : Form ExternalInstallation :=
  .strict "KeycloakExternal" row (fun (a, b, _) => ⟨a, b⟩) (fun ⟨a, b⟩ => (a, b, ()))

/-- How the installation is reached from outside the cluster. -/
structure ExternalAccess where
  enabled : Bool := false
  host : Option String := none
  tlsTermination : Option String := none
  annotations : TextMap String := .empty

def ExternalAccess.row :=
  Row.cons (defaulted "enabled" Form.bool false) <|
  Row.cons (optional "host" Form.text) <|
  Row.cons (optional "tlsTermination" Form.text) <|
  Row.cons (defaulted "annotations" (Form.map Form.text) .empty) Row.nil

def ExternalAccess.form : Form ExternalAccess :=
  .strict "KeycloakExternalAccess" row (fun (a, b, c, d, _) => ⟨a, b, c, d⟩)
    (fun ⟨a, b, c, d⟩ => (a, b, c, d, ()))

/-- A database that someone else runs. -/
structure ExternalDatabase where
  enabled : Bool := false
  host : Option String := none
  port : Option Int32 := none
  database : Option String := none

def ExternalDatabase.row :=
  Row.cons (defaulted "enabled" Form.bool false) <|
  Row.cons (optional "host" Form.text) <|
  Row.cons (optional "port" Form.int32) <|
  Row.cons (optional "database" Form.text) Row.nil

def ExternalDatabase.form : Form ExternalDatabase :=
  .strict "KeycloakExternalDatabase" row (fun (a, b, c, d, _) => ⟨a, b, c, d⟩)
    (fun ⟨a, b, c, d⟩ => (a, b, c, d, ()))

/-- Whether disruptions of pods are bounded. -/
structure DisruptionConfig where
  enabled : Bool := false

def DisruptionConfig.row :=
  Row.cons (defaulted "enabled" Form.bool false) Row.nil

def DisruptionConfig.form : Form DisruptionConfig :=
  .strict "PodDisruptionBudgetConfig" row (fun (a, _) => ⟨a⟩) (fun ⟨a⟩ => (a, ()))

/-- An amount of processor time and of memory. -/
structure ResourceAmounts where
  cpu : Option String := none
  memory : Option String := none

def ResourceAmounts.row :=
  Row.cons (optional "cpu" Form.text) <|
  Row.cons (optional "memory" Form.text) Row.nil

def ResourceAmounts.form : Form ResourceAmounts :=
  .strict "ResourceList" row (fun (a, b, _) => ⟨a, b⟩) (fun ⟨a, b⟩ => (a, b, ()))

/-- The bounds on what a container uses. -/
structure ResourceBounds where
  limits : ResourceAmounts := {}
  requests : ResourceAmounts := {}

def ResourceBounds.row :=
  Row.cons (defaulted "limits" ResourceAmounts.form {}) <|
  Row.cons (defaulted "requests" ResourceAmounts.form {}) Row.nil

def ResourceBounds.form : Form ResourceBounds :=
  .strict "ResourceRequirements" row (fun (a, b, _) => ⟨a, b⟩) (fun ⟨a, b⟩ => (a, b, ()))

/-- A variable that the user adds to the environment. -/
structure UserVariable where
  name : String
  value : Option String := none

def UserVariable.row :=
  Row.cons (required "name" Form.text) <|
  Row.cons (optional "value" Form.text) Row.nil

def UserVariable.form : Form UserVariable :=
  .strict "EnvVar" row (fun (a, b, _) => ⟨a, b⟩) (fun ⟨a, b⟩ => (a, b, ()))

/-- How the pods are run. -/
structure PodSettings where
  image : Option String := none
  imagePullPolicy : Option String := none
  resources : ResourceBounds := {}
  env : List UserVariable := []

def PodSettings.row :=
  Row.cons (optional "image" Form.text) <|
  Row.cons (optional "imagePullPolicy" Form.text) <|
  Row.cons (defaulted "resources" ResourceBounds.form {}) <|
  Row.cons (defaulted "env" (Form.list UserVariable.form) []) Row.nil

def PodSettings.form : Form PodSettings :=
  .strict "KeycloakDeploymentSpec" row (fun (a, b, c, d, _) => ⟨a, b, c, d⟩)
    (fun ⟨a, b, c, d⟩ => (a, b, c, d, ()))

/-- What is declared about an installation. -/
structure KeycloakSpec where
  instances : Int32 := 1
  unmanaged : Bool := false
  external : ExternalInstallation := {}
  externalAccess : ExternalAccess := {}
  externalDatabase : ExternalDatabase := {}
  podDisruptionBudget : DisruptionConfig := {}
  profile : Option String := none
  podSettings : PodSettings := {}
  extensions : List String := []

def KeycloakSpec.row :=
  Row.cons (defaulted "instances" Form.int32 1) <|
  Row.cons (defaulted "unmanaged" Form.bool false) <|
  Row.cons (defaulted "external" ExternalInstallation.form {}) <|
  Row.cons (defaulted "externalAccess" ExternalAccess.form {}) <|
  Row.cons (defaulted "externalDatabase" ExternalDatabase.form {}) <|
  Row.cons (defaulted "podDisruptionBudget" DisruptionConfig.form {}) <|
  Row.cons (optional "profile" Form.text) <|
  Row.cons (defaulted "keycloakDeploymentSpec" PodSettings.form {}) <|
  Row.cons (defaulted "extensions" (Form.list Form.text) []) Row.nil

def KeycloakSpec.form : Form KeycloakSpec :=
  .strict "KeycloakSpec" row (fun (a, b, c, d, e, f, g, h, i, _) => ⟨a, b, c, d, e, f, g, h, i⟩)
    (fun ⟨a, b, c, d, e, f, g, h, i⟩ => (a, b, c, d, e, f, g, h, i, ()))

/-! ## Reported -/

/-- What is reported about an installation. -/
structure KeycloakStatus where
  phase : Phase := .initialising
  message : String := ""
  ready : Bool := false
  secondaryResources : TextMap (List String) := .empty
  version : String := ""
  internalUrl : String := ""
  externalUrl : String := ""
  credentialSecret : String := ""
  conditions : List Condition := []
  observedGeneration : Option Int64 := none
  lastUpdated : Option String := none

def KeycloakStatus.row :=
  Row.cons (defaulted "phase" Phase.form .initialising) <|
  Row.cons (defaulted "message" Form.text "") <|
  Row.cons (defaulted "ready" Form.bool false) <|
  Row.cons (defaulted "secondaryResources" (Form.map (Form.list Form.text)) .empty) <|
  Row.cons (defaulted "version" Form.text "") <|
  Row.cons (defaulted "internalURL" Form.text "") <|
  Row.cons (defaulted "externalURL" Form.text "") <|
  Row.cons (defaulted "credentialSecret" Form.text "") <|
  Row.cons (defaulted "conditions" (Form.list Condition.form) []) <|
  Row.cons (optional "observedGeneration" Form.int64) <|
  Row.cons (optional "lastUpdated" Form.text) Row.nil

def KeycloakStatus.form : Form KeycloakStatus :=
  .strict "KeycloakStatus" row
    (fun (a, b, c, d, e, f, g, h, i, j, k, _) => ⟨a, b, c, d, e, f, g, h, i, j, k⟩)
    (fun ⟨a, b, c, d, e, f, g, h, i, j, k⟩ => (a, b, c, d, e, f, g, h, i, j, k, ()))

structure Keycloak where
  metadata : ObjectMeta := {}
  spec : KeycloakSpec := {}
  status : Option KeycloakStatus := none

namespace Keycloak

/-- The version under which installations are declared. -/
def apiVersion : String := "keycloak.org/v1alpha1"

def row :=
  Row.cons (required "metadata" ObjectMeta.form) <|
  Row.cons (required "spec" KeycloakSpec.form) <|
  Row.cons (omitted "status" KeycloakStatus.form) Row.nil

def form : Form Keycloak :=
  .custom apiVersion "Keycloak" row (fun (a, b, c, _) => ⟨a, b, c⟩)
    (fun ⟨a, b, c⟩ => (a, b, c, ()))

/-- The namespace of the installation and of everything that belongs to it. -/
def ns (kc : Keycloak) : String := kc.metadata.namespaceOrDefault

def name (kc : Keycloak) : String := kc.metadata.nameAny

/-- The reported status, empty where nothing has been reported. -/
def statusOrDefault (kc : Keycloak) : KeycloakStatus := kc.status.getD {}

/-- Note that an object of a kind belongs to the installation, once for each name. -/
def trackSecondary (kc : Keycloak) (kind name : String) : Keycloak :=
  let status := kc.statusOrDefault
  let names := (status.secondaryResources.get? kind).getD []
  let names := if names.contains name then names else names ++ [name]
  let tracked := status.secondaryResources.insert kind names
  { kc with status := some { status with secondaryResources := tracked } }

end Keycloak

end IdentityOperator
