import IdentityOperator.Kube.Pod

/-!
What runs and keeps pods: stateful sets, deployments, the claims on the volumes they use and the
budget of pods that may be disrupted at once.
-/

namespace IdentityOperator

open Member

/-! ## Stateful sets -/

structure StatefulSetSpec where
  replicas : Option Int32 := none
  selector : LabelSelector := {}
  serviceName : String := ""
  template : PodTemplate := {}
  others : Fields := []

def StatefulSetSpec.row :=
  Row.cons (omitted "replicas" Form.int32) <|
  Row.cons (defaulted "selector" LabelSelector.form {}) <|
  Row.cons (defaulted "serviceName" Form.text "") <|
  Row.cons (defaulted "template" PodTemplate.form {}) <|
  Row.others Schema.statefulSetSpecOthers

def StatefulSetSpec.form : Form StatefulSetSpec :=
  .lenient "StatefulSetSpec" row (fun (a, b, c, d, e) => ⟨a, b, c, d, e⟩)
    (fun ⟨a, b, c, d, e⟩ => (a, b, c, d, e))

structure StatefulSetStatus where
  readyReplicas : Option Int32 := none
  others : Fields := []

def StatefulSetStatus.row :=
  Row.cons (omitted "readyReplicas" Form.int32) <|
  Row.others Schema.statefulSetStatusOthers

def StatefulSetStatus.form : Form StatefulSetStatus :=
  .lenient "StatefulSetStatus" row (fun (a, b) => ⟨a, b⟩) (fun ⟨a, b⟩ => (a, b))

/-- Pods with a stable name each. -/
structure StatefulSet where
  metadata : ObjectMeta := {}
  spec : Option StatefulSetSpec := none
  status : Option StatefulSetStatus := none

namespace StatefulSet

def row :=
  Row.cons (defaulted "metadata" ObjectMeta.form {}) <|
  Row.cons (omitted "spec" StatefulSetSpec.form) <|
  Row.cons (omitted "status" StatefulSetStatus.form) Row.nil

def form : Form StatefulSet :=
  .resource "apps/v1" "StatefulSet" row (fun (a, b, c, _) => ⟨a, b, c⟩)
    (fun ⟨a, b, c⟩ => (a, b, c, ()))

/-- The number of pods asked for, one where nothing is said. -/
def wantedReplicas (set : StatefulSet) : Int32 := (set.spec.bind (·.replicas)).getD 1

/-- The number of pods that are ready. -/
def readyReplicas (set : StatefulSet) : Int32 := (set.status.bind (·.readyReplicas)).getD 0

/-- Exactly the pods asked for are ready. -/
def isReady (set : StatefulSet) : Bool := set.readyReplicas = set.wantedReplicas

end StatefulSet

/-! ## Deployments -/

/-- How pods are replaced by new ones. -/
structure DeploymentStrategy where
  strategyType : Option String := none
  others : Fields := []

def DeploymentStrategy.row :=
  Row.cons (omitted "type" Form.text) <|
  Row.others Schema.deploymentStrategyOthers

def DeploymentStrategy.form : Form DeploymentStrategy :=
  .lenient "DeploymentStrategy" row (fun (a, b) => ⟨a, b⟩) (fun ⟨a, b⟩ => (a, b))

/-- Which pods a deployment keeps running. -/
structure DeploymentSpec where
  replicas : Option Int32 := none
  selector : LabelSelector := {}
  strategy : Option DeploymentStrategy := none
  template : PodTemplate := {}
  others : Fields := []

def DeploymentSpec.row :=
  Row.cons (omitted "replicas" Form.int32) <|
  Row.cons (defaulted "selector" LabelSelector.form {}) <|
  Row.cons (omitted "strategy" DeploymentStrategy.form) <|
  Row.cons (defaulted "template" PodTemplate.form {}) <|
  Row.others Schema.deploymentSpecOthers

def DeploymentSpec.form : Form DeploymentSpec :=
  .lenient "DeploymentSpec" row (fun (a, b, c, d, e) => ⟨a, b, c, d, e⟩)
    (fun ⟨a, b, c, d, e⟩ => (a, b, c, d, e))

structure Deployment where
  metadata : ObjectMeta := {}
  spec : Option DeploymentSpec := none
  status : Option Json := none

def Deployment.row :=
  Row.cons (defaulted "metadata" ObjectMeta.form {}) <|
  Row.cons (omitted "spec" DeploymentSpec.form) <|
  Row.cons (omitted "status" (Form.shaped Schema.deploymentStatus)) Row.nil

def Deployment.form : Form Deployment :=
  .resource "apps/v1" "Deployment" row (fun (a, b, c, _) => ⟨a, b, c⟩)
    (fun ⟨a, b, c⟩ => (a, b, c, ()))

/-! ## Volume claims -/

/-- How much of a storage resource is asked for. -/
structure VolumeResources where
  limits : Option (TextMap String) := none
  requests : Option (TextMap String) := none

def VolumeResources.row :=
  Row.cons (omitted "limits" (Form.map Form.text)) <|
  Row.cons (omitted "requests" (Form.map Form.text)) Row.nil

def VolumeResources.form : Form VolumeResources :=
  .lenient "VolumeResourceRequirements" row (fun (a, b, _) => ⟨a, b⟩) (fun ⟨a, b⟩ => (a, b, ()))

/-- Which volume is asked for. -/
structure ClaimSpec where
  accessModes : Option (List String) := none
  resources : Option VolumeResources := none
  others : Fields := []

def ClaimSpec.row :=
  Row.cons (omitted "accessModes" (Form.list Form.text)) <|
  Row.cons (omitted "resources" VolumeResources.form) <|
  Row.others Schema.claimSpecOthers

def ClaimSpec.form : Form ClaimSpec :=
  .lenient "PersistentVolumeClaimSpec" row (fun (a, b, c) => ⟨a, b, c⟩) (fun ⟨a, b, c⟩ => (a, b, c))

/-- A claim on a volume that outlives its pods. -/
structure PersistentVolumeClaim where
  metadata : ObjectMeta := {}
  spec : Option ClaimSpec := none
  status : Option Json := none

def PersistentVolumeClaim.row :=
  Row.cons (defaulted "metadata" ObjectMeta.form {}) <|
  Row.cons (omitted "spec" ClaimSpec.form) <|
  Row.cons (omitted "status" (Form.shaped Schema.claimStatus)) Row.nil

def PersistentVolumeClaim.form : Form PersistentVolumeClaim :=
  .resource "v1" "PersistentVolumeClaim" row (fun (a, b, c, _) => ⟨a, b, c⟩)
    (fun ⟨a, b, c⟩ => (a, b, c, ()))

/-! ## Disruption budgets -/

/-- How many of the selected pods may be missing. -/
structure DisruptionBudgetSpec where
  maxUnavailable : Option IntOrText := none
  minAvailable : Option IntOrText := none
  selector : Option LabelSelector := none
  unhealthyPodEvictionPolicy : Option String := none

def DisruptionBudgetSpec.row :=
  Row.cons (omitted "maxUnavailable" Form.intOrText) <|
  Row.cons (omitted "minAvailable" Form.intOrText) <|
  Row.cons (omitted "selector" LabelSelector.form) <|
  Row.cons (omitted "unhealthyPodEvictionPolicy" Form.text) Row.nil

def DisruptionBudgetSpec.form : Form DisruptionBudgetSpec :=
  .lenient "PodDisruptionBudgetSpec" row (fun (a, b, c, d, _) => ⟨a, b, c, d⟩)
    (fun ⟨a, b, c, d⟩ => (a, b, c, d, ()))

/-- A bound on the pods that may be disrupted at once. -/
structure PodDisruptionBudget where
  metadata : ObjectMeta := {}
  spec : Option DisruptionBudgetSpec := none
  status : Option Json := none

def PodDisruptionBudget.row :=
  Row.cons (defaulted "metadata" ObjectMeta.form {}) <|
  Row.cons (omitted "spec" DisruptionBudgetSpec.form) <|
  Row.cons (omitted "status" (Form.shaped Schema.disruptionBudgetStatus)) Row.nil

def PodDisruptionBudget.form : Form PodDisruptionBudget :=
  .resource "policy/v1" "PodDisruptionBudget" row (fun (a, b, c, _) => ⟨a, b, c⟩)
    (fun ⟨a, b, c⟩ => (a, b, c, ()))

end IdentityOperator
