import IdentityOperator.Kube.Metadata

/-!
Pods: containers with their environment, ports, probes and mounts, and the volumes they mount.
-/

namespace IdentityOperator

open Member

/-! ## Environment -/

/-- A key of a secret or config map. -/
structure KeyReference where
  key : String
  name : String
  /-- Whether the object or key may be missing. -/
  optional : Option Bool := none
  deriving DecidableEq

def KeyReference.row :=
  Row.cons (defaulted "key" Form.text "") <|
  Row.cons (defaulted "name" Form.text "") <|
  Row.cons (omitted "optional" Form.bool) Row.nil

def KeyReference.form : Form KeyReference :=
  .lenient "SecretKeySelector" row (fun (a, b, c, _) => ⟨a, b, c⟩) (fun ⟨a, b, c⟩ => (a, b, c, ()))

/-- Where the value of a variable comes from. -/
structure EnvSource where
  secretKeyRef : Option KeyReference := none
  others : Fields := []

def EnvSource.row :=
  Row.cons (omitted "secretKeyRef" KeyReference.form) <|
  Row.others Schema.envSourceOthers

def EnvSource.form : Form EnvSource :=
  .lenient "EnvVarSource" row (fun (a, b) => ⟨a, b⟩) (fun ⟨a, b⟩ => (a, b))

/-- A variable of a container's environment. -/
structure EnvVar where
  name : String
  value : Option String := none
  valueFrom : Option EnvSource := none

namespace EnvVar

def row :=
  Row.cons (defaulted "name" Form.text "") <|
  Row.cons (omitted "value" Form.text) <|
  Row.cons (omitted "valueFrom" EnvSource.form) Row.nil

def form : Form EnvVar :=
  .lenient "EnvVar" row (fun (a, b, c, _) => ⟨a, b, c⟩) (fun ⟨a, b, c⟩ => (a, b, c, ()))

/-- A variable with a value of its own. -/
def plain (name value : String) : EnvVar := { name, value := some value }

/-- A variable with the value under a key of a secret. -/
def ofSecret (name secret key : String) : EnvVar :=
  { name, valueFrom := some { secretKeyRef := some { key, name := secret } } }

end EnvVar

/-! ## Ports, mounts and probes -/

structure ContainerPort where
  containerPort : Int32
  name : Option String := none
  protocol : Option String := none
  others : Fields := []

def ContainerPort.row :=
  Row.cons (defaulted "containerPort" Form.int32 0) <|
  Row.cons (omitted "name" Form.text) <|
  Row.cons (omitted "protocol" Form.text) <|
  Row.others Schema.containerPortOthers

def ContainerPort.form : Form ContainerPort :=
  .lenient "ContainerPort" row (fun (a, b, c, d) => ⟨a, b, c, d⟩) (fun ⟨a, b, c, d⟩ => (a, b, c, d))

/-- A volume of the pod inside a container. -/
structure VolumeMount where
  name : String
  mountPath : String
  others : Fields := []

def VolumeMount.row :=
  Row.cons (defaulted "name" Form.text "") <|
  Row.cons (defaulted "mountPath" Form.text "") <|
  Row.others Schema.volumeMountOthers

def VolumeMount.form : Form VolumeMount :=
  .lenient "VolumeMount" row (fun (a, b, c) => ⟨a, b, c⟩) (fun ⟨a, b, c⟩ => (a, b, c))

/-- A command run inside the container. -/
structure ExecAction where
  command : Option (List String) := none

def ExecAction.row := Row.cons (omitted "command" (Form.list Form.text)) Row.nil

def ExecAction.form : Form ExecAction :=
  .lenient "ExecAction" row (fun (a, _) => ⟨a⟩) (fun ⟨a⟩ => (a, ()))

/-- A connection to a port of the container. -/
structure SocketAction where
  port : IntOrText
  host : Option String := none

def SocketAction.row :=
  Row.cons (defaulted "port" Form.intOrText (.int 0)) <|
  Row.cons (omitted "host" Form.text) Row.nil

def SocketAction.form : Form SocketAction :=
  .lenient "TCPSocketAction" row (fun (a, b, _) => ⟨a, b⟩) (fun ⟨a, b⟩ => (a, b, ()))

/-- A check of a container's health. -/
structure Probe where
  exec : Option ExecAction := none
  tcpSocket : Option SocketAction := none
  initialDelaySeconds : Option Int32 := none
  timeoutSeconds : Option Int32 := none
  periodSeconds : Option Int32 := none
  failureThreshold : Option Int32 := none
  others : Fields := []

def Probe.row :=
  Row.cons (omitted "exec" ExecAction.form) <|
  Row.cons (omitted "tcpSocket" SocketAction.form) <|
  Row.cons (omitted "initialDelaySeconds" Form.int32) <|
  Row.cons (omitted "timeoutSeconds" Form.int32) <|
  Row.cons (omitted "periodSeconds" Form.int32) <|
  Row.cons (omitted "failureThreshold" Form.int32) <|
  Row.others Schema.probeOthers

def Probe.form : Form Probe :=
  .lenient "Probe" row (fun (a, b, c, d, e, f, g) => ⟨a, b, c, d, e, f, g⟩)
    (fun ⟨a, b, c, d, e, f, g⟩ => (a, b, c, d, e, f, g))

/-- What a container may use and is promised. -/
structure Resources where
  limits : Option (TextMap String) := none
  requests : Option (TextMap String) := none
  claims : Option Json := none

def Resources.row :=
  Row.cons (omitted "limits" (Form.map Form.text)) <|
  Row.cons (omitted "requests" (Form.map Form.text)) <|
  Row.cons (omitted "claims" (Form.shaped Schema.resourceClaims)) Row.nil

def Resources.form : Form Resources :=
  .lenient "ResourceRequirements" row (fun (a, b, c, _) => ⟨a, b, c⟩)
    (fun ⟨a, b, c⟩ => (a, b, c, ()))

/-! ## Containers -/

structure Container where
  name : String
  image : Option String := none
  imagePullPolicy : Option String := none
  ports : Option (List ContainerPort) := none
  env : Option (List EnvVar) := none
  resources : Option Resources := none
  volumeMounts : Option (List VolumeMount) := none
  livenessProbe : Option Probe := none
  readinessProbe : Option Probe := none
  others : Fields := []

def Container.row :=
  Row.cons (defaulted "name" Form.text "") <|
  Row.cons (omitted "image" Form.text) <|
  Row.cons (omitted "imagePullPolicy" Form.text) <|
  Row.cons (omitted "ports" (Form.list ContainerPort.form)) <|
  Row.cons (omitted "env" (Form.list EnvVar.form)) <|
  Row.cons (omitted "resources" Resources.form) <|
  Row.cons (omitted "volumeMounts" (Form.list VolumeMount.form)) <|
  Row.cons (omitted "livenessProbe" Probe.form) <|
  Row.cons (omitted "readinessProbe" Probe.form) <|
  Row.others Schema.containerOthers

def Container.form : Form Container :=
  .lenient "Container" row (fun (a, b, c, d, e, f, g, h, i, j) => ⟨a, b, c, d, e, f, g, h, i, j⟩)
    (fun ⟨a, b, c, d, e, f, g, h, i, j⟩ => (a, b, c, d, e, f, g, h, i, j))

/-! ## Volumes -/

structure SecretVolume where
  secretName : Option String := none
  optional : Option Bool := none
  others : Fields := []

def SecretVolume.row :=
  Row.cons (omitted "secretName" Form.text) <|
  Row.cons (omitted "optional" Form.bool) <|
  Row.others Schema.secretVolumeOthers

def SecretVolume.form : Form SecretVolume :=
  .lenient "SecretVolumeSource" row (fun (a, b, c) => ⟨a, b, c⟩) (fun ⟨a, b, c⟩ => (a, b, c))

/-- A directory that lives as long as its pod. -/
structure EmptyDirVolume where
  medium : Option String := none
  sizeLimit : Option String := none

def EmptyDirVolume.row :=
  Row.cons (omitted "medium" Form.text) <|
  Row.cons (omitted "sizeLimit" Form.text) Row.nil

def EmptyDirVolume.form : Form EmptyDirVolume :=
  .lenient "EmptyDirVolumeSource" row (fun (a, b, _) => ⟨a, b⟩) (fun ⟨a, b⟩ => (a, b, ()))

structure ConfigMapVolume where
  name : String
  defaultMode : Option Int32 := none
  optional : Option Bool := none
  others : Fields := []

def ConfigMapVolume.row :=
  Row.cons (defaulted "name" Form.text "") <|
  Row.cons (omitted "defaultMode" Form.int32) <|
  Row.cons (omitted "optional" Form.bool) <|
  Row.others Schema.configMapVolumeOthers

def ConfigMapVolume.form : Form ConfigMapVolume :=
  .lenient "ConfigMapVolumeSource" row (fun (a, b, c, d) => ⟨a, b, c, d⟩)
    (fun ⟨a, b, c, d⟩ => (a, b, c, d))

structure ClaimVolume where
  claimName : String
  readOnly : Option Bool := none

def ClaimVolume.row :=
  Row.cons (defaulted "claimName" Form.text "") <|
  Row.cons (omitted "readOnly" Form.bool) Row.nil

def ClaimVolume.form : Form ClaimVolume :=
  .lenient "PersistentVolumeClaimVolumeSource" row (fun (a, b, _) => ⟨a, b⟩)
    (fun ⟨a, b⟩ => (a, b, ()))

/-- A volume that the containers of a pod may mount by its name. -/
structure Volume where
  name : String
  secret : Option SecretVolume := none
  emptyDir : Option EmptyDirVolume := none
  configMap : Option ConfigMapVolume := none
  persistentVolumeClaim : Option ClaimVolume := none
  others : Fields := []

def Volume.row :=
  Row.cons (defaulted "name" Form.text "") <|
  Row.cons (omitted "secret" SecretVolume.form) <|
  Row.cons (omitted "emptyDir" EmptyDirVolume.form) <|
  Row.cons (omitted "configMap" ConfigMapVolume.form) <|
  Row.cons (omitted "persistentVolumeClaim" ClaimVolume.form) <|
  Row.others Schema.volumeOthers

def Volume.form : Form Volume :=
  .lenient "Volume" row (fun (a, b, c, d, e, f) => ⟨a, b, c, d, e, f⟩)
    (fun ⟨a, b, c, d, e, f⟩ => (a, b, c, d, e, f))

/-! ## Pods -/

/-- What runs in a pod. -/
structure PodSpec where
  containers : List Container := []
  initContainers : Option (List Container) := none
  volumes : Option (List Volume) := none
  others : Fields := []

def PodSpec.row :=
  Row.cons (defaulted "containers" (Form.list Container.form) []) <|
  Row.cons (omitted "initContainers" (Form.list Container.form)) <|
  Row.cons (omitted "volumes" (Form.list Volume.form)) <|
  Row.others Schema.podSpecOthers

def PodSpec.form : Form PodSpec :=
  .lenient "PodSpec" row (fun (a, b, c, d) => ⟨a, b, c, d⟩) (fun ⟨a, b, c, d⟩ => (a, b, c, d))

/-- The pattern of the pods that a workload starts. -/
structure PodTemplate where
  metadata : Option ObjectMeta := none
  spec : Option PodSpec := none

def PodTemplate.row :=
  Row.cons (omitted "metadata" ObjectMeta.form) <|
  Row.cons (omitted "spec" PodSpec.form) Row.nil

def PodTemplate.form : Form PodTemplate :=
  .lenient "PodTemplateSpec" row (fun (a, b, _) => ⟨a, b⟩) (fun ⟨a, b⟩ => (a, b, ()))

end IdentityOperator
