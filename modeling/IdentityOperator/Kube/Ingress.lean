import IdentityOperator.Kube.Metadata

/-!
Ingresses: how requests from outside reach a service.
-/

namespace IdentityOperator

open Member

/-- A port of a service, by number or by name. -/
structure BackendPort where
  number : Option Int32 := none
  name : Option String := none

def BackendPort.row :=
  Row.cons (omitted "number" Form.int32) <|
  Row.cons (omitted "name" Form.text) Row.nil

def BackendPort.form : Form BackendPort :=
  .lenient "ServiceBackendPort" row (fun (a, b, _) => ⟨a, b⟩) (fun ⟨a, b⟩ => (a, b, ()))

/-- A service behind an ingress. -/
structure ServiceBackend where
  name : String
  port : Option BackendPort := none

def ServiceBackend.row :=
  Row.cons (defaulted "name" Form.text "") <|
  Row.cons (omitted "port" BackendPort.form) Row.nil

def ServiceBackend.form : Form ServiceBackend :=
  .lenient "IngressServiceBackend" row (fun (a, b, _) => ⟨a, b⟩) (fun ⟨a, b⟩ => (a, b, ()))

structure IngressBackend where
  service : Option ServiceBackend := none
  others : Fields := []

def IngressBackend.row :=
  Row.cons (omitted "service" ServiceBackend.form) <|
  Row.others Schema.ingressBackendOthers

def IngressBackend.form : Form IngressBackend :=
  .lenient "IngressBackend" row (fun (a, b) => ⟨a, b⟩) (fun ⟨a, b⟩ => (a, b))

/-- The requests below a path. -/
structure IngressPath where
  path : Option String := none
  pathType : String := ""
  backend : IngressBackend := {}

def IngressPath.row :=
  Row.cons (omitted "path" Form.text) <|
  Row.cons (defaulted "pathType" Form.text "") <|
  Row.cons (defaulted "backend" IngressBackend.form {}) Row.nil

def IngressPath.form : Form IngressPath :=
  .lenient "HTTPIngressPath" row (fun (a, b, c, _) => ⟨a, b, c⟩) (fun ⟨a, b, c⟩ => (a, b, c, ()))

structure IngressPaths where
  paths : List IngressPath := []

def IngressPaths.row := Row.cons (defaulted "paths" (Form.list IngressPath.form) []) Row.nil

def IngressPaths.form : Form IngressPaths :=
  .lenient "HTTPIngressRuleValue" row (fun (a, _) => ⟨a⟩) (fun ⟨a⟩ => (a, ()))

/-- What happens to the requests for a host. -/
structure IngressRule where
  host : Option String := none
  http : Option IngressPaths := none

def IngressRule.row :=
  Row.cons (omitted "host" Form.text) <|
  Row.cons (omitted "http" IngressPaths.form) Row.nil

def IngressRule.form : Form IngressRule :=
  .lenient "IngressRule" row (fun (a, b, _) => ⟨a, b⟩) (fun ⟨a, b⟩ => (a, b, ()))

/-- The certificate of some hosts. -/
structure IngressTls where
  hosts : Option (List String) := none
  secretName : Option String := none

def IngressTls.row :=
  Row.cons (omitted "hosts" (Form.list Form.text)) <|
  Row.cons (omitted "secretName" Form.text) Row.nil

def IngressTls.form : Form IngressTls :=
  .lenient "IngressTLS" row (fun (a, b, _) => ⟨a, b⟩) (fun ⟨a, b⟩ => (a, b, ()))

structure IngressSpec where
  rules : Option (List IngressRule) := none
  tls : Option (List IngressTls) := none
  ingressClassName : Option String := none
  defaultBackend : Option IngressBackend := none

namespace IngressSpec

def row :=
  Row.cons (omitted "rules" (Form.list IngressRule.form)) <|
  Row.cons (omitted "tls" (Form.list IngressTls.form)) <|
  Row.cons (omitted "ingressClassName" Form.text) <|
  Row.cons (omitted "defaultBackend" IngressBackend.form) Row.nil

def form : Form IngressSpec :=
  .lenient "IngressSpec" row (fun (a, b, c, d, _) => ⟨a, b, c, d⟩)
    (fun ⟨a, b, c, d⟩ => (a, b, c, d, ()))

def firstHost? (spec : IngressSpec) : Option String := spec.rules.bind fun rules =>
  rules.head?.bind (·.host)

end IngressSpec

structure Ingress where
  metadata : ObjectMeta := {}
  spec : Option IngressSpec := none
  status : Option Json := none

def Ingress.row :=
  Row.cons (defaulted "metadata" ObjectMeta.form {}) <|
  Row.cons (omitted "spec" IngressSpec.form) <|
  Row.cons (omitted "status" (Form.shaped Schema.ingressStatus)) Row.nil

def Ingress.form : Form Ingress :=
  .resource "networking.k8s.io/v1" "Ingress" row (fun (a, b, c, _) => ⟨a, b, c⟩)
    (fun ⟨a, b, c⟩ => (a, b, c, ()))

end IdentityOperator
