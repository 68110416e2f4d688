import IdentityOperator.Kube.Metadata

/-!
Services: a name and ports for the pods that a selector picks.
-/

namespace IdentityOperator

open Member

structure ServicePort where
  port : Int32
  name : Option String := none
  protocol : Option String := none
  targetPort : Option IntOrText := none
  others : Fields := []

def ServicePort.row :=
  Row.cons (defaulted "port" Form.int32 0) <|
  Row.cons (omitted "name" Form.text) <|
  Row.cons (omitted "protocol" Form.text) <|
  Row.cons (omitted "targetPort" Form.intOrText) <|
  Row.others Schema.servicePortOthers

def ServicePort.form : Form ServicePort :=
  .lenient "ServicePort" row (fun (a, b, c, d, e) => ⟨a, b, c, d, e⟩)
    (fun ⟨a, b, c, d, e⟩ => (a, b, c, d, e))

structure ServiceSpec where
  serviceType : Option String := none
  selector : Option (TextMap String) := none
  ports : Option (List ServicePort) := none
  clusterIP : Option String := none
  publishNotReadyAddresses : Option Bool := none
  others : Fields := []

def ServiceSpec.row :=
  Row.cons (omitted "type" Form.text) <|
  Row.cons (omitted "selector" (Form.map Form.text)) <|
  Row.cons (omitted "ports" (Form.list ServicePort.form)) <|
  Row.cons (omitted "clusterIP" Form.text) <|
  Row.cons (omitted "publishNotReadyAddresses" Form.bool) <|
  Row.others Schema.serviceSpecOthers

def ServiceSpec.form : Form ServiceSpec :=
  .lenient "ServiceSpec" row (fun (a, b, c, d, e, f) => ⟨a, b, c, d, e, f⟩)
    (fun ⟨a, b, c, d, e, f⟩ => (a, b, c, d, e, f))

structure Service where
  metadata : ObjectMeta := {}
  spec : Option ServiceSpec := none
  status : Option Json := none

def Service.row :=
  Row.cons (defaulted "metadata" ObjectMeta.form {}) <|
  Row.cons (omitted "spec" ServiceSpec.form) <|
  Row.cons (omitted "status" (Form.shaped Schema.serviceStatus)) Row.nil

def Service.form : Form Service :=
  .resource "v1" "Service" row (fun (a, b, c, _) => ⟨a, b, c⟩) (fun ⟨a, b, c⟩ => (a, b, c, ()))

end IdentityOperator
