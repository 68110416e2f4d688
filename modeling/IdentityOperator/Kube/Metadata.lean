import IdentityOperator.Kube.Schema

/-!
What every Kubernetes object carries besides its content: its name, labels, owners and the marks of
its life cycle.
-/

namespace IdentityOperator

open Member

/-- A point in time, in the written form of `Timestamp`. -/
def Form.timestamp : Form String where
  read _ := fun | .text value => Timestamp.normal? value | _ => none
  write := .text
  outline := .time

/-- A port number, count or percentage. -/
inductive IntOrText where
  | int (value : Int32)
  | text (value : String)
  deriving DecidableEq, Inhabited

/-- An integer or a string. -/
def Form.intOrText : Form IntOrText where
  read depth := fun
    | .text value => some (.text value)
    | json => (Form.int32.read depth json).map .int
  write := fun
    | .int value => Form.int32.write value
    | .text value => .text value
  outline := .intOrText

/-- The object that another object belongs to. -/
structure OwnerReference where
  apiVersion : String
  kind : String
  name : String
  uid : String
  controller : Option Bool := none
  blockOwnerDeletion : Option Bool := none
  deriving DecidableEq

def OwnerReference.row :=
  Row.cons (defaulted "apiVersion" Form.text "") <|
  Row.cons (defaulted "kind" Form.text "") <|
  Row.cons (defaulted "name" Form.text "") <|
  Row.cons (defaulted "uid" Form.text "") <|
  Row.cons (omitted "controller" Form.bool) <|
  Row.cons (omitted "blockOwnerDeletion" Form.bool) Row.nil

def OwnerReference.form : Form OwnerReference :=
  .lenient "OwnerReference" row (fun (a, b, c, d, e, f, _) => ⟨a, b, c, d, e, f⟩)
    (fun ⟨a, b, c, d, e, f⟩ => (a, b, c, d, e, f, ()))

structure ObjectMeta where
  name : Option String := none
  generateName : Option String := none
  /-- The namespace of the object. -/
  ns : Option String := none
  labels : Option (TextMap String) := none
  annotations : Option (TextMap String) := none
  uid : Option String := none
  resourceVersion : Option String := none
  generation : Option Int64 := none
  deletionTimestamp : Option String := none
  finalizers : Option (List String) := none
  ownerReferences : Option (List OwnerReference) := none
  others : Fields := []

namespace ObjectMeta

def row :=
  Row.cons (omitted "name" Form.text) <|
  Row.cons (omitted "generateName" Form.text) <|
  Row.cons (omitted "namespace" Form.text) <|
  Row.cons (omitted "labels" (Form.map Form.text)) <|
  Row.cons (omitted "annotations" (Form.map Form.text)) <|
  Row.cons (omitted "uid" Form.text) <|
  Row.cons (omitted "resourceVersion" Form.text) <|
  Row.cons (omitted "generation" Form.int64) <|
  Row.cons (omitted "deletionTimestamp" Form.timestamp) <|
  Row.cons (omitted "finalizers" (Form.list Form.text)) <|
  Row.cons (omitted "ownerReferences" (Form.list OwnerReference.form)) <|
  Row.others Schema.metaOthers

def form : Form ObjectMeta :=
  .lenient "ObjectMeta" row
    (fun (a, b, c, d, e, f, g, h, i, j, k, l) => ⟨a, b, c, d, e, f, g, h, i, j, k, l⟩)
    (fun ⟨a, b, c, d, e, f, g, h, i, j, k, l⟩ => (a, b, c, d, e, f, g, h, i, j, k, l))

/-- The name, or what it is generated from, or nothing. -/
def nameAny (m : ObjectMeta) : String := (m.name.or m.generateName).getD ""

def namespaceOrDefault (m : ObjectMeta) : String := m.ns.getD "default"

/-- Whether deletion has been requested. -/
def isDeleting (m : ObjectMeta) : Bool := m.deletionTimestamp.isSome

def finalizerList (m : ObjectMeta) : List String := m.finalizers.getD []

end ObjectMeta

/-- A set of labels that selected objects have. -/
structure LabelSelector where
  matchLabels : Option (TextMap String) := none
  others : Fields := []

def LabelSelector.row :=
  Row.cons (omitted "matchLabels" (Form.map Form.text)) <|
  Row.others Schema.selectorOthers

def LabelSelector.form : Form LabelSelector :=
  .lenient "LabelSelector" row (fun (a, b) => ⟨a, b⟩) (fun ⟨a, b⟩ => (a, b))

end IdentityOperator
