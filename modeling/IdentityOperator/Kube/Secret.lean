import IdentityOperator.Kube.Metadata
import IdentityOperator.Text.Utf8

/-!
Secrets and config maps, and how a value of a secret is read.
-/

namespace IdentityOperator

open Member

abbrev ByteMap := TextMap (List UInt8)

/-- Confidential values by key; `stringData` holds values that nobody has moved to `data` yet. -/
structure Secret where
  metadata : ObjectMeta := {}
  data : Option ByteMap := none
  stringData : Option (TextMap String) := none
  secretType : Option String := none
  immutable : Option Bool := none

namespace Secret

def row :=
  Row.cons (defaulted "metadata" ObjectMeta.form {}) <|
  Row.cons (omitted "data" (Form.map Form.bytes)) <|
  Row.cons (omitted "stringData" (Form.map Form.text)) <|
  Row.cons (omitted "type" Form.text) <|
  Row.cons (omitted "immutable" Form.bool) Row.nil

def form : Form Secret :=
  .resource "v1" "Secret" row (fun (a, b, c, d, e, _) => ⟨a, b, c, d, e⟩)
    (fun ⟨a, b, c, d, e⟩ => (a, b, c, d, e, ()))

/-- The value under a key as text: `data` counts before `stringData`, and an empty value is none. -/
def value? (secret : Secret) (key : String) : Option String :=
  (((secret.data.bind (·.get? key)).map Utf8.decodeLossy).or
    (secret.stringData.bind (·.get? key))).filter (· ≠ "")

def setValue (secret : Secret) (key value : String) : Secret :=
  { secret with data := some ((secret.data.getD .empty).insert key (Utf8.encode value)) }

/-- Set the value under a key unless there is one. -/
def fillValue (secret : Secret) (key value : String) : Secret :=
  if (secret.value? key).isSome then secret else secret.setValue key value

end Secret

structure ConfigMap where
  metadata : ObjectMeta := {}
  data : Option (TextMap String) := none
  binaryData : Option ByteMap := none
  immutable : Option Bool := none

namespace ConfigMap

def row :=
  Row.cons (defaulted "metadata" ObjectMeta.form {}) <|
  Row.cons (omitted "data" (Form.map Form.text)) <|
  Row.cons (omitted "binaryData" (Form.map Form.bytes)) <|
  Row.cons (omitted "immutable" Form.bool) Row.nil

def form : Form ConfigMap :=
  .resource "v1" "ConfigMap" row (fun (a, b, c, d, _) => ⟨a, b, c, d⟩)
    (fun ⟨a, b, c, d⟩ => (a, b, c, d, ()))

end ConfigMap

end IdentityOperator
