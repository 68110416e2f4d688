import IdentityOperator.Json.Form
import IdentityOperator.Text.Timestamp

/-!
Shapes of the parts of Kubernetes objects that the operator carries along without looking inside.

Normalising a JSON value by a shape keeps the fields that the shape knows, drops `null` fields,
fills in required ones, and fails on a value of the wrong type. A required point in time has to be
given. A normal value is its own normal form.
-/

namespace IdentityOperator

/-- The shape of a part of an object. -/
inductive Shape where
  | text
  | bool
  | int32
  | int64
  /-- A point in time. -/
  | time
  /-- A port number, count or percentage: an integer of 32 bits or a string. -/
  | intOrText
  /-- Any value at all. -/
  | anything
  | list (items : Shape)
  | map (values : Shape)
  /-- Fields by name; a marked field is required, so it is filled in when missing, if it can be. A
  complaint calls the object by the name of its type. -/
  | object (typeName : String) (fields : List (String × Bool × Shape))
  /-- An object that also writes its version and kind. -/
  | resource (apiVersion kind : String) (fields : List (String × Bool × Shape))

/-- The JSON fields of a part that is carried along. -/
abbrev Fields := List (String × Json)

namespace Shape

/-- A field that may be missing. -/
def opt (name : String) (shape : Shape) : String × Bool × Shape := (name, false, shape)

/-- A field that is filled in when missing. -/
def req (name : String) (shape : Shape) : String × Bool × Shape := (name, true, shape)

mutual

/-- What a missing required part becomes; there is nothing to make a point in time of. -/
def filler? : Shape → Option Json
  | text => some (.text "")
  | bool => some (.bool false)
  | int32 | int64 | intOrText => some (.int 0)
  | time => none
  | anything => some .null
  | list _ => some (.list [])
  | map _ => some (.object [])
  | object _ fields => (fillers? fields).map .object
  | resource apiVersion kind fields => (fillers? fields).map fun filled =>
    .object (("apiVersion", .text apiVersion) :: ("kind", .text kind) :: filled)

/-- The required fields of an empty object. -/
def fillers? : List (String × Bool × Shape) → Option Fields
  | [] => some []
  | (name, true, shape) :: rest => do
    let value ← filler? shape
    let filled ← fillers? rest
    some ((name, value) :: filled)
  | (_, false, _) :: rest => fillers? rest

end

/-- What it means that a field is missing: no field, or the filler of a required one. -/
def missing? (required : Bool) (shape : Shape) : Option (Option Json) :=
  if required then shape.filler?.map some else some none

/-- Whether a given field has the one text it may have, or is missing. -/
def agrees (name value : String) (given : Fields) : Bool :=
  given.all fun field =>
    if field.1 = name then
      match field.2 with
      | .text found => found = value
      | _ => false
    else true

mutual

/-- The normal form of a value, if it fits the shape. -/
def normal? : Shape → (depth : Nat) → Json → Option Json
  | text, _, .text value => some (.text value)
  | bool, _, .bool value => some (.bool value)
  | int32, depth, json => (Form.int32.read depth json).map Form.int32.write
  | int64, depth, json => (Form.int64.read depth json).map Form.int64.write
  | time, _, .text value => (Timestamp.normal? value).map .text
  | intOrText, _, .text value => some (.text value)
  | intOrText, depth, json => (Form.int32.read depth json).map Form.int32.write
  | anything, depth, json => Form.json.read depth json
  | list items, depth + 1, .list given => (given.mapM (normal? items depth)).map .list
  | map values, depth + 1, .object given =>
    (given.mapM fun field => (normal? values depth field.2).map (field.1, ·)).map fun entries =>
      .object (TextMap.ofList entries).toList
  | object _ fields, depth + 1, .object given =>
    (normalFields? fields depth (Form.lenientFields given)).map .object
  | resource apiVersion kind fields, depth + 1, .object given =>
    if agrees "apiVersion" apiVersion given ∧ agrees "kind" kind given then
      (normalFields? fields depth (Form.lenientFields given)).map fun found =>
        .object (("apiVersion", .text apiVersion) :: ("kind", .text kind) :: found)
    else none
  | _, _, _ => none

/-- The normal forms of the fields that are there, and the fillers of required ones. Of repeated
fields each has to fit, and the last one counts. -/
def normalFields? : List (String × Bool × Shape) → (depth : Nat) → Found → Option Fields
  | [], _, _ => some []
  | (name, required, shape) :: rest, depth, found => do
    let tail ← normalFields? rest depth found
    let values ← (found name).mapM fun
      | some json => (normal? shape depth json).map some
      | none => missing? required shape
    match ← values.getLast?.or (missing? required shape) with
    | some value => some ((name, value) :: tail)
    | none => some tail

end

mutual

/-- What is expected of the text of a value. -/
def outline : Shape → Outline
  | text => .text
  | bool => .bool
  | int32 => Form.int32.outline
  | int64 => Form.int64.outline
  | time => .time
  | intOrText => .intOrText
  | anything => .anything
  | list items => .list items.outline
  | map values => .map values.outline
  | object typeName fields => .record .lenient typeName (outlines fields)
  | resource apiVersion kind fields => .record .lenient kind
    (("apiVersion", false, .fixed apiVersion) :: ("kind", false, .fixed kind) :: outlines fields)

/-- What is expected of the texts of fields. A field has to be there if nothing can be filled in. -/
def outlines : List (String × Bool × Shape) → List (String × Bool × Outline)
  | [] => []
  | (name, required, shape) :: rest =>
    (name, required && shape.filler?.isNone, .nullable shape.outline) :: outlines rest

end

end Shape

namespace Row

/-- The fields that are carried along in normal form. -/
def others (fields : List (String × Bool × Shape)) : Row Fields where
  outlines := Shape.outlines fields
  read depth given := Shape.normalFields? fields depth given
  write found := found

end Row

namespace Form

/-- A part that is carried along in normal form. -/
def shaped (shape : Shape) : Form Json where
  read := shape.normal?
  write json := json
  outline := shape.outline

/-- A Kubernetes object: a wrong version or kind is refused, a missing one is not. -/
def resource {α ρ : Type} (apiVersion kind : String) (row : Row ρ) (build : ρ → α)
    (fields : α → ρ) : Form α where
  read depth := fun
    | .object given =>
      if Shape.agrees "apiVersion" apiVersion given ∧ Shape.agrees "kind" kind given then
        (lenient kind row build fields).read depth (.object given)
      else none
    | _ => none
  write value :=
    .object (("apiVersion", .text apiVersion) :: ("kind", .text kind) :: row.write (fields value))
  outline := .record .lenient kind (("apiVersion", false, .fixed apiVersion)
    :: ("kind", false, .fixed kind) :: Outline.allNullable row.outlines)

end Form

end IdentityOperator
