import IdentityOperator.Cluster.Api
import IdentityOperator.Cluster.Call

/-!
How calls to the cluster are made: one request each, and what follows from its answer.

The answers are brought to the contract of calls here: an object that exists already counts as
created, one that is gone counts as deleted, and a kind that is not served is told apart from an
object that is missing.
-/

namespace IdentityOperator

/-! ## Lists and deletions -/

def Schema.listMeta : Shape := .object "ListMeta" [
  Shape.opt "continue" .text, Shape.opt "remainingItemCount" .int64,
  Shape.opt "resourceVersion" .text, Shape.opt "selfLink" .text]

/-- The fields of a list of objects. Its items may be `null`. -/
def listRow {α : Type} (form : Form α) :=
  Row.cons (Member.defaulted "metadata" (Form.shaped Schema.listMeta) .null) <|
  Row.cons (Member.required "items" form.list.nullable) Row.nil

/-- What is expected of the text of a list. -/
def listOutline {α : Type} (form : Form α) : Outline :=
  .record .collecting "ObjectList" (listRow form).outlines

/-- The objects of a list. Its other fields are kept until the list has been read, so they have to
denote something, unlike the other fields of an object. -/
def readList? {α : Type} (form : Form α) : Json → Option (List α)
  | .object fields => do
    let names := (listRow form).names
    let others := fields.filter fun field => !names.contains field.1
    let _ ← others.mapM fun field => Form.json.read (Form.maxDepth - 1) field.2
    let found ← Form.strictFields names fields
    let (_, items, _) ← (listRow form).read (Form.maxDepth - 1) found
    some (items.getD [])
  | _ => none

/-- A cause that a server names for a failure. -/
def statusCauseForm :=
  Form.strict "StatusCause"
    (Row.cons (Member.defaulted "reason" Form.text "") <|
     Row.cons (Member.defaulted "message" Form.text "") <|
     Row.cons (Member.defaulted "field" Form.text "") Row.nil) id id

/-- What a server says about the object of a request. -/
def statusDetailsForm :=
  Form.strict "StatusDetails"
    (Row.cons (Member.defaulted "name" Form.text "") <|
     Row.cons (Member.defaulted "group" Form.text "") <|
     Row.cons (Member.defaulted "kind" Form.text "") <|
     Row.cons (Member.defaulted "uid" Form.text "") <|
     Row.cons (Member.defaulted "causes" statusCauseForm.list []) <|
     Row.cons (Member.defaulted "retryAfterSeconds" Form.uint32 0) Row.nil) id id

/-- Whether a request did what it was for. -/
def statusSummaryForm : Form Bool :=
  .choice [true, false] fun success => if success then "Success" else "Failure"

/-- What a server says about a request that it has carried out. -/
def statusForm :=
  Form.strict "Status"
    (Row.cons (Member.omitted "status" statusSummaryForm) <|
     Row.cons (Member.defaulted "code" Form.uint16 0) <|
     Row.cons (Member.defaulted "message" Form.text "") <|
     Row.cons (Member.defaulted "reason" Form.text "") <|
     Row.cons (Member.omitted "details" statusDetailsForm) Row.nil) id id

/-- A deletion is answered by the object or by a status. -/
def readDeletion (kind : Kind) (content : ApiContent) : ApiOutcome Unit := do
  let json ← content.read Form.json
  match json.field? "kind" with
  | some (.text "Status") =>
    let _ ← content.read statusForm
    pure ()
  | _ =>
    let _ ← content.read kind.form
    pure ()

/-! ## Calls -/

namespace ClusterCall

def labelQuery (labels : String) : String := "?&labelSelector=" ++ FormText.encode labels

def request : ClusterCall → ApiOutcome ApiRequest
  | get kind key => ApiRequest.about? .get kind key ""
  | create object =>
    ApiRequest.at? .post (object.kind.collectionPath object.key.ns ++ "?") (some object.toJson)
  | update object => ApiRequest.about? .put object.kind object.key "?" (some object.toJson)
  | delete object => ApiRequest.about? .delete object.kind object.key "?" (some (.object []))
  | list kind ns labels => ApiRequest.at? .get (kind.collectionPath ns ++ labelQuery labels)

/-- The objects that an answer brings. -/
def listed (kind : Kind) (content : ApiContent) : ApiOutcome (List kind.Object) :=
  match content.json?.bind (readList? kind.form) with
  | some objects => .ok objects
  | none => .error (content.complaint (listOutline kind.form))

/-- The result of a call, from what its request came to. -/
def conclude : (call : ClusterCall) → ApiOutcome ApiContent → call.Answer
  | get kind key, outcome =>
    (outcome.bind fun content => content.read kind.form).mapError (·.aboutObject kind key)
  | create object, outcome =>
    match outcome.bind fun content => content.read object.kind.form with
    | .ok _ => .ok ()
    | .error e => if e.isConflict then .ok () else .error (e.aboutObject object.kind object.key)
  | update object, outcome =>
    match outcome.bind fun content => content.read object.kind.form with
    | .ok _ => .ok ()
    | .error e => .error (e.aboutObject object.kind object.key)
  | delete object, outcome =>
    match outcome with
    | .ok content => (readDeletion object.kind content).mapError (·.general)
    | .error e =>
      let cause := e.aboutObject object.kind object.key
      if cause.isNotFound then .ok () else .error cause
  | list kind _ _, outcome => (outcome.bind (listed kind)).mapError (·.general)

def viaApi (call : ClusterCall) : ApiProgram call.Answer :=
  (ApiRequest.exchange call.request).bind fun outcome => .done (call.conclude outcome)

end ClusterCall

/-! ## Patches -/

/-- Merge a patch into an object or into a part of it, which is named behind the object's place. -/
def patchObject (kind : Kind) (key : ObjectKey) (behind : String) (patch : Json) :
    ApiProgram (Except OperatorError Unit) :=
  let request := ApiRequest.about? .patch kind key (behind ++ "?") (some patch)
  (ApiRequest.exchange request).bind fun outcome =>
    match outcome.bind fun content => content.read kind.form with
    | .ok _ => .done (.ok ())
    | .error e => .done (.error e.general)

end IdentityOperator
