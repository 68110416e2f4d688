import IdentityOperator.Error
import IdentityOperator.Http.Exchange
import IdentityOperator.Http.Target
import IdentityOperator.Json.Diagnosis
import IdentityOperator.Json.Texts
import IdentityOperator.Object
import IdentityOperator.Text.Quoted

/-!
The API of a cluster: requests to its server, what comes back, and where objects are found.

An answer with a failure status carries a report of the failure. Where it does not, the report is
made up from the answer, so that every failure has a code, a reason and a message.
-/

namespace IdentityOperator

/-! ## Requests and answers -/

structure ApiRequest where
  method : Http.Method
  target : Http.Target
  body : Option Json := none

/-- What an answer carries: a JSON value, or a text that may be anything. -/
inductive ApiContent where
  | json (value : Json)
  | text (value : String)

def ApiContent.json? : ApiContent → Option Json
  | json value => some value
  | text value => Json.ofText? value

/-- The content as it was sent; a JSON value is sent with its fields in order. -/
def ApiContent.raw : ApiContent → String
  | json value => value.sorted.render
  | text value => value

/-- An answer of the server. -/
structure ApiResponse where
  status : Nat
  content : ApiContent

/-- A program that asks the server. -/
abbrev ApiProgram (α : Type) : Type := Program ApiRequest (fun _ => ApiResponse) α

/-! ## Failures -/

structure ErrorReport where
  status : String
  message : String := ""
  reason : String := ""
  code : UInt16
  deriving DecidableEq, Repr

def ErrorReport.row :=
  Row.cons (Member.required "status" Form.text) <|
  Row.cons (Member.defaulted "message" Form.text "") <|
  Row.cons (Member.defaulted "reason" Form.text "") <|
  Row.cons (Member.required "code" Form.uint16) Row.nil

def ErrorReport.form : Form ErrorReport :=
  .strict "ErrorResponse" row (fun (a, b, c, d, _) => ⟨a, b, c, d⟩)
    (fun ⟨a, b, c, d⟩ => (a, b, c, d, ()))

def ErrorReport.text (report : ErrorReport) : String :=
  report.message ++ ": " ++ report.reason ++ " (ErrorResponse \x7b status: "
    ++ Quoted.quote report.status ++ ", message: " ++ Quoted.quote report.message ++ ", reason: "
    ++ Quoted.quote report.reason ++ ", code: " ++ toString report.code.toNat ++ " \x7d)"

/-- The report that an answer with a failure status carries, or one that is made up from it. -/
def ErrorReport.ofResponse (response : ApiResponse) : ErrorReport :=
  match response.content.json?.bind form.ofJson? with
  | some report => report
  | none => {
      status := Http.statusLine response.status
      message := Quoted.quote response.content.raw
      reason := "Failed to parse error data"
      code := UInt16.ofNat response.status }

/-- Why a request to the server failed. -/
inductive ApiFailure where
  /-- The request is about an object without a name. -/
  | unnamed
  /-- The request could not be written. -/
  | unbuilt (cause : Http.TargetError)
  /-- The server refused. -/
  | refused (report : ErrorReport)
  /-- The answer could not be read. -/
  | unreadable (complaint : String)
  /-- A group of kinds has no versions. -/
  | emptyGroup (name : String)
  /-- The address of a request that is not about an object could not be written. -/
  | misaddressed (cause : Http.TargetError)
  deriving DecidableEq, Repr

namespace ApiFailure

/-- By these words an answer is said to be unreadable. -/
def unreadableMark : String := "Error deserializing response: "

def text : ApiFailure → String
  | unnamed => "Failed to build request: failed to validate request: A non-empty name is required"
  | unbuilt cause => "Failed to build request: failed to build request: " ++ cause.message
  | refused report => "ApiError: " ++ report.text
  | unreadable complaint => unreadableMark ++ complaint
  | emptyGroup name => "Error from discovery: Empty Api Group: " ++ name
  | misaddressed cause => "HttpError: " ++ cause.message

/-- By these words a server says that it does not know a kind. -/
def unknownKindMark : String := "could not find the requested resource"

/-- Whether a text has another one in it. -/
def mentions (message mark : String) : Bool :=
  Split.hasPart mark.toList message.toList

/-- The server does not have the object, but knows its kind. -/
def isMissingObject (report : ErrorReport) : Bool :=
  report.code = 404 && report.reason = "NotFound" && !mentions report.message unknownKindMark

/-- The failure of a request about an object, by its cause. -/
def aboutObject (kind : Kind) (key : ObjectKey) (failure : ApiFailure) : OperatorError :=
  match failure with
  | refused report =>
    if isMissingObject report then .notFound (kind.name ++ " " ++ key.display)
    else if report.code = 404 then .kindNotRegistered kind.name
    else .kubeApi failure.text
  | _ => .kubeApi failure.text

/-- The failure of any other request. -/
def general (failure : ApiFailure) : OperatorError := .kubeApi failure.text

/-- The object is there already. -/
def isConflict : ApiFailure → Bool
  | refused report => report.code = 409
  | _ => false

end ApiFailure

/-- What a request came to. -/
abbrev ApiOutcome (α : Type) : Type := Except ApiFailure α

/-- The content of an answer, unless the server refused. -/
def ApiResponse.outcome (response : ApiResponse) : ApiOutcome ApiContent :=
  if Http.isFailure response.status then .error (.refused (.ofResponse response))
  else .ok response.content

/-- The failure of an answer that is not as expected. -/
def ApiContent.complaint (content : ApiContent) (outline : Outline) : ApiFailure :=
  .unreadable (outline.complaint Form.maxDepth (Utf8.encode content.raw))

/-- The content of an answer as a value of a form. -/
def ApiContent.read {α : Type} (form : Form α) (content : ApiContent) : ApiOutcome α :=
  match content.json?.bind form.ofJson? with
  | some value => .ok value
  | none => .error (content.complaint form.outline)

/-! ## Places -/

namespace Kind

/-- Where the kinds of a group and version are found. -/
def basePath (kind : Kind) : String :=
  if kind.apiVersion = "v1" then "/api/v1" else "/apis/" ++ kind.apiVersion

/-- Where the objects of a kind in a namespace are found. -/
def collectionPath (kind : Kind) (ns : String) : String :=
  kind.basePath ++ "/namespaces/" ++ ns ++ "/" ++ kind.plural

/-- Where an object is found. -/
def objectPath (kind : Kind) (key : ObjectKey) : String :=
  kind.collectionPath key.ns ++ "/" ++ key.name

/-- Where the objects of a kind are found, in all namespaces if none is named. -/
def watchedPath (kind : Kind) (ns : String) : String :=
  if ns = "" then kind.basePath ++ "/" ++ kind.plural else kind.collectionPath ns

end Kind

namespace ApiRequest

def at? (method : Http.Method) (place : String) (body : Option Json := none) :
    ApiOutcome ApiRequest :=
  match Http.Target.ofText? place with
  | .ok target => .ok { method, target, body }
  | .error e => .error (.unbuilt e)

/-- A request about one object, which has to have a name. -/
def about? (method : Http.Method) (kind : Kind) (key : ObjectKey) (behind : String)
    (body : Option Json := none) : ApiOutcome ApiRequest :=
  if key.name = "" then .error .unnamed else at? method (kind.objectPath key ++ behind) body

/-- Send a request that could be built, and go on with what it came to. -/
def exchange (request : ApiOutcome ApiRequest) : ApiProgram (ApiOutcome ApiContent) :=
  match request with
  | .error e => .done (.error e)
  | .ok request => .ask request fun response => .done response.outcome

end ApiRequest

end IdentityOperator
