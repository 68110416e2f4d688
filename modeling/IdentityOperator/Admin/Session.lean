import IdentityOperator.Admin.Representation
import IdentityOperator.Error
import IdentityOperator.Http.Exchange
import IdentityOperator.Json.Diagnosis
import IdentityOperator.Text.Blank

/-!
Sessions with the admin API of an installation, and the few kinds of requests that everything else
is made of.

Each kind has one rule for the status of the answer. Creating what exists and deleting what is gone
count as done, so a sequence of requests can be repeated after a failure. What comes of an answer is
a function of its own for each kind; the session only sends.
-/

namespace IdentityOperator

/-- A client of one installation. -/
structure Session where
  /-- The URL of the installation, without slashes at its end. -/
  endpoint : String
  /-- The token of the last login that succeeded. -/
  token : Option String := none
  deriving DecidableEq, Repr

/-- Requests to an installation that may fail. -/
abbrev Rest (α : Type) : Type :=
  ExceptT OperatorError (Program Http.Outgoing (fun _ => Option Http.Response)) α

namespace Session

/-! ## What comes of an answer -/

/-- The failure of a request whose answer has an unexpected status. -/
def unexpected (verb : Verb) (kind : String) (response : Http.Response) : OperatorError :=
  .status verb kind (UInt16.ofNat response.status) (Http.reasonPhrase response.status)

/-- The bytes of an answer, if all of them came. -/
def bodyOf (response : Http.Response) : Except OperatorError (List UInt8) :=
  match response.body with
  | some bytes => .ok bytes
  | none => .error (.http "error decoding response body")

/-- Read bytes as a JSON value of a form. -/
def decode? {α : Type} (form : Form α) (bytes : List UInt8) : Option α :=
  (Json.ofBytes? bytes).bind form.ofJson?

/-- A visible ASCII character, a blank or a tab. -/
def isVisible (b : UInt8) : Bool := b = 9 || (32 ≤ b && b < 127)

/-- The id at the end of the place where an answer says that the new object is. -/
def locationId (response : Http.Response) : String :=
  match response.header? "Location" with
  | some place =>
    if place.all isVisible then
      String.ofList (Split.afterLast '/' (place.map fun b => Char.ofNat b.toNat))
    else ""
  | none => ""

/-- A new object has an id; one that exists already is as good as a new one. -/
def created (kind : String) (response : Http.Response) : Except OperatorError String :=
  if response.status = 201 ∨ response.status = 204 ∨ response.status = 409 then
    .ok (locationId response)
  else .error (unexpected .create kind response)

/-- An update succeeds by any successful status. -/
def updated (kind : String) (response : Http.Response) : Except OperatorError Unit :=
  if Http.isSuccess response.status then .ok () else .error (unexpected .update kind response)

/-- The content of an object, or none if there is no such object. -/
def found {α : Type} (kind : String) (read : List UInt8 → Except OperatorError α)
    (response : Http.Response) : Except OperatorError (Option α) :=
  if response.status = 404 then .ok none
  else if response.status = 200 then do
    let bytes ← bodyOf response
    let value ← read bytes
    .ok (some value)
  else .error (unexpected .get kind response)

/-- The objects of a list; a list that cannot be read counts as empty. -/
def listed {α : Type} (kind : String) (form : Form α) (response : Http.Response) :
    Except OperatorError (List α) :=
  if Http.isSuccess response.status then do
    let bytes ← bodyOf response
    .ok ((decode? form.list bytes).getD [])
  else .error (unexpected .list kind response)

/-- An object that is gone already is as good as a deleted one. -/
def deleted (kind : String) (response : Http.Response) : Except OperatorError Unit :=
  if response.status = 404 ∨ Http.isSuccess response.status then .ok ()
  else .error (unexpected .delete kind response)

/-- A server that is there answers with one status only. -/
def alive (response : Http.Response) : Except OperatorError Unit :=
  if response.status = 200 then .ok () else .error (unexpected .ping "keycloak" response)

/-- What is wrong with the bytes of an answer. -/
def complaint {α : Type} (form : Form α) (bytes : List UInt8) : String :=
  form.outline.complaint Form.maxDepth bytes

def readJson {α : Type} (form : Form α) (bytes : List UInt8) : Except OperatorError α :=
  match decode? form bytes with
  | some value => .ok value
  | none => .error (.serialization (complaint form bytes))

/-- By these words the answer to a login is said to be unreadable. -/
def unreadableTokenMark : String := "error parsing token response: "

/-- The token of an answer to a login. Whether the login failed is told by the answer's content. -/
def granted (response : Http.Response) : Except OperatorError String := do
  let bytes ← bodyOf response
  match decode? Admin.TokenAnswer.form bytes with
  | none =>
    .error (.serialization (unreadableTokenMark ++ complaint Admin.TokenAnswer.form bytes))
  | some answer =>
    if answer.error ≠ "" then .error (.authentication answer.errorDescription)
    else .ok answer.accessToken

/-! ## Sending -/

/-- A client of the installation at a URL, not logged in yet. -/
def connect (url : String) : Session := { endpoint := Blank.dropRight '/' url }

def adminUrl (session : Session) (path : String) : String :=
  session.endpoint ++ "/auth/admin/" ++ path

def tokenUrl (session : Session) : String :=
  session.endpoint ++ "/auth/realms/master/protocol/openid-connect/token"

/-- The URL that answers as soon as the installation is up. -/
def pingUrl (session : Session) : String := session.endpoint ++ "/auth/"

/-- Send a request, whose purpose is named when it fails. -/
def exchange (purpose : String) (request : Http.Request) : Rest Http.Response :=
  ExceptT.mk (request.send.bind fun
    | .ok response => .done (.ok response)
    | .error e =>
      .done (.error (.http ("error performing " ++ purpose ++ " request: " ++ e.message))))

/-- Go on with what comes of an answer. -/
def conclude {α : Type} (result : Except OperatorError α) : Rest α :=
  ExceptT.mk (.done result)

/-- Send a request to the admin API with the token of the session. -/
def authorized (session : Session) (verb : Verb) (method : Http.Method) (kind path : String)
    (content : Http.Content := .nothing) : Rest Http.Response :=
  exchange (verb.name ++ " " ++ kind) {
    method, url := session.adminUrl path, bearer := some (session.token.getD ""), content }

/-- Create an object; its id comes back, as far as the answer tells it. -/
def create (session : Session) (kind path : String) (body : Json) : Rest String := do
  let response ← session.authorized .create .post kind path (.json body)
  conclude (created kind response)

def update (session : Session) (kind path : String) (body : Json) : Rest Unit := do
  let response ← session.authorized .update .put kind path (.json body)
  conclude (updated kind response)

/-- Fetch an object and read its bytes. -/
def getWith {α : Type} (session : Session) (kind path : String)
    (read : List UInt8 → Except OperatorError α) : Rest (Option α) := do
  let response ← session.authorized .get .get kind path
  conclude (found kind read response)

/-- Fetch an object of a form. -/
def get {α : Type} (session : Session) (kind path : String) (form : Form α) : Rest (Option α) :=
  session.getWith kind path (readJson form)

/-- Fetch a list of objects of a form. -/
def list {α : Type} (session : Session) (kind path : String) (form : Form α) : Rest (List α) := do
  let response ← session.authorized .list .get kind path
  conclude (listed kind form response)

/-- Delete an object, or the parts of it that the request carries. -/
def delete (session : Session) (kind path : String) (content : Http.Content := .nothing) :
    Rest Unit := do
  let response ← session.authorized .delete .delete kind path content
  conclude (deleted kind response)

/-- Ask whether the installation is up. -/
def ping (session : Session) : Rest Unit := do
  let response ← exchange "ping" { method := .get, url := session.pingUrl }
  conclude (alive response)

/-- The form by which an administrator logs in. -/
def loginForm (username password : String) : List (String × String) := [
  ("username", username), ("password", password), ("client_id", "admin-cli"),
  ("grant_type", "password")]

/-- Log in. A session that cannot log in keeps the token that it had. -/
def login (session : Session) (username password : String) : Rest Session := do
  let response ← exchange "token" {
    method := .post, url := session.tokenUrl, content := .form (loginForm username password) }
  let token ← conclude (granted response)
  pure { session with token := some token }

end Session

end IdentityOperator
