import IdentityOperator.Http.FormText
import IdentityOperator.Http.Status
import IdentityOperator.Http.Url
import IdentityOperator.Json.Text
import IdentityOperator.Program
import IdentityOperator.Text.Base64

/-!
HTTP exchanges: what a client wants to send, what goes out, and what comes back.

A request that cannot be sent at all fails before anything goes out: its URL is no URL or none for
HTTP, or its token cannot stand in a header.
-/

namespace IdentityOperator.Http

/-! ## Requests -/

inductive Method where
  | get
  | post
  | put
  | patch
  | delete
  deriving DecidableEq, Repr

def Method.name : Method → String
  | get => "GET"
  | post => "POST"
  | put => "PUT"
  | patch => "PATCH"
  | delete => "DELETE"

inductive Content where
  | nothing
  | json (value : Json)
  | form (pairs : List (String × String))

/-- A request that a client wants to make. -/
structure Request where
  method : Method
  /-- The URL as a text. -/
  url : String
  /-- A token by which the request is authorised; a request without one is not. -/
  bearer : Option String := none
  content : Content := .nothing

/-- A request as it goes out. -/
structure Outgoing where
  method : Method
  url : Url
  /-- The values of the authorisation header, in their order. -/
  authorization : List String := []
  contentType : Option String := none
  body : Option String := none

/-! ## Responses -/

structure Response where
  status : Nat
  headers : List (String × List UInt8) := []
  /-- The body; none if the connection ended before all of it had come. -/
  body : Option (List UInt8) := some []

/-- The first value of a header; the case of its name does not matter. -/
def Response.header? (response : Response) (name : String) : Option (List UInt8) :=
  (response.headers.find? fun header => header.1.map Char.toLower = name.map Char.toLower).map (·.2)

/-! ## Sending -/

inductive SendError where
  /-- The URL or a header could not be built. -/
  | unbuilt
  /-- The URL is none that HTTP can be spoken with. -/
  | unusable (url : Url)
  /-- There was no answer. -/
  | unanswered (url : Url)
  deriving DecidableEq, Repr

def SendError.message : SendError → String
  | unbuilt => "builder error"
  | unusable url => "builder error for url (" ++ url.render ++ ")"
  | unanswered url => "error sending request for url (" ++ url.render ++ ")"

def isHeaderValue (text : String) : Bool :=
  text.toList.all fun c => c = '\t' || (' ' ≤ c && c ≠ '\x7f')

/-- The longest URL that is sent, in bytes. -/
def longestUrl : Nat := 65534

/-- Whether a host can be spoken with: HTTP allows fewer characters than URLs do. -/
def isHttpHost (host : String) : Bool :=
  host.toList.all fun c => c ≠ '"' && c.toNat ≠ 0x60 && c.toNat ≠ 0x7B && c.toNat ≠ 0x7D

/-- Whether HTTP can be spoken with a URL. -/
def isHttp (url : Url) : Bool :=
  (url.scheme = "http" || url.scheme = "https") && url.host.all isHttpHost &&
    url.render.utf8ByteSize ≤ longestUrl

def userAuthorization (name : String) (password : Option String) : String :=
  "Basic " ++ Base64.encode .standard (Utf8.encode (name ++ ":" ++ password.getD ""))

/-- The request as it goes out. A user name and password leave the URL for a header. -/
def Request.outgoing? (request : Request) : Except SendError Outgoing :=
  match Url.ofText? request.url with
  | none => .error .unbuilt
  | some given =>
    let (url, fromUrl) := match given.credentials? with
      | some (name, password) => (given.withoutUser, [userAuthorization name password])
      | none => (given, [])
    let authorization := fromUrl ++ (request.bearer.map ("Bearer " ++ ·)).toList
    let (contentType, body) := match request.content with
      | .nothing => (none, none)
      | .json value => (some "application/json", some value.render)
      | .form pairs => (some "application/x-www-form-urlencoded", some (FormText.render pairs))
    if ¬ url.hasHost then .error (.unusable url)
    else if ¬ request.bearer.all isHeaderValue then .error .unbuilt
    else if ¬ isHttp url then .error (.unusable url)
    else .ok { method := request.method, url, authorization, contentType, body }

/-- A program that exchanges requests for responses; nothing may come back. -/
abbrev Exchange (α : Type) : Type := Program Outgoing (fun _ => Option Response) α

def Request.send (request : Request) : Exchange (Except SendError Response) :=
  match request.outgoing? with
  | .error e => .done (.error e)
  | .ok outgoing => .ask outgoing fun
    | none => .done (.error (.unanswered outgoing.url))
    | some response => .done (.ok response)

end IdentityOperator.Http
