import IdentityOperator.Admin.Operation
import IdentityOperator.Cluster.ApiCall
import IdentityOperator.Pass.Installation
import IdentityOperator.Pass.Realm

/-!
Passes spelled out: every request of a pass as the requests to the cluster's server and to the
installations that it is made of.
-/

namespace IdentityOperator

/-- A request of a pass that is spelled out. -/
inductive WireRequest where
  /-- A request to the cluster's server. -/
  | api (request : ApiRequest)
  /-- A request to an installation. -/
  | http (request : Http.Outgoing)
  | flag (key : CapabilityKey)
  | password (bytes : Nat)
  | now

def WireRequest.Answer : WireRequest → Type
  | api _ => ApiResponse
  | http _ => Option Http.Response
  | flag _ => Bool
  | password _ => String
  | now => String

/-- A part of a pass that is spelled out. -/
abbrev Wired (α : Type) : Type := Program WireRequest WireRequest.Answer α

namespace Wired

variable {α : Type}

/-- Requests to the cluster's server. -/
def ofApi (program : ApiProgram α) : Wired α :=
  program.translate fun request => Program.send (.api request)

def ofExchange (program : Http.Exchange α) : Wired α :=
  program.translate fun request => Program.send (.http request)

/-- Log in to an installation with the credentials in its secret. A value that is missing counts as
empty. -/
def login (kc : Keycloak) : Wired (Except OperatorError Session) :=
  match kc.target with
  | .error e => .done (.error e)
  | .ok (endpoint, secret) =>
    (ofApi (ClusterCall.get .secret (kc.keyOf secret)).viaApi).bind fun
      | .error e => .done (.error (Keycloak.credentialsError e))
      | .ok (found : Secret) =>
        let username := (found.value? AdminSecret.usernameKey).getD ""
        let password := (found.value? AdminSecret.passwordKey).getD ""
        ofExchange ((Session.connect endpoint).login username password).run

def statusPatch (status : Json) : Json := .object [("status", status)]

def finalizersPatch (finalizers : List String) : Json :=
  .object [("metadata", .object [("finalizers", Form.text.list.write finalizers)])]

/-- What a request of a pass is made of. -/
def expand : (request : PassRequest) → Wired request.Answer
  | .cluster call => ofApi call.viaApi
  | .patchKeycloakStatus key status =>
    ofApi (patchObject .keycloak key "/status" (statusPatch (KeycloakStatus.form.write status)))
  | .patchRealmStatus key status =>
    ofApi (patchObject .keycloakRealm key "/status"
      (statusPatch (KeycloakRealmStatus.form.write status)))
  | .patchFinalizers key finalizers =>
    ofApi (patchObject .keycloakRealm key "" (finalizersPatch finalizers))
  | .login kc => login kc
  | .admin session call => ofExchange (session.call call).run
  | .flag key => Program.send (WireRequest.flag key)
  | .password bytes => Program.send (WireRequest.password bytes)
  | .now => Program.send WireRequest.now

/-- Spell out a pass, or a part of one. -/
def ofPass (program : Asking α) : Wired α := program.translate expand

/-! ## Watching -/

/-- A pass over each object, one after the other. A pass that fails does not keep the others from
being made. -/
def passes {σ : Type} (pass : σ → Pass Requeue) : List σ → Wired Unit
  | [] => .done ()
  | object :: rest => (ofPass (pass object).run).bind fun _ => passes pass rest

/-- The first round of a watch: list the objects of a kind, in all namespaces if none is named, and
make a pass over each. -/
def firstRound (kind : Kind) (ns : String) (pass : kind.Object → Pass Requeue) : Wired Unit :=
  let request := ApiRequest.at? .get (kind.watchedPath ns)
  (ofApi (ApiRequest.exchange request)).bind fun outcome =>
    match outcome.bind (ClusterCall.listed kind) with
    | .ok objects => passes pass objects
    | .error _ => .done ()

/-- The first round over all installations. -/
def watchKeycloaks (profiles : Profiles) (ns : String) : Wired Unit :=
  firstRound .keycloak ns (Pass.installation profiles)

def watchRealms (ns : String) : Wired Unit := firstRound .keycloakRealm ns Pass.realm

end Wired

end IdentityOperator
