import IdentityOperator.Admin.Representation
import IdentityOperator.Error
import IdentityOperator.Resource.KeycloakRealm
import IdentityOperator.Text.Blank

/-!
The calls to the admin API of a Keycloak that passes over realms make, and an admin API in memory.
-/

namespace IdentityOperator

inductive AdminCall where
  | ping
  | getRealm (name : String)
  | createRealm (realm : Admin.Realm)
  | updateRealm (realm : Admin.Realm)
  | deleteRealm (name : String)
  | updateRealmGroups (realm : Admin.Realm)
  | configureRedirector (realm : String) (redirect : RedirectorOverride)

namespace AdminCall

/-- What a call brings back: the realm if it exists, or the id of the new realm. -/
def Result : AdminCall → Type
  | getRealm _ => Option Admin.Realm
  | createRealm _ => String
  | _ => Unit

abbrev Answer (call : AdminCall) : Type := Except OperatorError call.Result

def name : AdminCall → String
  | ping => "ping"
  | getRealm _ => "get_realm"
  | createRealm _ => "create_realm"
  | updateRealm _ => "update_realm"
  | deleteRealm _ => "delete_realm"
  | updateRealmGroups _ => "update_realm_groups"
  | configureRedirector .. => "configure_browser_redirector"

/-- What a call is about. -/
def subject : AdminCall → String
  | ping => ""
  | getRealm name | deleteRealm name => name
  | createRealm realm | updateRealm realm | updateRealmGroups realm => realm.realm
  | configureRedirector realm redirect =>
    realm ++ " " ++ redirect.identityProvider ++ " " ++ redirect.forFlow

/-- The written form of a call. -/
def display (call : AdminCall) : String := Blank.trimRight (call.name ++ " " ++ call.subject)

end AdminCall

/-- An admin API in memory, which remembers the calls made to it. -/
structure MemoryAdmin where
  realms : List Admin.Realm := []
  /-- Calls that fail, by name. -/
  faults : List (String × OperatorError) := []
  log : List AdminCall := []

namespace MemoryAdmin

def find? (api : MemoryAdmin) (name : String) : Option Admin.Realm :=
  api.realms.find? (·.realm = name)

/-- Put a realm in the place of the one with its name, or at the end. -/
def put (api : MemoryAdmin) (realm : Admin.Realm) : MemoryAdmin :=
  if (api.find? realm.realm).isSome then
    { api with realms := api.realms.map fun old => if old.realm = realm.realm then realm else old }
  else { api with realms := api.realms ++ [realm] }

/-- An admin API with these realms; the last one of a name counts. -/
def ofRealms (realms : List Admin.Realm) : MemoryAdmin := realms.foldl put {}

/-- The answer to a call that does not fail. Creating a realm that exists leaves it alone. -/
def serve (api : MemoryAdmin) : (call : AdminCall) → call.Answer × MemoryAdmin
  | .ping => (.ok (), api)
  | .getRealm name => (.ok (api.find? name), api)
  | .createRealm realm =>
    (.ok "", if (api.find? realm.realm).isSome then api else api.put realm)
  | .updateRealm realm => (.ok (), api.put realm)
  | .deleteRealm name => (.ok (), { api with realms := api.realms.filter (·.realm ≠ name) })
  | .updateRealmGroups _ => (.ok (), api)
  | .configureRedirector _ _ => (.ok (), api)

/-- The answer to a call: the error of the first fault of its name, else that of the API. -/
def perform (call : AdminCall) (api : MemoryAdmin) : call.Answer × MemoryAdmin :=
  let api := { api with log := api.log ++ [call] }
  match api.faults.find? (·.1 = call.name) with
  | some fault => (.error fault.2, api)
  | none => api.serve call

end MemoryAdmin

end IdentityOperator
