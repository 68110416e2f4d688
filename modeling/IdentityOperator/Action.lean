import IdentityOperator.Object

/-!
Planned actions. A plan is a list of actions none of which has happened yet.
-/

namespace IdentityOperator

/-- A step of a plan, with the text that describes it. -/
inductive Action where
  | create (object : Object) (msg : String)
  | update (object : Object) (previous : Option Object) (msg : String)
  | delete (object : Object) (msg : String)
  | ping (msg : String)
  | createRealm (realm : KeycloakRealm) (msg : String)
  | deleteRealm (realm : KeycloakRealm) (msg : String)
  | configureRealm (realm : KeycloakRealm) (msg : String)
  | updateRealmGroups (realm : KeycloakRealm) (msg : String)
  | updateRealm (realm : KeycloakRealm) (msg : String)

namespace Action

/-- The text that describes the action. -/
def msg : Action → String
  | create _ msg | update _ _ msg | delete _ msg | ping msg | createRealm _ msg | deleteRealm _ msg
  | configureRealm _ msg | updateRealmGroups _ msg | updateRealm _ msg => msg

/-- Whether the action is applied to a Keycloak and not to the cluster. -/
def needsKeycloak : Action → Bool
  | create .. | update .. | delete .. => false
  | _ => true

/-- The object that an update replaces, as the plan knows it. -/
def previous? : Action → Option Object
  | update _ previous _ => previous
  | _ => none

/-- The object that the action creates or updates. -/
def written? : Action → Option Object
  | create object _ | update object _ _ => some object
  | _ => none

/-- Note the object that an update replaces. -/
def withPrevious (object : Object) : Action → Action
  | update new _ msg => update new (some object) msg
  | action => action

def summary : Action → String
  | create o _ => "Create " ++ o.kind.name ++ " " ++ o.name
  | update o _ _ => "Update " ++ o.kind.name ++ " " ++ o.name
  | delete o _ => "Delete " ++ o.kind.name ++ " " ++ o.name
  | ping _ => "Ping"
  | createRealm realm _ => "CreateRealm " ++ realm.realmName
  | deleteRealm realm _ => "DeleteRealm " ++ realm.realmName
  | configureRealm realm _ => "ConfigureRealm " ++ realm.realmName
  | updateRealmGroups realm _ => "UpdateRealmGroups " ++ realm.realmName
  | updateRealm realm _ => "UpdateRealm " ++ realm.realmName

end Action

/-- Actions in the order in which they are to be applied. -/
abbrev Plan := List Action

end IdentityOperator
