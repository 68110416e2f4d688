import IdentityOperator.Action
import IdentityOperator.Installation.Credentials

/-!
The plan for one declared realm inside one installation.

A declaration that is being deleted has the realm removed and nothing else. For any other one the
server is asked first whether it answers; then what is missing is created and what can be repeated
is updated.
-/

namespace IdentityOperator

/-- What is there of a declared realm. -/
structure RealmSnapshot where
  realm : Option Admin.Realm := none
  /-- The credential secrets by user name; the last entry of a name counts. -/
  userSecrets : List (String × Option Secret) := []

namespace RealmSnapshot

/-- What is known about the secret of a user, as found last. -/
def secretOf? (state : RealmSnapshot) (username : String) : Option (Option Secret) :=
  (state.userSecrets.reverse.find? (·.1 = username)).map (·.2)

def hasUserSecret (state : RealmSnapshot) (username : String) : Bool :=
  match state.secretOf? username with
  | some (some _) => true
  | _ => false

end RealmSnapshot

namespace KeycloakRealm

/-- The name of the realm with the namespace of its declaration. -/
def qualified (realm : KeycloakRealm) : String :=
  realm.metadata.ns.getD "" ++ "/" ++ realm.realmName

/-- Hand a credential secret to a user who has none. -/
def userPlan (realm : KeycloakRealm) (kc : Keycloak) (state : RealmSnapshot) (password : String)
    (user : Admin.User) : Plan :=
  if state.hasUserSecret user.username then []
  else [.create ⟨.secret, UserSecret.fresh realm user kc password⟩
    ("create credential secret for user " ++ user.username ++ " in realm " ++ realm.qualified)]

/-- The plan for the credential secrets; the number of a user in the list picks his password. -/
def usersPlan (realm : KeycloakRealm) (kc : Keycloak) (state : RealmSnapshot)
    (passwords : Nat → String) : Plan :=
  (realm.spec.realm.users.mapIdx fun i user =>
    realm.userPlan kc state (passwords i) user).flatten

def plan (realm : KeycloakRealm) (kc : Keycloak) (passwords : Nat → String)
    (state : RealmSnapshot) : Plan :=
  if realm.isTombstoned then [.deleteRealm realm ("removing realm " ++ realm.qualified)]
  else
    [.ping "check if keycloak is available"] ++
    (if state.realm.isSome then []
      else [.createRealm realm ("create realm " ++ realm.qualified)]) ++
    realm.usersPlan kc state passwords ++
    (if realm.spec.realmOverrides.isEmpty || state.realm.isSome then []
      else [.configureRealm realm "configure browser redirector"]) ++
    (if realm.spec.realm.groups.isSome then
      [.updateRealmGroups realm ("update realm groups " ++ realm.qualified)] else []) ++
    (if realm.spec.realm.userFederationProviders.isSome then
      [.updateRealm realm ("update realm " ++ realm.qualified)] else [])

end KeycloakRealm

end IdentityOperator
