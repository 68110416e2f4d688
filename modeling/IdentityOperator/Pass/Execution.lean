import IdentityOperator.Action
import IdentityOperator.Pass.Request

/-!
Applying a plan: its actions one after the other, up to the first that fails.
-/

namespace IdentityOperator.Pass

/-- The client of a pass, which an action on the admin API needs. -/
def needSession (action : Action) : Option Session → Pass Session
  | some session => pure session
  | none => throw (.reconciliation
      (action.summary ++ " needs a Keycloak client but none is attached"))

/-- Set the redirections of a realm one after the other. -/
def configureRedirectors (session : Session) (realm : String) : List RedirectorOverride → Pass Unit
  | [] => pure ()
  | redirect :: rest => do
    let _ ← adminCall session (.configureRedirector realm redirect)
    configureRedirectors session realm rest

def applyAction (session : Option Session) : Action → Pass Unit
  | .create object _ => clusterCall (.create object)
  | .update object _ _ => clusterCall (.update object)
  | .delete object _ => clusterCall (.delete object)
  | action@(.ping _) => do
    let session ← needSession action session
    adminCall session .ping
  | action@(.createRealm realm _) => do
    let session ← needSession action session
    let _ ← adminCall session (.createRealm realm.spec.realm)
  | action@(.deleteRealm realm _) => do
    let session ← needSession action session
    adminCall session (.deleteRealm realm.realmName)
  | action@(.configureRealm realm _) => do
    let session ← needSession action session
    configureRedirectors session realm.realmName realm.spec.realmOverrides
  | action@(.updateRealmGroups realm _) => do
    let session ← needSession action session
    adminCall session (.updateRealmGroups realm.spec.realm)
  | action@(.updateRealm realm _) => do
    let session ← needSession action session
    adminCall session (.updateRealm realm.spec.realm)

def applyPlan (session : Option Session) : Plan → Pass Unit
  | [] => pure ()
  | action :: rest => do
    applyAction session action
    applyPlan session rest

end IdentityOperator.Pass
