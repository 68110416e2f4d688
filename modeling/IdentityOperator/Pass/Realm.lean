import IdentityOperator.Pass.Installation
import IdentityOperator.RealmDeclaration.Plan
import IdentityOperator.RealmDeclaration.Status

/-!
The pass over one declared realm: keep it in every installation that its selector matches, and
report.

While a declaration is being deleted its finalizer stays until the realm has been removed from every
installation that can still be used.
-/

namespace IdentityOperator.Pass

/-! ## Reading and planning -/

/-- Look up a secret that may be missing. -/
def findSecret (key : ObjectKey) : Pass (Option Secret) := do
  match ← attempt (clusterCall (.get .secret key)) with
  | .ok secret => pure (some secret)
  | .error e => if e.isAbsent then pure none else throw e

def readUserSecrets (realm : KeycloakRealm) (kc : Keycloak) :
    List Admin.User → Pass (List (String × Option Secret))
  | [] => pure []
  | user :: rest => do
    let secret ← findSecret (UserSecret.key realm user kc)
    let others ← readUserSecrets realm kc rest
    pure ((user.username, secret) :: others)

/-- Read what is there of a declared realm in an installation. -/
def readRealm (session : Session) (realm : KeycloakRealm) (kc : Keycloak) : Pass RealmSnapshot := do
  let found ← adminCall session (.getRealm realm.realmName)
  let userSecrets ← readUserSecrets realm kc realm.spec.realm.users
  pure { realm := found, userSecrets }

/-- A new password for each user who gets a secret and declares none himself. -/
def userPasswords (state : RealmSnapshot) : List Admin.User → Asking (List String)
  | [] => pure []
  | user :: rest => do
    let needed := !state.hasUserSecret user.username && user.password?.isNone
    let password ← passwordIf needed Password.userBytes
    let others ← userPasswords state rest
    pure (password :: others)

/-- Plan with new passwords where they are needed. To remove a realm takes none. -/
def planRealm (realm : KeycloakRealm) (kc : Keycloak) (state : RealmSnapshot) :
    Asking Plan := do
  let users := if realm.isTombstoned then [] else realm.spec.realm.users
  let passwords ← userPasswords state users
  pure (realm.plan kc (fun i => passwords.getD i "") state)

/-! ## Installations -/

/-- Keep the realm in one installation. Brings back the URL where its users log in. -/
def applyRealm (realm : KeycloakRealm) (kc : Keycloak) : Pass String := do
  let session ← login kc
  let state ← readRealm session realm kc
  let plan ← ExceptT.lift (planRealm realm kc state)
  applyPlan (some session) plan
  pure (loginUrlFor session.endpoint realm.realmName)

/-- Go through the installations up to one that has to be waited for or that fails. -/
def applyRealmTo (realm : KeycloakRealm) : (loginUrl : String) → List Keycloak → Pass RealmOutcome
  | loginUrl, [] => pure (.applied loginUrl)
  | loginUrl, kc :: rest =>
    match realm.instanceStep kc with
    | .skip => applyRealmTo realm loginUrl rest
    | .wait reason => pure (.waiting reason)
    | .apply => do
      let loginUrl ← applyRealm realm kc
      applyRealmTo realm loginUrl rest

/-- Keep the realm in all installations that its selector matches. -/
def convergeRealm (realm : KeycloakRealm) : Pass RealmOutcome := do
  let selector := realm.spec.instanceSelector.toLabelSelector
  let installations : List Keycloak ← clusterCall (.list .keycloak realm.ns selector)
  if installations.isEmpty && !realm.isTombstoned then
    pure (.waiting ("no Keycloak instance matches selector '" ++ selector ++ "'"))
  else applyRealmTo realm "" installations

/-! ## The whole pass -/

/-- Report the status after a pass. -/
def reportRealm (realm : KeycloakRealm) (outcome : RealmOutcome) (error : Option String) :
    Pass Unit := do
  let time ← now
  patchRealmStatus realm.metadata.key (realm.statusAfterPass outcome error time)

/-- Take the finalizer off, so that the declaration can go. -/
def removeFinalizer (realm : KeycloakRealm) : Pass Unit :=
  patchFinalizers realm.metadata.key realm.otherFinalizers

/-- Put the finalizer on, unless it is there. -/
def ensureFinalizer (realm : KeycloakRealm) : Pass Unit :=
  if realm.hasFinalizer then pure ()
  else patchFinalizers realm.metadata.key
    (realm.metadata.finalizerList ++ [KeycloakRealm.finalizer])

/-- A pass over an unmanaged declaration: it is only reported about, or let go. -/
def unmanagedRealm (realm : KeycloakRealm) : Pass Requeue := do
  if realm.isTombstoned then
    if realm.releasesStaleFinalizer then removeFinalizer realm
  else reportRealm realm (.waiting "realm is unmanaged") none
  pure .onChange

/-- What follows once the installations have been gone through. -/
def settleRealm (realm : KeycloakRealm) (outcome : RealmOutcome) : Pass Requeue :=
  match outcome with
  | .applied _ => do
    if realm.isTombstoned then
      removeFinalizer realm
      pure .onChange
    else
      reportRealm realm outcome none
      pure (.after 60)
  | .waiting _ => do
    reportRealm realm outcome none
    pure (.after 10)

/-- Keep the realm in the installations, and settle what came of it. A failure is reported as far as
that succeeds. -/
def keepRealm (declared : KeycloakRealm) : Pass Requeue := do
  match ← attempt (convergeRealm declared) with
  | .ok outcome => settleRealm declared outcome
  | .error e =>
    let _ ← attempt (reportRealm declared (.waiting "") (some e.message))
    throw e

def realm (declared : KeycloakRealm) : Pass Requeue :=
  if declared.spec.unmanaged then unmanagedRealm declared
  else if declared.isTombstoned then keepRealm declared
  else do
    ensureFinalizer declared
    keepRealm declared

end IdentityOperator.Pass
