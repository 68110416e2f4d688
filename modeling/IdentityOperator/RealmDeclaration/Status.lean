import IdentityOperator.Condition
import IdentityOperator.Installation.Status
import IdentityOperator.Resource.KeycloakRealm
import IdentityOperator.Text.Blank

/-!
What a pass over a declared realm comes to, what is done with each installation, and the status that
is reported.
-/

namespace IdentityOperator

/-- What a pass over a declared realm came to. -/
inductive RealmOutcome where
  /-- The plan was applied everywhere; the URL is where users log in. -/
  | applied (loginUrl : String)
  /-- Something is not ready yet. -/
  | waiting (reason : String)
  deriving DecidableEq, Repr

/-- What a pass over a declared realm does with an installation. -/
inductive InstanceStep where
  | apply
  | skip
  | wait (reason : String)
  deriving DecidableEq, Repr

/-- The URL where users of a realm log in. -/
def loginUrlFor (endpoint realm : String) : String :=
  Blank.dropRight '/' endpoint ++ "/auth/realms/" ++ realm ++ "/account"

namespace KeycloakRealm

/-- The finalizer that keeps a declaration until its realm has been removed. -/
def finalizer : String := "keycloak.org/realm-cleanup"

/-- Whether the declaration carries the finalizer. -/
def hasFinalizer (realm : KeycloakRealm) : Bool := realm.metadata.finalizerList.contains finalizer

def otherFinalizers (realm : KeycloakRealm) : List String :=
  realm.metadata.finalizerList.filter (· ≠ finalizer)

/-- Whether an unmanaged declaration that is being deleted still waits for the operator. -/
def releasesStaleFinalizer (realm : KeycloakRealm) : Bool :=
  realm.isTombstoned && realm.hasFinalizer

/-- What to do with an installation: an unusable one is waited for, unless realm and installation
are both being deleted. -/
def instanceStep (realm : KeycloakRealm) (kc : Keycloak) : InstanceStep :=
  match kc.unusableReason? with
  | none => .apply
  | some reason =>
    if realm.isTombstoned && kc.metadata.isDeleting then .skip else .wait reason

def statusAfterPass (realm : KeycloakRealm) (outcome : RealmOutcome) (error : Option String)
    (now : String) : KeycloakRealmStatus :=
  let previous : KeycloakRealmStatus := realm.status.getD {}
  let ready := match outcome with
    | .applied _ => true
    | .waiting _ => false
  let (phase, message, loginUrl) : Phase × String × String := match error, outcome with
    | some message, _ => (.failing, message, previous.loginUrl)
    | none, .applied loginUrl => (.reconciling, "", loginUrl)
    | none, .waiting reason => (.initialising, reason, previous.loginUrl)
  { phase, message
    ready := ready && error.isNone
    loginUrl
    conditions := Condition.afterPass previous.conditions ready error now
    observedGeneration := realm.metadata.generation
    lastUpdated := some now }

end KeycloakRealm

end IdentityOperator
