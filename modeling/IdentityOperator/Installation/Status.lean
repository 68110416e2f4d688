import IdentityOperator.Condition
import IdentityOperator.Error
import IdentityOperator.Installation.Credentials

/-!
The status that is reported about an installation after a pass, and what clients find in it.
-/

namespace IdentityOperator

namespace Keycloak

/-- The URL of the installation inside the cluster, or of the one that someone else runs. -/
def internalUrlOf (kc : Keycloak) : String :=
  if kc.spec.external.enabled then kc.spec.external.url.getD ""
  else "https://" ++ applicationName ++ "." ++ kc.ns ++ ".svc:" ++ Integer.ofInt32 httpsPort

/-- The phase after a pass, with the message that goes with it. -/
def phaseAfterPass (ready : Bool) (error : Option String) : Phase × String :=
  match error with
  | some message => (.failing, message)
  | none =>
    if ready then (.reconciling, "")
    else (.initialising, "waiting for resources to become ready")

/-- The status after a pass. What the pass does not know stays as it was. -/
def statusAfterPass (kc : Keycloak) (ready : Bool) (error : Option String) (externalUrl : String)
    (now : String) : KeycloakStatus :=
  let previous := kc.statusOrDefault
  let (phase, message) := phaseAfterPass ready error
  { phase, message
    ready := ready && error.isNone
    secondaryResources := previous.secondaryResources
    version := previous.version
    internalUrl := kc.internalUrlOf
    externalUrl := if externalUrl = "" then previous.externalUrl else externalUrl
    credentialSecret := AdminSecret.name kc
    conditions := Condition.afterPass previous.conditions ready error now
    observedGeneration := kc.metadata.generation
    lastUpdated := some now }

/-- Where a client finds the installation, and the name of the secret with its credentials. -/
def target (kc : Keycloak) : Except OperatorError (String × String) :=
  let secret := AdminSecret.name kc
  if kc.spec.external.enabled then
    match nonEmpty? kc.spec.external.url with
    | some url => .ok (url, secret)
    | none => .error (.configuration ("external Keycloak " ++ kc.name ++ " has no url"))
  else
    let status := kc.statusOrDefault
    if status.internalUrl = "" then
      .error (.invalidState ("Keycloak " ++ kc.name ++ " has no internal URL yet"))
    else
      .ok (status.internalUrl, if status.credentialSecret = "" then secret
        else status.credentialSecret)

/-- The failure to look up the secret with the credentials. -/
def credentialsError (cause : OperatorError) : OperatorError :=
  .configuration ("failed to get the admin credentials: " ++ cause.message)

/-- Why the installation cannot be used now; none if it can. -/
def unusableReason? (kc : Keycloak) : Option String :=
  if kc.spec.external.enabled || kc.status.any (·.ready) then none
  else some ("Keycloak " ++ kc.name ++ " is not ready")

end Keycloak

end IdentityOperator
