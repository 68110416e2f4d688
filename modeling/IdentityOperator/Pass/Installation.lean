import IdentityOperator.Installation.Plan
import IdentityOperator.Installation.Status
import IdentityOperator.Pass.Execution

/-!
The pass over one installation: read what is there, plan, apply, and report.

An installation that someone else runs is only reported about; of an unmanaged one the plan is made
and not applied.
-/

namespace IdentityOperator

/-- When a pass is to be made again. -/
inductive Requeue where
  | after (seconds : Nat)
  | onChange
  deriving DecidableEq, Repr

/-! ## Reading -/

namespace Pass

/-- What a part of a pass ends with: the installation as it is known by then, also if it fails. -/
abbrev Tracked (α : Type) : Type := Keycloak × Except OperatorError α

/-- Read parts into a snapshot, up to the first call that fails for another reason than that there
is no such object. -/
def readParts (kc : Keycloak) (state : Snapshot) : List Part → Asking (Tracked Snapshot)
  | [] => pure (kc, .ok state)
  | part :: rest => do
    match ← ask (.cluster (.get part.kind (part.key kc))) with
    | .ok object =>
      let name := (part.kind.metadata object).nameAny
      let kc := if part.isTracked kc then kc.trackSecondary part.kind.name name else kc
      readParts kc (state.put part object) rest
    | .error e => if e.isAbsent then readParts kc state rest else pure (kc, .error e)

def installationFlags : Asking InstallationFlags := do
  let prometheusRule ← ask (.flag .prometheusRule)
  let serviceMonitor ← ask (.flag .serviceMonitor)
  let grafanaDashboard ← ask (.flag .grafanaDashboard)
  let route ← ask (.flag .route)
  pure { prometheusRule, serviceMonitor, grafanaDashboard, route }

def readSnapshot (kc : Keycloak) : Asking (Tracked Snapshot) := do
  let flags ← installationFlags
  readParts kc {} (Part.read kc flags)

/-! ## Planning and applying -/

/-- A new password, if there has to be one. -/
def passwordIf (needed : Bool) (bytes : Nat) : Asking String :=
  if needed then ask (.password bytes) else pure ""

/-- Plan with the flags of now and with new passwords where they are needed. -/
def planInstallation (profiles : Profiles) (kc : Keycloak) (state : Snapshot) :
    Asking Plan := do
  let flags ← installationFlags
  let admin ← passwordIf state.needsAdminPassword Password.userBytes
  let database ← passwordIf (state.needsDatabasePassword kc) Password.databaseBytes
  pure (installationPlan kc flags profiles ⟨admin, database⟩ state)

/-- Apply the plan for an installation, unless it is unmanaged. Tells whether it was applied. -/
def applyInstallation (kc : Keycloak) (plan : Plan) : Pass Bool :=
  if kc.spec.unmanaged then pure false
  else do
    applyPlan none plan
    pure true

/-- What a pass over an installation came to. -/
structure InstallationOutcome where
  ready : Bool
  externalUrl : String

def convergeInstallation (profiles : Profiles) (kc : Keycloak) :
    Asking (Tracked InstallationOutcome) :=
  if kc.spec.external.enabled then pure (kc, .ok ⟨true, kc.spec.external.url.getD ""⟩)
  else do
    let (kc, found) ← readSnapshot kc
    match found with
    | .error e => pure (kc, .error e)
    | .ok state =>
      let plan ← planInstallation profiles kc state
      match ← (applyInstallation kc plan).run with
      | .error e => pure (kc, .error e)
      | .ok _ =>
        let routeSupported ← ask (.flag .route)
        pure (kc, .ok ⟨state.isReady kc routeSupported, state.externalUrl⟩)

/-! ## The whole pass -/

/-- Report the status after a pass. -/
def reportInstallation (kc : Keycloak) (ready : Bool) (error : Option String)
    (externalUrl : String) : Pass Unit := do
  let time ← now
  patchKeycloakStatus kc.metadata.key (kc.statusAfterPass ready error externalUrl time)

/-- A pass over an installation. A failure is reported as far as that succeeds. -/
def installation (profiles : Profiles) (kc : Keycloak) : Pass Requeue :=
  ExceptT.mk do
    let (kc, result) ← convergeInstallation profiles kc
    match result with
    | .ok outcome =>
      match ← (reportInstallation kc outcome.ready none outcome.externalUrl).run with
      | .error e => pure (.error e)
      | .ok _ => pure (.ok (.after (if outcome.ready then 60 else 10)))
    | .error e =>
      let _ ← (reportInstallation kc false (some e.message) "").run
      pure (.error e)

end Pass

end IdentityOperator
