import IdentityOperator.Proofs.ConditionHistory
import IdentityOperator.Proofs.Installation.Reading
import IdentityOperator.RealmDeclaration.Status

/-!
What the fields of a status say together.

A status says in several places how a pass went: in its phase, in its message, in a flag, and in two
conditions. Each is computed by itself from the same few inputs, and they agree for all of them
(`Status.Coherent`), also where a pass is said to have failed and to have made everything ready. What a
failed pass does not know is left as it was, so what a pass over an installation reports about its
failure remembers what has been reported before (`KeycloakStatus.Remembers`).
-/

namespace IdentityOperator

namespace Condition

/-- There is one condition of a type, and it has such a status. -/
def Says (conditions : List Condition) (conditionType status : String) : Prop :=
  ∃ c, conditions.filter (·.conditionType = conditionType) = [c] ∧ c.status = status

/-- After a pass the conditions say what the pass says, whatever they have said before. -/
theorem says_afterPass_iff {previous : List Condition}
    (distinct : (previous.map (·.conditionType)).Nodup) (pass : PassReport) (aspect : PassAspect)
    (status : String) :
    Says (afterPass previous pass.ready pass.error pass.now) aspect.conditionType status ↔
      (pass.condition aspect).status = status := by
  have found := ofType_afterPasses_concat previous [] pass aspect
  have only_one := filter_of_ofType (nodup_afterPasses distinct [pass]) found
  have status_eq : ∀ old : Option Condition, (old.elim (pass.condition aspect)
      (renew · (pass.condition aspect))).status = (pass.condition aspect).status := by
    intro old
    cases old with
    | none => rfl
    | some old => exact status_renew _ _
  constructor
  · rintro ⟨c, only_c, rfl⟩
    rw [← (List.cons.inj (only_one.symm.trans only_c)).1, status_eq]
  · rintro rfl
    exact ⟨_, only_one, status_eq _⟩

end Condition

theorem PassReport.status_readiness (pass : PassReport) :
    (pass.condition .readiness).status =
      if pass.error.isSome then "Unknown" else if pass.ready then "True" else "False" := by
  show (Condition.ofReadiness pass.ready pass.error pass.now).status = _
  unfold Condition.ofReadiness
  split
  · rfl
  · split <;> rfl

theorem PassReport.status_outcome (pass : PassReport) :
    (pass.condition .outcome).status = if pass.error.isSome then "False" else "True" := by
  obtain ⟨ready, error, now⟩ := pass
  cases error <;> rfl

/-! ## Statuses -/

/-- The fields of a status that say how a pass went agree with each other and with its error. -/
structure Status.Coherent (error : Option String) (phase : Phase) (message : String) (ready : Bool)
    (conditions : List Condition) : Prop where
  ready_iff : ready = true ↔ Condition.Says conditions "Ready" "True"
  reconciling_iff : ready = true ↔ phase = .reconciling
  failing_iff : phase = .failing ↔ error.isSome
  not_reconciled_iff : Condition.Says conditions "Reconciled" "False" ↔ error.isSome
  of_error : ∀ text, error = some text → Condition.Says conditions "Ready" "Unknown" ∧ message = text
  initialising_iff : phase = .initialising ↔ Condition.Says conditions "Ready" "False"

/-- The phase goes with the conditions, and the message if there is an error. -/
theorem Status.coherent_afterPass {previous : List Condition}
    (distinct : (previous.map (·.conditionType)).Nodup) (pass : PassReport) {message : String}
    (message_eq : ∀ text, pass.error = some text → message = text) :
    Coherent pass.error (Keycloak.phaseAfterPass pass.ready pass.error).1 message
      (pass.ready && pass.error.isNone)
      (Condition.afterPass previous pass.ready pass.error pass.now) := by
  have readiness : ∀ status, Condition.Says
      (Condition.afterPass previous pass.ready pass.error pass.now) "Ready" status ↔ _ :=
    fun status => pass.status_readiness ▸
      Condition.says_afterPass_iff distinct pass .readiness status
  have outcome : ∀ status, Condition.Says
      (Condition.afterPass previous pass.ready pass.error pass.now) "Reconciled" status ↔ _ :=
    fun status => pass.status_outcome ▸ Condition.says_afterPass_iff distinct pass .outcome status
  obtain ⟨ready, error, now⟩ := pass
  cases error with
  | some text =>
    -- Whether a failed pass has been ready makes no difference.
    obtain rfl := message_eq text rfl
    constructor <;> simp [readiness, outcome, Keycloak.phaseAfterPass]
  | none =>
    cases ready with
    | true => constructor <;> simp [readiness, outcome, Keycloak.phaseAfterPass]
    | false => constructor <;> simp [readiness, outcome, Keycloak.phaseAfterPass]

theorem Keycloak.coherent_statusAfterPass {kc : Keycloak}
    (distinct : (kc.statusOrDefault.conditions.map (·.conditionType)).Nodup) (ready : Bool)
    (error : Option String) (externalUrl now : String) :
    let status := kc.statusAfterPass ready error externalUrl now
    Status.Coherent error status.phase status.message status.ready status.conditions := by
  have message_eq : ∀ text, error = some text → (phaseAfterPass ready error).2 = text := by
    rintro text rfl
    rfl
  exact Status.coherent_afterPass distinct ⟨ready, error, now⟩ message_eq

theorem KeycloakRealm.coherent_statusAfterPass {realm : KeycloakRealm}
    (distinct : ((realm.status.getD {}).conditions.map (·.conditionType)).Nodup)
    (outcome : RealmOutcome) (error : Option String) (now : String) :
    let status := realm.statusAfterPass outcome error now
    Status.Coherent error status.phase status.message status.ready status.conditions := by
  have message_eq : ∀ text, error = some text →
      (realm.statusAfterPass outcome error now).message = text := by
    rintro text rfl
    rfl
  cases outcome with
  | applied loginUrl =>
    cases error <;> exact Status.coherent_afterPass distinct ⟨true, _, now⟩ message_eq
  | waiting reason =>
    cases error <;> exact Status.coherent_afterPass distinct ⟨false, _, now⟩ message_eq

/-! ## Failed passes -/

/-- Nothing of an earlier status is forgotten that a later pass may not know. -/
structure KeycloakStatus.Remembers (status earlier : KeycloakStatus) : Prop where
  version_eq : status.version = earlier.version
  externalUrl_eq : status.externalUrl = earlier.externalUrl
  exists_names : ∀ kind names, earlier.secondaryResources.get? kind = some names →
    ∃ more, status.secondaryResources.get? kind = some (names ++ more)

/-- To note an object adds at most its name. -/
theorem KeycloakStatus.Remembers.trackSecondary {earlier : KeycloakStatus} {kc : Keycloak}
    (remembers : kc.statusOrDefault.Remembers earlier) (kind name : String) :
    (kc.trackSecondary kind name).statusOrDefault.Remembers earlier where
  version_eq := remembers.version_eq
  externalUrl_eq := remembers.externalUrl_eq
  exists_names other names noted := by
    obtain ⟨more, still_noted⟩ := remembers.exists_names other names noted
    rw [Keycloak.get?_trackSecondary]
    split
    · next same =>
      subst same
      rw [still_noted, Option.getD_some, withNames, List.append_assoc]
      exact ⟨_, rfl⟩
    · exact ⟨more, still_noted⟩

namespace Pass

open Program (Run)

variable {σ : Type} {env : PassEnvironment σ} {before after : σ} {events : List PassEvent}
  {profiles : Profiles} {kc : Keycloak}

theorem remembers_of_run {result : Tracked InstallationOutcome}
    (run : Run env (convergeInstallation profiles kc) before events result after) :
    result.1.statusOrDefault.Remembers kc.statusOrDefault := by
  have start : kc.statusOrDefault.Remembers kc.statusOrDefault :=
    ⟨rfl, rfl, fun _ _ noted => ⟨[], by simpa using noted⟩⟩
  have remembering := returns_convergeInstallation_of_known
    (·.statusOrDefault.Remembers kc.statusOrDefault) profiles start
    fun _ kind name remembers => remembers.trackSecondary kind name
  exact remembering.of_run run

/-- The fields of every status agree, that of an installation and that of a declared realm, whatever
conditions there have been before, none of them twice. After a failure the fields that the pass does not
know are as they were, and a pass over an installation that fails reports so: of what has been reported
before it forgets nothing. -/
theorem statuses_are_coherent :
    (∀ (kc : Keycloak) (ready : Bool) (error : Option String) (externalUrl now : String),
      (kc.statusOrDefault.conditions.map (·.conditionType)).Nodup →
      let status := kc.statusAfterPass ready error externalUrl now
      Status.Coherent error status.phase status.message status.ready status.conditions ∧
      status.observedGeneration = kc.metadata.generation ∧
      (error.isSome → externalUrl = "" →
        status.secondaryResources = kc.statusOrDefault.secondaryResources ∧
        status.version = kc.statusOrDefault.version ∧
        status.externalUrl = kc.statusOrDefault.externalUrl)) ∧
    (∀ (realm : KeycloakRealm) (outcome : RealmOutcome) (error : Option String) (now : String),
      ((realm.status.getD {}).conditions.map (·.conditionType)).Nodup →
      let status := realm.statusAfterPass outcome error now
      Status.Coherent error status.phase status.message status.ready status.conditions ∧
      status.observedGeneration = realm.metadata.generation ∧
      (error.isSome → status.loginUrl = (realm.status.getD {}).loginUrl)) ∧
    ∀ (σ : Type) (env : PassEnvironment σ) (profiles : Profiles) (kc : Keycloak) before events result
      after, Run env (installation profiles kc).run before events result after →
      ∃ converging tracked outcome middle time status told,
        Run env (convergeInstallation profiles kc) before converging (tracked, outcome) middle ∧
        events = converging ++ [⟨.now, time⟩,
          ⟨.patchKeycloakStatus kc.metadata.key status, told⟩] ∧
        result = outcome.bind (fun made =>
          told.map fun _ => .after (if made.ready then 60 else 10)) ∧
        ∀ e, outcome = .error e →
          status = tracked.statusAfterPass false (some e.message) "" time ∧
          status.Remembers kc.statusOrDefault := by
  refine ⟨fun kc ready error externalUrl now distinct => ?_,
    fun realm outcome error now distinct => ?_,
    fun σ env profiles kc before events result after run => ?_⟩
  · refine ⟨kc.coherent_statusAfterPass distinct ready error externalUrl now, rfl, ?_⟩
    rintro - rfl
    exact ⟨rfl, rfl, rfl⟩
  · refine ⟨realm.coherent_statusAfterPass distinct outcome error now, rfl, fun failed => ?_⟩
    obtain ⟨text, rfl⟩ := Option.isSome_iff_exists.1 failed
    rfl
  · obtain ⟨converging, tracked, outcome, middle, time, later, told, tracks, rfl, result_eq,
      converge_run, -, -⟩ := run_installation run
    refine ⟨converging, tracked, outcome, middle, time, statusAfter tracked outcome time, told,
      converge_run, by rw [tracks.metadata_eq], result_eq, ?_⟩
    rintro e rfl
    obtain ⟨version_eq, externalUrl_eq, exists_names⟩ := remembers_of_run converge_run
    exact ⟨rfl, version_eq, externalUrl_eq, exists_names⟩

/-- An installation and a declared realm that are said to be ready although the pass failed: both
statuses say that it failed and keep the URL, and so does what is reported when no secret can be looked
up. -/
theorem failed_statuses_keep_urls :
    ∃ (kc : Keycloak) (realm : KeycloakRealm) (events : List PassEvent)
      (result : Except OperatorError Requeue) (status : KeycloakStatus)
      (told : (PassRequest.patchKeycloakStatus kc.metadata.key status).Answer),
      Condition.Says (kc.statusAfterPass true (some "conflict") "" "09:00").conditions "Ready"
        "Unknown" ∧
      (kc.statusAfterPass true (some "conflict") "" "09:00").externalUrl =
        "https://sso.example.org" ∧
      Condition.Says (realm.statusAfterPass (.applied "https://elsewhere") (some "conflict")
        "09:00").conditions "Ready" "Unknown" ∧
      (realm.statusAfterPass (.applied "https://elsewhere") (some "conflict") "09:00").loginUrl =
        "https://sso.example.org/auth/realms/basic/account" ∧
      Run (Refusing .secret {}) (installation {} kc).run {} events result {} ∧
      ⟨.patchKeycloakStatus kc.metadata.key status, told⟩ ∈ events ∧
      status.phase = .failing ∧ status.externalUrl = "https://sso.example.org" := by
  let conditions : List Condition :=
    [⟨"Ready", "True", some "08:00", none, none⟩, ⟨"Backup", "True", none, none, none⟩]
  let kc : Keycloak :=
    { status := some { ready := true, externalUrl := "https://sso.example.org", conditions } }
  let realm : KeycloakRealm :=
    { spec := { realm := { realm := "basic" } }
      status := some
        { loginUrl := "https://sso.example.org/auth/realms/basic/account", conditions } }
  have distinct : (conditions.map (·.conditionType)).Nodup := by decide
  obtain ⟨of_installation, of_realm, of_run⟩ := statuses_are_coherent
  obtain ⟨coherent, -, forgets_nothing⟩ :=
    of_installation kc true (some "conflict") "" "09:00" distinct
  obtain ⟨-, -, url_kept⟩ := forgets_nothing rfl rfl
  obtain ⟨realm_coherent, -, login_kept⟩ :=
    of_realm realm (.applied "https://elsewhere") (some "conflict") "09:00" distinct
  let serve := serveRefusing .secret {}
  have run : Run (Refusing .secret {}) (installation {} kc).run {}
      ((installation {} kc).run.transcript serve {}) (.error (.kubeApi "timeout")) {} :=
    Program.run_transcript (refusing_serveRefusing .secret {}) _ _
  obtain ⟨converging, tracked, outcome, _, time, status, told, -, events_eq, result_eq, failed⟩ :=
    of_run _ _ _ _ _ _ _ _ run
  have reported : ⟨.patchKeycloakStatus kc.metadata.key status, told⟩ ∈
      (installation {} kc).run.transcript serve {} := by
    rw [events_eq]
    simp
  -- The report itself is accepted, so it is the pass that has failed.
  obtain ⟨_, _, answered⟩ := run.exists_answered _ reported
  have accepted : told = .ok () := congrArg Prod.fst answered
  obtain ⟨e, rfl⟩ : ∃ e, outcome = .error e := by
    cases outcome with
    | error e => exact ⟨e, rfl⟩
    | ok made =>
      rw [accepted] at result_eq
      cases result_eq
  obtain ⟨rfl, remembers⟩ := failed e rfl
  exact ⟨kc, realm, _, _, _, told, (coherent.of_error _ rfl).1, url_kept,
    (realm_coherent.of_error _ rfl).1, login_kept rfl, run, reported, rfl, remembers.externalUrl_eq⟩

end Pass

end IdentityOperator
