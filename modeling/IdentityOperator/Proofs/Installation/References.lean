import IdentityOperator.Proofs.Installation.Abandoned
import IdentityOperator.Proofs.Installation.Careful
import IdentityOperator.Proofs.Installation.Unserved

/-!
References from the pods of an installation to its secrets.

The server and the embedded database take their credentials from the two secrets of the installation by
references in the environment of their containers. Which keys they refer to, how secrets are completed
and how templates are written are separate rules; here they are put together. After a pass that
succeeds, whatever the pass has found, each reference leads to a value
(`Pass.secret_references_resolve`). A user may replace a variable of the server, but not by a reference
(`sublist_putVariable`).

A pass that succeeds has had no failed call, so that it has been a pass against a cluster that may not
serve every kind; and since the whole plan has been applied, everything wanted is served.
-/

namespace IdentityOperator

/-! ## References -/

/-- The reference to a secret that a variable takes its value from. -/
def EnvVar.secretReference? (v : EnvVar) : Option KeyReference := v.valueFrom.bind (·.secretKeyRef)

def Container.secretReferences (container : Container) : List KeyReference :=
  (container.env.getD []).filterMap EnvVar.secretReference?

/-- The references to secrets in the environment of any container of a pod, of those that run first
too. -/
def PodSpec.secretReferences (pod : PodSpec) : List KeyReference :=
  (pod.containers ++ pod.initContainers.getD []).flatMap Container.secretReferences

def PodTemplate.secretReferences (template : PodTemplate) : List KeyReference :=
  (template.spec.map PodSpec.secretReferences).getD []

/-- In a store, a reference from a namespace leads to a value that is not empty. -/
def Store.Resolves (store : Store) (ns : String) (reference : KeyReference) : Prop :=
  ∃ secret : Secret, store.find? .secret ⟨reference.name, ns⟩ = some secret ∧
    ∃ text, secret.value? reference.key = some text ∧ text ≠ ""

theorem Store.resolves_of_isSome {store : Store} {ns : String} {reference : KeyReference}
    {secret : Secret} (found : store.find? .secret ⟨reference.name, ns⟩ = some secret)
    (present : (secret.value? reference.key).isSome) : store.Resolves ns reference := by
  obtain ⟨text, value_eq⟩ := Option.isSome_iff_exists.1 present
  exact ⟨secret, found, text, value_eq, Secret.ne_empty_of_value? value_eq⟩

/-- An object refers to secrets from the namespace that it is found in. -/
theorem Store.resolves_from {store : Store} {kind : Kind} {key : ObjectKey} {x : kind.Object}
    {reference : KeyReference} (found : store.find? kind key = some x)
    (resolved : store.Resolves key.ns reference) :
    store.Resolves (kind.metadata x).namespaceOrDefault reference := by
  have same_ns : (kind.metadata x).namespaceOrDefault = key.ns :=
    congrArg ObjectKey.ns (Store.key_of_find? found)
  rwa [same_ns]

/-! ## The server -/

/-- The references among the variables that the operator sets. -/
def serverReferences (kc : Keycloak) : List KeyReference := [
  { name := DatabaseSecret.name, key := DatabaseSecret.usernameKey },
  { name := DatabaseSecret.name, key := DatabaseSecret.passwordKey },
  { name := AdminSecret.name kc, key := AdminSecret.usernameKey },
  { name := AdminSecret.name kc, key := AdminSecret.passwordKey }]

theorem filterMap_managedEnv (kc : Keycloak) (secret : Option Secret) :
    (managedEnv kc secret).filterMap EnvVar.secretReference? = serverReferences kc := rfl

/-- A variable that is no reference brings none with it, though it may replace one. -/
theorem sublist_putVariable {extra : EnvVar} (plain : extra.secretReference? = none)
    (env : List EnvVar) :
    ((putVariable extra env).filterMap EnvVar.secretReference?).Sublist
      (env.filterMap EnvVar.secretReference?) := by
  induction env with
  | nil => simp [putVariable, plain]
  | cons v rest ih =>
    unfold putVariable
    split
    · rw [List.filterMap_cons_none plain]
      exact (List.sublist_cons_self v rest).filterMap _
    · cases reference : v.secretReference? with
      | none =>
        rw [List.filterMap_cons_none reference, List.filterMap_cons_none reference]
        exact ih
      | some _ =>
        rw [List.filterMap_cons_some reference, List.filterMap_cons_some reference]
        exact ih.cons_cons _

theorem sublist_foldl_putVariable (declared : List UserVariable) (env : List EnvVar) :
    ((declared.foldl (fun env declared =>
      putVariable { name := declared.name, value := declared.value } env) env).filterMap
        EnvVar.secretReference?).Sublist (env.filterMap EnvVar.secretReference?) := by
  induction declared generalizing env with
  | nil => exact List.Sublist.refl _
  | cons declared rest ih => exact (ih _).trans (sublist_putVariable rfl env)

/-- Whatever variables are declared, the server refers to its secrets as the operator says. -/
theorem ServerStatefulSet.sublist_secretReferences (kc : Keycloak) (secret : Option Secret)
    (profiles : Profiles) :
    (template kc secret profiles).secretReferences.Sublist (serverReferences kc) := by
  have env_refers := sublist_foldl_putVariable kc.spec.podSettings.env (managedEnv kc secret)
  rw [filterMap_managedEnv] at env_refers
  have first_refer : ((initContainers kc profiles).getD []).flatMap Container.secretReferences =
      [] := by
    unfold initContainers
    split <;> rfl
  show ((container kc secret profiles :: (initContainers kc profiles).getD []).flatMap
    Container.secretReferences).Sublist _
  rw [List.flatMap_cons, first_refer, List.append_nil]
  exact env_refers

/-! ## The embedded database -/

/-- The references of the embedded database. -/
def databaseReferences : List KeyReference := [
  { name := DatabaseSecret.name, key := DatabaseSecret.usernameKey },
  { name := DatabaseSecret.name, key := DatabaseSecret.passwordKey },
  { name := DatabaseSecret.name, key := DatabaseSecret.databaseKey }]

theorem DatabaseDeployment.secretReferences_template :
    template.secretReferences = databaseReferences := rfl

/-! ## Templates after a pass -/

section Written

variable {b : Blueprint}

/-- A stateful set that has been written refers to the secrets as a new one does. -/
theorem ServerStatefulSet.exists_template_written (live : Option StatefulSet) :
    ∃ spec : StatefulSetSpec, StatefulSet.spec (Part.written b .statefulSet live) = some spec ∧
      spec.template = template b.kc b.databaseSecret b.profiles := by
  cases live with
  | none => exact ⟨_, rfl, rfl⟩
  | some current =>
    refine ⟨refreshedSpec b.kc b.databaseSecret b.profiles current.spec, rfl, ?_⟩
    cases current.spec <;> rfl

theorem DatabaseDeployment.exists_template_written (live : Option Deployment) :
    ∃ spec : DeploymentSpec, Deployment.spec (Part.written b .databaseDeployment live) = some spec ∧
      spec.template = template := by
  cases live with
  | none => exact ⟨_, rfl, rfl⟩
  | some current =>
    refine ⟨refreshedSpec current.spec, rfl, ?_⟩
    cases current.spec <;> rfl

end Written

namespace Pass

open Program (Run)

variable {served : Kind → Bool} {capabilities : Capabilities} {profiles : Profiles} {kc : Keycloak}
  {flags : InstallationFlags} {b : Blueprint} {before after : Store} {events : List PassEvent}

/-! ## Passes that succeed -/

/-- The cluster may not serve every kind, and a call may also fail for good; then it may have had its
effect all the same. -/
def Faulty (served : Kind → Bool) (capabilities : Capabilities) : PassEnvironment Store :=
  fun request before answer after =>
    Serving served capabilities request before answer after ∨
      request.FailsWith answer ∧
        (after = before ∨ ∃ lost, Serving served capabilities request before lost after)

/-- A plan that only writes objects fails with its first failed call, and needs no client. -/
theorem failFast_applyPlan_of_written {plan : Plan}
    (writes : ∀ action ∈ plan, action.written?.isSome) (session : Option Session) :
    FailFast (applyPlan session plan).run := by
  induction plan with
  | nil => trivial
  | cons action plan ih =>
    obtain ⟨here, later⟩ := List.forall_mem_cons.1 writes
    refine failFast_bind ?_ fun _ => ih later
    cases action with
    | create o msg => exact failFast_clusterCall fun _ => rfl
    | update o previous msg => exact failFast_clusterCall fun _ => rfl
    | _ => exact absurd here Bool.false_ne_true

/-- Where a plan has been applied, everything that it writes is of a kind that is served. -/
theorem served_of_run_applyPlan {session : Option Session} {plan : Plan}
    (run : Run (Serving served capabilities) (applyPlan session plan).run before events (.ok ())
      after) : ∀ o ∈ plan.filterMap Action.written?, served o.kind = true := by
  induction plan generalizing before events with
  | nil => simp
  | cons action plan ih =>
    obtain ⟨first, _, middle, second, rfl, first_run, rest⟩ := run_bind_ok_iff.1 run
    cases written : action.written? with
    | none =>
      rw [List.filterMap_cons_none written]
      exact ih rest
    | some o =>
      rw [List.filterMap_cons_some written]
      refine List.forall_mem_cons.2 ⟨?_, ih rest⟩
      cases is_served : served o.kind with
      | true => rfl
      | false =>
        obtain ⟨⟨text, impossible⟩, -⟩ := run_applyAction_refused written is_served first_run
        cases impossible

theorem failFast_applyInstallation {plan : Plan}
    (writes : ∀ action ∈ plan, action.written?.isSome) (kc : Keycloak) :
    FailFast (applyInstallation kc plan).run := by
  unfold applyInstallation
  split
  · trivial
  · exact failFast_bind (failFast_applyPlan_of_written writes none) fun _ => trivial

/-- In a pass that succeeds no call fails. -/
theorem clean_of_run_convergeInstallation {σ : Type} {env : PassEnvironment σ} {first last : σ}
    {result : Tracked InstallationOutcome} {outcome : InstallationOutcome}
    (internal : kc.spec.external.enabled = false)
    (run : Run env (convergeInstallation profiles kc) first events result last)
    (succeeds : result.2 = .ok outcome) : ∀ event ∈ events, ¬ PassEvent.Fails event := by
  rw [convergeInstallation_eq internal] at run
  obtain ⟨planning, ⟨tracked, planned⟩, middle, applying, rfl, plan_run, rest⟩ :=
    Program.run_bind_iff.1 run
  cases planned with
  | error e =>
    obtain ⟨-, rfl, -⟩ := Program.run_done_iff.1 rest
    cases succeeds
  | ok planned =>
    obtain ⟨state, plan⟩ := planned
    obtain ⟨flags, b, -, -, -, plan_eq⟩ :=
      (returns_readAndPlan profiles kc).of_run plan_run state plan rfl
    have writes : ∀ action ∈ plan, action.written?.isSome := by
      rw [plan_eq]
      intro action mem
      obtain ⟨part, -, rfl⟩ := List.mem_map.1 mem
      rw [Part.written?_action]
      rfl
    obtain ⟨applied, outcome, later, looked, rfl, apply_run, rest⟩ := Program.run_bind_iff.1 rest
    cases outcome with
    | error e =>
      obtain ⟨-, rfl, -⟩ := Program.run_done_iff.1 rest
      cases succeeds
    | ok _ =>
      obtain ⟨_, _, _, rfl, -, rest⟩ := run_ask_bind_iff.1 rest
      obtain ⟨rfl, -, -⟩ := Program.run_done_iff.1 rest
      refine List.forall_mem_append.2 ⟨clean_of_run_readAndPlan plan_run rfl, ?_⟩
      refine List.forall_mem_append.2
        ⟨(failFast_applyInstallation writes tracked).clean_of_ok apply_run, ?_⟩
      exact List.forall_mem_singleton.2 id

/-- A pass that succeeds has written everything that is wanted, so that all of it is served. -/
theorem served_of_run_convergeInstallation {result : Tracked InstallationOutcome}
    {outcome : InstallationOutcome} (managed : kc.spec.unmanaged = false)
    (internal : kc.spec.external.enabled = false)
    (run : Run (Serving served capabilities) (convergeInstallation profiles kc) before events result
      after) (succeeds : result.2 = .ok outcome) :
    ∀ part ∈ Part.wanted kc capabilities.installationFlags, served part.kind = true := by
  rw [convergeInstallation_eq internal] at run
  obtain ⟨_, _, middle, _, rfl, plan_run, rest⟩ := Program.run_bind_iff.1 run
  obtain ⟨b, state, planned, rfl, -, -⟩ := run_readAndPlan plan_run
  obtain ⟨_, applied, _, _, rfl, apply_run, rest⟩ := Program.run_bind_iff.1 rest
  have spec_eq : b.kc.spec = kc.spec := (congrArg Keycloak.spec planned.declared :)
  cases applied with
  | error e =>
    obtain ⟨-, rfl, -⟩ := Program.run_done_iff.1 rest
    cases succeeds
  | ok _ =>
    rw [applyInstallation, if_neg (by simp [spec_eq, managed])] at apply_run
    obtain ⟨_, _, _, _, -, plan_applied, -⟩ := run_bind_ok_iff.1 apply_run
    have kinds_served := served_of_run_applyPlan plan_applied
    rw [Blueprint.filterMap_written?] at kinds_served
    intro part wanted
    rw [← Part.wanted_congr planned.declared] at wanted
    exact kinds_served _ (List.mem_map_of_mem wanted)

/-- What a pass that succeeds makes of a store, whatever might have failed. -/
theorem exists_effect_of_succeeds {result : Tracked InstallationOutcome}
    {outcome : InstallationOutcome} (managed : kc.spec.unmanaged = false)
    (internal : kc.spec.external.enabled = false)
    (run : Run (Faulty served capabilities) (convergeInstallation profiles kc) before events result
      after) (succeeds : result.2 = .ok outcome) :
    ∃ b, Effect kc.declaration profiles capabilities.installationFlags b before after := by
  have clean := clean_of_run_convergeInstallation internal run succeeds
  have serving : Run (Serving served capabilities) (convergeInstallation profiles kc) before events
      result after :=
    run.of_answers clean fun _ _ _ _ passed answered =>
      answered.resolve_right fun failed => passed failed.1
  have are_served := served_of_run_convergeInstallation managed internal serving succeeds
  exact (run_convergeInstallation_served managed internal are_served serving).1

/-! ## References after a pass -/

/-- The references to the administrator's secret lead to what a pass has completed. -/
theorem Effect.resolves_adminSecret (effect : Effect kc profiles flags b before after) {key : String}
    (known : key = AdminSecret.usernameKey ∨ key = AdminSecret.passwordKey) :
    after.Resolves kc.ns { name := AdminSecret.name kc, key } := by
  have wanted : Part.adminSecret ∈ Part.wanted kc flags := Part.mem_wanted rfl
  have found := effect.found_eq wanted
  have complete := AdminSecret.complete_written effect.enough
  refine Store.resolves_of_isSome found ?_
  rcases known with rfl | rfl
  · exact complete.username
  · exact complete.password

/-- And those to the database secret do, if the database is the embedded one. -/
theorem Effect.resolves_databaseSecret (effect : Effect kc profiles flags b before after)
    (embedded : kc.spec.externalDatabase.enabled = false) {key : String}
    (known : key = DatabaseSecret.usernameKey ∨ key = DatabaseSecret.passwordKey ∨
      key = DatabaseSecret.databaseKey) :
    after.Resolves kc.ns { name := DatabaseSecret.name, key } := by
  have wanted : Part.databaseSecret ∈ Part.wanted kc flags := Part.mem_wanted rfl
  have found := effect.found_eq wanted
  have settled := DatabaseSecret.settled_written effect.enough
  rw [effect.kc_eq] at settled
  have complete := settled.2 embedded
  refine Store.resolves_of_isSome found ?_
  rcases known with rfl | rfl | rfl
  · exact complete.username
  · exact complete.password
  · exact complete.database

theorem Effect.resolves_serverReferences (effect : Effect kc profiles flags b before after)
    (embedded : kc.spec.externalDatabase.enabled = false) :
    ∀ reference ∈ serverReferences kc, after.Resolves kc.ns reference := by
  unfold serverReferences
  intro reference mem
  simp only [List.mem_cons, List.not_mem_nil, or_false] at mem
  rcases mem with rfl | rfl | rfl | rfl
  · exact effect.resolves_databaseSecret embedded (.inl rfl)
  · exact effect.resolves_databaseSecret embedded (.inr (.inl rfl))
  · exact effect.resolves_adminSecret (.inl rfl)
  · exact effect.resolves_adminSecret (.inr rfl)

theorem Effect.resolves_databaseReferences (effect : Effect kc profiles flags b before after)
    (embedded : kc.spec.externalDatabase.enabled = false) :
    ∀ reference ∈ databaseReferences, after.Resolves kc.ns reference := by
  unfold databaseReferences
  intro reference mem
  simp only [List.mem_cons, List.not_mem_nil, or_false] at mem
  rcases mem with rfl | rfl | rfl
  · exact effect.resolves_databaseSecret embedded (.inl rfl)
  · exact effect.resolves_databaseSecret embedded (.inr (.inl rfl))
  · exact effect.resolves_databaseSecret embedded (.inr (.inr rfl))

/-- After a pass that succeeds there is the stateful set of the server and the deployment of the
embedded database, and every reference to a secret in the environment of their containers leads to a
value in their own namespace. -/
theorem secret_references_resolve {result : Tracked InstallationOutcome}
    {outcome : InstallationOutcome} (managed : kc.spec.unmanaged = false)
    (internal : kc.spec.external.enabled = false)
    (embedded : kc.spec.externalDatabase.enabled = false)
    (run : Run (Faulty served capabilities) (convergeInstallation profiles kc) before events result
      after) (succeeds : result.2 = .ok outcome) :
    (∃ (server : StatefulSet) (spec : StatefulSetSpec),
      after.find? .statefulSet (ServerStatefulSet.key kc) = some server ∧ server.spec = some spec ∧
      ∀ reference ∈ spec.template.secretReferences,
        after.Resolves server.metadata.namespaceOrDefault reference) ∧
    ∃ (database : Deployment) (spec : DeploymentSpec),
      after.find? .deployment (DatabaseDeployment.key kc) = some database ∧
      database.spec = some spec ∧
      ∀ reference ∈ spec.template.secretReferences,
        after.Resolves database.metadata.namespaceOrDefault reference := by
  obtain ⟨b, effect⟩ := exists_effect_of_succeeds managed internal run succeeds
  constructor
  · have wanted : Part.statefulSet ∈ Part.wanted kc.declaration capabilities.installationFlags :=
      Part.mem_wanted rfl
    have found := effect.found_eq wanted
    obtain ⟨spec, spec_eq, template_eq⟩ := ServerStatefulSet.exists_template_written (b := b)
      ((Snapshot.ofStore kc.declaration before).found .statefulSet)
    refine ⟨_, spec, found, spec_eq, fun reference mem => ?_⟩
    rw [template_eq, effect.kc_eq] at mem
    have known := (ServerStatefulSet.sublist_secretReferences _ _ _).subset mem
    have resolved := effect.resolves_serverReferences embedded reference known
    exact Store.resolves_from found resolved
  · have wanted : Part.databaseDeployment ∈
        Part.wanted kc.declaration capabilities.installationFlags := by
      refine Part.mem_wanted ?_
      show (!kc.spec.externalDatabase.enabled) = true
      rw [embedded]
      rfl
    have found := effect.found_eq wanted
    obtain ⟨spec, spec_eq, template_eq⟩ := DatabaseDeployment.exists_template_written (b := b)
      ((Snapshot.ofStore kc.declaration before).found .databaseDeployment)
    refine ⟨_, spec, found, spec_eq, fun reference mem => ?_⟩
    rw [template_eq, DatabaseDeployment.secretReferences_template] at mem
    have resolved := effect.resolves_databaseReferences embedded reference mem
    exact Store.resolves_from found resolved

/-- An installation whose user names the administrator with a variable of his own. -/
def ownAdministrator : Keycloak where
  metadata := { name := some "sso" }
  spec := { podSettings := { env := [{ name := "KEYCLOAK_USER", value := some "me" }] } }

/-- What is left of it: a secret with an empty password, one with nothing in it, and pods that refer to
a secret that is not there. -/
def leftovers : Store := ⟨[
  ⟨.secret, ({ metadata := { name := some "credential-sso" }
               data := some (.ofList [("ADMIN_PASSWORD", [])])
               stringData := some (.ofList [("ADMIN_USERNAME", "root")]) } : Secret)⟩,
  ⟨.secret, ({ metadata := { name := some "keycloak-db-secret" } } : Secret)⟩,
  ⟨.statefulSet, ({ metadata := { name := some "keycloak" } } : StatefulSet)⟩,
  ⟨.deployment, ({ metadata := { name := some "keycloak-postgresql" }
                   spec := some { template := { spec := some { containers := [
                     { name := "keycloak-postgresql"
                       env := some [.ofSecret "POSTGRESQL_USER" "lost" "user"] }] } } } } :
    Deployment)⟩]⟩

/-- On a cluster without routes a pass succeeds over what is left, and then all references resolve. -/
theorem references_resolve_after_leftovers :
    ∃ events result after outcome,
      Run (Faulty (fun kind => decide (kind ≠ .route)) {}) (convergeInstallation {} ownAdministrator)
        leftovers events result after ∧
      result.2 = .ok outcome ∧
      (∃ (server : StatefulSet) (spec : StatefulSetSpec),
        after.find? .statefulSet ⟨"keycloak", "default"⟩ = some server ∧ server.spec = some spec ∧
        ∀ reference ∈ spec.template.secretReferences,
          after.Resolves server.metadata.namespaceOrDefault reference) ∧
      ∃ (database : Deployment) (spec : DeploymentSpec),
        after.find? .deployment ⟨"keycloak-postgresql", "default"⟩ = some database ∧
        database.spec = some spec ∧
        ∀ reference ∈ spec.template.secretReferences,
          after.Resolves database.metadata.namespaceOrDefault reference := by
  obtain ⟨events, result, after, serving⟩ := Program.exists_run
    (total_serving (fun kind => decide (kind ≠ .route)) {})
    (convergeInstallation {} ownAdministrator) leftovers
  obtain ⟨-, ⟨outcome, succeeds⟩, -⟩ :=
    run_convergeInstallation_served rfl rfl (by decide) serving
  have answered : ∀ event ∈ events, (fun _ : PassEvent => True) event := fun _ _ => trivial
  have run : Run (Faulty (fun kind => decide (kind ≠ .route)) {})
      (convergeInstallation {} ownAdministrator) leftovers events result after :=
    serving.of_answers answered fun _ _ _ _ _ => .inl
  obtain ⟨server, database⟩ := secret_references_resolve rfl rfl rfl run succeeds
  exact ⟨events, result, after, outcome, run, succeeds, server, database⟩

end Pass

end IdentityOperator
