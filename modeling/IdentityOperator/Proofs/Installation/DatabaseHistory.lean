import IdentityOperator.Proofs.Installation.Clients
import IdentityOperator.Proofs.Installation.Connection

/-!
The embedded database after a history of edits.

Between passes a declaration may be edited, and the database be moved from the embedded one to an
external one and back. The database secret outlasts such edits, and what it says of the database is what
the declarations of all passes have said, one on top of the other (`Pass.Edits.connection_eq`). The
server of an embedded database is told its own service for a host, whatever the secret says, and the
name of the database from the secret, which is also where the database itself takes it from; but it is
told the port of the secret too, even if this is one of an external database
(`Pass.embedded_database_after_edits`).
-/

namespace IdentityOperator

/-- Whether a pass over an installation may write objects. -/
def Keycloak.isApplied (kc : Keycloak) : Bool := !kc.spec.unmanaged && !kc.spec.external.enabled

/-- What is known of a database from the declarations of passes, of which the last one is in front. -/
def knownConnection : List Keycloak → Connection
  | [] => DatabaseSecret.connection none
  | kc :: earlier =>
    if kc.isApplied then kc.spec.externalDatabase.over (knownConnection earlier)
    else knownConnection earlier

/-- The containers of the pods of a deployment. -/
def Deployment.containers (deployment : Deployment) : List Container :=
  ((deployment.spec.bind (·.template.spec)).map (·.containers)).getD []

/-- There is an embedded database of that name behind a port of a service. -/
structure Store.RunsDatabase (store : Store) (kc : Keycloak) (service : Service) (port : ServicePort)
    (database : String) : Prop where
  service_found : store.find? .service (DatabaseService.key kc) = some service
  one_port : service.spec.bind (·.ports) = some [port]
  secret_names : ∃ secret : Secret, store.find? .secret (DatabaseSecret.key kc) = some secret ∧
    secret.value? DatabaseSecret.databaseKey = some database
  /-- The database is created with the name in the secret. -/
  takes_name : ∃ (deployment : Deployment) (container : Container),
    store.find? .deployment (DatabaseDeployment.key kc) = some deployment ∧
    deployment.containers = [container] ∧
    container.Sets (.ofSecret "POSTGRESQL_DATABASE" DatabaseSecret.name DatabaseSecret.databaseKey)

/-- The server is run in a container. -/
def Store.RunsServer (store : Store) (kc : Keycloak) (container : Container) : Prop :=
  ∃ server : StatefulSet, store.find? .statefulSet (ServerStatefulSet.key kc) = some server ∧
    server.containers = [container]

namespace Pass

open Program (Run)

variable {capabilities : Capabilities} {profiles : Profiles} {flags : InstallationFlags}
  {kc : Keycloak} {b : Blueprint} {before after store : Store} {events : List PassEvent}
  {requeue : Requeue} {place : ObjectKey} {earlier declared : List Keycloak}

/-- Passes over one installation with what has been declared for each of them, the last one in front.
All of them have succeeded, and nothing was there before the first one. -/
inductive Edits (place : ObjectKey) : List Keycloak → Store → Prop
  | start : Edits place [] {}
  | pass {earlier : List Keycloak} {before after : Store} {kc : Keycloak}
    {capabilities : Capabilities} {profiles : Profiles} {events : List PassEvent}
    {requeue : Requeue} :
    Edits place earlier before → kc.metadata.key = place →
    Run (Reliable capabilities) (installation profiles kc).run before events (.ok requeue) after →
    Edits place (kc :: earlier) after

/-! ## One pass -/

/-- The plan for an unmanaged installation is made and not applied. -/
theorem unchanged_of_unmanaged {result : Tracked InstallationOutcome}
    (unmanaged : kc.spec.unmanaged = true) (internal : kc.spec.external.enabled = false)
    (run : Run (Reliable capabilities) (convergeInstallation profiles kc) before events result
      after) : after = before := by
  rw [← serving_all, convergeInstallation_eq internal] at run
  obtain ⟨_, _, middle, _, rfl, plan_run, rest⟩ := Program.run_bind_iff.1 run
  obtain ⟨b, state, planned, rfl, rfl, -⟩ := run_readAndPlan plan_run
  have spec_eq : b.kc.spec = kc.spec := (congrArg Keycloak.spec planned.declared :)
  obtain ⟨_, applied, last, _, rfl, apply_run, rest₂⟩ := Program.run_bind_iff.1 rest
  rw [applyInstallation, if_pos (by rw [spec_eq, unmanaged])] at apply_run
  obtain ⟨rfl, rfl, rfl⟩ := run_pure_iff.1 apply_run
  obtain ⟨_, _, _, rfl, ⟨rfl, rfl⟩, rest₃⟩ := run_ask_bind_iff.1 rest₂
  obtain ⟨-, -, rfl⟩ := Program.run_done_iff.1 rest₃
  rfl

/-- A pass that succeeds has brought the objects in line, or it has left the store alone. -/
theorem effect_or_unchanged
    (run : Run (Reliable capabilities) (installation profiles kc).run before events (.ok requeue)
      after) :
    if kc.isApplied then
      ∃ b, Effect kc.declaration profiles capabilities.installationFlags b before after
    else after = before := by
  obtain ⟨converging, tracked, outcome, middle, time, later, status, -, -, rfl, converge_run,
    ⟨-, rfl⟩, rfl⟩ := run_installation_ok run
  cases external : kc.spec.external.enabled with
  | true =>
    rw [if_neg (by simp [Keycloak.isApplied, external])]
    rw [convergeInstallation, if_pos external] at converge_run
    exact (Program.run_done_iff.1 converge_run).2.2
  | false =>
    cases unmanaged : kc.spec.unmanaged with
    | true =>
      rw [if_neg (by simp [Keycloak.isApplied, unmanaged])]
      exact unchanged_of_unmanaged unmanaged external converge_run
    | false =>
      rw [if_pos (by simp [Keycloak.isApplied, unmanaged, external])]
      exact (run_convergeInstallation unmanaged external converge_run).1

/-- What is declared is added to what the database secret has said. -/
theorem Effect.connection_eq (effect : Effect kc.declaration profiles flags b before after) :
    DatabaseSecret.connection (after.find? .secret (DatabaseSecret.key kc)) =
      kc.spec.externalDatabase.over
        (DatabaseSecret.connection (before.find? .secret (DatabaseSecret.key kc))) := by
  have same : kc.declaration = kc.declaration.declaration := rfl
  have found := effect.find?_eq same .databaseSecret rfl
  refine (congrArg DatabaseSecret.connection found).trans ?_
  refine (DatabaseSecret.connection_written _).trans ?_
  rw [effect.kc_eq]
  rfl

/-! ## Many passes -/

/-- The database secret says what the declarations have said, one on top of the other. -/
theorem Edits.connection_eq (edits : Edits place declared store) :
    DatabaseSecret.connection (store.find? .secret ⟨DatabaseSecret.name, place.ns⟩) =
      knownConnection declared := by
  induction edits with
  | start => rfl
  | @pass earlier before after kc capabilities profiles events requeue edits kc_place run ih =>
    have key_eq : DatabaseSecret.key kc = ⟨DatabaseSecret.name, place.ns⟩ :=
      congrArg (ObjectKey.mk DatabaseSecret.name) (congrArg ObjectKey.ns kc_place)
    have step := effect_or_unchanged run
    rw [knownConnection]
    split
    · next applied =>
      rw [if_pos applied] at step
      obtain ⟨b, effect⟩ := step
      rw [← ih, ← key_eq]
      exact effect.connection_eq
    · next not_applied =>
      rw [if_neg not_applied] at step
      rw [step, ih]

/-! ## The embedded database -/

theorem DatabaseDeployment.containers_written {b : Blueprint} (live : Option Deployment) :
    Deployment.containers (Part.written b .databaseDeployment live) =
      [DatabaseDeployment.container] := by
  obtain ⟨spec, spec_eq, template_eq⟩ := DatabaseDeployment.exists_template_written (b := b) live
  unfold Deployment.containers
  rw [spec_eq, Option.bind_some, template_eq]
  rfl

theorem DatabaseService.ports_written {b : Blueprint} (live : Option Service) :
    (Service.spec (Part.written b .databaseService live)).bind (·.ports) =
      some DatabaseService.ports := by
  cases live <;> rfl

/-- A pass sets up the embedded database, under the name that has been known before. -/
theorem Effect.runsDatabase (effect : Effect kc.declaration profiles flags b before after)
    (embedded : kc.spec.externalDatabase.enabled = false) :
    ∃ service port, port.port = defaultDatabasePort ∧
      service.metadata.nameAny = databaseServiceName ∧
      service.metadata.namespaceOrDefault = kc.ns ∧
      after.RunsDatabase kc service port
        (DatabaseSecret.connection (before.find? .secret (DatabaseSecret.key kc))).database := by
  have same : kc.declaration = kc.declaration.declaration := rfl
  have wanted : (!kc.spec.externalDatabase.enabled) = true := by
    rw [embedded]
    rfl
  have service_found := effect.find?_eq same .databaseService wanted
  have service_key := Store.key_of_find? service_found
  have deployment_found := effect.find?_eq same .databaseDeployment wanted
  have secret_found := effect.find?_eq same .databaseSecret rfl
  have settled := DatabaseSecret.settled_written effect.enough
  rw [effect.kc_eq] at settled
  obtain ⟨database, database_eq⟩ := Option.isSome_iff_exists.1 (settled.2 embedded).database
  -- The secret is completed, but that leaves its database what it was.
  have connection_eq := effect.connection_eq
  rw [ExternalDatabase.over, if_neg (by simp [embedded])] at connection_eq
  have known : DatabaseSecret.database (after.find? .secret (DatabaseSecret.key kc)) = database :=
    (congrArg DatabaseSecret.database secret_found).trans
      (congrArg (·.getD DatabaseSecret.defaultDatabase) database_eq)
  rw [← connection_eq]
  refine ⟨_, _, rfl, congrArg ObjectKey.name service_key, congrArg ObjectKey.ns service_key,
    service_found, DatabaseService.ports_written _, ⟨_, secret_found, ?_⟩, _, _, deployment_found,
    DatabaseDeployment.containers_written _, rfl⟩
  exact database_eq.trans (congrArg some known.symm)

/-- The server of an embedded database is told where this is, but the port that the secret has said. -/
theorem Effect.runsServer (effect : Effect kc.declaration profiles flags b before after)
    (embedded : kc.spec.externalDatabase.enabled = false) :
    ∃ container, after.RunsServer kc container ∧
      (¬ kc.Overrides "DB_ADDR" →
        container.Sets (.plain "DB_ADDR" (databaseServiceName ++ "." ++ kc.ns))) ∧
      (¬ kc.Overrides "DB_PORT" → container.Sets (.plain "DB_PORT" (Integer.ofInt32
        (DatabaseSecret.connection (before.find? .secret (DatabaseSecret.key kc))).port))) ∧
      (¬ kc.Overrides "DB_DATABASE" → container.Sets (.plain "DB_DATABASE"
        (DatabaseSecret.connection (before.find? .secret (DatabaseSecret.key kc))).database)) := by
  have same : kc.declaration = kc.declaration.declaration := rfl
  obtain ⟨server, server_found, -, one_container⟩ := effect.exists_server same
  rw [effect.secret_eq] at one_container
  refine ⟨_, ⟨server, server_found, one_container⟩, fun free => ?_, ServerStatefulSet.sets_port,
    ServerStatefulSet.sets_database⟩
  have address_eq : databaseAddress kc.declaration
      (Snapshot.ofStore kc.declaration before).databaseSecret =
        databaseServiceName ++ "." ++ kc.ns := by
    rw [databaseAddress, if_neg (by simp [Keycloak.declaration, embedded])]
    rfl
  rw [← address_eq]
  exact ServerStatefulSet.sets_address free

/-- After edits the server is told where the embedded database is, but the port that has been declared
last for an external one. -/
theorem Edits.runs (edits : Edits place (kc :: earlier) store)
    (managed : kc.spec.unmanaged = false) (internal : kc.spec.external.enabled = false)
    (embedded : kc.spec.externalDatabase.enabled = false) :
    ∃ service port container, port.port = defaultDatabasePort ∧
      store.RunsDatabase kc service port (knownConnection earlier).database ∧
      store.RunsServer kc container ∧
      (¬ kc.Overrides "DB_ADDR" → container.Sets (.plain "DB_ADDR"
        (service.metadata.nameAny ++ "." ++ service.metadata.namespaceOrDefault))) ∧
      (¬ kc.Overrides "DB_PORT" →
        container.Sets (.plain "DB_PORT" (Integer.ofInt32 (knownConnection earlier).port))) ∧
      (¬ kc.Overrides "DB_DATABASE" →
        container.Sets (.plain "DB_DATABASE" (knownConnection earlier).database)) := by
  obtain _ | ⟨edits, kc_place, run⟩ := edits
  have step := effect_or_unchanged run
  rw [if_pos (by simp [Keycloak.isApplied, managed, internal])] at step
  obtain ⟨b, effect⟩ := step
  have key_eq : DatabaseSecret.key kc = ⟨DatabaseSecret.name, place.ns⟩ :=
    congrArg (ObjectKey.mk DatabaseSecret.name) (congrArg ObjectKey.ns kc_place)
  have known := edits.connection_eq
  rw [← key_eq] at known
  obtain ⟨service, port, port_eq, service_name, service_ns, runs_database⟩ :=
    effect.runsDatabase embedded
  obtain ⟨container, runs_server, address, port_told, database_told⟩ := effect.runsServer embedded
  rw [known] at runs_database port_told database_told
  rw [← service_name, ← service_ns] at address
  exact ⟨service, port, container, port_eq, runs_database, runs_server, address, port_told,
    database_told⟩

/-- After passes of which the last one was over an installation with the embedded database, the server
is told the host and the name of this database. For a port it is told the one that has been declared
last for an external database, and so the port of the service only if no other one has been. -/
theorem embedded_database_after_edits (edits : Edits place (kc :: earlier) store)
    (managed : kc.spec.unmanaged = false) (internal : kc.spec.external.enabled = false)
    (embedded : kc.spec.externalDatabase.enabled = false) :
    ∃ service port database container,
      store.RunsDatabase kc service port database ∧ store.RunsServer kc container ∧
      (¬ kc.Overrides "DB_ADDR" → container.Sets (.plain "DB_ADDR"
        (service.metadata.nameAny ++ "." ++ service.metadata.namespaceOrDefault))) ∧
      (¬ kc.Overrides "DB_DATABASE" → container.Sets (.plain "DB_DATABASE" database)) ∧
      (¬ kc.Overrides "DB_PORT" →
        container.Sets (.plain "DB_PORT" (Integer.ofInt32 (knownConnection earlier).port)) ∧
        (container.Sets (.plain "DB_PORT" (Integer.ofInt32 port.port)) ↔
          (knownConnection earlier).port = defaultDatabasePort)) := by
  obtain ⟨service, port, container, port_eq, runs_database, runs_server, address, port_told,
    database_told⟩ := edits.runs managed internal embedded
  refine ⟨service, port, _, container, runs_database, runs_server, address, database_told,
    fun free => ⟨port_told free, ?_⟩⟩
  rw [(port_told free).plain_iff, Integer.ofInt32_inj, port_eq]

/-- Passes may be made over whatever is declared of an installation. -/
theorem exists_edits
    (applied : ∀ kc ∈ declared, kc.metadata.key = place ∧ kc.spec.unmanaged = false ∧
      kc.spec.external.enabled = false) :
    ∃ store, Edits place declared store := by
  induction declared with
  | nil => exact ⟨{}, .start⟩
  | cons kc earlier ih =>
    obtain ⟨⟨kc_place, managed, internal⟩, rest⟩ := List.forall_mem_cons.1 applied
    obtain ⟨before, edits⟩ := ih rest
    obtain ⟨events, requeue, after, run⟩ :=
      exists_run_installation_ok {} {} managed internal before
    exact ⟨after, .pass edits kc_place run⟩

/-- The database may be moved away and back; without a port for the external one all fits again. -/
theorem embedded_database_after_return :
    ∃ store service port database container,
      Edits ⟨"", "default"⟩ [{}, foreignDatabase none, {}] store ∧
      store.RunsDatabase {} service port database ∧ store.RunsServer {} container ∧
      container.Sets (.plain "DB_ADDR"
        (service.metadata.nameAny ++ "." ++ service.metadata.namespaceOrDefault)) ∧
      container.Sets (.plain "DB_DATABASE" database) ∧
      container.Sets (.plain "DB_PORT" (Integer.ofInt32 port.port)) := by
  have free : ∀ name, ¬ Keycloak.Overrides {} name := by
    rintro name ⟨_, mem, -⟩
    cases mem
  obtain ⟨store, edits⟩ : ∃ store, Edits ⟨"", "default"⟩ [{}, foreignDatabase none, {}] store :=
    exists_edits (by simp [foreignDatabase]; decide)
  obtain ⟨service, port, database, container, runs_database, runs_server, address, database_told,
    port_told⟩ := embedded_database_after_edits edits rfl rfl rfl
  exact ⟨store, service, port, database, container, edits, runs_database, runs_server,
    address (free _), database_told (free _), (port_told (free _)).2.2 (by decide)⟩

/-- The port of an external database outlasts it. -/
theorem port_of_external_database_stays :
    ∃ store service port database container,
      Edits ⟨"", "default"⟩ [{}, foreignDatabase (some 6543)] store ∧
      store.RunsDatabase {} service port database ∧ store.RunsServer {} container ∧
      ¬ Keycloak.Overrides {} "DB_PORT" ∧
      container.Sets (.plain "DB_PORT" "6543") ∧
      ¬ container.Sets (.plain "DB_PORT" (Integer.ofInt32 port.port)) := by
  have free : ¬ Keycloak.Overrides {} "DB_PORT" := by
    rintro ⟨_, mem, -⟩
    cases mem
  obtain ⟨store, edits⟩ : ∃ store,
      Edits ⟨"", "default"⟩ [{}, foreignDatabase (some 6543)] store :=
    exists_edits (by simp [foreignDatabase]; decide)
  obtain ⟨service, port, container, port_eq, runs_database, runs_server, -, port_told, -⟩ :=
    edits.runs rfl rfl rfl
  have told : container.Sets (.plain "DB_PORT" "6543") := port_told free
  refine ⟨store, service, port, _, container, edits, runs_database, runs_server, free, told,
    fun wrong => ?_⟩
  rw [port_eq] at wrong
  exact absurd (told.plain_iff.1 wrong) (by decide)

end Pass

end IdentityOperator
