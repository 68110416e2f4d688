import IdentityOperator.Pass.Wire
import IdentityOperator.Proofs.Installation.Environment

/-!
Clients of an installation.

A client goes by what is reported about an installation: the URL inside the cluster and the name of the
secret with the administrator's credentials. The builders of the service, of the secret and of the pods
say for themselves what they are called, and so does the report; here they are found to agree. After a
pass that succeeds, whatever the pass has found, a client that goes by the status that the pass has
reported is led to the service, logs in with credentials that are not empty, and these are the ones
that the server has been started with (`Pass.reported_status_leads_to_server`).
-/

namespace IdentityOperator

/-- The URL of a port of a service, from inside the cluster. -/
def Service.urlAt (service : Service) (port : ServicePort) : String :=
  "https://" ++ service.metadata.nameAny ++ "." ++ service.metadata.namespaceOrDefault ++ ".svc:" ++
    Integer.ofInt32 port.port

/-- With these credentials a client logs in to an installation, in whatever world it is given this
secret where it looks for one. -/
def Secret.Admits (secret : Secret) (kc : Keycloak) (username password : String) : Prop :=
  ∃ url name, kc.target = .ok (url, name) ∧
    ∀ (σ : Type) (serve : (request : WireRequest) → σ → request.Answer × σ) (before after : σ),
      (Wired.ofApi (ClusterCall.get .secret (kc.keyOf name)).viaApi).run serve before =
        (.ok secret, after) →
      (Wired.login kc).run serve before =
        (Wired.ofExchange ((Session.connect url).login username password).run).run serve after

theorem Secret.admits_of_target {secret : Secret} {kc : Keycloak}
    {url name username password : String} (target_eq : kc.target = .ok (url, name))
    (username_eq : secret.value? AdminSecret.usernameKey = some username)
    (password_eq : secret.value? AdminSecret.passwordKey = some password) :
    secret.Admits kc username password := by
  refine ⟨url, name, target_eq, fun σ serve before after given => ?_⟩
  unfold Wired.login
  rw [target_eq]
  simp only [Program.run_bind, given, username_eq, password_eq, Option.getD_some]

namespace Keycloak

variable {kc other : Keycloak}

theorem ns_congr (same : kc.declaration = other.declaration) : kc.ns = other.ns :=
  (congrArg ns same :)

theorem adminSecret_name_congr (same : kc.declaration = other.declaration) :
    AdminSecret.name kc = AdminSecret.name other :=
  (congrArg AdminSecret.name same :)

/-- Whoever reads a status that has been reported after a pass is told where the service is and what
the secret is called. -/
theorem target_of_status {ready : Bool} {error : Option String} {externalUrl now : String}
    (internal : kc.spec.external.enabled = false) (same : other.declaration = kc.declaration)
    (reported : other.status = some (kc.statusAfterPass ready error externalUrl now)) :
    other.target = .ok ("https://" ++ applicationName ++ "." ++ kc.ns ++ ".svc:" ++
      Integer.ofInt32 httpsPort, AdminSecret.name kc) := by
  have spec_eq : other.spec = kc.spec := (congrArg Keycloak.spec same :)
  have url_eq : other.statusOrDefault.internalUrl = "https://" ++ applicationName ++ "." ++ kc.ns ++
      ".svc:" ++ Integer.ofInt32 httpsPort := by
    rw [statusOrDefault, reported]
    simp [statusAfterPass, internalUrlOf, internal]
  have name_eq : other.statusOrDefault.credentialSecret = AdminSecret.name kc := by
    rw [statusOrDefault, reported]
    rfl
  rw [target, if_neg (by simp [spec_eq, internal])]
  simp [url_eq, name_eq, AdminSecret.name]

end Keycloak

/-- A client that goes by what is reported about an installation finds its server in a store. -/
structure Keycloak.FindsServer (reported : Keycloak) (store : Store) (name : String)
    (service : Service) (port : ServicePort) (secret : Secret) (server : StatefulSet)
    (container : Container) : Prop where
  service_found : store.find? .service (ServerService.key reported) = some service
  one_port : service.spec.bind (·.ports) = some [port]
  /-- The client turns to the service, and to a secret of that name. -/
  target_eq : reported.target = .ok (service.urlAt port, name)
  secret_found : store.find? .secret (reported.keyOf name) = some secret
  credentials : ∃ username password,
    secret.value? AdminSecret.usernameKey = some username ∧ username ≠ "" ∧
    secret.value? AdminSecret.passwordKey = some password ∧ password ≠ "" ∧
    secret.Admits reported username password
  server_found : store.find? .statefulSet (ServerStatefulSet.key reported) = some server
  server_ns : server.metadata.namespaceOrDefault = reported.ns
  one_container : server.containers = [container]
  /-- The server takes its administrator from the same secret. -/
  takes_username : container.TakesFrom "KEYCLOAK_USER" { name, key := AdminSecret.usernameKey }
  takes_password : container.TakesFrom "KEYCLOAK_PASSWORD" { name, key := AdminSecret.passwordKey }

namespace Pass

open Program (Run Returns)

variable {served : Kind → Bool} {capabilities : Capabilities} {profiles : Profiles} {kc : Keycloak}
  {before after : Store} {events : List PassEvent} {requeue : Requeue}

/-! ## What a pass reports -/

/-- An installation as a pass knows it by some time: only what is reported about it may differ. -/
structure Tracks (tracked kc : Keycloak) : Prop where
  metadata_eq : tracked.metadata = kc.metadata
  spec_eq : tracked.spec = kc.spec

theorem Tracks.declaration_eq {tracked : Keycloak} (tracks : Tracks tracked kc) :
    tracked.declaration = kc.declaration := by
  obtain ⟨metadata_eq, spec_eq⟩ := tracks
  simp only [Keycloak.declaration, Keycloak.name, Keycloak.ns, metadata_eq, spec_eq]

theorem Tracks.trackSecondary {tracked : Keycloak} (tracks : Tracks tracked kc)
    (kind name : String) : Tracks (tracked.trackSecondary kind name) kc :=
  ⟨tracks.metadata_eq, tracks.spec_eq⟩

theorem Tracks.note {tracked : Keycloak} (tracks : Tracks tracked kc) (part : Part)
    (name : String) :
    Tracks (if part.isTracked tracked then tracked.trackSecondary part.kind.name name
      else tracked) kc := by
  split
  · exact tracks.trackSecondary _ _
  · exact tracks

section Known

/-! What is known of an installation, and is still known after something has been noted about it, is
known at the end of each part of a pass. -/

variable (known : Keycloak → Prop)

theorem returns_readParts {tracked : Keycloak} (start : known tracked)
    (noted : ∀ kc kind name, known kc → known (kc.trackSecondary kind name)) (state : Snapshot)
    (parts : List Part) :
    Returns (fun result => known result.1) (readParts tracked state parts) := by
  induction parts generalizing tracked state with
  | nil => exact start
  | cons part parts ih =>
    intro answer
    cases answer with
    | ok object =>
      refine ih ?_ (state.put part object)
      split
      · exact noted _ _ _ start
      · exact start
    | error e =>
      show Returns _ (if e.isAbsent then readParts tracked state parts else pure (tracked, .error e))
      split
      · exact ih start state
      · exact start

theorem returns_readSnapshot_of_known (start : known kc)
    (noted : ∀ kc kind name, known kc → known (kc.trackSecondary kind name)) :
    Returns (fun result => known result.1) (readSnapshot kc) :=
  Program.returns_bind fun flags => returns_readParts known start noted {} (Part.read kc flags)

theorem returns_convergeInstallation_of_known (profiles : Profiles) (start : known kc)
    (noted : ∀ kc kind name, known kc → known (kc.trackSecondary kind name)) :
    Returns (fun result => known result.1) (convergeInstallation profiles kc) := by
  unfold convergeInstallation
  split
  · exact start
  · refine Program.returns_bind_of_returns (returns_readSnapshot_of_known known start noted)
      fun (tracked, found) still_known => ?_
    cases found with
    | error e => exact still_known
    | ok state =>
      refine Program.returns_bind fun plan => Program.returns_bind fun applied => ?_
      cases applied with
      | error e => exact still_known
      | ok _ => exact Program.returns_bind fun _ => still_known

end Known

theorem returns_readSnapshot (kc : Keycloak) :
    Returns (fun result => Tracks result.1 kc) (readSnapshot kc) :=
  returns_readSnapshot_of_known (Tracks · kc) ⟨rfl, rfl⟩
    fun _ kind name tracks => tracks.trackSecondary kind name

theorem returns_convergeInstallation (profiles : Profiles) (kc : Keycloak) :
    Returns (fun result => Tracks result.1 kc) (convergeInstallation profiles kc) :=
  returns_convergeInstallation_of_known (Tracks · kc) profiles ⟨rfl, rfl⟩
    fun _ kind name tracks => tracks.trackSecondary kind name

section Reports

variable {σ : Type} {env : PassEnvironment σ} {first last : σ}

theorem run_reportInstallation {ready : Bool} {error : Option String} {url : String}
    {told : Except OperatorError Unit}
    (run : Run env (reportInstallation kc ready error url).run first events told last) :
    ∃ time later, events = [⟨.now, time⟩,
        ⟨.patchKeycloakStatus kc.metadata.key (kc.statusAfterPass ready error url time), told⟩] ∧
      env .now first time later ∧
      env (.patchKeycloakStatus kc.metadata.key (kc.statusAfterPass ready error url time)) later told
        last := by
  obtain ⟨time, later, _, rfl, asked_now, patching⟩ := run_now_bind_iff.1 run
  obtain ⟨rfl, patched⟩ := run_ask_iff.1 patching
  exact ⟨time, later, rfl, asked_now, patched⟩

/-- The status that is reported when a pass has come to an outcome. -/
def statusAfter (kc : Keycloak) (outcome : Except OperatorError InstallationOutcome)
    (time : String) : KeycloakStatus :=
  match outcome with
  | .ok outcome => kc.statusAfterPass outcome.ready none outcome.externalUrl time
  | .error e => kc.statusAfterPass false (some e.message) "" time

/-- A pass comes to an outcome and reports about it once, whether or not it has succeeded. -/
theorem run_installation {result : Except OperatorError Requeue}
    (run : Run env (installation profiles kc).run first events result last) :
    ∃ converging tracked outcome middle time later told, Tracks tracked kc ∧
      events = converging ++ [⟨.now, time⟩,
        ⟨.patchKeycloakStatus tracked.metadata.key (statusAfter tracked outcome time), told⟩] ∧
      result = outcome.bind (fun made => told.map fun _ => .after (if made.ready then 60 else 10)) ∧
      Run env (convergeInstallation profiles kc) first converging (tracked, outcome) middle ∧
      env .now middle time later ∧
      env (.patchKeycloakStatus tracked.metadata.key (statusAfter tracked outcome time)) later told
        last := by
  obtain ⟨converging, ⟨tracked, outcome⟩, middle, _, rfl, converge_run, rest⟩ :=
    Program.run_bind_iff.1 run
  have tracks := (returns_convergeInstallation profiles kc).of_run converge_run
  cases outcome with
  | ok made =>
    obtain ⟨_, told, reported, closing, rfl, report_run, ending⟩ := Program.run_bind_iff.1 rest
    obtain ⟨time, later, rfl, asked_now, patched⟩ := run_reportInstallation report_run
    have ended : Run env (.done (told.map fun _ => .after (if made.ready then 60 else 10))) reported
        closing result last := by
      cases told <;> exact ending
    obtain ⟨rfl, rfl, rfl⟩ := Program.run_done_iff.1 ended
    exact ⟨converging, tracked, .ok made, middle, time, later, told, tracks, rfl, rfl, converge_run,
      asked_now, patched⟩
  | error e =>
    obtain ⟨_, told, _, _, rfl, report_run, ending⟩ := Program.run_bind_iff.1 rest
    obtain ⟨time, later, rfl, asked_now, patched⟩ := run_reportInstallation report_run
    obtain ⟨rfl, rfl, rfl⟩ := Program.run_done_iff.1 ending
    exact ⟨converging, tracked, .error e, middle, time, later, told, tracks, rfl, rfl, converge_run,
      asked_now, patched⟩

/-- A pass that succeeds has brought the installation in line and has said so. -/
theorem run_installation_ok
    (run : Run env (installation profiles kc).run first events (.ok requeue) last) :
    ∃ converging tracked outcome middle time later status, Tracks tracked kc ∧
      status = tracked.statusAfterPass outcome.ready none outcome.externalUrl time ∧
      events = converging ++ [⟨.now, time⟩,
        ⟨.patchKeycloakStatus tracked.metadata.key status, .ok ()⟩] ∧
      Run env (convergeInstallation profiles kc) first converging (tracked, .ok outcome) middle ∧
      env .now middle time later ∧
      env (.patchKeycloakStatus tracked.metadata.key status) later (.ok ()) last := by
  obtain ⟨converging, tracked, outcome, middle, time, later, told, tracks, events_eq, succeeds,
    converge_run, asked_now, patched⟩ := run_installation run
  cases outcome with
  | error e => cases succeeds
  | ok outcome =>
    cases told with
    | error e => cases succeeds
    | ok _ =>
      exact ⟨converging, tracked, outcome, middle, time, later, _, tracks, rfl, events_eq,
        converge_run, asked_now, patched⟩

end Reports

/-- Against a reliable cluster a pass may succeed. -/
theorem exists_run_installation_ok (capabilities : Capabilities) (profiles : Profiles)
    (managed : kc.spec.unmanaged = false) (internal : kc.spec.external.enabled = false)
    (before : Store) :
    ∃ events requeue after,
      Run (Reliable capabilities) (installation profiles kc).run before events (.ok requeue)
        after := by
  obtain ⟨converging, ⟨tracked, result⟩, after, converge_run⟩ := Program.exists_run
    (total_reliable capabilities) (convergeInstallation profiles kc) before
  obtain ⟨-, ⟨outcome, rfl⟩, -⟩ := run_convergeInstallation managed internal converge_run
  have answered : Run (Reliable capabilities)
      (reportInstallation tracked outcome.ready none outcome.externalUrl).run after
      ([⟨.now, ""⟩] ++ [⟨.patchKeycloakStatus tracked.metadata.key
        (tracked.statusAfterPass outcome.ready none outcome.externalUrl ""), .ok ()⟩]) (.ok ()) after :=
    run_bind_ok_iff.2 ⟨_, "", after, _, rfl, run_lift_iff.2 ⟨"", run_ask_iff.2 ⟨rfl, rfl⟩, rfl⟩,
      run_ask_iff.2 ⟨rfl, rfl⟩⟩
  exact ⟨_, _, after, Program.run_bind_iff.2 ⟨_, _, after, _, rfl, converge_run,
    Program.run_bind_iff.2 ⟨_, _, after, _, rfl, answered, .done _ _⟩⟩⟩

/-! ## What a client finds -/

theorem exists_port_written {b : Blueprint} (live : Option Service) :
    ∃ port, port.port = httpsPort ∧
      (Service.spec (Part.written b .service live)).bind (·.ports) = some [port] := by
  cases live with
  | none => exact ⟨_, rfl, rfl⟩
  | some current => exact ⟨_, rfl, rfl⟩

/-- The server takes its administrator from the secret that clients take the credentials from. -/
theorem container_takesFrom {secret : Option Secret} {v : EnvVar} {reference : KeyReference}
    (managed : v ∈ managedEnv kc secret) (refers : v.secretReference? = some reference) :
    (ServerStatefulSet.container kc secret profiles).TakesFrom v.name reference := by
  intro other mem name_eq found other_refers
  have known := mem_managedEnv_of_reference mem other_refers
  have same : other = v :=
    List.inj_on_of_nodup_map (nodup_managedEnv kc secret) known managed name_eq
  subst same
  exact Option.some.inj (other_refers.symm.trans refers)

/-- What a pass writes is found under the declaration that it has been made for. -/
theorem Effect.find?_eq {flags : InstallationFlags} {b : Blueprint} {other : Keycloak}
    (effect : Effect kc profiles flags b before after) (same : other.declaration = kc.declaration)
    (part : Part) (wanted : part.isWanted kc flags = true) :
    after.find? part.kind (part.key other) =
      some (part.written b ((Snapshot.ofStore kc before).found part)) := by
  rw [Part.key_congr same]
  exact effect.found_eq (Part.mem_wanted wanted)

section Written

variable {flags : InstallationFlags} {b : Blueprint} {reported : Keycloak}
  (effect : Effect kc profiles flags b before after) (same : reported.declaration = kc.declaration)
include effect same

/-- A pass leaves the service behind that it reports. -/
theorem Effect.exists_service :
    ∃ service port, after.find? .service (ServerService.key reported) = some service ∧
      service.spec.bind (·.ports) = some [port] ∧
      service.urlAt port = "https://" ++ applicationName ++ "." ++ kc.ns ++ ".svc:" ++
        Integer.ofInt32 httpsPort := by
  obtain ⟨port, port_eq, one_port⟩ := exists_port_written (b := b)
    ((Snapshot.ofStore kc before).found .service)
  have found := effect.find?_eq same .service rfl
  have key_eq := Store.key_of_find? found
  generalize Part.written b .service _ = service at one_port found key_eq
  have name_eq : service.metadata.nameAny = applicationName := congrArg ObjectKey.name key_eq
  have ns_eq : service.metadata.namespaceOrDefault = kc.ns :=
    (congrArg ObjectKey.ns key_eq).trans (Keycloak.ns_congr same)
  refine ⟨service, port, found, one_port, ?_⟩
  unfold Service.urlAt
  rw [name_eq, ns_eq, port_eq]

/-- It leaves a secret behind with the administrator's credentials. -/
theorem Effect.exists_adminSecret :
    ∃ (secret : Secret) (username password : String),
      after.find? .secret (AdminSecret.key reported) = some secret ∧
      secret.value? AdminSecret.usernameKey = some username ∧
      secret.value? AdminSecret.passwordKey = some password := by
  have complete := AdminSecret.complete_written effect.enough
  have found := effect.find?_eq same .adminSecret rfl
  generalize Part.written b .adminSecret _ = secret at complete found
  obtain ⟨username, username_eq⟩ := Option.isSome_iff_exists.1 complete.username
  obtain ⟨password, password_eq⟩ := Option.isSome_iff_exists.1 complete.password
  exact ⟨secret, username, password, found, username_eq, password_eq⟩

/-- It leaves a server behind with one container, which is built from the declaration. -/
theorem Effect.exists_server :
    ∃ server, after.find? .statefulSet (ServerStatefulSet.key reported) = some server ∧
      server.metadata.namespaceOrDefault = reported.ns ∧
      server.containers = [ServerStatefulSet.container kc b.databaseSecret b.profiles] := by
  have found := effect.find?_eq same .statefulSet rfl
  have key_eq := Store.key_of_find? found
  have one_container := ServerStatefulSet.containers_written (b := b)
    ((Snapshot.ofStore kc before).found .statefulSet)
  rw [effect.kc_eq] at one_container
  exact ⟨_, found, congrArg ObjectKey.ns key_eq, one_container⟩

/-- What a pass has written and what is reported after it fit together. -/
theorem Effect.findsServer
    (target_eq : reported.target = .ok ("https://" ++ applicationName ++ "." ++ kc.ns ++ ".svc:" ++
      Integer.ofInt32 httpsPort, AdminSecret.name kc)) :
    ∃ name service port secret server container,
      reported.FindsServer after name service port secret server container := by
  obtain ⟨service, port, service_found, one_port, url_eq⟩ := effect.exists_service same
  obtain ⟨secret, username, password, secret_found, username_eq, password_eq⟩ :=
    effect.exists_adminSecret same
  obtain ⟨server, server_found, server_ns, one_container⟩ := effect.exists_server same
  have name_eq : AdminSecret.name reported = AdminSecret.name kc :=
    Keycloak.adminSecret_name_congr same
  rw [AdminSecret.key, name_eq] at secret_found
  exact ⟨AdminSecret.name kc, service, port, secret, server, _, {
    service_found, one_port, secret_found, server_found, server_ns, one_container
    target_eq := by rw [url_eq, target_eq]
    credentials := ⟨username, password, username_eq, Secret.ne_empty_of_value? username_eq,
      password_eq, Secret.ne_empty_of_value? password_eq,
      Secret.admits_of_target target_eq username_eq password_eq⟩
    takes_username := container_takesFrom (v := .ofSecret "KEYCLOAK_USER" (AdminSecret.name kc)
      AdminSecret.usernameKey) (by simp [managedEnv]) rfl
    takes_password := container_takesFrom (v := .ofSecret "KEYCLOAK_PASSWORD"
      (AdminSecret.name kc) AdminSecret.passwordKey) (by simp [managedEnv]) rfl }⟩

end Written

/-- After a pass that succeeds, a client that goes by the status that the pass has reported finds the
service that the pass has written and a secret with credentials, and the server takes its
administrator from that secret. -/
theorem reported_status_leads_to_server (managed : kc.spec.unmanaged = false)
    (internal : kc.spec.external.enabled = false)
    (run : Run (Faulty served capabilities) (installation profiles kc).run before events
      (.ok requeue) after) :
    ∃ status, ⟨.patchKeycloakStatus kc.metadata.key status, .ok ()⟩ ∈ events ∧
      ∀ reported : Keycloak, reported.declaration = kc.declaration →
        reported.status = some status →
        ∃ name service port secret server container,
          reported.FindsServer after name service port secret server container := by
  obtain ⟨converging, tracked, outcome, middle, time, later, status, tracks, status_eq, rfl,
    converge_run, asked_now, patched⟩ := run_installation_ok run
  -- Neither the look at the clock nor the report touches the store.
  have later_eq : later = middle := asked_now.elim id fun failed => failed.1.elim
  have after_eq : after = later := patched.elim id fun failed => by
    obtain ⟨⟨e, impossible⟩, -⟩ := failed
    cases impossible
  subst later_eq after_eq
  obtain ⟨b, effect⟩ := exists_effect_of_succeeds managed internal converge_run rfl
  refine ⟨status, ?_, fun reported same reported_status => ?_⟩
  · rw [← tracks.metadata_eq]
    simp
  · have declared := tracks.declaration_eq
    have target_eq := Keycloak.target_of_status (tracks.spec_eq ▸ internal)
      (same.trans declared.symm) (reported_status.trans (congrArg some status_eq))
    rw [Keycloak.ns_congr declared, Keycloak.adminSecret_name_congr declared] at target_eq
    exact effect.findsServer same target_eq

/-- What others have left in the default namespace: a service without ports, a secret with an empty
password, and pods that take their administrator from a secret of their own. -/
def strayObjects : Store := ⟨[
  ⟨.service, ({ metadata := { name := some "keycloak" }, spec := some {} } : Service)⟩,
  ⟨.secret, ({ metadata := { name := some "credential-sso" }
               data := some (.ofList [("ADMIN_PASSWORD", [])]) } : Secret)⟩,
  ⟨.statefulSet, ({ metadata := { name := some "keycloak" }
                    spec := some { template := { spec := some { containers := [
                      { name := "keycloak"
                        env := some [.ofSecret "KEYCLOAK_USER" "stray" "user"] }] } } } } :
    StatefulSet)⟩]⟩

/-- An installation that says neither its namespace nor anything else but its name. -/
def namedInstallation : Keycloak := { metadata := { name := some "sso" } }

/-- A pass over such an installation succeeds among stray objects, and clients find the server. -/
theorem client_finds_server_among_stray_objects :
    ∃ events requeue after status,
      Run (Faulty (fun _ => true) {}) (installation {} namedInstallation).run strayObjects events
        (.ok requeue) after ∧
      ⟨.patchKeycloakStatus ⟨"sso", "default"⟩ status, .ok ()⟩ ∈ events ∧
      ∃ name service port secret server container,
        { namedInstallation with status := some status }.FindsServer after name service port secret
          server container := by
  obtain ⟨events, requeue, after, reliable⟩ : ∃ events requeue after, Run (Reliable {})
      (installation {} namedInstallation).run strayObjects events (.ok requeue) after :=
    exists_run_installation_ok {} {} rfl rfl strayObjects
  have run : Run (Faulty (fun _ => true) {}) (installation {} namedInstallation).run strayObjects
      events (.ok requeue) after := by
    refine reliable.mono fun request before answer after served => ?_
    rw [Faulty, serving_all]
    exact .inl served
  obtain ⟨status, reported, finds⟩ := reported_status_leads_to_server rfl rfl run
  exact ⟨events, requeue, after, status, run, reported, finds _ rfl rfl⟩

end Pass

end IdentityOperator
