import IdentityOperator.Proofs.Installation.Environment

/-!
Where the server finds its database.

The database secret says where the database is. A pass brings it in line with what is declared about an
external database (`DatabaseSecret.connection_written`), and the variables of the server say what the
secret said when it was read, not what the same plan makes of it.
-/

namespace IdentityOperator

/-! ## Values of secrets -/

theorem nonEmpty?_some {text : String} (nonempty : text ≠ "") : nonEmpty? (some text) = some text := by
  simp [nonEmpty?, nonempty]

theorem nonEmpty?_empty : nonEmpty? (some "") = none := rfl

/-- What is not empty once is so again. -/
theorem nonEmpty?_elim (text other : Option String) :
    (nonEmpty? text).elim other (fun known => nonEmpty? (some known)) =
      (nonEmpty? text).or other := by
  cases known_eq : nonEmpty? text with
  | none => rfl
  | some known =>
    have nonempty : known ≠ "" := by simpa using (Option.filter_eq_some_iff.1 known_eq).2
    exact nonEmpty?_some nonempty

/-- What is set is read back, unless it is empty. -/
theorem Secret.value?_setValue (secret : Secret) (key text : String) :
    (secret.setValue key text).value? key = nonEmpty? (some text) := by
  simp [setValue, value?, nonEmpty?]

/-- A new secret is one with nothing in it in which the values have been set one after the other. -/
theorem opaqueSecret_eq_foldl (metadata : ObjectMeta) (values : List (String × String)) :
    opaqueSecret metadata values =
      values.foldl (fun secret entry => secret.setValue entry.1 entry.2)
        (opaqueSecret metadata []) := by
  have set_in : ∀ data : ByteMap,
      values.foldl (fun secret entry => secret.setValue entry.1 entry.2)
          ({ metadata, data := some data, secretType := some "Opaque" } : Secret) =
        { metadata
          data := some (data.insertMany (values.map fun entry => (entry.1, Utf8.encode entry.2)))
          secretType := some "Opaque" } := by
    induction values with
    | nil => exact fun _ => rfl
    | cons entry rest ih => exact fun data => ih (data.insert entry.1 (Utf8.encode entry.2))
  exact (set_in .empty).symm

/-! ## Connections -/

/-- Where a database is, as far as that is known. -/
structure Connection where
  host : Option String
  port : Int32
  database : String
  deriving DecidableEq

/-- What is known after an external database has been declared. Where nothing is declared, what has
been known before still counts. -/
def ExternalDatabase.over (external : ExternalDatabase) (known : Connection) : Connection :=
  if external.enabled then
    { host := (nonEmpty? external.host).or known.host
      port := external.port.getD known.port
      database := (external.database.map fun declared =>
        (nonEmpty? (some declared)).getD DatabaseSecret.defaultDatabase).getD known.database }
  else known

/-- To declare the same again adds nothing. -/
theorem ExternalDatabase.over_over (external : ExternalDatabase) (known : Connection) :
    external.over (external.over known) = external.over known := by
  obtain ⟨enabled, host, port, database⟩ := external
  cases enabled with
  | false => rfl
  | true =>
    simp only [ExternalDatabase.over, if_true, Connection.mk.injEq]
    refine ⟨?_, by cases port <;> rfl, by cases database <;> rfl⟩
    cases nonEmpty? host <;> rfl

/-- What is known of a database before it is declared and after. What is declared is known then, and
of the rest what was known; no host is declared by an empty one, and an empty name declares the one
that counts where there is none. -/
structure ExternalDatabase.Settles (external : ExternalDatabase) (before after : Connection) :
    Prop where
  host : ∀ host, external.host = some host → host ≠ "" → after.host = some host
  host_kept : external.host = none ∨ external.host = some "" → after.host = before.host
  port : ∀ port, external.port = some port → after.port = port
  port_kept : external.port = none → after.port = before.port
  database : ∀ name, external.database = some name → name ≠ "" → after.database = name
  database_empty : external.database = some "" → after.database = "root"
  database_kept : external.database = none → after.database = before.database

theorem ExternalDatabase.settles_over {external : ExternalDatabase}
    (enabled : external.enabled = true) (known : Connection) :
    external.Settles known (external.over known) := by
  rw [ExternalDatabase.over, if_pos enabled]
  constructor
  case host =>
    intro host declared nonempty
    simp [declared, nonEmpty?_some nonempty]
  case host_kept =>
    rintro (missing | empty)
    · simp [missing, nonEmpty?]
    · simp [empty, nonEmpty?_empty]
  case port =>
    intro port declared
    simp [declared]
  case port_kept =>
    intro missing
    simp [missing]
  case database =>
    intro name declared nonempty
    simp [declared, nonEmpty?_some nonempty]
  case database_empty =>
    intro empty
    simp [empty, nonEmpty?_empty, DatabaseSecret.defaultDatabase]
  case database_kept =>
    intro missing
    simp [missing]

/-- An installation with a database of somebody else's. -/
def foreignDatabase (port : Option Int32) : Keycloak where
  spec := { externalDatabase := { enabled := true, host := some "db.example.com", port } }

namespace DatabaseSecret

/-- Where the database is by its secret. -/
def connection (secret : Option Secret) : Connection where
  host := host? secret
  port := port secret
  database := database secret

/-! ### After a change -/

variable {kc : Keycloak} {password : String} {secret : Secret} {key other : String}

theorem value?_setDeclared_of_ne (differs : other ≠ key) (value : Option String) :
    (setDeclared key value secret).value? other = secret.value? other := by
  cases value with
  | none => rfl
  | some text => exact Secret.value?_setValue_of_ne secret text differs

theorem value?_setDeclared_self (value : Option String) :
    (setDeclared key value secret).value? key =
      value.elim (secret.value? key) fun text => nonEmpty? (some text) := by
  cases value with
  | none => rfl
  | some text => exact Secret.value?_setValue secret key text

/-- A secret that is brought in line with an external database says what is declared of it, and what it
said before of the rest. -/
theorem connection_refreshed_external (external : kc.spec.externalDatabase.enabled = true) :
    connection (some (refreshed kc password secret)) =
      kc.spec.externalDatabase.over (connection (some secret)) := by
  have base : ∀ key, ({ secret with data := some (secret.data.getD .empty) } : Secret).value? key =
      secret.value? key := by
    intro key
    simp [Secret.value?, Secret.get?_data_getD]
  have host_eq : (refreshed kc password secret).value? hostKey =
      (nonEmpty? kc.spec.externalDatabase.host).or (secret.value? hostKey) := by
    simp only [refreshed, external, if_true]
    rw [value?_setDeclared_of_ne (by decide), value?_setDeclared_of_ne (by decide),
      value?_setDeclared_self, base, nonEmpty?_elim]
  have port_eq : (refreshed kc password secret).value? portKey =
      (kc.spec.externalDatabase.port.map Integer.ofInt32).elim (secret.value? portKey) fun text =>
        nonEmpty? (some text) := by
    simp only [refreshed, external, if_true]
    rw [value?_setDeclared_of_ne (by decide), value?_setDeclared_self,
      value?_setDeclared_of_ne (by decide), base]
  have database_eq : (refreshed kc password secret).value? databaseKey =
      kc.spec.externalDatabase.database.elim (secret.value? databaseKey) fun text =>
        nonEmpty? (some text) := by
    simp only [refreshed, external, if_true]
    rw [value?_setDeclared_self, value?_setDeclared_of_ne (by decide),
      value?_setDeclared_of_ne (by decide), base]
  simp only [connection, host?, port, database, Option.bind_some, host_eq, port_eq, database_eq,
    ExternalDatabase.over, external, if_true, Connection.mk.injEq]
  refine ⟨trivial, ?_, ?_⟩
  · cases kc.spec.externalDatabase.port with
    | none => rfl
    | some port => simp [nonEmpty?_some (Integer.ofInt32_ne_empty port)]
  · cases kc.spec.externalDatabase.database <;> rfl

/-- For the embedded database a secret is only completed, and the connection stays. -/
theorem connection_refreshed_embedded (embedded : kc.spec.externalDatabase.enabled = false) :
    connection (some (refreshed kc password secret)) = connection (some secret) := by
  simp only [refreshed, embedded, Bool.false_eq_true, if_false, connection, host?, port, database,
    Option.bind_some, Connection.mk.injEq]
  refine ⟨?_, ?_, ?_⟩
  · rw [Secret.value?_fillValue_of_ne _ _ (by decide), Secret.value?_fillValue_of_ne _ _ (by decide),
      Secret.value?_fillValue_of_ne _ _ (by decide)]
  · rw [Secret.value?_fillValue_of_ne _ _ (by decide), Secret.value?_fillValue_of_ne _ _ (by decide),
      Secret.value?_fillValue_of_ne _ _ (by decide)]
  · -- What is filled in is what a missing value counts as.
    have filled : ∀ s : Secret, ((s.fillValue databaseKey defaultDatabase).value? databaseKey).getD
        defaultDatabase = (s.value? databaseKey).getD defaultDatabase := by
      intro s
      unfold Secret.fillValue
      split
      · rfl
      · next missing =>
        rw [Secret.value?_setValue]
        simp at missing
        rw [missing]
        rfl
    rw [filled, Secret.value?_fillValue_of_ne _ _ (by decide),
      Secret.value?_fillValue_of_ne _ _ (by decide)]

/-- A new secret for an external database says what is declared, and else what counts without it. -/
theorem connection_fresh_external (external : kc.spec.externalDatabase.enabled = true) :
    connection (some (fresh kc password)) = kc.spec.externalDatabase.over (connection none) := by
  have fresh_eq : fresh kc password =
      ((setDeclared hostKey (nonEmpty? kc.spec.externalDatabase.host)
          (opaqueSecret (kc.ownedMeta name appLabels) [])).setValue portKey
        (Integer.ofInt32 (kc.spec.externalDatabase.port.getD defaultDatabasePort))).setValue
          databaseKey (kc.spec.externalDatabase.database.getD defaultDatabase) := by
    rw [fresh, opaqueSecret_eq_foldl, freshValues, if_pos external]
    cases nonEmpty? kc.spec.externalDatabase.host <;> rfl
  have blank : ∀ key, (opaqueSecret (kc.ownedMeta name appLabels) []).value? key = none := fun _ => rfl
  have host_eq : (fresh kc password).value? hostKey =
      (nonEmpty? kc.spec.externalDatabase.host).or none := by
    rw [fresh_eq, Secret.value?_setValue_of_ne _ _ (by decide),
      Secret.value?_setValue_of_ne _ _ (by decide), value?_setDeclared_self, blank, nonEmpty?_elim]
  have port_eq : (fresh kc password).value? portKey =
      some (Integer.ofInt32 (kc.spec.externalDatabase.port.getD defaultDatabasePort)) := by
    rw [fresh_eq, Secret.value?_setValue_of_ne _ _ (by decide), Secret.value?_setValue,
      nonEmpty?_some (Integer.ofInt32_ne_empty _)]
  have database_eq : (fresh kc password).value? databaseKey =
      nonEmpty? (some (kc.spec.externalDatabase.database.getD defaultDatabase)) := by
    rw [fresh_eq, Secret.value?_setValue]
  simp only [connection, host?, port, database, Option.bind_some, Option.bind_none, host_eq, port_eq,
    database_eq, ExternalDatabase.over, external, if_true, Connection.mk.injEq]
  refine ⟨trivial, by simp, ?_⟩
  cases kc.spec.externalDatabase.database <;> rfl

theorem connection_fresh_embedded (embedded : kc.spec.externalDatabase.enabled = false) :
    connection (some (fresh kc password)) = connection none := by
  have fresh_eq : fresh kc password =
      (((opaqueSecret (kc.ownedMeta name appLabels) []).setValue usernameKey username).setValue
        passwordKey password).setValue databaseKey defaultDatabase := by
    rw [fresh, opaqueSecret_eq_foldl, freshValues, if_neg (by simp [embedded])]
    rfl
  have others : ∀ key, key ≠ usernameKey → key ≠ passwordKey → key ≠ databaseKey →
      (fresh kc password).value? key = none := by
    intro key not_username not_password not_database
    rw [fresh_eq, Secret.value?_setValue_of_ne _ _ not_database,
      Secret.value?_setValue_of_ne _ _ not_password, Secret.value?_setValue_of_ne _ _ not_username]
    rfl
  have database_eq : (fresh kc password).value? databaseKey = some defaultDatabase := by
    rw [fresh_eq, Secret.value?_setValue]
    rfl
  simp only [connection, host?, port, database, Option.bind_some, database_eq,
    others hostKey (by decide) (by decide) (by decide),
    others portKey (by decide) (by decide) (by decide)]
  rfl

/-- What is declared of an external database is read back from its secret just as it was declared. The
rest is what could be read from the secret that was there, or what counts without one. -/
theorem declared_connection_is_read_back (external : kc.spec.externalDatabase.enabled = true)
    (password : String) (current : Secret) :
    kc.spec.externalDatabase.Settles { host := none, port := 5432, database := "root" }
        (connection (some (fresh kc password))) ∧
      kc.spec.externalDatabase.Settles (connection (some current))
        (connection (some (refreshed kc password current))) := by
  constructor
  · rw [connection_fresh_external external]
    exact ExternalDatabase.settles_over external (connection none)
  · rw [connection_refreshed_external external]
    exact ExternalDatabase.settles_over external (connection (some current))

/-- A secret with an empty port that hides another one. -/
def hiddenPort : Secret where
  data := some (.ofList [(portKey, []), (databaseKey, Utf8.encode "shop")])
  stringData := some (.ofList [(portKey, "6543")])

/-- A host that is declared comes into it, while its port still counts as none and its database stays. -/
theorem declared_connection_is_read_back_of_hidden_port :
    host? (some (refreshed (foreignDatabase none) "" hiddenPort)) = some "db.example.com" ∧
      port (some (refreshed (foreignDatabase none) "" hiddenPort)) = 5432 ∧
      database (some (refreshed (foreignDatabase none) "" hiddenPort)) = "shop" := by
  have external : (foreignDatabase none).spec.externalDatabase.enabled = true := rfl
  obtain ⟨-, settles⟩ := declared_connection_is_read_back external "" hiddenPort
  have known : connection (some hiddenPort) = { host := none, port := 5432, database := "shop" } := by
    decide +kernel
  rw [known] at settles
  exact ⟨settles.host "db.example.com" rfl (by decide), settles.port_kept rfl,
    settles.database_kept rfl⟩

/-- Writing the secret adds to what is known of the database what is declared of it. -/
theorem connection_written {b : Blueprint} (live : Option Secret) :
    connection (some (Part.written b .databaseSecret live)) =
      b.kc.spec.externalDatabase.over (connection live) := by
  cases enabled : b.kc.spec.externalDatabase.enabled with
  | true =>
    cases live with
    | none => exact connection_fresh_external enabled
    | some current => exact connection_refreshed_external enabled
  | false =>
    rw [ExternalDatabase.over, if_neg (by simp [enabled])]
    cases live with
    | none => exact connection_fresh_embedded enabled
    | some current => exact connection_refreshed_embedded enabled

end DatabaseSecret

/-! ## The server -/

namespace ServerStatefulSet

variable {kc : Keycloak} {secret : Option Secret} {profiles : Profiles}

theorem sets_address (free : ¬ kc.Overrides "DB_ADDR") :
    (container kc secret profiles).Sets (.plain "DB_ADDR" (databaseAddress kc secret)) :=
  container_sets (by simp [managedEnv]) free

theorem sets_port (free : ¬ kc.Overrides "DB_PORT") :
    (container kc secret profiles).Sets
      (.plain "DB_PORT" (Integer.ofInt32 (DatabaseSecret.connection secret).port)) :=
  container_sets (by simp [managedEnv, DatabaseSecret.connection]) free

theorem sets_database (free : ¬ kc.Overrides "DB_DATABASE") :
    (container kc secret profiles).Sets
      (.plain "DB_DATABASE" (DatabaseSecret.connection secret).database) :=
  container_sets (by simp [managedEnv, DatabaseSecret.connection]) free

end ServerStatefulSet

/-! ## Plans -/

/-- A plan creates the object of a part, or updates the one that is there to it. -/
def Plan.Writes (plan : Plan) (part : Part) (x : part.kind.Object) : Prop :=
  ∃ action ∈ plan, action = .create ⟨part.kind, x⟩ ("create " ++ part.title) ∨
    ∃ live, action = .update ⟨part.kind, x⟩ (some live) ("update " ++ part.title)

theorem Part.title_injective : Function.Injective Part.title := by
  have distinct : (Part.all.map Part.title).Nodup := by decide
  intro part other same
  refine List.inj_on_of_nodup_map distinct ?_ ?_ same
  · cases part <;> decide
  · cases other <;> decide

/-- A plan writes the object of a part that is wanted, and no other one for this part. -/
theorem writes_installationPlan_iff {kc : Keycloak} {flags : InstallationFlags}
    {profiles : Profiles} {passwords : FreshPasswords} {state : Snapshot} {part : Part}
    {x : part.kind.Object} (wanted : part.isWanted kc flags = true) :
    (installationPlan kc flags profiles passwords state).Writes part x ↔
      x = part.written ⟨kc, profiles, passwords, state.databaseSecret⟩ (state.found part) := by
  constructor
  · rintro ⟨action, mem, writes⟩
    obtain ⟨other, -, rfl⟩ := List.mem_map.1 mem
    cases found : state.found other with
    | none =>
      rw [Part.action_of_none found] at writes
      rcases writes with created | ⟨live, updated⟩
      · injection created with object_eq msg_eq
        obtain rfl := Part.title_injective (String.append_right_inj _ |>.1 msg_eq)
        cases object_eq
        rw [found]
        rfl
      · cases updated
    | some current =>
      rw [Part.action_of_some found] at writes
      rcases writes with created | ⟨live, updated⟩
      · cases created
      · injection updated with object_eq _ msg_eq
        obtain rfl := Part.title_injective (String.append_right_inj _ |>.1 msg_eq)
        cases object_eq
        rw [found]
        rfl
  · rintro rfl
    refine ⟨_, List.mem_map_of_mem (Part.mem_wanted wanted), ?_⟩
    cases found : state.found part with
    | none => exact .inl (Part.action_of_none found)
    | some live => exact .inr ⟨_, Part.action_of_some found⟩

section Written

variable (kc : Keycloak) (flags : InstallationFlags) (profiles : Profiles)
  (passwords : FreshPasswords) (state : Snapshot)

/-- The database secret of a plan says what has been known of the database and what is declared. -/
theorem exists_secret_planned :
    ∃ secret, (∀ x, (installationPlan kc flags profiles passwords state).Writes .databaseSecret x ↔
        x = secret) ∧
      DatabaseSecret.connection (some secret) =
        kc.spec.externalDatabase.over (DatabaseSecret.connection state.databaseSecret) :=
  ⟨_, fun _ => writes_installationPlan_iff rfl, DatabaseSecret.connection_written _⟩

/-- The stateful set of a plan has one container, which is told what has been known. -/
theorem exists_server_planned :
    ∃ server, (∀ x, (installationPlan kc flags profiles passwords state).Writes .statefulSet x ↔
        x = server) ∧
      StatefulSet.containers server =
        [ServerStatefulSet.container kc state.databaseSecret profiles] :=
  ⟨_, fun _ => writes_installationPlan_iff rfl, ServerStatefulSet.containers_written _⟩

end Written

/-- What is declared is known already, if anything is. -/
theorem eq_getD_iff {α : Type} {known : α} {declared : Option α} :
    known = declared.getD known ↔ ∀ value, declared = some value → known = value := by
  cases declared with
  | none => simp
  | some value => simp

section Planned

variable {kc : Keycloak} {host : String} (external : kc.spec.externalDatabase.enabled = true)
  (declared : kc.spec.externalDatabase.host = some host) (nonempty : host ≠ "")
include external

theorem ExternalDatabase.over_of_enabled (known : Connection) :
    kc.spec.externalDatabase.over known =
      { host := (nonEmpty? kc.spec.externalDatabase.host).or known.host
        port := kc.spec.externalDatabase.port.getD known.port
        database := (kc.spec.externalDatabase.database.map fun declared =>
          (nonEmpty? (some declared)).getD DatabaseSecret.defaultDatabase).getD
            known.database } := by
  rw [ExternalDatabase.over, if_pos external]

theorem databaseAddress_of_external (secret : Option Secret) :
    databaseAddress kc secret =
      (DatabaseSecret.host? secret).getD (databaseServiceName ++ "." ++ kc.ns) := by
  rw [databaseAddress, if_pos external]

include declared nonempty

/-- Where a plan is made from the secret that such a plan has written before, it tells the server what it
writes into the secret. -/
theorem replanned_connection_agrees {flags : InstallationFlags} {profiles : Profiles}
    {passwords : FreshPasswords} {state later : Snapshot} {written : Secret}
    (writes : (installationPlan kc flags profiles passwords state).Writes .databaseSecret written)
    (reads : later.databaseSecret = some written) (later_flags : InstallationFlags)
    (later_profiles : Profiles) (later_passwords : FreshPasswords) :
    ∃ (secret : Secret) (server : StatefulSet) (container : Container),
      (∀ x, (installationPlan kc later_flags later_profiles later_passwords later).Writes
        .databaseSecret x ↔ x = secret) ∧
      (∀ x, (installationPlan kc later_flags later_profiles later_passwords later).Writes
        .statefulSet x ↔ x = server) ∧
      server.containers = [container] ∧ DatabaseSecret.host? (some secret) = some host ∧
      (¬ kc.Overrides "DB_ADDR" → container.Sets (.plain "DB_ADDR" host)) ∧
      (¬ kc.Overrides "DB_PORT" →
        container.Sets (.plain "DB_PORT" (Integer.ofInt32 (DatabaseSecret.port (some secret))))) ∧
      (¬ kc.Overrides "DB_DATABASE" →
        container.Sets (.plain "DB_DATABASE" (DatabaseSecret.database (some secret)))) := by
  obtain ⟨first, first_iff, first_eq⟩ := exists_secret_planned kc flags profiles passwords state
  obtain rfl := (first_iff written).1 writes
  obtain ⟨secret, secret_iff, secret_eq⟩ :=
    exists_secret_planned kc later_flags later_profiles later_passwords later
  obtain ⟨server, server_iff, containers_eq⟩ :=
    exists_server_planned kc later_flags later_profiles later_passwords later
  have same : DatabaseSecret.connection (some secret) =
      DatabaseSecret.connection later.databaseSecret := by
    rw [secret_eq, reads, first_eq, ExternalDatabase.over_over]
  have host_eq : DatabaseSecret.host? (some secret) = some host := by
    rw [ExternalDatabase.over_of_enabled external, declared, nonEmpty?_some nonempty] at secret_eq
    exact congrArg Connection.host secret_eq
  have known_host : DatabaseSecret.host? later.databaseSecret = some host :=
    (congrArg Connection.host same).symm.trans host_eq
  have port_eq : DatabaseSecret.port (some secret) = DatabaseSecret.port later.databaseSecret :=
    congrArg Connection.port same
  have database_eq : DatabaseSecret.database (some secret) =
      DatabaseSecret.database later.databaseSecret := congrArg Connection.database same
  refine ⟨secret, server, _, secret_iff, server_iff, containers_eq, host_eq, fun free => ?_,
    fun free => ?_, fun free => ?_⟩
  · have address_eq : databaseAddress kc later.databaseSecret = host := by
      rw [databaseAddress_of_external external, known_host]
      rfl
    rw [← address_eq]
    exact ServerStatefulSet.sets_address free
  · rw [port_eq]
    exact ServerStatefulSet.sets_port free
  · rw [database_eq]
    exact ServerStatefulSet.sets_database free

/-- A plan for an external database writes what is declared of it into the database secret, but it tells
the server what the secret said before. The two agree just as far as the secret has said already what
is declared. -/
theorem planned_connection_agrees_iff (flags : InstallationFlags) (profiles : Profiles)
    (passwords : FreshPasswords) (state : Snapshot) :
    ∃ (secret : Secret) (server : StatefulSet) (container : Container),
      (∀ x, (installationPlan kc flags profiles passwords state).Writes .databaseSecret x ↔
        x = secret) ∧
      (∀ x, (installationPlan kc flags profiles passwords state).Writes .statefulSet x ↔
        x = server) ∧
      server.containers = [container] ∧ DatabaseSecret.host? (some secret) = some host ∧
      (¬ kc.Overrides "DB_ADDR" →
        (container.Sets (.plain "DB_ADDR" host) ↔
          (DatabaseSecret.host? state.databaseSecret).getD (databaseServiceName ++ "." ++ kc.ns) =
            host)) ∧
      (¬ kc.Overrides "DB_PORT" →
        (container.Sets (.plain "DB_PORT" (Integer.ofInt32 (DatabaseSecret.port (some secret)))) ↔
          ∀ port, kc.spec.externalDatabase.port = some port →
            DatabaseSecret.port state.databaseSecret = port)) ∧
      (¬ kc.Overrides "DB_DATABASE" →
        (container.Sets (.plain "DB_DATABASE" (DatabaseSecret.database (some secret))) ↔
          ∀ database, kc.spec.externalDatabase.database = some database →
            DatabaseSecret.database state.databaseSecret =
              (nonEmpty? (some database)).getD DatabaseSecret.defaultDatabase)) := by
  obtain ⟨secret, secret_iff, connection_eq⟩ :=
    exists_secret_planned kc flags profiles passwords state
  obtain ⟨server, server_iff, containers_eq⟩ :=
    exists_server_planned kc flags profiles passwords state
  rw [ExternalDatabase.over_of_enabled external, declared, nonEmpty?_some nonempty] at connection_eq
  have port_eq : DatabaseSecret.port (some secret) =
      kc.spec.externalDatabase.port.getD (DatabaseSecret.port state.databaseSecret) :=
    congrArg Connection.port connection_eq
  have database_eq : DatabaseSecret.database (some secret) =
      (kc.spec.externalDatabase.database.map fun name =>
        (nonEmpty? (some name)).getD DatabaseSecret.defaultDatabase).getD
          (DatabaseSecret.database state.databaseSecret) :=
    congrArg Connection.database connection_eq
  refine ⟨secret, server, _, secret_iff, server_iff, containers_eq,
    congrArg Connection.host connection_eq, fun free => ?_, fun free => ?_, fun free => ?_⟩
  · rw [← databaseAddress_of_external external]
    exact (ServerStatefulSet.sets_address free).plain_iff
  · rw [(ServerStatefulSet.sets_port free).plain_iff, Integer.ofInt32_inj, port_eq]
    exact eq_getD_iff
  · rw [(ServerStatefulSet.sets_database free).plain_iff, database_eq]
    refine eq_getD_iff.trans ⟨fun known name declared => ?_, fun known value declared => ?_⟩
    · exact known _ (congrArg _ declared)
    · obtain ⟨name, name_eq, rfl⟩ := Option.map_eq_some_iff.1 declared
      exact known name name_eq

end Planned

theorem not_overrides_foreignDatabase (port : Option Int32) (name : String) :
    ¬ (foreignDatabase port).Overrides name := by
  rintro ⟨_, mem, -⟩
  cases mem

/-- Its secret, as it is made while no port is declared. -/
def portlessSecret : Secret := DatabaseSecret.fresh (foreignDatabase none) ""

theorem connection_portlessSecret : DatabaseSecret.connection (some portlessSecret) =
    { host := some "db.example.com", port := 5432, database := "root" } := by
  rw [portlessSecret, DatabaseSecret.connection_fresh_external rfl]
  decide

/-- What is found of the installation later on. -/
def portlessSnapshot : Snapshot := Snapshot.put {} .databaseSecret portlessSecret

/-- When a port is declared then, the next plan tells the server the host, but not the port that it
writes into the secret. -/
theorem new_port_takes_another_plan :
    ∃ (secret : Secret) (server : StatefulSet) (container : Container),
      (installationPlan (foreignDatabase (some 6543)) {} {} ⟨"", ""⟩ portlessSnapshot).Writes
        .databaseSecret secret ∧
      (installationPlan (foreignDatabase (some 6543)) {} {} ⟨"", ""⟩ portlessSnapshot).Writes
        .statefulSet server ∧
      server.containers = [container] ∧ container.Sets (.plain "DB_ADDR" "db.example.com") ∧
      ¬ container.Sets (.plain "DB_PORT" (Integer.ofInt32 (DatabaseSecret.port (some secret)))) := by
  have external : (foreignDatabase (some 6543)).spec.externalDatabase.enabled = true := rfl
  have free := not_overrides_foreignDatabase (some 6543)
  have known : DatabaseSecret.connection portlessSnapshot.databaseSecret =
      { host := some "db.example.com", port := 5432, database := "root" } :=
    connection_portlessSecret
  have host_eq : DatabaseSecret.host? portlessSnapshot.databaseSecret = some "db.example.com" :=
    congrArg Connection.host known
  have port_eq : DatabaseSecret.port portlessSnapshot.databaseSecret = 5432 :=
    congrArg Connection.port known
  obtain ⟨secret, server, container, secret_iff, server_iff, containers_eq, -, address, port, -⟩ :=
    planned_connection_agrees_iff external rfl (by decide) {} {} ⟨"", ""⟩ portlessSnapshot
  refine ⟨secret, server, container, (secret_iff _).2 rfl, (server_iff _).2 rfl, containers_eq,
    (address (free _)).2 (by rw [host_eq]; rfl), fun told => ?_⟩
  have same := (port (free _)).1 told 6543 rfl
  rw [port_eq] at same
  exact absurd same (by decide)

/-- The first plan for such an installation tells the server the host of an embedded database, which
nobody sets up, while it writes the declared host into the secret. -/
theorem first_plan_misses_declared_host :
    ∃ (secret : Secret) (server : StatefulSet) (container : Container),
      (installationPlan (foreignDatabase none) {} {} ⟨"", ""⟩ {}).Writes .databaseSecret secret ∧
      (installationPlan (foreignDatabase none) {} {} ⟨"", ""⟩ {}).Writes .statefulSet server ∧
      server.containers = [container] ∧ ¬ (foreignDatabase none).Overrides "DB_ADDR" ∧
      DatabaseSecret.host? (some secret) = some "db.example.com" ∧
      container.Sets (.plain "DB_ADDR" "keycloak-postgresql.default") ∧
      ¬ container.Sets (.plain "DB_ADDR" "db.example.com") := by
  have free := not_overrides_foreignDatabase none "DB_ADDR"
  obtain ⟨secret, secret_iff, secret_eq⟩ :=
    exists_secret_planned (foreignDatabase none) {} {} ⟨"", ""⟩ {}
  obtain ⟨server, server_iff, containers_eq⟩ :=
    exists_server_planned (foreignDatabase none) {} {} ⟨"", ""⟩ {}
  have sets : (ServerStatefulSet.container (foreignDatabase none) none {}).Sets
      (.plain "DB_ADDR" "keycloak-postgresql.default") := ServerStatefulSet.sets_address free
  refine ⟨secret, server, _, (secret_iff _).2 rfl, (server_iff _).2 rfl, containers_eq, free,
    congrArg Connection.host secret_eq, sets, fun told => ?_⟩
  exact absurd (sets.plain_iff.1 told) (by decide)

end IdentityOperator
