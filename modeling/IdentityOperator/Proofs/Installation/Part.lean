import IdentityOperator.Installation.Plan
import IdentityOperator.Proofs.Installation.Credentials
import IdentityOperator.Proofs.Store

/-!
What the parts of an installation have in common.

Parts are built from what is declared about an installation, never from what is reported about it
(`Keycloak.declaration`). Each part has a place of its own, and neither building nor refreshing moves
an object to another place. What a part's object looks like after a pass is `Part.written`; for every
part but the stateful set a second pass makes nothing else of it, and the stateful set follows as soon
as the database secret no longer changes (`Part.refreshed_written`,
`Part.refreshed_written_statefulSet`).
-/

namespace IdentityOperator

/-! ## Declarations -/

/-- What the objects of an installation depend on: who it is and what is declared about it. -/
def Keycloak.declaration (kc : Keycloak) : Keycloak where
  metadata := { name := some kc.name, ns := some kc.ns, uid := kc.metadata.uid }
  spec := kc.spec

@[simp] theorem Keycloak.declaration_declaration (kc : Keycloak) :
    kc.declaration.declaration = kc.declaration := rfl

namespace Part

@[simp] theorem key_declaration (kc : Keycloak) (part : Part) :
    part.key kc.declaration = part.key kc := by
  cases part <;> rfl

theorem key_congr {kc other : Keycloak} (same : kc.declaration = other.declaration) (part : Part) :
    part.key kc = part.key other := by
  rw [← key_declaration, same, key_declaration]

@[simp] theorem isWanted_declaration (kc : Keycloak) (flags : InstallationFlags) (part : Part) :
    part.isWanted kc.declaration flags = part.isWanted kc flags := by
  cases part <;> rfl

theorem wanted_declaration (kc : Keycloak) (flags : InstallationFlags) :
    wanted kc.declaration flags = wanted kc flags := by
  simp [wanted, funext (isWanted_declaration kc flags)]

theorem wanted_congr {kc other : Keycloak} (same : kc.declaration = other.declaration)
    (flags : InstallationFlags) : wanted kc flags = wanted other flags := by
  rw [← wanted_declaration, same, wanted_declaration]

theorem mem_wanted {kc : Keycloak} {flags : InstallationFlags} {part : Part}
    (isWanted : part.isWanted kc flags = true) : part ∈ wanted kc flags := by
  refine List.mem_filter.2 ⟨?_, isWanted⟩
  cases part <;> decide

theorem nodup_wanted (kc : Keycloak) (flags : InstallationFlags) : (wanted kc flags).Nodup :=
  List.Pairwise.filter _ (by decide)

/-- A pass looks for every part that it may have to write. -/
theorem isRead_of_isWanted {kc : Keycloak} {flags : InstallationFlags} {part : Part}
    (isWanted : part.isWanted kc flags = true) : part.isRead kc flags = true := by
  cases part <;> simp_all [Part.isWanted, isRead]

/-! ## Places -/

theorem key_fresh (b : Blueprint) (part : Part) :
    (⟨part.kind, part.fresh b⟩ : Object).key = part.key b.kc := by
  cases part <;> rfl

theorem key_refreshed (b : Blueprint) (part : Part) (live : part.kind.Object) :
    (⟨part.kind, part.refreshed b live⟩ : Object).key = (⟨part.kind, live⟩ : Object).key := by
  cases part with
  | adminSecret =>
    exact congrArg ObjectMeta.key (AdminSecret.metadata_refreshed b.passwords.admin live)
  | databaseSecret =>
    exact congrArg ObjectMeta.key (DatabaseSecret.metadata_refreshed b.kc b.passwords.database live)
  | _ => rfl

/-- The administrator's secret is never taken for the database secret, whatever the installation is
called. -/
theorem adminSecret_name_ne (kc : Keycloak) : AdminSecret.name kc ≠ DatabaseSecret.name := by
  intro same
  have first := congrArg (fun name => name.toList.head?) same
  simp [AdminSecret.name, DatabaseSecret.name] at first

/-- Different parts are at different places. -/
theorem eq_of_place {kc : Keycloak} {part other : Part} (kind_eq : part.kind = other.kind)
    (key_eq : part.key kc = other.key kc) : part = other := by
  have admin_ne := adminSecret_name_ne kc
  cases part <;> cases other <;> first
    | rfl
    | cases kind_eq
  all_goals
    have name_eq := congrArg ObjectKey.name key_eq
    simp_all [key, Keycloak.keyOf, AdminSecret.key, DatabaseSecret.key, DatabaseService.key,
      ServerService.key, DiscoveryService.key, databaseServiceName, applicationName,
      discoveryServiceName, eq_comm]

end Part

/-! ## Snapshots -/

namespace Snapshot

@[simp] theorem found_put_self (state : Snapshot) (part : Part) (object : part.kind.Object) :
    (state.put part object).found part = some object := by
  simp [put]

theorem found_put_of_ne (state : Snapshot) {part other : Part} (object : part.kind.Object)
    (differs : other ≠ part) : (state.put part object).found other = state.found other := by
  simp [put, differs.symm]

/-- What a snapshot has of an installation is at the places of its parts. -/
def InPlace (state : Snapshot) (kc : Keycloak) : Prop :=
  ∀ part x, state.found part = some x → (⟨part.kind, x⟩ : Object).key = part.key kc

end Snapshot

/-! ## After a pass -/

namespace Part

/-- The object of a part as a pass writes it, given the one that the pass found. -/
def written (b : Blueprint) (part : Part) : Option part.kind.Object → part.kind.Object
  | none => part.fresh b
  | some live => part.refreshed b live

theorem written_declaration (b : Blueprint) (part : Part) (live : Option part.kind.Object) :
    part.written { b with kc := b.kc.declaration } live = part.written b live := by
  cases live <;> cases part <;> rfl

theorem key_written {b : Blueprint} {part : Part} {live : Option part.kind.Object}
    (found : ∀ x, live = some x → (⟨part.kind, x⟩ : Object).key = part.key b.kc) :
    (⟨part.kind, part.written b live⟩ : Object).key = part.key b.kc := by
  cases live with
  | none => exact key_fresh b part
  | some x => exact (key_refreshed b part x).trans (found x rfl)

end Part

/-- The object of a part as a pass writes it that has found what the snapshot says. -/
def Blueprint.object (b : Blueprint) (state : Snapshot) (part : Part) : Object :=
  ⟨part.kind, part.written b (state.found part)⟩

/-- All objects that a pass writes. -/
def Blueprint.objects (b : Blueprint) (flags : InstallationFlags) (state : Snapshot) :
    List Object :=
  (Part.wanted b.kc flags).map (b.object state)

theorem Blueprint.objects_declaration (b : Blueprint) (flags : InstallationFlags)
    (state : Snapshot) :
    ({ b with kc := b.kc.declaration } : Blueprint).objects flags state = b.objects flags state := by
  rw [objects, objects, Part.wanted_declaration]
  refine List.map_congr_left fun part _ => ?_
  rw [object, object, Part.written_declaration]

/-- What is missing is created. -/
theorem Part.action_of_none {b : Blueprint} {state : Snapshot} {part : Part}
    (missing : state.found part = none) :
    part.action b state = .create ⟨part.kind, part.fresh b⟩ ("create " ++ part.title) := by
  unfold action
  rw [missing]

/-- What is there is updated. -/
theorem Part.action_of_some {b : Blueprint} {state : Snapshot} {part : Part}
    {live : part.kind.Object} (found : state.found part = some live) :
    part.action b state = .update ⟨part.kind, part.refreshed b live⟩ (some ⟨part.kind, live⟩)
      ("update " ++ part.title) := by
  unfold action
  rw [found]

theorem Part.written?_action (b : Blueprint) (state : Snapshot) (part : Part) :
    (part.action b state).written? = some (b.object state part) := by
  unfold Part.action Blueprint.object
  split
  · next missing => rw [missing]; rfl
  · next live found => rw [found]; rfl

theorem Blueprint.filterMap_written? (b : Blueprint) (state : Snapshot) (parts : List Part) :
    (parts.map (Part.action b state)).filterMap Action.written? = parts.map (b.object state) := by
  have same : Action.written? ∘ Part.action b state = some ∘ b.object state :=
    funext (Part.written?_action b state)
  rw [List.filterMap_map, same, List.filterMap_eq_map]

theorem Blueprint.key_object {b : Blueprint} {state : Snapshot} (in_place : state.InPlace b.kc)
    (part : Part) : (b.object state part).key = part.key b.kc :=
  Part.key_written (in_place part)

theorem Blueprint.isAt_object {b : Blueprint} {state : Snapshot} (in_place : state.InPlace b.kc)
    {part other : Part} (differs : part ≠ other) :
    Store.isAt part.kind (part.key b.kc) (b.object state other) = false := by
  rw [← Bool.not_eq_true, Store.isAt_iff]
  rintro ⟨kind_eq, key_eq⟩
  rw [key_object in_place] at key_eq
  exact differs (Part.eq_of_place kind_eq.symm key_eq.symm)

/-- The objects of different parts have different places. -/
theorem Blueprint.distinctPlaces_map {b : Blueprint} {state : Snapshot}
    (in_place : state.InPlace b.kc) {parts : List Part} (nodup : parts.Nodup) :
    Store.DistinctPlaces (parts.map (b.object state)) := by
  refine List.pairwise_map.2 (nodup.imp fun {part other} differs => ?_)
  show Store.isAt part.kind (b.object state part).key _ = false
  rw [key_object in_place]
  exact isAt_object in_place differs

theorem Blueprint.distinctPlaces_objects {b : Blueprint} {state : Snapshot}
    (in_place : state.InPlace b.kc) (flags : InstallationFlags) :
    Store.DistinctPlaces (b.objects flags state) :=
  distinctPlaces_map in_place (Part.nodup_wanted b.kc flags)

/-- There is a password for each secret that lacks one. -/
structure Blueprint.Suffices (b : Blueprint) (state : Snapshot) : Prop where
  admin : state.needsAdminPassword = true → b.passwords.admin ≠ ""
  database : state.needsDatabasePassword b.kc = true → b.passwords.database ≠ ""

section Written

variable {b later : Blueprint} {state : Snapshot}

theorem AdminSecret.complete_written (enough : b.Suffices state) :
    Complete (Part.written b .adminSecret (state.found .adminSecret)) := by
  have made := enough.admin
  unfold Snapshot.needsAdminPassword at made
  cases live : state.found .adminSecret with
  | none => exact complete_fresh b.kc (made (by rw [live]; rfl))
  | some current =>
    rw [live] at made
    exact complete_refreshed made

theorem DatabaseSecret.settled_written (enough : b.Suffices state) :
    Settled b.kc (Part.written b .databaseSecret (state.found .databaseSecret)) := by
  have made := enough.database
  unfold Snapshot.needsDatabasePassword Snapshot.databaseSecret at made
  cases live : state.found .databaseSecret with
  | none =>
    rw [live] at made
    exact settled_fresh made
  | some current =>
    rw [live] at made
    exact settled_refreshed made

theorem DatabaseClaim.refreshed_written (live : Option PersistentVolumeClaim) :
    DatabaseClaim.refreshed (Part.written b .databaseClaim live) =
      Part.written b .databaseClaim live := by
  cases live with
  | none =>
    show DatabaseClaim.refreshed (DatabaseClaim.fresh b.kc) = DatabaseClaim.fresh b.kc
    simp [DatabaseClaim.refreshed, DatabaseClaim.fresh, Keycloak.ownedMeta, TextMap.union_self]
  | some current =>
    show DatabaseClaim.refreshed (DatabaseClaim.refreshed current) = DatabaseClaim.refreshed current
    simp [DatabaseClaim.refreshed, TextMap.union_union]

theorem ServerIngress.refreshed_written (live : Option Ingress) :
    ServerIngress.refreshed b.kc (Part.written b .ingress live) =
      Part.written b .ingress live := by
  cases live with
  | none => rfl
  | some current => rfl

/-- A second pass over the same declaration makes nothing else of what a pass has written; only the
stateful set depends on something that the first pass may have been changing. -/
theorem Part.refreshed_written {part : Part} (kc_eq : later.kc = b.kc)
    (enough : b.Suffices state) (part_ne : part ≠ .statefulSet) :
    part.refreshed later (part.written b (state.found part)) =
      part.written b (state.found part) := by
  obtain ⟨kc, profiles, passwords, secret⟩ := later
  cases kc_eq
  cases part with
  | adminSecret =>
    exact AdminSecret.refreshed_of_complete (AdminSecret.complete_written enough) _
  | databaseSecret =>
    exact DatabaseSecret.refreshed_of_settled (DatabaseSecret.settled_written enough) _
  | databaseClaim => exact DatabaseClaim.refreshed_written (state.found .databaseClaim)
  | ingress => exact ServerIngress.refreshed_written (state.found .ingress)
  | statefulSet => exact absurd rfl part_ne
  | databaseDeployment =>
    cases state.found .databaseDeployment with
    | none => rfl
    | some current =>
      obtain ⟨metadata, spec, status⟩ := current
      cases spec <;> rfl
  | prometheusRule => cases state.found .prometheusRule <;> rfl
  | serviceMonitor => cases state.found .serviceMonitor <;> rfl
  | grafanaDashboard => cases state.found .grafanaDashboard <;> rfl
  | databaseService => cases state.found .databaseService <;> rfl
  | probes => cases state.found .probes <;> rfl
  | service => cases state.found .service <;> rfl
  | discoveryService => cases state.found .discoveryService <;> rfl
  | disruptionBudget => cases state.found .disruptionBudget <;> rfl
  | route => cases state.found .route <;> rfl

/-- The stateful set has a specification from the first pass on. -/
theorem ServerStatefulSet.isSome_spec_written (live : Option StatefulSet) :
    (StatefulSet.spec (Part.written b .statefulSet live)).isSome := by
  cases live <;> rfl

/-- A stateful set with a specification is the same after a second pass that finds the same database
secret. -/
theorem ServerStatefulSet.refreshed_refreshed {live : StatefulSet} (kc_eq : later.kc = b.kc)
    (profiles_eq : later.profiles = b.profiles)
    (secret_eq : later.databaseSecret = b.databaseSecret) (present : live.spec.isSome) :
    Part.refreshed later .statefulSet (Part.refreshed b .statefulSet live) =
      Part.refreshed b .statefulSet live := by
  obtain ⟨kc, profiles, passwords, secret⟩ := later
  cases kc_eq
  cases profiles_eq
  cases secret_eq
  obtain ⟨spec, spec_eq⟩ := Option.isSome_iff_exists.1 present
  obtain ⟨metadata, _, status⟩ := live
  cases spec_eq
  rfl

end Written

end IdentityOperator
