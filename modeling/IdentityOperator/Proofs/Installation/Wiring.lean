import IdentityOperator.Proofs.Installation.DatabaseHistory
import IdentityOperator.Proofs.Installation.Readiness

/-!
The stateful set of an installation in a store that only its passes write to.

The selector of a stateful set is kept from its creation, while each pass renews its number of pods and
its template, and the services are renewed before it. After any number of passes, whole ones and ones
that were given up, over declarations that may have been edited in between, all of this fits together:
the stateful set and both services select pods by labels that the pods have, a variable is not set twice
in a container, and whatever volume a container mounts the pod has (`Pass.stored_server_is_wired`).

A new stateful set asks for one pod at least, and one that is there for as many as are declared. Nothing
keeps this number from being negative.
-/

namespace IdentityOperator

/-! ## What fits together -/

namespace PodSpec

/-- The containers of a pod, with those that run first. -/
def allContainers (pod : PodSpec) : List Container := pod.containers ++ pod.initContainers.getD []

/-- No container sets a variable twice or mounts a volume that the pod does not have. -/
structure IsConsistent (pod : PodSpec) : Prop where
  names_distinct : ∀ container ∈ pod.allContainers,
    ((container.env.getD []).map EnvVar.name).Nodup
  volumes_known : ∀ container ∈ pod.allContainers, ∀ mount ∈ container.volumeMounts.getD [],
    ∃ volume ∈ pod.volumes.getD [], volume.name = mount.name

end PodSpec

/-- The pods of a template have these labels, maybe among others. -/
def PodTemplate.HasLabels (template : PodTemplate) (labels : TextMap String) : Prop :=
  ∃ own, template.metadata.bind (·.labels) = some own ∧
    ∀ entry ∈ labels.toList, own.get? entry.1 = some entry.2

/-- The pods of a stateful set are found by the stateful set itself and by both services that the store
has in its namespace, and are consistent. -/
structure Store.Wires (store : Store) (ns : String) (spec : StatefulSetSpec) : Prop where
  selects : ∃ labels, spec.selector = { matchLabels := some labels } ∧
    spec.template.HasLabels labels
  services_select : ∀ name ∈ [applicationName, discoveryServiceName], ∃ service labels,
    store.find? .service ⟨name, ns⟩ = some service ∧
      service.spec.bind (·.selector) = some labels ∧ spec.template.HasLabels labels
  consistent : ∃ pod, spec.template.spec = some pod ∧ pod.IsConsistent

/-! ## Templates -/

namespace ServerStatefulSet

variable {kc : Keycloak} {secret : Option Secret} {profiles : Profiles}

theorem hasLabels_template : (template kc secret profiles).HasLabels podSelector :=
  ⟨podSelector.union appLabels, rfl, by decide +kernel⟩

theorem volume_of_mem_volumeMounts :
    ∀ mount ∈ volumeMounts, ∃ volume ∈ volumes, volume.name = mount.name := by
  simp [volumeMounts, volumes]

/-- The pods are consistent, whatever is declared. -/
theorem exists_pod_template :
    ∃ pod, (template kc secret profiles).spec = some pod ∧ pod.IsConsistent := by
  have init : ∀ container ∈ (initContainers kc profiles).getD [],
      ((container.env.getD []).map EnvVar.name).Nodup ∧
        ∀ mount ∈ container.volumeMounts.getD [], mount.name = extensionsVolume := by
    intro container mem
    unfold initContainers at mem
    split at mem
    · cases mem
    · cases List.mem_singleton.1 mem
      exact ⟨List.nodup_singleton _, by simp⟩
  refine ⟨_, rfl, fun found mem => ?_, fun found mem mount mounted => ?_⟩
  · rcases List.mem_append.1 mem with mem | mem
    · cases List.mem_singleton.1 mem
      exact nodup_serverEnv kc secret
    · exact (init found mem).1
  · rcases List.mem_append.1 mem with mem | mem
    · cases List.mem_singleton.1 mem
      exact volume_of_mem_volumeMounts mount mounted
    · rw [(init found mem).2 mount mounted]
      simp [volumes]

end ServerStatefulSet

/-! ## What passes leave -/

theorem one_le_sanitizeReplicas (instances : Int32) : 1 ≤ sanitizeReplicas instances true := by
  unfold sanitizeReplicas
  split
  · exact Int32.le_refl 1
  · next enough => exact Int32.not_lt.1 fun few => enough ⟨rfl, few⟩

/-- A stateful set as passes over such declarations leave it: with the selector of a new one, a template
from some declaration, and a negative number of pods only if it has been declared. -/
structure StatefulSet.IsLeftBy (declared : List Keycloak) (server : StatefulSet) : Prop where
  exists_spec : ∃ (spec : StatefulSetSpec) (kc : Keycloak) (secret : Option Secret)
    (profiles : Profiles), server.spec = some spec ∧
      spec.selector = { matchLabels := some podSelector } ∧
      spec.template = ServerStatefulSet.template kc secret profiles
  declared_of_negative : server.wantedReplicas < 0 →
    ∃ kc ∈ declared, server.wantedReplicas = kc.spec.instances

/-- Both services are there and select the pods of an installation. -/
def Store.HasServices (store : Store) (ns : String) : Prop :=
  ∀ name ∈ [applicationName, discoveryServiceName], ∃ service,
    store.find? .service ⟨name, ns⟩ = some service ∧
      service.spec.bind (·.selector) = some podSelector

/-- With both services the pods of a stateful set that passes have left are wired. -/
theorem StatefulSet.IsLeftBy.exists_wired {store : Store} {ns : String} {declared : List Keycloak}
    {server : StatefulSet} (left : server.IsLeftBy declared) (services : store.HasServices ns) :
    ∃ spec, server.spec = some spec ∧ store.Wires ns spec := by
  obtain ⟨spec, kc, secret, profiles, spec_eq, selector_eq, template_eq⟩ := left.exists_spec
  have labelled : spec.template.HasLabels podSelector := by
    rw [template_eq]
    exact ServerStatefulSet.hasLabels_template
  refine ⟨spec, spec_eq, ⟨podSelector, selector_eq, labelled⟩, fun name mem => ?_, ?_⟩
  · obtain ⟨service, found, selector⟩ := services name mem
    exact ⟨service, podSelector, found, selector, labelled⟩
  · rw [template_eq]
    exact ServerStatefulSet.exists_pod_template

/-! ## What a pass writes -/

section Written

variable {b : Blueprint} {declared : List Keycloak}

theorem ServerService.selector_written (live : Option Service) :
    (Service.spec (Part.written b .service live)).bind (·.selector) = some podSelector := by
  cases live <;> rfl

theorem DiscoveryService.selector_written (live : Option Service) :
    (Service.spec (Part.written b .discoveryService live)).bind (·.selector) = some podSelector := by
  cases live <;> rfl

namespace ServerStatefulSet

theorem one_le_wantedReplicas_fresh (kc : Keycloak) (secret : Option Secret) (profiles : Profiles) :
    1 ≤ (fresh kc secret profiles).wantedReplicas :=
  one_le_sanitizeReplicas kc.spec.instances

theorem isLeftBy_fresh (kc : Keycloak) (secret : Option Secret) (profiles : Profiles) :
    (fresh kc secret profiles).IsLeftBy declared := by
  refine ⟨⟨_, kc, secret, profiles, rfl, rfl, rfl⟩, fun negative => ?_⟩
  have enough := one_le_wantedReplicas_fresh kc secret profiles
  exact absurd (Int32.lt_of_le_of_lt enough negative) (by decide)

/-- An update keeps the selector, makes the template anew, and asks for the declared number of pods. -/
theorem isLeftBy_refreshed {live : StatefulSet} (left : live.IsLeftBy declared) {kc declarer : Keycloak}
    (declares : declarer.spec = kc.spec) (secret : Option Secret) (profiles : Profiles) :
    (refreshed kc secret profiles live).IsLeftBy (declarer :: declared) ∧
      (refreshed kc secret profiles live).wantedReplicas = declarer.spec.instances := by
  obtain ⟨spec, _, _, _, spec_eq, selector_eq, -⟩ := left.exists_spec
  have wanted_eq : (refreshed kc secret profiles live).wantedReplicas = declarer.spec.instances := by
    rw [wantedReplicas_refreshed, spec_eq, declares]
    rfl
  have refreshed_eq : (refreshed kc secret profiles live).spec =
      some { spec with
        replicas := some (sanitizeReplicas kc.spec.instances false)
        template := template kc secret profiles } := by
    rw [refreshed, spec_eq]
    rfl
  exact ⟨⟨⟨_, kc, secret, profiles, refreshed_eq, selector_eq, rfl⟩,
    fun _ => ⟨declarer, List.mem_cons_self, wanted_eq⟩⟩, wanted_eq⟩

end ServerStatefulSet

end Written

/-! ## Parts in their order -/

namespace Part

/-- What stands before a member of the front of a list is in the front as well. -/
theorem mem_take_of_before {front rest : List Part} {part earlier : Part} {n : Nat}
    (absent : part ∉ front) (mem : part ∈ (front ++ rest).take n) (before : earlier ∈ front) :
    earlier ∈ (front ++ rest).take n := by
  rw [List.take_append] at mem ⊢
  rcases Nat.lt_or_ge n front.length with short | long
  · have nothing : n - front.length = 0 := Nat.sub_eq_zero_of_le short.le
    rw [nothing, List.take_zero, List.append_nil] at mem
    exact absurd (List.mem_of_mem_take mem) absent
  · rw [List.take_of_length_le long]
    exact List.mem_append_left _ before

/-- The services are brought in line before the stateful set. -/
theorem services_mem_take {kc : Keycloak} {flags : InstallationFlags} {n : Nat}
    (mem : .statefulSet ∈ (wanted kc flags).take n) :
    .service ∈ (wanted kc flags).take n ∧ .discoveryService ∈ (wanted kc flags).take n := by
  have wanted_eq : wanted kc flags = (all.take 11).filter (isWanted kc flags) ++
      (all.drop 11).filter (isWanted kc flags) := by
    rw [← List.filter_append, List.take_append_drop, wanted]
  have absent : .statefulSet ∉ (all.take 11).filter (isWanted kc flags) := fun mem =>
    absurd (List.mem_of_mem_filter mem) (by decide)
  rw [wanted_eq] at mem ⊢
  exact ⟨mem_take_of_before absent mem (List.mem_filter.2 ⟨by decide, rfl⟩),
    mem_take_of_before absent mem (List.mem_filter.2 ⟨by decide, rfl⟩)⟩

end Part

namespace Pass

open Program (Run Reaches)

variable {capabilities : Capabilities} {profiles : Profiles} {kc : Keycloak} {place : ObjectKey}
  {start before after store : Store} {earlier declared : List Keycloak} {server : StatefulSet}

/-! ## A pass -/

/-- A pass over an installation that is managed here, to its end or up to any point of it. Calls may
fail. -/
def Attends (kc : Keycloak) (before after : Store) : Prop :=
  kc.spec.unmanaged = false ∧ kc.spec.external.enabled = false ∧
    ∃ capabilities profiles,
      Reaches (Breakable capabilities) (installation profiles kc).run before after

/-- A pass brings some parts in line and leaves the places of the others alone; where it has come to the
stateful set, it has brought both services in line. -/
theorem Attends.exists_parts (attends : Attends kc before after) :
    ∃ (b : Blueprint) (parts : List Part), b.kc.spec = kc.spec ∧
      (.statefulSet ∈ parts → .service ∈ parts ∧ .discoveryService ∈ parts) ∧
      (∀ part ∈ parts, after.find? part.kind (part.key kc) =
        some (part.written b (before.find? part.kind (part.key kc)))) ∧
      ∀ part, part ∉ parts →
        after.find? part.kind (part.key kc) = before.find? part.kind (part.key kc) := by
  obtain ⟨managed, internal, capabilities, profiles, reached⟩ := attends
  rcases reaches_convergeInstallation managed internal (reaches_installation reached) with
    rfl | ⟨b, whole, n, ⟨kc_eq, -, -, -, -⟩, rfl⟩
  · exact ⟨⟨kc, profiles, ⟨"", ""⟩, none⟩, [], rfl, by simp, by simp, fun _ _ => rfl⟩
  · generalize capabilities.installationFlags = flags
    have at_places : Part.AtPlaces b.kc
        (fun part => part.written b (before.find? part.kind (part.key b.kc)))
        ((Part.wanted b.kc flags).take n) := fun part _ =>
      Part.key_written fun _ found => Store.key_of_find? found
    have objects_eq : (b.objects flags (Snapshot.ofStore b.kc before)).take n =
        Part.objects (fun part => part.written b (before.find? part.kind (part.key b.kc)))
          ((Part.wanted b.kc flags).take n) := List.map_take.symm
    have nodup := (Part.nodup_wanted b.kc flags).sublist (List.take_sublist n _)
    have key_eq : ∀ part : Part, part.key kc = part.key b.kc := fun part => by
      rw [kc_eq, Part.key_declaration]
    refine ⟨b, (Part.wanted b.kc flags).take n, by rw [kc_eq]; rfl, Part.services_mem_take,
      fun part mem => ?_, fun part absent => ?_⟩
    · rw [key_eq, ← kc_eq, objects_eq]
      exact at_places.find?_of_mem nodup mem before
    · rw [key_eq, ← kc_eq, objects_eq]
      exact at_places.find?_of_not_mem absent before

/-- A pass that comes to the stateful set leaves both services behind it, and any pass does where they
were before. -/
theorem hasServices_of_parts {b : Blueprint} {parts : List Part}
    (written : ∀ part ∈ parts, after.find? part.kind (part.key kc) =
      some (part.written b (before.find? part.kind (part.key kc))))
    (spared : ∀ part, part ∉ parts →
      after.find? part.kind (part.key kc) = before.find? part.kind (part.key kc))
    (known : before.HasServices kc.ns ∨ .service ∈ parts ∧ .discoveryService ∈ parts) :
    after.HasServices kc.ns := by
  obtain ⟨front, back⟩ : (.service ∉ parts → before.HasServices kc.ns) ∧
      (.discoveryService ∉ parts → before.HasServices kc.ns) := by
    rcases known with known | ⟨front, back⟩
    · exact ⟨fun _ => known, fun _ => known⟩
    · exact ⟨fun absent => absurd front absent, fun absent => absurd back absent⟩
  intro name mem
  simp only [List.mem_cons, List.not_mem_nil, or_false] at mem
  rcases mem with rfl | rfl
  · by_cases mem : .service ∈ parts
    · exact ⟨_, written .service mem, ServerService.selector_written _⟩
    · obtain ⟨service, found, selector⟩ := front mem applicationName (by simp)
      exact ⟨service, (spared .service mem).trans found, selector⟩
  · by_cases mem : .discoveryService ∈ parts
    · exact ⟨_, written .discoveryService mem, DiscoveryService.selector_written _⟩
    · obtain ⟨service, found, selector⟩ := back mem discoveryServiceName (by simp)
      exact ⟨service, (spared .discoveryService mem).trans found, selector⟩

/-- What passes leave of the server of an installation. -/
def LeavesServer (store : Store) (ns : String) (declared : List Keycloak) : Prop :=
  ∀ server : StatefulSet, store.find? .statefulSet ⟨applicationName, ns⟩ = some server →
    server.IsLeftBy declared ∧ store.HasServices ns

/-- A pass after others leaves the server as they do. The number of pods is at least one where it has
created the stateful set, and the declared one where it has updated it. -/
theorem Attends.leavesServer (attends : Attends kc before after)
    (left : LeavesServer before kc.ns earlier)
    (found : after.find? .statefulSet ⟨applicationName, kc.ns⟩ = some server) :
    (server.IsLeftBy (kc :: earlier) ∧ after.HasServices kc.ns) ∧
      (before.find? .statefulSet ⟨applicationName, kc.ns⟩ = none → 1 ≤ server.wantedReplicas) ∧
      ∀ live, before.find? .statefulSet ⟨applicationName, kc.ns⟩ = some live →
        server = live ∨ server.wantedReplicas = kc.spec.instances := by
  obtain ⟨b, parts, spec_eq, together, written, spared⟩ := attends.exists_parts
  by_cases mem : .statefulSet ∈ parts
  · have services := hasServices_of_parts written spared (.inr (together mem))
    have server_eq := Option.some.inj (found.symm.trans (written .statefulSet mem))
    cases live_eq : before.find? .statefulSet ⟨applicationName, kc.ns⟩ with
    | none =>
      have created : server = ServerStatefulSet.fresh b.kc b.databaseSecret b.profiles :=
        server_eq.trans (congrArg (Part.written b .statefulSet) live_eq)
      rw [created]
      exact ⟨⟨ServerStatefulSet.isLeftBy_fresh _ _ _, services⟩,
        fun _ => ServerStatefulSet.one_le_wantedReplicas_fresh _ _ _,
        fun live impossible => by cases impossible⟩
    | some live =>
      have updated : server = ServerStatefulSet.refreshed b.kc b.databaseSecret b.profiles live :=
        server_eq.trans (congrArg (Part.written b .statefulSet) live_eq)
      obtain ⟨is_left, wanted_eq⟩ := ServerStatefulSet.isLeftBy_refreshed (left live live_eq).1
        spec_eq.symm b.databaseSecret b.profiles
      rw [updated]
      exact ⟨⟨is_left, services⟩, fun impossible => by (cases impossible), fun _ _ => .inr wanted_eq⟩
  · have live_eq := (spared .statefulSet mem).symm.trans found
    obtain ⟨⟨exists_spec, declared_of_negative⟩, services⟩ := left server live_eq
    refine ⟨⟨⟨exists_spec, fun negative => ?_⟩, hasServices_of_parts written spared (.inl services)⟩,
      fun missing => ?_, fun live same => .inl (Option.some.inj (live_eq.symm.trans same))⟩
    · obtain ⟨declarer, declared, wanted_eq⟩ := declared_of_negative negative
      exact ⟨declarer, List.mem_cons_of_mem _ declared, wanted_eq⟩
    · cases missing.symm.trans live_eq

/-! ## Many passes -/

/-- Passes over one installation with what has been declared for each of them, the last one in front.
Nothing else writes to the store. -/
inductive Attended (place : ObjectKey) (start : Store) : List Keycloak → Store → Prop
  | start : Attended place start [] start
  | pass {earlier : List Keycloak} {before after : Store} {kc : Keycloak} :
    Attended place start earlier before → kc.metadata.key = place → Attends kc before after →
    Attended place start (kc :: earlier) after

theorem Attended.leavesServer (attended : Attended place start declared store)
    (no_server : start.find? .statefulSet ⟨applicationName, place.ns⟩ = none) :
    LeavesServer store place.ns declared := by
  induction attended with
  | start =>
    intro server found
    cases no_server.symm.trans found
  | pass attended kc_place attends ih =>
    intro server found
    cases kc_place
    exact (attends.leavesServer ih found).1

/-- After passes over an installation that had no stateful set, the one that it has is wired. The pass
that has created it asks for one pod at least, one that has updated it for as many as are declared, and
so the number of pods is negative only if that has been declared. -/
theorem stored_server_is_wired
    (no_server : start.find? .statefulSet ⟨applicationName, place.ns⟩ = none)
    (attended : Attended place start earlier before) (kc_place : kc.metadata.key = place)
    (attends : Attends kc before after)
    (found : after.find? .statefulSet ⟨applicationName, place.ns⟩ = some server) :
    (∃ spec, server.spec = some spec ∧ after.Wires place.ns spec) ∧
      (before.find? .statefulSet ⟨applicationName, place.ns⟩ = none → 1 ≤ server.wantedReplicas) ∧
      (∀ live, before.find? .statefulSet ⟨applicationName, place.ns⟩ = some live →
        server = live ∨ server.wantedReplicas = kc.spec.instances) ∧
      (server.wantedReplicas < 0 →
        ∃ declarer ∈ kc :: earlier, server.wantedReplicas = declarer.spec.instances) := by
  cases kc_place
  obtain ⟨⟨left, services⟩, created, updated⟩ :=
    attends.leavesServer (attended.leavesServer no_server) found
  exact ⟨left.exists_wired services, created, updated, left.declared_of_negative⟩

/-- An installation of so many pods. -/
def scaledTo (instances : Int32) : Keycloak where
  spec := { instances }

/-- A pass may succeed, and if it finds a stateful set then, it asks for the declared number of pods. -/
theorem exists_attends (instances : Int32) (before : Store) :
    ∃ (after : Store) (server : StatefulSet), Attends (scaledTo instances) before after ∧
      after.find? .statefulSet ⟨applicationName, "default"⟩ = some server ∧
      ∀ live : StatefulSet, before.find? .statefulSet ⟨applicationName, "default"⟩ = some live →
        live.spec.isNone = false → server.wantedReplicas = instances := by
  have managed : (scaledTo instances).spec.unmanaged = false := rfl
  have internal : (scaledTo instances).spec.external.enabled = false := rfl
  obtain ⟨events, requeue, after, run⟩ := exists_run_installation_ok {} {} managed internal before
  have step := effect_or_unchanged run
  rw [if_pos (by simp [Keycloak.isApplied, managed, internal])] at step
  obtain ⟨b, effect⟩ := step
  have same : (scaledTo instances).declaration = (scaledTo instances).declaration.declaration := rfl
  have found := effect.find?_eq same .statefulSet rfl
  have breakable : Run (Breakable {}) (installation {} (scaledTo instances)).run before events
      (.ok requeue) after := run.mono fun _ _ _ _ => .inl
  refine ⟨after, _, ⟨managed, internal, {}, {}, breakable.reaches⟩, found,
    fun live live_eq present => ?_⟩
  have updated : Part.written b .statefulSet
      ((Snapshot.ofStore (scaledTo instances).declaration before).found .statefulSet) =
        ServerStatefulSet.refreshed b.kc b.databaseSecret b.profiles live :=
    congrArg (Part.written b .statefulSet) live_eq
  rw [updated, ServerStatefulSet.wantedReplicas_refreshed, present, effect.kc_eq]
  rfl

/-- An installation that is scaled down to nothing stays wired. -/
theorem scaled_down_server_is_wired :
    ∃ (before after : Store) (server : StatefulSet),
      Attended ⟨"", "default"⟩ {} [scaledTo 1] before ∧ Attends (scaledTo 0) before after ∧
      after.find? .statefulSet ⟨applicationName, "default"⟩ = some server ∧
      (∃ spec, server.spec = some spec ∧ after.Wires "default" spec) ∧
      0 ≤ server.wantedReplicas := by
  obtain ⟨before, -, first, -, -⟩ := exists_attends 1 {}
  obtain ⟨after, server, second, found, -⟩ := exists_attends 0 before
  have attended : Attended ⟨"", "default"⟩ {} [scaledTo 1] before := .pass .start rfl first
  obtain ⟨wired, -, -, declared⟩ := stored_server_is_wired rfl attended rfl second found
  refine ⟨before, after, server, attended, second, found, wired, Int32.not_lt.1 fun negative => ?_⟩
  obtain ⟨declarer, mem, wanted_eq⟩ := declared negative
  rw [wanted_eq] at negative
  simp only [List.mem_cons, List.not_mem_nil, or_false] at mem
  rcases mem with rfl | rfl
  · exact absurd negative (by decide)
  · exact absurd negative (by decide)

/-- A negative number of pods is written, once there is a stateful set. -/
theorem negative_replicas_are_stored :
    ∃ (before after : Store) (server : StatefulSet),
      Attended ⟨"", "default"⟩ {} [scaledTo 1] before ∧ Attends (scaledTo (-2)) before after ∧
      after.find? .statefulSet ⟨applicationName, "default"⟩ = some server ∧
      server.wantedReplicas = -2 := by
  obtain ⟨before, live, first, live_eq, -⟩ := exists_attends 1 {}
  obtain ⟨after, server, second, found, updated⟩ := exists_attends (-2) before
  have attended : Attended ⟨"", "default"⟩ {} [scaledTo 1] before := .pass .start rfl first
  obtain ⟨spec, _, _, _, spec_eq, -⟩ := ((attended.leavesServer rfl) live live_eq).1.exists_spec
  have present : live.spec.isNone = false := by
    rw [spec_eq]
    rfl
  exact ⟨before, after, server, attended, second, found, updated live live_eq present⟩

end Pass

end IdentityOperator
