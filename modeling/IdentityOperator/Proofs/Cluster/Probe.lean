import IdentityOperator.Pass.WireWorld
import IdentityOperator.Proofs.Installation.Readiness

/-!
The flags over a course of settings and probes.

A flag is set by itself, or by a probe, which sets the four of `Discovery.probed` by the groups that it
has discovered and none of them if it fails. `CapabilityChange.Tells` is what one change says about a
flag, and a flag is what has been said about it last (`Capabilities.lookup_after_iff`). By the flags of
then a pass reads and plans.
-/

namespace IdentityOperator

/-! ## What is discovered -/

/-- The kind is among those of the version by which the group counts. -/
def DiscoveredGroup.Lists (group : DiscoveredGroup) (kind : String) : Prop :=
  ∃ version kinds, group.recommended? = some version ∧
    group.versions.find? (·.1 = version) = some (version, kinds) ∧ kind ∈ kinds

theorem DiscoveredGroup.serves_iff {group : DiscoveredGroup} {kind : String} :
    group.serves kind = true ↔ group.Lists kind := by
  unfold serves Lists
  cases group.recommended? with
  | none => simp
  | some version =>
    cases found : group.versions.find? (·.1 = version) with
    | none => simp [found]
    | some entry =>
      obtain rfl : entry.1 = version := by simpa using List.find?_some found
      simp [found, Prod.ext_iff]

namespace Discovery

variable {groups : List DiscoveredGroup} {name kind : String}

/-- Of the groups of that name the last one lists the kind. -/
def Serves (groups : List DiscoveredGroup) (name kind : String) : Prop :=
  ∃ earlier group later, groups = earlier ++ group :: later ∧ group.name = name ∧
    (∀ other ∈ later, other.name ≠ name) ∧ group.Lists kind

theorem served_iff : served groups name kind = true ↔ Serves groups name kind := by
  simp only [served, Option.any_eq_true, List.find?_eq_some_iff_append, DiscoveredGroup.serves_iff]
  constructor
  · rintro ⟨group, ⟨named, later, earlier, reversed, others⟩, lists⟩
    refine ⟨earlier.reverse, group, later.reverse, ?_, by simpa using named, by simpa using others,
      lists⟩
    rw [← List.reverse_reverse groups, reversed]
    simp
  · rintro ⟨earlier, group, later, rfl, named, others, lists⟩
    exact ⟨group, ⟨by simpa using named, later.reverse, earlier.reverse, by simp,
      by simpa using others⟩, lists⟩

/-- The flags by what has been discovered. -/
def flags (groups : List DiscoveredGroup) : List (CapabilityKey × Bool) :=
  probed.map fun (key, name) => (key, served groups name key.kind)

theorem mem_flags_iff {key : CapabilityKey} {value : Bool} :
    (key, value) ∈ flags groups ↔
      ∃ name, (key, name) ∈ probed ∧ (value = true ↔ Serves groups name key.kind) := by
  simp only [flags, List.mem_map, Prod.exists, Prod.mk.injEq, ← served_iff]
  constructor
  · rintro ⟨_, name, mem, rfl, rfl⟩
    exact ⟨name, mem, .rfl⟩
  · rintro ⟨name, mem, same⟩
    exact ⟨key, name, mem, rfl, (Bool.eq_iff_iff.2 same).symm⟩

theorem nodup_flags (groups : List DiscoveredGroup) : ((flags groups).map (·.1)).Nodup := by
  have keys_eq : (flags groups).map (·.1) = probed.map (·.1) := List.map_map
  rw [keys_eq]
  decide

/-- A probe comes to the flags by what it has discovered, and fails only as the discovery does. -/
theorem run_probe {σ : Type} (serve : ApiRequest → σ → ApiResponse × σ) (state : σ) :
    probe.run.run serve state =
      ((Discovery.groups.run.run serve state).1.map flags,
        (Discovery.groups.run.run serve state).2) := by
  have as_map : probe.run = Discovery.groups.run.bind fun found => .done (found.map flags) :=
    ExceptT.run_map _ _
  rw [as_map, Program.run_bind]
  rfl

end Discovery

/-! ## Changes -/

/-- What becomes of the flags. -/
inductive CapabilityChange where
  | set (key : CapabilityKey) (value : Bool)
  | probe (found : ApiOutcome (List DiscoveredGroup))

namespace CapabilityChange

/-- The flags after a change. -/
def apply (capabilities : Capabilities) : CapabilityChange → Capabilities
  | set key value => capabilities.set key value
  | probe found => capabilities.afterProbe (found.map Discovery.flags)

/-- What a change says about a flag: the one that is set has its value, and after a probe that has not
failed each flag that is probed tells whether the kind is served in its group. -/
inductive Tells : CapabilityChange → CapabilityKey → Bool → Prop
  | set (key : CapabilityKey) (value : Bool) : Tells (set key value) key value
  | probe {groups : List DiscoveredGroup} {key : CapabilityKey} {name : String} {value : Bool} :
    (key, name) ∈ Discovery.probed → (value = true ↔ Discovery.Serves groups name key.kind) →
    Tells (probe (.ok groups)) key value

/-- A change says nothing about a flag. -/
def IsSilent (change : CapabilityChange) (key : CapabilityKey) : Prop := ∀ value, ¬ change.Tells key value

variable {key : CapabilityKey} {value : Bool}

theorem tells_set_iff {other : CapabilityKey} {told : Bool} :
    (set other told).Tells key value ↔ other = key ∧ told = value := by
  constructor
  · rintro ⟨⟩
    exact ⟨rfl, rfl⟩
  · rintro ⟨rfl, rfl⟩
    exact .set _ _

theorem tells_probe_iff {groups : List DiscoveredGroup} :
    (probe (.ok groups)).Tells key value ↔ (key, value) ∈ Discovery.flags groups := by
  rw [Discovery.mem_flags_iff]
  constructor
  · rintro ⟨⟩
    exact ⟨_, ‹_›, ‹_›⟩
  · rintro ⟨name, mem, same⟩
    exact .probe mem same

end CapabilityChange

namespace Capabilities

open CapabilityChange (Tells IsSilent)

variable {capabilities : Capabilities} {key : CapabilityKey} {value : Bool}

theorem lookup_set (capabilities : Capabilities) (key other : CapabilityKey) (value : Bool) :
    (capabilities.set key value).lookup other =
      if key = other then some value else capabilities.lookup other := by
  unfold set lookup
  split
  · next same => simp [same]
  · next differs =>
    have kept : ∀ flag : CapabilityKey × Bool,
        (flag.1 ≠ key ∧ flag.1 = other) ↔ flag.1 = other := by
      intro flag
      refine and_iff_right_of_imp fun same => ?_
      exact same ▸ Ne.symm differs
    simp [List.find?_filter, kept, differs]

/-- Of flags that are set one after the other, no two of them the same, each has its value then. -/
theorem lookup_afterProbe_iff {flags : List (CapabilityKey × Bool)}
    (nodup : (flags.map (·.1)).Nodup) :
    (capabilities.afterProbe (.ok flags)).lookup key = some value ↔
      (key, value) ∈ flags ∨ (∀ other, (key, other) ∉ flags) ∧ capabilities.lookup key = some value := by
  induction flags generalizing capabilities with
  | nil => simp [afterProbe]
  | cons flag flags ih =>
    obtain ⟨fresh, nodup⟩ := List.nodup_cons.1 nodup
    rw [afterProbe, List.foldl_cons, ← afterProbe, ih nodup, lookup_set]
    split
    · next same =>
      subst same
      have only_here : ∀ other, (flag.1, other) ∉ flags :=
        fun other mem => fresh (List.mem_map.2 ⟨_, mem, rfl⟩)
      simp [only_here, Prod.ext_iff, eq_comm]
    · next differs => simp [Prod.ext_iff, Ne.symm differs]

/-- After a change a flag is what the change says, or what it was if it says nothing. -/
theorem lookup_apply_iff {change : CapabilityChange} :
    (change.apply capabilities).lookup key = some value ↔
      change.Tells key value ∨ change.IsSilent key ∧ capabilities.lookup key = some value := by
  cases change with
  | set other told =>
    simp only [CapabilityChange.apply, lookup_set, IsSilent, CapabilityChange.tells_set_iff]
    split
    · next same => simp [same]
    · next differs => simp [differs]
  | probe found =>
    cases found with
    | ok groups =>
      simp only [IsSilent, CapabilityChange.tells_probe_iff]
      exact lookup_afterProbe_iff (Discovery.nodup_flags groups)
    | error failure =>
      have silent : (CapabilityChange.probe (.error failure)).IsSilent key := by rintro _ ⟨⟩
      exact ⟨fun kept => .inr ⟨silent, kept⟩, fun told => told.elim (absurd · (silent _)) And.right⟩

theorem lookup_apply_of_isSilent {change : CapabilityChange} (silent : change.IsSilent key) :
    (change.apply capabilities).lookup key = capabilities.lookup key :=
  Option.ext fun value => lookup_apply_iff.trans
    ⟨fun told => (told.resolve_left (silent value)).2, fun same => .inr ⟨silent, same⟩⟩

/-! ## Courses of changes -/

/-- The flags after a course of changes. -/
def after (capabilities : Capabilities) (changes : List CapabilityChange) : Capabilities :=
  changes.foldl CapabilityChange.apply capabilities

/-- A change says so about a flag, and no later one says anything about it. -/
def LastTells (changes : List CapabilityChange) (key : CapabilityKey) (value : Bool) : Prop :=
  ∃ earlier change later, changes = earlier ++ change :: later ∧ change.Tells key value ∧
    ∀ other ∈ later, other.IsSilent key

theorem lastTells_cons_iff {change : CapabilityChange} {changes : List CapabilityChange} :
    LastTells (change :: changes) key value ↔
      LastTells changes key value ∨
        change.Tells key value ∧ ∀ other ∈ changes, other.IsSilent key := by
  constructor
  · rintro ⟨earlier, last, later, split_eq, told, silent⟩
    cases earlier with
    | nil =>
      obtain ⟨rfl, rfl⟩ := List.cons.inj split_eq
      exact .inr ⟨told, silent⟩
    | cons first earlier =>
      obtain ⟨-, rfl⟩ := List.cons.inj split_eq
      exact .inl ⟨earlier, last, later, rfl, told, silent⟩
  · rintro (⟨earlier, last, later, rfl, told, silent⟩ | ⟨told, silent⟩)
    · exact ⟨change :: earlier, last, later, rfl, told, silent⟩
    · exact ⟨[], change, changes, rfl, told, silent⟩

/-- After a course of changes a flag is what has been said last, or what it was if nothing has been
said about it. -/
theorem lookup_after_iff {changes : List CapabilityChange} :
    (capabilities.after changes).lookup key = some value ↔
      LastTells changes key value ∨
        (∀ change ∈ changes, change.IsSilent key) ∧ capabilities.lookup key = some value := by
  induction changes generalizing capabilities with
  | nil => simp [after, LastTells]
  | cons change changes ih =>
    rw [after, List.foldl_cons, ← after, ih, lookup_apply_iff, lastTells_cons_iff,
      List.forall_mem_cons]
    tauto

theorem lookup_after_of_isSilent {changes : List CapabilityChange}
    (silent : ∀ change ∈ changes, change.IsSilent key) :
    (capabilities.after changes).lookup key = capabilities.lookup key := by
  induction changes generalizing capabilities with
  | nil => rfl
  | cons change changes ih =>
    obtain ⟨silent_first, silent⟩ := List.forall_mem_cons.1 silent
    exact (ih silent).trans (lookup_apply_of_isSilent silent_first)

theorem get_eq_true_iff : capabilities.get key = true ↔ capabilities.lookup key = some true := by
  unfold get
  cases capabilities.lookup key <;> simp

end Capabilities

/-! ## Worlds that are probed -/

namespace WireWorld

/-- Only a probe changes the flags, and not by what it asks. -/
theorem capabilities_run {α : Type} (program : Program ApiRequest (fun _ => ApiResponse) α)
    (world : WireWorld) : (program.run serveApi world).2.capabilities = world.capabilities := by
  induction program generalizing world with
  | done result => rfl
  | ask request next ih => exact ih _ _

theorem capabilities_probe (world : WireWorld) :
    world.probe.2.capabilities =
      (CapabilityChange.probe (Discovery.groups.run.run serveApi world).1).apply
        world.capabilities := by
  have kept := capabilities_run Discovery.groups.run world
  simp only [probe, Discovery.run_probe, kept, CapabilityChange.apply]

end WireWorld

/-! ## Gates -/

/-- The gates of an installation, each with the flag that it is. -/
def InstallationFlags.gates (flags : InstallationFlags) : List (CapabilityKey × Bool) := [
  (.prometheusRule, flags.prometheusRule), (.serviceMonitor, flags.serviceMonitor),
  (.grafanaDashboard, flags.grafanaDashboard), (.route, flags.route)]

theorem Capabilities.eq_get_of_mem_gates {capabilities : Capabilities} {key : CapabilityKey}
    {gate : Bool} (mem : (key, gate) ∈ capabilities.installationFlags.gates) :
    gate = capabilities.get key := by
  have gates_eq : capabilities.installationFlags.gates =
      [.prometheusRule, .serviceMonitor, .grafanaDashboard, .route].map
        fun key => (key, capabilities.get key) := rfl
  rw [gates_eq] at mem
  obtain ⟨_, -, pair_eq⟩ := List.mem_map.1 mem
  cases pair_eq
  rfl

namespace Pass

open CapabilityChange (probe set)
open Program (Run)

variable {σ : Type} {env : PassEnvironment σ} {before after : σ} {events : List PassEvent}
  {kc : Keycloak} {result : Tracked Snapshot}

/-- The parts that a pass reads are those that it has to read by the flags. -/
theorem exists_run_readParts {capabilities : Capabilities} (fixed : env.HasFlags capabilities)
    (run : Run env (readSnapshot kc) before events result after) :
    ∃ looked_up middle asked, events = looked_up ++ asked ∧
      (∀ event ∈ looked_up, ∃ key, event.request = .flag key) ∧
      Run env (readParts kc {} (Part.read kc capabilities.installationFlags)) middle asked result
        after := by
  obtain ⟨looked_up, flags, middle, asked, rfl, flags_run, parts_run⟩ := Program.run_bind_iff.1 run
  obtain ⟨rfl, only_flags⟩ := flags_of_run fixed flags_run
  exact ⟨looked_up, middle, asked, rfl, only_flags, parts_run⟩

/-- A probe that fails changes no flag, and one that does not sets its four by what it has discovered
and leaves the others alone. So a flag is what the last change that is about it says, whatever becomes
of other flags in between, and this is what a pass reads and plans by. -/
theorem gates_are_as_last_told (capabilities : Capabilities) :
    (∀ failure, (probe (.error failure)).apply capabilities = capabilities) ∧
    (∀ groups key,
      (∀ name, (key, name) ∈ Discovery.probed → ∃ value,
        ((probe (.ok groups)).apply capabilities).lookup key = some value ∧
        (value = true ↔ Discovery.Serves groups name key.kind)) ∧
      ((∀ name, (key, name) ∉ Discovery.probed) →
        ((probe (.ok groups)).apply capabilities).lookup key = capabilities.lookup key)) ∧
    (∀ world : WireWorld, world.probe.2.capabilities =
      (probe (Discovery.groups.run.run WireWorld.serveApi world).1).apply world.capabilities) ∧
    (∀ key other value, key ≠ other →
      ((set other value).apply capabilities).lookup key = capabilities.lookup key) ∧
    ∀ changes : List CapabilityChange,
      let now := capabilities.after changes
      (∀ key value, now.lookup key = some value ↔
        Capabilities.LastTells changes key value ∨
          (∀ change ∈ changes, change.IsSilent key) ∧ capabilities.lookup key = some value) ∧
      (∀ key, (∀ change ∈ changes, change.IsSilent key) → capabilities.lookup key = none →
        now.get key = false) ∧
      (∀ key gate, (key, gate) ∈ now.installationFlags.gates →
        (gate = true ↔ Capabilities.LastTells changes key true ∨
          (∀ change ∈ changes, change.IsSilent key) ∧ capabilities.lookup key = some true)) ∧
      ∀ {σ : Type} {env : PassEnvironment σ} {before after : σ} {events : List PassEvent}
        {kc : Keycloak}, env.HasFlags now →
        (∀ result, Run env (readSnapshot kc) before events result after →
          ∃ looked_up middle asked, events = looked_up ++ asked ∧
            (∀ event ∈ looked_up, ∃ key, event.request = .flag key) ∧
            Run env (readParts kc {} (Part.read kc now.installationFlags)) middle asked result
              after) ∧
        ∀ profiles state plan,
          Run env (planInstallation profiles kc state) before events plan after →
          ∃ b : Blueprint, b.kc = kc ∧
            plan = (Part.wanted kc now.installationFlags).map (Part.action b state) := by
  refine ⟨fun _ => rfl, fun groups key => ⟨fun name mem => ?_, fun unprobed => ?_⟩,
    WireWorld.capabilities_probe, fun key other value differs => ?_,
    fun changes => ⟨fun _ _ => Capabilities.lookup_after_iff, fun key silent unset => ?_,
    fun key gate mem => ?_,
    fun fixed => ⟨fun _ run => exists_run_readParts fixed run,
    fun _ _ _ run => plan_of_run fixed run⟩⟩⟩
  · exact ⟨_, Capabilities.lookup_apply_iff.2 (.inl (.probe mem Discovery.served_iff)),
      Discovery.served_iff⟩
  · refine Capabilities.lookup_apply_of_isSilent ?_
    rintro _ ⟨⟩
    exact unprobed _ ‹_›
  · refine Capabilities.lookup_apply_of_isSilent fun _ told => ?_
    exact differs (CapabilityChange.tells_set_iff.1 told).1.symm
  · have still_unset := (Capabilities.lookup_after_of_isSilent silent).trans unset
    rw [Capabilities.get, still_unset, Option.getD_none]
  · rw [Capabilities.eq_get_of_mem_gates mem, Capabilities.get_eq_true_iff,
      Capabilities.lookup_after_iff]

/-- A probe finds service monitors, rules only in another version, and no routes, which had been set by
themselves before. A route of another subsystem and a probe that fails change nothing about it: the
installation is read and planned with a service monitor, an ingress, and no rule. -/
theorem gates_after_two_probes :
    let groups : List DiscoveredGroup := [⟨"monitoring.coreos.com", some "v1",
      [("v1", ["ServiceMonitor"]), ("v1alpha1", ["PrometheusRule"])]⟩]
    let changes : List CapabilityChange := [set .prometheusRule true, set .route true,
      probe (.ok groups), set ⟨"other", "Route"⟩ true, probe (.error .unnamed)]
    let now := ({} : Capabilities).after changes
    Capabilities.LastTells changes .serviceMonitor true ∧
      Capabilities.LastTells changes .route false ∧
      Capabilities.LastTells changes .prometheusRule false ∧
      (Reliable now).HasFlags now ∧
      ∃ kc before events plan after,
        Run (Reliable now) (planInstallation {} kc {}) before events plan after ∧
        ∃ b : Blueprint, plan = (Part.wanted kc { serviceMonitor := true }).map (Part.action b {}) := by
  intro groups changes now
  obtain ⟨-, -, -, -, in_course⟩ := gates_are_as_last_told {}
  obtain ⟨lookup_iff, -, -, by_flags⟩ := in_course changes
  have nothing_before : ∀ key value, ¬ (({} : Capabilities).lookup key = some value) := by rintro _ _ ⟨⟩
  have told : ∀ key value, now.lookup key = some value → Capabilities.LastTells changes key value :=
    fun key value found => ((lookup_iff key value).1 found).resolve_right fun none_told =>
      nothing_before key value none_told.2
  have flags_eq : now.installationFlags = { serviceMonitor := true } := by decide
  have fixed := hasFlags_reliable now
  obtain ⟨events, plan, after, run⟩ :=
    Program.exists_run (total_reliable now) (planInstallation {} ({} : Keycloak) {}) {}
  obtain ⟨b, -, plan_eq⟩ := (by_flags fixed).2 _ _ _ run
  exact ⟨told _ _ (by decide), told _ _ (by decide), told _ _ (by decide), fixed, {}, {}, events, plan,
    after, run, b, flags_eq ▸ plan_eq⟩

end Pass

end IdentityOperator
