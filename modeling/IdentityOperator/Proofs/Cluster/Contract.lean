import IdentityOperator.Cluster.Memory
import IdentityOperator.Proofs.Cluster.ServerInMemory

/-!
Calls to a server come to what they come to in memory.

A program of calls about single objects has the same result whether its calls are made to a server
of the cluster's API or to a cluster in memory that has the same objects and serves the same kinds,
and both are left with the same objects (`api_calls_keep_the_contract`). The calls have to be about
objects that requests reach: a name that cannot stand in a path fails before anything is asked.
-/

namespace IdentityOperator

/-! ## Clusters in memory -/

theorem Kind.mem_all (kind : Kind) : kind ∈ all := by
  cases kind <;> decide

theorem Kind.name_inj {kind other : Kind} : kind.name = other.name ↔ kind = other := by
  have ofName?_name : ∀ kind : Kind, ofName? kind.name = some kind := by
    intro kind
    cases kind <;> decide
  refine ⟨fun same => ?_, fun same => by rw [same]⟩
  have found := ofName?_name kind
  rw [same, ofName?_name other] at found
  exact (Option.some.inj found).symm

namespace MemoryCluster

/-- The failure of every call about a kind that is not served. -/
def unservedFault (kind : Kind) : CallFault :=
  { kind := some kind.name, error := .kindNotRegistered kind.name }

/-- The failures of a cluster where only some kinds are served. -/
def unservedFaults (served : Kind → Bool) : List CallFault :=
  (Kind.all.filter fun kind => !served kind).map unservedFault

theorem fits_unservedFault {kind : Kind} {call : ClusterCall} :
    (unservedFault kind).fits call = true ↔ kind = call.kind := by
  simp [CallFault.fits, unservedFault, Kind.name_inj]

theorem find?_unservedFaults_of_served {served : Kind → Bool} {call : ClusterCall}
    (is_served : served call.kind = true) :
    (unservedFaults served).find? (·.fits call) = none := by
  refine List.find?_eq_none.2 fun fault mem fits => ?_
  obtain ⟨kind, kind_mem, rfl⟩ := List.mem_map.1 mem
  have not_served := (List.mem_filter.1 kind_mem).2
  rw [fits_unservedFault.1 fits, is_served] at not_served
  cases not_served

theorem find?_unservedFaults_of_unserved {served : Kind → Bool} {call : ClusterCall}
    (is_unserved : served call.kind = false) :
    (unservedFaults served).find? (·.fits call) = some (unservedFault call.kind) := by
  have mem : unservedFault call.kind ∈ unservedFaults served :=
    List.mem_map_of_mem (List.mem_filter.2 ⟨call.kind.mem_all, by rw [is_unserved]; rfl⟩)
  cases first : (unservedFaults served).find? (·.fits call) with
  | none => exact absurd (fits_unservedFault.2 rfl) (List.find?_eq_none.1 first _ mem)
  | some fault =>
    obtain ⟨kind, -, rfl⟩ := List.mem_map.1 (List.mem_of_find?_eq_some first)
    have fits := List.find?_some first
    rw [fits_unservedFault.1 fits]

/-- One call to a cluster in memory where only some kinds are served. -/
theorem perform_of_faults {served : Kind → Bool} {cluster : MemoryCluster}
    (faults_eq : cluster.faults = unservedFaults served) (call : ClusterCall) :
    (cluster.perform call).1 = (cluster.store.performServed served call).1 ∧
      (cluster.perform call).2.store = (cluster.store.performServed served call).2 ∧
      (cluster.perform call).2.faults = unservedFaults served := by
  rw [perform, faults_eq, Store.performServed]
  cases is_served : served call.kind with
  | true =>
    rw [find?_unservedFaults_of_served is_served]
    exact ⟨rfl, rfl, rfl⟩
  | false =>
    rw [find?_unservedFaults_of_unserved is_served]
    exact ⟨rfl, rfl, rfl⟩

end MemoryCluster

/-! ## Programs -/

/-- Calls one after another, with what each of them comes to. -/
def ClusterCall.inTurn : List ClusterCall →
    Program ClusterCall ClusterCall.Answer (List ((call : ClusterCall) × call.Answer))
  | [] => .done []
  | call :: rest => .ask call fun answer =>
    (inTurn rest).bind fun results => .done (⟨call, answer⟩ :: results)

theorem ClusterCall.only_inTurn {allowed : ClusterCall → Prop} {calls : List ClusterCall}
    (all_allowed : ∀ call ∈ calls, allowed call) : (inTurn calls).Only allowed := by
  induction calls with
  | nil => trivial
  | cons call rest ih =>
    obtain ⟨here, later⟩ := List.forall_mem_cons.1 all_allowed
    exact ⟨here, fun _ => Program.only_bind (ih later) fun _ => trivial⟩

/-- A program of calls comes to the same with a server and in memory. It may choose each call by
what the calls before have come to; calls in turn are the simplest case. -/
theorem api_calls_keep_the_contract {σ α : Type} {serve : ApiRequest → σ → ApiResponse × σ}
    {holds : σ → Store → Prop} {served : Kind → Bool} {state : σ} {cluster : MemoryCluster}
    {program : Program ClusterCall ClusterCall.Answer α} (server : IsApiServer serve holds served)
    (held : holds state cluster.store)
    (faults_eq : cluster.faults = MemoryCluster.unservedFaults served)
    (plain : program.Only ClusterCall.IsPlain) :
    ((program.translate ClusterCall.viaApi).run serve state).1 =
        (program.run MemoryCluster.perform cluster).1 ∧
      holds ((program.translate ClusterCall.viaApi).run serve state).2
        (program.run MemoryCluster.perform cluster).2.store := by
  -- Both sides get the same answer to the first call, so they go on with the same program, from
  -- states that hold the same objects.
  induction program generalizing state cluster with
  | done result => exact ⟨rfl, held⟩
  | ask call next ih =>
    obtain ⟨answer_eq, held⟩ := server.agrees call held plain.1
    obtain ⟨answer_eq_too, store_eq, faults_eq⟩ := MemoryCluster.perform_of_faults faults_eq call
    rw [← store_eq] at held
    have later := ih (cluster.perform call).1 held faults_eq (plain.2 _)
    rw [Program.translate, Program.run_bind, answer_eq, ← answer_eq_too]
    exact later

/-! ### Calls in turn -/

/-- Settings of some mode, as an object of the cluster. -/
def settings (mode : String) : Object := ⟨.configMap, {
  metadata := { name := some "settings", ns := some "apps" }
  data := some (.ofList [("mode", mode)]) }⟩

theorem settings_isPlain (mode : String) : (settings mode).IsPlain where
  named := rfl
  addressed := by
    have addressed : Kind.addresses .configMap ⟨"settings", "apps"⟩ = true := by decide
    exact addressed
  legible := rfl

theorem holds_nothing : ApiServer.Holds {} {} where
  no_faults := rfl
  objects _ := .none

/-- Calls about one object and one that is not served. -/
def settingsCalls : List ClusterCall := [
  .create (settings "dark"), .create (settings "light"), .get .configMap ⟨"settings", "apps"⟩,
  .update (settings "light"), .get .configMap ⟨"settings", "apps"⟩, .delete (settings "dark"),
  .delete (settings "dark"), .update (settings "dark"), .get .route ⟨"settings", "apps"⟩]

theorem settingsCalls_plain : ∀ call ∈ settingsCalls, call.IsPlain := by
  have dark := settings_isPlain "dark"
  have light := settings_isPlain "light"
  have map : (ClusterCall.get .configMap ⟨"settings", "apps"⟩).IsPlain := by
    rw [ClusterCall.IsPlain]
    decide
  have route : (ClusterCall.get .route ⟨"settings", "apps"⟩).IsPlain := by
    rw [ClusterCall.IsPlain]
    decide
  simp only [settingsCalls, List.forall_mem_cons]
  exact ⟨dark, light, map, light, map, dark.addressed, dark.addressed, dark, route,
    List.forall_mem_nil _⟩

/-- The calls are made to a server that does not serve routes. -/
def settingsRun : List ((call : ClusterCall) × call.Answer) × ApiServer :=
  ((ClusterCall.inTurn settingsCalls).translate ClusterCall.viaApi).run
    (ApiServer.serveKinds (· ≠ .route)) {}

theorem calls_about_settings : settingsRun.1 = [
      ⟨.create (settings "dark"), .ok ()⟩,
      ⟨.create (settings "light"), .ok ()⟩,
      ⟨.get .configMap ⟨"settings", "apps"⟩, .ok (settings "dark").content⟩,
      ⟨.update (settings "light"), .ok ()⟩,
      ⟨.get .configMap ⟨"settings", "apps"⟩, .ok (settings "light").content⟩,
      ⟨.delete (settings "dark"), .ok ()⟩,
      ⟨.delete (settings "dark"), .ok ()⟩,
      ⟨.update (settings "dark"), .error (.notFound "ConfigMap apps/settings")⟩,
      ⟨.get .route ⟨"settings", "apps"⟩, .error (.kindNotRegistered "Route")⟩] ∧
    settingsRun.2.Holds {} := by
  have faults_eq : MemoryCluster.faults { faults := MemoryCluster.unservedFaults (· ≠ .route) } =
      MemoryCluster.unservedFaults (· ≠ .route) := rfl
  obtain ⟨results_eq, held⟩ := api_calls_keep_the_contract
    (ApiServer.isApiServer (· ≠ .route)) holds_nothing faults_eq
    (ClusterCall.only_inTurn settingsCalls_plain)
  have nothing_left : ((ClusterCall.inTurn settingsCalls).run MemoryCluster.perform
      { faults := MemoryCluster.unservedFaults (· ≠ .route) }).2.store = {} := rfl
  rw [nothing_left] at held
  exact ⟨results_eq.trans rfl, held⟩

/-- A name that cannot stand in a path fails before anything is asked, so that it is not even told
that there is no such object. -/
theorem blank_in_name_is_not_looked_up :
    IsApiServer (ApiServer.serveKinds fun _ => true) ApiServer.Holds (fun _ => true) ∧
    ApiServer.Holds {} {} ∧
    ((ClusterCall.get .configMap ⟨"a b", "ns"⟩).viaApi.run
      (ApiServer.serveKinds fun _ => true) {}).1 = .error (.kubeApi
        "Failed to build request: failed to build request: invalid uri character") ∧
    (MemoryCluster.perform (.get .configMap ⟨"a b", "ns"⟩) {}).1 =
      .error (.notFound "ConfigMap ns/a b") := by
  have unbuilt : (ClusterCall.get .configMap ⟨"a b", "ns"⟩).request =
      .error (.unbuilt .badCharacter) := rfl
  refine ⟨ApiServer.isApiServer _, holds_nothing, ?_, rfl⟩
  rw [ClusterCall.viaApi, unbuilt]
  rfl

end IdentityOperator
