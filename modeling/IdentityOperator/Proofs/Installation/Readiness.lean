import IdentityOperator.Proofs.Installation.Abandoned
import IdentityOperator.Proofs.Installation.Planning
import IdentityOperator.Proofs.Pass.Execution

/-!
What it means that a pass reports an installation as ready.

Readiness is judged by the objects that were handed out at the beginning of the pass, before its plan
was applied. A pass that succeeds has updated each object that it was handed (`Pass.exists_insight`), the
stateful set among them, with the declared number of pods. So a ready installation has as many ready pods
as its stateful set asked for before the pass, and as many as are declared just if the pass has not
changed that number: `Pass.ready_means_declared_replicas_iff`.
-/

namespace IdentityOperator

/-! ## Replicas -/

/-- What an update makes of the number of pods that a stateful set asks for. -/
theorem ServerStatefulSet.wantedReplicas_refreshed (kc : Keycloak) (secret : Option Secret)
    (profiles : Profiles) (live : StatefulSet) :
    (refreshed kc secret profiles live).wantedReplicas =
      sanitizeReplicas kc.spec.instances live.spec.isNone := by
  obtain ⟨metadata, spec, status⟩ := live
  cases spec <;> rfl

/-! ## Lookups -/

/-- A request that does not look up an object. -/
def PassRequest.IsNoGet (request : PassRequest) : Prop :=
  ∀ kind key, request ≠ .cluster (.get kind key)

/-- Without lookups nothing is handed out. -/
theorem handsOver_append_right_iff {kc : Keycloak} {events more : List PassEvent} {part : Part}
    {live : part.kind.Object} (no_get : ∀ event ∈ more, event.request.IsNoGet) :
    HandsOver kc (events ++ more) part live ↔ HandsOver kc events part live :=
  List.mem_append.trans (or_iff_left fun mem => no_get _ mem part.kind (part.key kc) rfl)

namespace Pass

open Program (Run)

variable {σ : Type} {env : PassEnvironment σ} {before after : σ} {events : List PassEvent}
  {capabilities : Capabilities} {profiles : Profiles} {kc tracked : Keycloak}
  {outcome : InstallationOutcome}

/-- What a pass over an installation that has succeeded has seen, and what it has updated. -/
structure Insight (capabilities : Capabilities) (kc : Keycloak) (events : List PassEvent)
    (ready : Bool) (state : Snapshot) (b : Blueprint) : Prop where
  declared : b.kc.declaration = kc.declaration
  found_iff : ∀ part live, state.found part = some live ↔ HandsOver kc events part live
  ready_eq : ready = state.isReady kc (capabilities.get .route)
  updated_iff : ∀ o, .cluster (.update o) ∈ events.map (·.request) ↔
    ∃ part ∈ Part.wanted kc capabilities.installationFlags, ∃ live, state.found part = some live ∧
      o = ⟨part.kind, part.refreshed b live⟩

theorem plan_of_run {state : Snapshot} {plan : Plan} (fixed : env.HasFlags capabilities)
    (run : Run env (planInstallation profiles kc state) before events plan after) :
    ∃ b : Blueprint, b.kc = kc ∧
      plan = (Part.wanted kc capabilities.installationFlags).map (Part.action b state) := by
  obtain ⟨_, flags, _, _, rfl, flags_run, rest⟩ := Program.run_bind_iff.1 run
  obtain ⟨rfl, -⟩ := flags_of_run fixed flags_run
  obtain ⟨_, admin, _, _, rfl, -, rest⟩ := Program.run_bind_iff.1 rest
  obtain ⟨_, database, _, _, rfl, -, rest⟩ := Program.run_bind_iff.1 rest
  obtain ⟨-, rfl, -⟩ := Program.run_done_iff.1 rest
  exact ⟨⟨kc, profiles, ⟨admin, database⟩, state.databaseSecret⟩, rfl, rfl⟩

/-- The one request that applies the action for a part. -/
theorem requests_action (b : Blueprint) (state : Snapshot) (part : Part) :
    (part.action b state).requests none = [.cluster ((state.found part).elim
      (.create ⟨part.kind, part.fresh b⟩) fun live => .update ⟨part.kind, part.refreshed b live⟩)] := by
  cases found : state.found part with
  | none =>
    rw [Part.action_of_none found]
    rfl
  | some live =>
    rw [Part.action_of_some found]
    rfl

/-- A plan asks to update just what is known of its parts. -/
theorem update_mem_requests_iff {b : Blueprint} {state : Snapshot} {parts : List Part} {o : Object} :
    .cluster (.update o) ∈ (parts.map (Part.action b state)).flatMap (Action.requests none) ↔
      ∃ part ∈ parts, ∃ live, state.found part = some live ∧
        o = ⟨part.kind, part.refreshed b live⟩ := by
  rw [List.mem_flatMap]
  constructor
  · rintro ⟨_, planned, mem⟩
    obtain ⟨part, wanted, rfl⟩ := List.mem_map.1 planned
    rw [requests_action, List.mem_singleton] at mem
    cases found : state.found part with
    | none =>
      rw [found] at mem
      cases mem
    | some live =>
      rw [found] at mem
      cases mem
      exact ⟨part, wanted, live, found, rfl⟩
  · rintro ⟨part, wanted, live, found, rfl⟩
    refine ⟨_, List.mem_map_of_mem wanted, ?_⟩
    rw [requests_action, found]
    exact List.mem_singleton_self _

theorem isNoGet_of_mem_requests {b : Blueprint} {state : Snapshot} {parts : List Part}
    {request : PassRequest}
    (mem : request ∈ (parts.map (Part.action b state)).flatMap (Action.requests none)) :
    request.IsNoGet := by
  obtain ⟨_, planned, mem⟩ := List.mem_flatMap.1 mem
  obtain ⟨part, -, rfl⟩ := List.mem_map.1 planned
  rw [requests_action, List.mem_singleton] at mem
  subst mem
  cases state.found part <;> exact fun _ _ impossible => by cases impossible

/-- A pass that succeeds has applied its plan, and has then looked up the last flag. -/
theorem run_carryOut_ok {state : Snapshot} {plan : Plan}
    (managed : kc.spec.unmanaged = false) (fixed : env.HasFlags capabilities)
    (run : Run env (carryOut kc state plan) before events (tracked, .ok outcome) after) :
    tracked = kc ∧ outcome.ready = state.isReady kc (capabilities.get .route) ∧
      events.map (·.request) = plan.flatMap (Action.requests none) ++ [.flag .route] := by
  obtain ⟨applying, applied, _, _, rfl, apply_run, rest⟩ := Program.run_bind_iff.1 run
  rw [applyInstallation, if_neg (by simp [managed])] at apply_run
  cases applied with
  | error e =>
    obtain ⟨-, impossible, -⟩ := Program.run_done_iff.1 rest
    cases impossible
  | ok _ =>
    obtain ⟨first, _, _, _, rfl, applied_run, ending⟩ := run_bind_ok_iff.1 apply_run
    obtain ⟨rfl, -, -⟩ := run_pure_iff.1 ending
    obtain ⟨routes, _, _, rfl, answered, rest⟩ := run_ask_bind_iff.1 rest
    obtain ⟨rfl, result_eq, -⟩ := Program.run_done_iff.1 rest
    cases fixed _ _ _ _ answered
    cases result_eq
    refine ⟨rfl, rfl, ?_⟩
    rw [List.append_nil, List.map_append, requests_eq_of_succeeds (run_applyPlan_ok_iff.1 applied_run)]
    rfl

/-- A pass that succeeds over a managed installation has seen what was handed out to it, and has updated
just that. -/
theorem exists_insight (managed : kc.spec.unmanaged = false)
    (internal : kc.spec.external.enabled = false) (fixed : env.HasFlags capabilities)
    (run : Run env (convergeInstallation profiles kc) before events (tracked, .ok outcome) after) :
    ∃ state b, Insight capabilities kc events outcome.ready state b := by
  rw [convergeInstallation_eq internal] at run
  obtain ⟨planning, ⟨seen, planned⟩, middle, applying, rfl, plan_run, rest⟩ :=
    Program.run_bind_iff.1 run
  have quiet := (only_readAndPlan profiles kc).of_run plan_run
  cases planned with
  | error e => cases (Program.run_done_iff.1 rest).2.1
  | ok planned =>
    obtain ⟨state, plan⟩ := planned
    obtain ⟨reading, ⟨known, found⟩, _, _, rfl, read_run, making⟩ := Program.run_bind_iff.1 plan_run
    cases found with
    | error e => cases (Program.run_done_iff.1 making).2.1
    | ok found =>
      obtain ⟨asked, plan, _, _, rfl, make_run, done⟩ := Program.run_bind_iff.1 making
      obtain ⟨rfl, result_eq, rfl⟩ := Program.run_done_iff.1 done
      cases result_eq
      have tracks := (returns_readSnapshot kc).of_run read_run
      obtain ⟨b, rfl, rfl⟩ := plan_of_run fixed make_run
      obtain ⟨looked_up, sweep, rfl, only_flags, -, found_iff⟩ := exists_sweep_of_run fixed read_run
      obtain ⟨rfl, ready_eq, requests_eq⟩ := run_carryOut_ok (tracks.spec_eq ▸ managed) fixed rest
      have asked_no_get : ∀ event ∈ asked ++ [], event.request.IsNoGet := by
        have only_plan : Program.Only PassRequest.IsNoGet (planInstallation profiles b.kc state) :=
          only_planInstallation (fun _ _ _ impossible => by cases impossible)
            (fun _ _ _ impossible => by cases impossible) profiles b.kc state
        rw [List.append_nil]
        exact only_plan.of_run make_run
      have applying_no_get : ∀ event ∈ applying, event.request.IsNoGet := by
        intro event mem
        have mem := List.mem_map_of_mem (f := (·.request)) mem
        rw [requests_eq] at mem
        rcases List.mem_append.1 mem with mem | mem
        · exact isNoGet_of_mem_requests mem
        · rw [List.mem_singleton.1 mem]
          exact fun _ _ impossible => by cases impossible
      refine ⟨state, b, tracks.declaration_eq, fun part live => ?_, ?_, fun o => ?_⟩
      · rw [handsOver_append_right_iff applying_no_get, handsOver_append_right_iff asked_no_get,
          handsOver_append_iff only_flags]
        exact found_iff part live
      · rw [ready_eq, Snapshot.isReady, Snapshot.isReady, tracks.spec_eq]
      · rw [List.map_append, List.mem_append, or_iff_right, requests_eq, List.mem_append, or_iff_left,
          update_mem_requests_iff, Part.wanted_congr tracks.declaration_eq]
        · intro mem
          cases List.mem_singleton.1 mem
        · intro mem
          obtain ⟨event, mem, request_eq⟩ := List.mem_map.1 mem
          exact quiet event mem (request_eq ▸ trivial)

section Insight

variable {ready : Bool} {state : Snapshot} {b : Blueprint}
  (insight : Insight capabilities kc events ready state b)
include insight

theorem Insight.any_found_iff (part : Part) (p : part.kind.Object → Bool) :
    (state.found part).any p = true ↔ ∃ live, HandsOver kc events part live ∧ p live = true := by
  rw [Option.any_eq_true]
  exact exists_congr fun live => and_congr_left' (insight.found_iff part live)

/-- Readiness is judged by what was handed out. -/
theorem Insight.ready_iff (managed : kc.spec.unmanaged = false) :
    ready = true ↔
      (∃ live, HandsOver kc events .statefulSet live ∧
        StatefulSet.readyReplicas live = StatefulSet.wantedReplicas live) ∧
      (kc.spec.externalAccess.enabled = true → capabilities.get .route = true →
        ∃ route, HandsOver kc events .route route ∧ Route.isAdmitted route = true) := by
  have server : state.statefulSet.any (·.isReady) = true ↔ _ :=
    insight.any_found_iff .statefulSet StatefulSet.isReady
  have access : state.route.any (·.isAdmitted) = true ↔ _ :=
    insight.any_found_iff .route Route.isAdmitted
  rw [insight.ready_eq, Snapshot.isReady, managed, Bool.false_or, Bool.and_eq_true, server,
    Bool.or_eq_true, access]
  refine and_congr (exists_congr fun live => and_congr_right' decide_eq_true_iff) ?_
  cases kc.spec.externalAccess.enabled <;> cases capabilities.get .route <;> simp

/-- The stateful set that was handed out is updated, to the declared number of pods and to nothing
else. -/
theorem Insight.updated_statefulSet {live : StatefulSet}
    (given : HandsOver kc events .statefulSet live) :
    ∃ new : StatefulSet, (∀ other : StatefulSet,
        .cluster (.update ⟨.statefulSet, other⟩) ∈ events.map (·.request) ↔ other = new) ∧
      new.wantedReplicas = sanitizeReplicas kc.spec.instances live.spec.isNone := by
  have known := (insight.found_iff .statefulSet live).2 given
  have spec_eq : b.kc.spec = kc.spec := (congrArg Keycloak.spec insight.declared :)
  refine ⟨ServerStatefulSet.refreshed b.kc b.databaseSecret b.profiles live, fun other => ?_, ?_⟩
  · rw [insight.updated_iff]
    constructor
    · rintro ⟨part, -, found, part_known, same⟩
      obtain rfl : part = .statefulSet := by
        have kind_eq : Kind.statefulSet = part.kind := congrArg Object.kind same
        cases part <;> first | rfl | cases kind_eq
      cases known.symm.trans part_known
      cases same
      rfl
    · rintro rfl
      exact ⟨.statefulSet, Part.mem_wanted rfl, live, known, rfl⟩
  · rw [ServerStatefulSet.wantedReplicas_refreshed, spec_eq]

end Insight

/-- A pass that succeeds over a managed installation reports it as ready just if the stateful set that
was handed out has as many ready pods as it asks for itself and the route is admitted where it matters.
The same pass has the stateful set ask for the declared number of pods; so a ready installation has that
many ready pods just if the stateful set has asked for that many before. -/
theorem ready_means_declared_replicas_iff (managed : kc.spec.unmanaged = false)
    (internal : kc.spec.external.enabled = false) (fixed : env.HasFlags capabilities)
    (run : Run env (convergeInstallation profiles kc) before events (tracked, .ok outcome) after) :
    (outcome.ready = true ↔
      (∃ live : StatefulSet, HandsOver kc events .statefulSet live ∧
        live.readyReplicas = live.wantedReplicas) ∧
      (kc.spec.externalAccess.enabled = true → capabilities.get .route = true →
        ∃ route : Route, HandsOver kc events .route route ∧ route.isAdmitted = true)) ∧
    ∀ live : StatefulSet, HandsOver kc events .statefulSet live →
      ∃ new : StatefulSet, (∀ other : StatefulSet,
          .cluster (.update ⟨.statefulSet, other⟩) ∈ events.map (·.request) ↔ other = new) ∧
        new.wantedReplicas = sanitizeReplicas kc.spec.instances live.spec.isNone ∧
        (outcome.ready = true →
          (live.readyReplicas = new.wantedReplicas ↔
            live.wantedReplicas = new.wantedReplicas)) := by
  obtain ⟨state, b, insight⟩ := exists_insight managed internal fixed run
  have ready_iff := insight.ready_iff managed
  refine ⟨ready_iff, fun live given => ?_⟩
  obtain ⟨new, updated_iff, declared⟩ := insight.updated_statefulSet given
  refine ⟨new, updated_iff, declared, fun ready => ?_⟩
  obtain ⟨⟨found, found_given, all_ready⟩, -⟩ := ready_iff.1 ready
  obtain rfl : found = live := by
    have known := (insight.found_iff .statefulSet found).2 found_given
    cases known.symm.trans ((insight.found_iff .statefulSet live).2 given)
    rfl
  rw [all_ready]

/-- A stateful set that asks for one pod, which is ready. -/
def onePod : StatefulSet where
  metadata := { name := some "keycloak" }
  spec := some { replicas := some 1 }
  status := some { readyReplicas := some 1 }

/-- An installation of so many pods, with a database of its own. -/
def declaring (instances : Int32) : Keycloak where
  spec := { instances, externalDatabase := { enabled := true } }

theorem hasFlags_reliable (capabilities : Capabilities) :
    (Reliable capabilities).HasFlags capabilities :=
  serving_all capabilities ▸ hasFlags_serving

/-- However many pods are declared, a pass that finds one pod succeeds. -/
theorem exists_run_onePod (instances : Int32) :
    ∃ events tracked outcome after,
      Run (Reliable {}) (convergeInstallation {} (declaring instances))
        ⟨[⟨.statefulSet, onePod⟩]⟩ events (tracked, .ok outcome) after ∧
      HandsOver (declaring instances) events .statefulSet onePod := by
  obtain ⟨events, ⟨tracked, result⟩, after, run⟩ := Program.exists_run (total_reliable {})
    (convergeInstallation {} (declaring instances)) ⟨[⟨.statefulSet, onePod⟩]⟩
  obtain ⟨-, ⟨outcome, rfl⟩, -⟩ := run_convergeInstallation rfl rfl run
  refine ⟨events, tracked, outcome, after, run, ?_⟩
  rw [convergeInstallation_eq rfl] at run
  obtain ⟨planning, _, _, _, rfl, plan_run, -⟩ := Program.run_bind_iff.1 run
  obtain ⟨reading, _, _, _, rfl, read_run, -⟩ := Program.run_bind_iff.1 plan_run
  rw [← serving_all] at read_run
  exact List.mem_append_left _ (List.mem_append_left _ (given_of_stored read_run rfl rfl rfl))

/-- Where one pod is declared and one is ready, the installation is ready with the declared number of
pods. -/
theorem ready_with_one_pod :
    ∃ (events : List PassEvent) (tracked : Keycloak) (outcome : InstallationOutcome) (after : Store)
      (new : StatefulSet),
      Run (Reliable {}) (convergeInstallation {} (declaring 1)) ⟨[⟨.statefulSet, onePod⟩]⟩ events
        (tracked, .ok outcome) after ∧
      outcome.ready = true ∧ HandsOver (declaring 1) events .statefulSet onePod ∧
      .cluster (.update ⟨.statefulSet, new⟩) ∈ events.map (·.request) ∧
      onePod.readyReplicas = new.wantedReplicas := by
  obtain ⟨events, tracked, outcome, after, run, given⟩ := exists_run_onePod 1
  obtain ⟨ready_iff, updated⟩ := ready_means_declared_replicas_iff rfl rfl (hasFlags_reliable {}) run
  have ready : outcome.ready = true := ready_iff.2 ⟨⟨onePod, given, rfl⟩, by rintro ⟨⟩⟩
  obtain ⟨new, updated_iff, declared, agrees_iff⟩ := updated onePod given
  have unchanged : onePod.wantedReplicas = new.wantedReplicas := declared.symm ▸ rfl
  exact ⟨events, tracked, outcome, after, new, run, ready, given, (updated_iff new).2 rfl,
    (agrees_iff ready).2 unchanged⟩

/-- Where three pods are declared, the installation is ready with one of them, in the very pass that
first asks for the others. -/
theorem ready_before_scaling_up :
    ¬ ∀ (capabilities : Capabilities) (profiles : Profiles) (kc tracked : Keycloak)
      (before after : Store) (events : List PassEvent) (outcome : InstallationOutcome),
      kc.spec.unmanaged = false → kc.spec.external.enabled = false →
      Run (Reliable capabilities) (convergeInstallation profiles kc) before events
        (tracked, .ok outcome) after →
      outcome.ready = true → ∀ live new : StatefulSet, HandsOver kc events .statefulSet live →
        .cluster (.update ⟨.statefulSet, new⟩) ∈ events.map (·.request) →
        live.readyReplicas = new.wantedReplicas := by
  intro all_ready
  obtain ⟨events, tracked, outcome, after, run, given⟩ := exists_run_onePod 3
  obtain ⟨state, b, insight⟩ := exists_insight rfl rfl (hasFlags_reliable {}) run
  have ready : outcome.ready = true :=
    (insight.ready_iff rfl).2 ⟨⟨onePod, given, rfl⟩, by rintro ⟨⟩⟩
  obtain ⟨new, updated_iff, declared⟩ := insight.updated_statefulSet given
  have same := all_ready {} {} _ _ _ _ _ _ rfl rfl run ready onePod new given ((updated_iff new).2 rfl)
  rw [declared] at same
  exact absurd same (by decide)

end Pass

end IdentityOperator
