import IdentityOperator.Proofs.Installation.Convergence
import IdentityOperator.Proofs.Installation.Placement

/-!
Passes over one installation on a cluster that does not serve every kind.

Reading is content with a kind that is not served: its objects count as missing. So the plan creates
an object of this kind if a flag asks for one, and to apply this action fails, which ends the pass. A
pass therefore succeeds just if every part that is wanted is of a kind that is served, and otherwise
comes as far as the first part of another kind (`Pass.succeeds_iff_wanted_kinds_served`). A flag that
says more than the cluster serves keeps the server itself from being installed
(`Pass.unserved_service_monitor_blocks_pass`).
-/

namespace IdentityOperator

namespace Pass

open Program (Run)

variable {served : Kind → Bool} {capabilities : Capabilities} {profiles : Profiles} {kc : Keycloak}
  {b : Blueprint} {state : Snapshot} {before after : Store} {events : List PassEvent}
  {front rest : List Part} {part : Part}

theorem total_serving (served : Kind → Bool) (capabilities : Capabilities) :
    (Serving served capabilities).Total := by
  intro request store
  cases request with
  | cluster call =>
    cases is_served : served call.kind with
    | true =>
      refine ⟨(store.perform call).1, (store.perform call).2, ?_⟩
      show if served call.kind then store.perform call = _ else _
      rw [if_pos is_served]
      rfl
    | false =>
      refine ⟨.error (.kindNotRegistered call.kind.name), store, ?_⟩
      show if served call.kind then _ else _
      rw [if_neg (by simp [is_served])]
      exact ⟨⟨_, rfl⟩, rfl⟩
  | _ => exact total_reliable capabilities _ store

/-! ## Plans for kinds that are not served -/

/-- A plan is applied up to the first object that is not served. -/
theorem run_applyPlan_refused {session : Option Session} {plan later : Plan} {action : Action}
    {o : Object} {result : Except OperatorError Unit}
    (fits : ∀ action ∈ plan, Fits before action)
    (are_served : ∀ o ∈ plan.filterMap Action.written?, served o.kind = true)
    (distinct : Store.DistinctPlaces (plan.filterMap Action.written?))
    (written : action.written? = some o) (unserved : served o.kind = false)
    (run : Run (Serving served capabilities) (applyPlan session (plan ++ action :: later)).run before
      events result after) :
    (∃ text, result = .error (.kindNotRegistered text)) ∧
      after = before.putAll (plan.filterMap Action.written?) := by
  rw [applyPlan_append] at run
  rcases run_bind_iff.1 run with ⟨e, -, failed⟩ | ⟨_, _, middle, _, rfl, applied, rest⟩
  · obtain ⟨impossible, -⟩ := run_applyPlan fits are_served distinct failed
    cases impossible
  · obtain ⟨-, rfl, -⟩ := run_applyPlan fits are_served distinct applied
    rcases run_bind_iff.1 rest with ⟨e, rfl, refused⟩ | ⟨_, _, _, _, rfl, impossible, -⟩
    · obtain ⟨⟨text, error_eq⟩, rfl⟩ := run_applyAction_refused written unserved refused
      cases error_eq
      exact ⟨⟨text, rfl⟩, rfl⟩
    · obtain ⟨⟨text, impossible⟩, -⟩ := run_applyAction_refused written unserved impossible
      cases impossible

/-! ## Passes -/

/-- A pass comes as far as the first wanted part of a kind that is not served. The parts before it are
there then, and all others are as they were. -/
theorem run_convergeInstallation_refused {result : Tracked InstallationOutcome}
    (managed : kc.spec.unmanaged = false) (internal : kc.spec.external.enabled = false)
    (wanted_eq : Part.wanted kc capabilities.installationFlags = front ++ part :: rest)
    (front_served : ∀ earlier ∈ front, served earlier.kind = true)
    (unserved : served part.kind = false)
    (run : Run (Serving served capabilities) (convergeInstallation profiles kc) before events result
      after) :
    (∃ text, result.2 = .error (.kindNotRegistered text)) ∧
      (∀ earlier ∈ front, (after.find? earlier.kind (earlier.key kc)).isSome) ∧
      ∀ other, other ∉ front →
        after.find? other.kind (other.key kc) = before.find? other.kind (other.key kc) := by
  rw [convergeInstallation_eq internal] at run
  obtain ⟨_, _, middle, _, rfl, plan_run, rest_run⟩ := Program.run_bind_iff.1 run
  obtain ⟨b, state, planned, rfl, rfl, -⟩ := run_readAndPlan plan_run
  have spec_eq : b.kc.spec = kc.spec := (congrArg Keycloak.spec planned.declared :)
  have key_eq : ∀ part : Part, part.key kc = part.key b.kc := Part.key_congr planned.declared.symm
  rw [← Part.wanted_congr planned.declared] at wanted_eq
  rw [wanted_eq, List.map_append, List.map_cons] at rest_run
  obtain ⟨_, applied, last, _, rfl, apply_run, rest_run⟩ := Program.run_bind_iff.1 rest_run
  -- What stands before the refused part is planned for what the store has.
  have agrees : ∀ earlier ∈ front,
      state.found earlier = (Snapshot.ofStore b.kc middle).found earlier := by
    intro earlier mem
    have wanted : earlier ∈ Part.wanted b.kc capabilities.installationFlags := by
      rw [wanted_eq]
      exact List.mem_append_left _ mem
    rw [planned.seen earlier wanted, if_pos (front_served earlier mem)]
  have nodup := Part.nodup_wanted b.kc capabilities.installationFlags
  rw [wanted_eq] at nodup
  have front_nodup := nodup.of_append_left
  obtain ⟨fits, written_eq, distinct⟩ := fits_actions front_nodup agrees
  have kinds_served : ∀ o ∈ (front.map (Part.action b state)).filterMap Action.written?,
      served o.kind = true := by
    rw [written_eq]
    intro o mem
    obtain ⟨earlier, earlier_mem, rfl⟩ := List.mem_map.1 mem
    exact front_served earlier earlier_mem
  have refused : (∃ text, applied = .error (.kindNotRegistered text)) ∧
      last = middle.putAll (front.map (b.object (Snapshot.ofStore b.kc middle))) := by
    rw [applyInstallation, if_neg (by simp [spec_eq, managed])] at apply_run
    rw [← written_eq]
    rcases Pass.run_bind_iff.1 apply_run with
      ⟨e, rfl, failed⟩ | ⟨_, _, _, _, rfl, impossible, -⟩
    · obtain ⟨⟨text, error_eq⟩, last_eq⟩ := run_applyPlan_refused fits kinds_served distinct
        (Part.written?_action b state part) unserved failed
      cases error_eq
      exact ⟨⟨text, rfl⟩, last_eq⟩
    · obtain ⟨⟨text, impossible⟩, -⟩ := run_applyPlan_refused fits kinds_served distinct
        (Part.written?_action b state part) unserved impossible
      cases impossible
  obtain ⟨⟨text, rfl⟩, rfl⟩ := refused
  obtain ⟨rfl, rfl, rfl⟩ := Program.run_done_iff.1 rest_run
  have at_places : Part.AtPlaces b.kc
      (fun part => part.written b ((Snapshot.ofStore b.kc middle).found part)) front :=
    fun earlier _ => Part.key_written (Snapshot.inPlace_ofStore b.kc middle earlier)
  refine ⟨⟨text, rfl⟩, fun earlier mem => ?_, fun other absent => ?_⟩
  · rw [key_eq]
    exact Option.isSome_iff_exists.2 ⟨_, at_places.find?_of_mem front_nodup mem middle⟩
  · rw [key_eq]
    exact at_places.find?_of_not_mem absent middle

/-- Where everything that is wanted is served, a pass leaves every wanted part there. -/
theorem run_convergeInstallation_complete {result : Tracked InstallationOutcome}
    (managed : kc.spec.unmanaged = false) (internal : kc.spec.external.enabled = false)
    (are_served : ∀ part ∈ Part.wanted kc capabilities.installationFlags,
      served part.kind = true)
    (run : Run (Serving served capabilities) (convergeInstallation profiles kc) before events result
      after) :
    (∃ outcome, result.2 = .ok outcome) ∧
      ∀ part ∈ Part.wanted kc capabilities.installationFlags,
        (after.find? part.kind (part.key kc)).isSome := by
  obtain ⟨⟨b, effect⟩, succeeds, -⟩ :=
    run_convergeInstallation_served managed internal are_served run
  refine ⟨succeeds, fun part wanted => ?_⟩
  rw [← Part.wanted_declaration] at wanted
  rw [← Part.key_declaration]
  exact Option.isSome_iff_exists.2 ⟨_, effect.found_eq wanted⟩

/-- A pass succeeds just if every wanted part is of a kind that is served, and then every wanted part is
there. It fails with the first wanted part of another kind; the parts before this one are there then,
and all others are as they were. -/
theorem succeeds_iff_wanted_kinds_served {result : Tracked InstallationOutcome}
    (managed : kc.spec.unmanaged = false) (internal : kc.spec.external.enabled = false)
    (run : Run (Serving served capabilities) (convergeInstallation profiles kc) before events result
      after) :
    ((∃ outcome, result.2 = .ok outcome) ↔
      ∀ part ∈ Part.wanted kc capabilities.installationFlags, served part.kind = true) ∧
    ((∃ outcome, result.2 = .ok outcome) →
      ∀ part ∈ Part.wanted kc capabilities.installationFlags,
        (after.find? part.kind (part.key kc)).isSome) ∧
    ∀ front part rest, Part.wanted kc capabilities.installationFlags = front ++ part :: rest →
      (∀ earlier ∈ front, served earlier.kind = true) → served part.kind = false →
      (∃ text, result.2 = .error (.kindNotRegistered text)) ∧
        (∀ earlier ∈ front, (after.find? earlier.kind (earlier.key kc)).isSome) ∧
        ∀ other, other ∉ front →
          after.find? other.kind (other.key kc) = before.find? other.kind (other.key kc) := by
  have served_of_ok : (∃ outcome, result.2 = .ok outcome) →
      ∀ part ∈ Part.wanted kc capabilities.installationFlags, served part.kind = true := by
    rintro ⟨outcome, succeeds⟩
    cases refused : (Part.wanted kc capabilities.installationFlags).find?
        fun part => !served part.kind with
    | none => simpa using List.find?_eq_none.1 refused
    | some part =>
      obtain ⟨unserved, front, rest, wanted_eq, front_served⟩ :=
        List.find?_eq_some_iff_append.1 refused
      obtain ⟨⟨text, fails⟩, -⟩ := run_convergeInstallation_refused managed internal wanted_eq
        (by simpa using front_served) (by simpa using unserved) run
      rw [succeeds] at fails
      cases fails
  refine ⟨⟨served_of_ok, fun are_served => ?_⟩, fun succeeds => ?_,
    fun front part rest wanted_eq front_served unserved => ?_⟩
  · exact (run_convergeInstallation_complete managed internal are_served run).1
  · exact (run_convergeInstallation_complete managed internal (served_of_ok succeeds) run).2
  · exact run_convergeInstallation_refused managed internal wanted_eq front_served unserved run

/-- Routes that a flag asks for are not needed without access from outside: that the cluster does not
serve them is no harm then. -/
theorem succeeds_without_routes :
    ∃ events result after,
      Run (Serving (fun kind => decide (kind ≠ .route)) (.ofList [(.route, true)]))
        (convergeInstallation {} {}) {} events result after ∧
      ∃ outcome, result.2 = .ok outcome := by
  obtain ⟨events, result, after, run⟩ := Program.exists_run
    (total_serving (fun kind => decide (kind ≠ .route)) (.ofList [(.route, true)]))
    (convergeInstallation {} {}) {}
  exact ⟨events, result, after, run,
    (succeeds_iff_wanted_kinds_served rfl rfl run).1.2 (by decide)⟩

/-- A flag asks for a service monitor, and the cluster does not serve this kind: whatever passwords are
made, the pass fails, and there is no stateful set after it. -/
theorem unserved_service_monitor_blocks_pass :
    (Serving (fun kind => decide (kind ≠ .serviceMonitor)) (.ofList [(.serviceMonitor, true)])).Total ∧
      ∀ events result after,
        Run (Serving (fun kind => decide (kind ≠ .serviceMonitor)) (.ofList [(.serviceMonitor, true)]))
          (convergeInstallation {} {}) {} events result after →
        (∃ text, result.2 = .error (.kindNotRegistered text)) ∧
          after.find? .statefulSet (ServerStatefulSet.key {}) = none := by
  refine ⟨total_serving _ _, fun events result after run => ?_⟩
  have wanted_eq : Part.wanted {} (Capabilities.ofList [(.serviceMonitor, true)]).installationFlags =
      [.adminSecret] ++ .serviceMonitor :: [.databaseSecret, .databaseClaim, .databaseDeployment,
        .databaseService, .probes, .service, .discoveryService, .statefulSet] := rfl
  obtain ⟨fails, -, unchanged⟩ :=
    run_convergeInstallation_refused rfl rfl wanted_eq (by decide) rfl run
  exact ⟨fails, unchanged .statefulSet (by decide)⟩

end Pass

end IdentityOperator
