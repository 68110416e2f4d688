import IdentityOperator.Proofs.Installation.Convergence
import Mathlib.Data.List.Forall2

/-!
Planning again after a plan has been applied.

A plan has one action for each part that is wanted, in the order of the parts. Reading looks for each
of them where its action has put it, so that the next plan has an action for every object of the first
one, in the same place, and none of these objects is missing: every action is an update of what the
first plan has written (`Pass.replanning_updates_what_was_written`).
-/

namespace IdentityOperator

/-- An action that is about the object of a part. -/
def Action.IsAbout (kc : Keycloak) (part : Part) (action : Action) : Prop :=
  ∃ o, action.written? = some o ∧ o.kind = part.kind ∧ o.key = part.key kc

/-- An action that updates the object that an earlier action has written, knowing it as that one has
left it. -/
def Action.Revises (earlier later : Action) : Prop :=
  ∃ old new msg, earlier.written? = some old ∧ later = .update new (some old) msg ∧
    new.kind = old.kind ∧ new.key = old.key

namespace Pass

open Program (Run)

variable {served : Kind → Bool} {capabilities : Capabilities} {profiles : Profiles}
  {kc later : Keycloak} {flags : InstallationFlags} {b b' : Blueprint} {state state' : Snapshot}
  {start planned_in applied_in last : Store} {events : List PassEvent} {part : Part}

/-! ## Plans and parts -/

/-- What is planned for a part is about its object, whether that is there or not. -/
theorem Planned.isAbout (planned : Planned (fun _ => true) flags profiles kc start b state)
    (wanted : part ∈ Part.wanted b.kc flags) : (part.action b state).IsAbout kc part := by
  have found_in_place : ∀ x, state.found part = some x →
      (⟨part.kind, x⟩ : Object).key = part.key b.kc := by
    rw [planned.agrees (fun _ _ => rfl) part wanted]
    exact Snapshot.inPlace_ofStore b.kc start part
  refine ⟨b.object state part, Part.written?_action b state part, rfl, ?_⟩
  rw [← Part.key_congr planned.declared]
  exact Part.key_written found_in_place

/-- What a second plan does about a part is to revise what the first one has done. -/
theorem Planned.revises (planned : Planned (fun _ => true) flags profiles kc start b state)
    (replanned : Planned (fun _ => true) flags profiles later
      (start.putAll (b.objects flags (Snapshot.ofStore b.kc start))) b' state')
    (alike : later.declaration = kc.declaration) (wanted : part ∈ Part.wanted b.kc flags) :
    (part.action b state).Revises (part.action b' state') := by
  have declared : b'.kc.declaration = b.kc.declaration :=
    replanned.declared.trans (alike.trans planned.declared.symm)
  have effect := planned.effect fun _ _ => rfl
  -- The first plan has put the object there, and the second one has been made for it.
  have still_wanted : part ∈ Part.wanted kc.declaration flags := by
    rwa [← planned.declared, Part.wanted_declaration]
  have written := effect.found_eq still_wanted
  have found : state'.found part = some (part.written b (state.found part)) := by
    rw [replanned.agrees (fun _ _ => rfl) part (Part.wanted_congr declared flags ▸ wanted),
      planned.agrees (fun _ _ => rfl) part wanted]
    rw [Part.written_declaration, ← planned.declared] at written
    rw [Snapshot.ofStore_congr declared]
    rwa [← Snapshot.ofStore_congr b.kc.declaration_declaration.symm] at written
  refine ⟨b.object state part, ⟨part.kind, part.refreshed b' (part.written b (state.found part))⟩, _,
    Part.written?_action b state part, Part.action_of_some found, rfl, ?_⟩
  exact Part.key_refreshed b' part _

/-! ## Planning twice -/

/-- A plan is made for every store, about one wanted part after the other; it can be applied; and the
plan that is made then, from the same declaration, updates the same objects in the same order. -/
theorem replanning_updates_what_was_written {planned : Tracked (Snapshot × Plan)}
    (managed : kc.spec.unmanaged = false) (alike : later.declaration = kc.declaration)
    (planning : Run (Reliable capabilities) (readAndPlan profiles kc) start events planned
      planned_in) :
    ∃ state plan, planned.2 = .ok (state, plan) ∧
      List.Forall₂ (Action.IsAbout kc) (Part.wanted kc capabilities.installationFlags) plan ∧
      ∀ applying applied applied_in,
        Run (Reliable capabilities) (applyInstallation planned.1 plan).run planned_in applying
          applied applied_in →
        applied = .ok true ∧
          ∀ events replanned last,
            Run (Reliable capabilities) (readAndPlan profiles later) applied_in events replanned
              last →
            ∃ state' plan', replanned.2 = .ok (state', plan') ∧
              List.Forall₂ Action.Revises plan plan' := by
  rw [← serving_all] at planning ⊢
  obtain ⟨b, state, made, rfl, rfl, -⟩ := run_readAndPlan planning
  refine ⟨state, _, rfl, ?_, fun applying applied applied_in applyRun => ?_⟩
  · rw [← Part.wanted_congr made.declared, List.forall₂_map_right_iff, List.forall₂_same]
    exact fun part wanted => made.isAbout wanted
  · have spec_eq : b.kc.spec = kc.spec := (congrArg Keycloak.spec made.declared :)
    obtain ⟨rfl, rfl, -⟩ := run_applyInstallation (spec_eq ▸ managed)
      (made.agrees fun _ _ => rfl) (fun _ _ => rfl) applyRun
    refine ⟨rfl, fun events replanned last replanning => ?_⟩
    obtain ⟨b', state', remade, rfl, -, -⟩ := run_readAndPlan replanning
    have declared : b'.kc.declaration = b.kc.declaration :=
      remade.declared.trans (alike.trans made.declared.symm)
    refine ⟨state', _, rfl, ?_⟩
    rw [Part.wanted_congr declared, List.forall₂_map_left_iff, List.forall₂_map_right_iff,
      List.forall₂_same]
    exact fun part wanted => made.revises remade alike wanted

/-- An installation with access from outside. -/
def reachableInstallation : Keycloak := { spec := { externalAccess := { enabled := true } } }

/-- On a cluster with routes and service monitors, the second plan for such an installation updates all
eleven objects, though at first there has been nothing but an empty stateful set. -/
theorem eleven_objects_updated_by_second_plan :
    ∃ (capabilities : Capabilities) (start planned_in applied_in last : Store)
      (planned replanned : Tracked (Snapshot × Plan)) (plan plan' : Plan),
      start.objects =
        [⟨.statefulSet, ({ metadata := { name := some "keycloak" } } : StatefulSet)⟩] ∧
      (∃ events, Run (Reliable capabilities) (readAndPlan {} reachableInstallation) start events
        planned planned_in) ∧
      (∃ state, planned.2 = .ok (state, plan)) ∧
      (∃ events, Run (Reliable capabilities) (applyInstallation planned.1 plan).run planned_in events
        (.ok true) applied_in) ∧
      (∃ events, Run (Reliable capabilities) (readAndPlan {} reachableInstallation) applied_in events
        replanned last) ∧
      (∃ state, replanned.2 = .ok (state, plan')) ∧
      plan'.length = 11 ∧ List.Forall₂ Action.Revises plan plan' := by
  let capabilities : Capabilities := .ofList [(.route, true), (.serviceMonitor, true)]
  let start : Store :=
    ⟨[⟨.statefulSet, ({ metadata := { name := some "keycloak" } } : StatefulSet)⟩]⟩
  have total := total_reliable capabilities
  obtain ⟨events, planned, planned_in, planning⟩ :=
    Program.exists_run total (readAndPlan {} reachableInstallation) start
  obtain ⟨state, plan, planned_eq, about, applying⟩ :=
    replanning_updates_what_was_written rfl rfl planning
  obtain ⟨events', applied, applied_in, applied_run⟩ :=
    Program.exists_run total (applyInstallation planned.1 plan).run planned_in
  obtain ⟨rfl, again⟩ := applying events' applied applied_in applied_run
  obtain ⟨events'', replanned, last, replanning⟩ :=
    Program.exists_run total (readAndPlan {} reachableInstallation) applied_in
  obtain ⟨state', plan', replanned_eq, revises⟩ := again events'' replanned last replanning
  have wanted : (Part.wanted reachableInstallation capabilities.installationFlags).length = 11 := by
    decide
  exact ⟨capabilities, start, planned_in, applied_in, last, planned, replanned, plan, plan', rfl,
    ⟨events, planning⟩, ⟨state, planned_eq⟩, ⟨events', applied_run⟩, ⟨events'', replanning⟩,
    ⟨state', replanned_eq⟩, revises.length_eq.symm.trans (about.length_eq.symm.trans wanted),
    revises⟩

end Pass

end IdentityOperator
