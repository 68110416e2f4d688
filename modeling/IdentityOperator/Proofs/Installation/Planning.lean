import IdentityOperator.Proofs.Installation.Reading
import IdentityOperator.Proofs.Installation.Upkeep
import Mathlib.Data.List.Pairwise

/-!
Plans for what a pass has found of an installation.

A plan has one action for each wanted part, at the place of the part (`Action.place?`), so its places
are known from the declaration and the flags alone, and no two of them are the same. Each of these
places has been looked up, and only once (`Sweep.existsUnique_answer`), and the answer decides what sort
of action there is: nothing but absence leads to a creation, and an update is of the object that was
handed out, in the version that was handed out (`Action.MadeFor`).
-/

namespace IdentityOperator

/-! ## Actions -/

/-- The place at which an action creates or updates an object. -/
def Action.place? (action : Action) : Option (Kind × ObjectKey) :=
  action.written?.map fun o => (o.kind, o.key)

/-- An action has been made for what was answered when its object was looked up. -/
def Action.MadeFor {kind : Kind} : Action → Except OperatorError kind.Object → Prop
  | action, .error e => e.isAbsent = true ∧ ∃ new msg, action = .create ⟨kind, new⟩ msg
  | action, .ok live => ∃ new msg, action = .update ⟨kind, new⟩ (some ⟨kind, live⟩) msg ∧
    (⟨kind, new⟩ : Object).key = (⟨kind, live⟩ : Object).key ∧
    (⟨kind, new⟩ : Object).resourceVersion = (⟨kind, live⟩ : Object).resourceVersion

namespace Part

theorem place?_action (b : Blueprint) (state : Snapshot) (part : Part) :
    (part.action b state).place? = some (part.kind, (b.object state part).key) := by
  rw [Action.place?, written?_action]
  rfl

theorem resourceVersion_refreshed (b : Blueprint) (part : Part) (live : part.kind.Object) :
    (⟨part.kind, part.refreshed b live⟩ : Object).resourceVersion =
      (⟨part.kind, live⟩ : Object).resourceVersion := by
  show (part.kind.metadata (part.refreshed b live)).resourceVersion = _
  rw [(updates_refreshed b part live).metadata_eq]
  rfl

/-- What may have to be written has been looked for. -/
theorem mem_read_of_mem_wanted {kc : Keycloak} {flags : InstallationFlags} {part : Part}
    (mem : part ∈ wanted kc flags) : part ∈ read kc flags := by
  obtain ⟨mem_all, isWanted⟩ := List.mem_filter.1 mem
  exact List.mem_filter.2 ⟨mem_all, isRead_of_isWanted isWanted⟩

/-- The action for a part follows what the snapshot has of it. -/
theorem madeFor_action {b : Blueprint} {state : Snapshot} {part : Part}
    {answer : Except OperatorError part.kind.Object}
    (known : ∀ live, state.found part = some live ↔ answer = .ok live)
    (tolerated : ∀ e, answer = .error e → e.isAbsent = true) :
    (part.action b state).MadeFor answer := by
  cases answer with
  | ok live =>
    rw [action_of_some ((known live).2 rfl)]
    exact ⟨_, _, rfl, key_refreshed b part live, resourceVersion_refreshed b part live⟩
  | error e =>
    have missing : state.found part = none :=
      Option.eq_none_iff_forall_ne_some.2 fun live found => by cases (known live).1 found
    rw [action_of_none missing]
    exact ⟨tolerated e rfl, _, _, rfl⟩

end Part

/-! ## Answers -/

theorem PassEvent.exists_answered {kc : Keycloak} {part : Part} {event : PassEvent}
    (here : event.place? = some (part.place kc)) : ∃ answer, event = part.answered kc answer := by
  obtain ⟨request, answer⟩ := event
  unfold PassEvent.place? at here
  split at here
  · next kind key request_eq =>
    dsimp only at request_eq
    subst request_eq
    cases here
    exact ⟨answer, rfl⟩
  · cases here

/-- Where no place is looked up twice, there is one lookup at a place. -/
theorem PassEvent.eq_of_place? {events : List PassEvent}
    (nodup : (events.filterMap PassEvent.place?).Nodup) {event other : PassEvent}
    (mem : event ∈ events) (other_mem : other ∈ events) {place : Kind × ObjectKey}
    (here : event.place? = some place) (there : other.place? = some place) : event = other := by
  let Same (event other : PassEvent) : Prop :=
    ∀ place, event.place? = some place → other.place? = some place → event = other
  have symm : Std.Symm Same := ⟨fun _ _ same place here there => (same place there here).symm⟩
  have pairwise : events.Pairwise Same := (List.pairwise_filterMap.1 nodup).imp
    fun differ place here there => absurd rfl (differ place here place there)
  exact pairwise.forall_of_forall (fun _ _ _ _ _ => rfl) mem other_mem place here there

namespace Sweep

variable {kc : Keycloak} {parts : List Part} {events : List PassEvent} {part : Part}

theorem nodup_places {failure : Option OperatorError} (sweep : Sweep kc parts events failure)
    (nodup : parts.Nodup) : (events.filterMap PassEvent.place?).Nodup :=
  sweep.places.sublist.nodup (nodup.map (Part.place_injective kc))

/-- Where no lookup fails, each part is looked up, and answered in one way. -/
theorem existsUnique_answer (sweep : Sweep kc parts events none) (nodup : parts.Nodup)
    (mem : part ∈ parts) : ∃! answer, part.answered kc answer ∈ events := by
  have looked_up : part.place kc ∈ events.filterMap PassEvent.place? := by
    rw [(sweep.eq_none_iff.1 rfl).1]
    exact List.mem_map_of_mem mem
  obtain ⟨event, event_mem, here⟩ := List.mem_filterMap.1 looked_up
  obtain ⟨answer, rfl⟩ := PassEvent.exists_answered here
  refine ⟨answer, event_mem, fun other other_mem => ?_⟩
  have same := PassEvent.eq_of_place? (sweep.nodup_places nodup) other_mem event_mem rfl rfl
  injection same

/-- Where no lookup fails, nothing but absence keeps an object from being handed out. -/
theorem isAbsent_of_mem (sweep : Sweep kc parts events none) {e : OperatorError}
    (mem : part.answered kc (.error e) ∈ events) : e.isAbsent = true := by
  have passed := (sweep.eq_none_iff.1 rfl).2 _ mem
  rwa [Part.fails_error_iff, Bool.not_eq_false] at passed

end Sweep

namespace Pass

open Program (Run)

/-! ## Plans -/

variable {served : Kind → Bool} {capabilities : Capabilities} {kc tracked : Keycloak}
  {start middle : Store} {lookups : List PassEvent}

theorem hasFlags_serving : (Serving served capabilities).HasFlags capabilities :=
  fun _ _ _ _ answered => answered.1

/-- Where a snapshot could be read, all parts have been looked up, and the snapshot has what was handed
out. -/
theorem exists_sweep_of_run {σ : Type} {env : PassEnvironment σ} {before after : σ}
    {state : Snapshot} (fixed : env.HasFlags capabilities)
    (read : Run env (readSnapshot kc) before lookups (tracked, .ok state) after) :
    ∃ looked_up sweep, lookups = looked_up ++ sweep ∧
      (∀ event ∈ looked_up, ∃ key, event.request = .flag key) ∧
      Sweep kc (Part.read kc capabilities.installationFlags) sweep none ∧
      ∀ part live, state.found part = some live ↔ HandsOver kc sweep part live := by
  obtain ⟨looked_up, flags, _, asked, rfl, flags_run, parts_run⟩ := Program.run_bind_iff.1 read
  obtain ⟨rfl, only_flags⟩ := flags_of_run fixed flags_run
  obtain ⟨failure, sweep, -, keeps⟩ := sweep_of_run ⟨rfl, rfl⟩ (Part.nodup_read _ _)
    (fun _ _ => rfl) parts_run
  obtain rfl := keeps.exists_ok_iff.1 ⟨state, rfl⟩
  exact ⟨looked_up, asked, rfl, only_flags, sweep,
    fun part live => keeps.found_iff.trans (or_iff_right (by rintro ⟨⟩))⟩

/-- What is handed out from a store is in place. -/
theorem key_of_given {α : Type} {program : Asking α} {result : α}
    (run : Run (Serving served capabilities) program start lookups result middle) {part : Part}
    {live : part.kind.Object} (given : HandsOver kc lookups part live) :
    (⟨part.kind, live⟩ : Object).key = part.key kc := by
  obtain ⟨before, after, answered⟩ := run.exists_answered _ given
  cases is_served : served part.kind with
  | true =>
    have performed := Serving.performed answered is_served
    cases stored : before.find? part.kind (part.key kc) with
    | none => cases (Store.perform_get_of_none stored).symm.trans performed
    | some object =>
      cases (Store.perform_get_of_some stored).symm.trans performed
      exact Store.key_of_find? stored
  | false =>
    obtain ⟨⟨text, impossible⟩, -⟩ := Serving.refused answered is_served
    cases impossible

/-- What is stored of a part that is wanted is handed out, if its kind is served. -/
theorem given_of_stored {result : Tracked Snapshot}
    (read : Run (Serving served capabilities) (readSnapshot kc) start lookups result middle)
    {part : Part} {live : part.kind.Object}
    (wanted : part.isWanted kc capabilities.installationFlags = true)
    (is_served : served part.kind = true)
    (stored : start.find? part.kind (part.key kc) = some live) : HandsOver kc lookups part live := by
  obtain ⟨-, -, given⟩ := run_readSnapshot_given {} read
  obtain ⟨state, state_eq, -, -, found_eq, -⟩ := run_readSnapshot read
  have known := found_eq part (Part.isRead_of_isWanted wanted)
  rw [if_pos is_served] at known
  exact given state state_eq part live (known.trans stored)

/-- A plan for what has been read from a store has one action for each wanted part, at places that
depend on the declaration and the flags alone and are all different. Each of them has been looked up,
each of them once, and the action there has been made for what the lookup was answered. -/
theorem plan_fits_what_was_read
    {found : Except OperatorError Snapshot}
    (read : Run (Serving served capabilities) (readSnapshot kc) start lookups (tracked, found)
      middle) :
    (lookups.filterMap PassEvent.place?).Nodup ∧
    ∃ state, found = .ok state ∧ ∀ profiles asked plan after,
      Run (Serving served capabilities) (planInstallation profiles tracked state) middle asked plan
        after →
      plan.map Action.place? =
        (Part.wanted kc capabilities.installationFlags).map (fun part => some (part.place kc)) ∧
      (plan.map Action.place?).Nodup ∧
      ∀ action ∈ plan, ∃ (kind : Kind) (key : ObjectKey) (answer : Except OperatorError kind.Object),
        action.place? = some (kind, key) ∧
        (⟨.cluster (.get kind key), answer⟩ : PassEvent) ∈ lookups ∧ action.MadeFor answer := by
  obtain ⟨state, rfl, declared, -⟩ := run_readSnapshot read
  obtain ⟨looked_up, asked, rfl, only_flags, sweep, found_iff⟩ := exists_sweep_of_run hasFlags_serving read
  have nodup_read := Part.nodup_read kc capabilities.installationFlags
  rw [places_append only_flags]
  refine ⟨sweep.nodup_places nodup_read, state, rfl, fun profiles _ plan after planning => ?_⟩
  obtain ⟨b, rfl, -, -, -, rfl, -⟩ := run_planInstallation planning
  have in_place : state.InPlace b.kc := by
    intro part live known
    rw [Part.key_congr declared]
    exact key_of_given read (List.mem_append_right _ ((found_iff part live).1 known))
  have place?_eq : ∀ part : Part, (part.action b state).place? = some (part.place kc) := by
    intro part
    rw [Part.place?_action, Blueprint.key_object in_place, Part.key_congr declared]
    rfl
  have places_eq : ((Part.wanted b.kc capabilities.installationFlags).map
      (Part.action b state)).map Action.place? =
        (Part.wanted kc capabilities.installationFlags).map (fun part => some (part.place kc)) := by
    rw [List.map_map, Part.wanted_congr declared]
    exact List.map_congr_left fun part _ => place?_eq part
  refine ⟨places_eq, ?_, fun action mem => ?_⟩
  · rw [places_eq]
    exact (Part.nodup_wanted kc _).map fun part other same =>
      Part.place_injective kc (Option.some.inj same)
  · obtain ⟨part, wanted, rfl⟩ := List.mem_map.1 mem
    rw [Part.wanted_congr declared] at wanted
    obtain ⟨answer, answered, only_answer⟩ :=
      sweep.existsUnique_answer nodup_read (Part.mem_read_of_mem_wanted wanted)
    refine ⟨part.kind, part.key kc, answer, place?_eq part,
      List.mem_append_right looked_up answered, Part.madeFor_action (fun live => ?_) ?_⟩
    · rw [found_iff]
      exact ⟨fun given => (only_answer _ given).symm, by rintro rfl; exact answered⟩
    · rintro e rfl
      exact sweep.isAbsent_of_mem answered

/-- A service that is there is updated in the version that was handed out. -/
theorem found_service_is_updated :
    ∃ (kc tracked : Keycloak) (start middle after : Store) (state : Snapshot)
      (lookups asked : List PassEvent) (plan : Plan) (service : Service),
      service.metadata.resourceVersion = some "7" ∧
      Run (Serving (fun _ => true) {}) (readSnapshot kc) start lookups (tracked, .ok state) middle ∧
      Run (Serving (fun _ => true) {}) (planInstallation {} tracked state) middle asked plan after ∧
      (plan.map Action.place?).Nodup ∧
      ∃ action ∈ plan, action.MadeFor (.ok service : Except OperatorError Kind.service.Object) := by
  let kc : Keycloak := {}
  let service : Service := { metadata := { name := some "keycloak", resourceVersion := some "7" } }
  let start : Store := ⟨[⟨.service, service⟩]⟩
  have total : (Serving (fun _ => true) {}).Total := by
    rw [serving_all]
    exact total_reliable {}
  obtain ⟨lookups, ⟨tracked, found⟩, middle, read⟩ := Program.exists_run total (readSnapshot kc) start
  obtain ⟨nodup, state, rfl, fits⟩ := plan_fits_what_was_read read
  obtain ⟨asked, plan, after, planning⟩ :=
    Program.exists_run total (planInstallation {} tracked state) middle
  obtain ⟨places_eq, nodup_plan, made⟩ := fits _ _ _ _ planning
  have is_planned : some (Part.service.place kc) ∈
      (Part.wanted kc (Capabilities.installationFlags {})).map fun part => some (part.place kc) :=
    List.mem_map.2 ⟨Part.service, Part.mem_wanted rfl, rfl⟩
  rw [← places_eq] at is_planned
  obtain ⟨action, mem, here⟩ := List.mem_map.1 is_planned
  obtain ⟨kind, key, answer, there, looked_up, made_for⟩ := made action mem
  cases here.symm.trans there
  -- There was one lookup at this place, and it has found the service.
  have given : HandsOver kc lookups .service service := given_of_stored read rfl rfl rfl
  cases PassEvent.eq_of_place? nodup looked_up given rfl rfl
  exact ⟨kc, tracked, start, middle, after, state, lookups, asked, plan, service, rfl, read, planning,
    nodup_plan, action, mem, made_for⟩

end Pass

end IdentityOperator
