import IdentityOperator.Proofs.Installation.Replanning
import IdentityOperator.Proofs.Installation.Requests

/-!
Flags that change while a pass is under way.

A pass looks up the flags when it reads and again when it plans, and something else may set them anew
between any two lookups (`Pass.Flickering`). So a pass may look for an ingress and plan a route, or plan
for what it has never looked for. It does no harm by that (`Pass.flickering_flags_do_no_harm`): what is
planned without having been looked for is created, and a creation leaves alone what is there; an update
is made from what the cluster has handed out in the same pass; and of a route and an ingress at most one
is planned, because one answer decides about both.

What changes in a store has been updated (`Pass.kept_or_updated_of_run`). That and what a pass asks
(`Pass.asks_of_run`) is all that the argument takes.
-/

namespace IdentityOperator

namespace Pass

open Program (Run Only)

/-- Every call is answered as by a reliable cluster, and a flag is answered as it is set at that
moment, whatever it was before. -/
def Flickering : PassEnvironment Store :=
  fun request before answer after =>
    ∃ capabilities, Reliable capabilities request before answer after

variable {before after : Store} {events : List PassEvent} {kc : Keycloak} {profiles : Profiles}
  {flags : InstallationFlags} {kind : Kind} {key : ObjectKey} {x : kind.Object}

theorem Flickering.performed {call : ClusterCall} {answer : call.Answer}
    (answered : Flickering (.cluster call) before answer after) :
    before.perform call = (answer, after) := by
  obtain ⟨capabilities, performed⟩ := answered
  exact performed

/-! ## What changes -/

/-- What is there stays as it is, unless the request is to update it. -/
theorem Flickering.kept_or_updated {request : PassRequest} {answer : request.Answer}
    (answered : Flickering request before answer after)
    (keeps : ∀ o, request ≠ .cluster (.delete o)) (found : before.find? kind key = some x) :
    after.find? kind key = some x ∨
      ∃ y, (⟨request, answer⟩ : PassEvent) = ⟨.cluster (.update ⟨kind, y⟩), .ok ()⟩ ∧
        (⟨kind, y⟩ : Object).key = key ∧ after.find? kind key = some y := by
  cases request with
  | cluster call =>
    have performed := answered.performed
    cases call with
    | delete o => exact absurd rfl (keeps o)
    | get kind' key' =>
      cases live : before.find? kind' key' with
      | none =>
        cases (Store.perform_get_of_none live).symm.trans performed
        exact .inl found
      | some y =>
        cases (Store.perform_get_of_some live).symm.trans performed
        exact .inl found
    | list =>
      cases performed
      exact .inl found
    | create o =>
      cases present : before.contains o.kind o.key with
      | true =>
        cases (Store.perform_create_of_contains present).symm.trans performed
        exact .inl found
      | false =>
        cases (Store.perform_create_of_missing present).symm.trans performed
        refine .inl ((before.find?_put_of_ne ?_).trans found)
        -- Something is found at the place, and nothing is at the place of the new object.
        rw [← Bool.not_eq_true, Store.isAt_iff]
        rintro ⟨rfl, rfl⟩
        rw [← Store.find?_eq_none_iff, found] at present
        cases present
    | update o =>
      cases present : before.contains o.kind o.key with
      | false =>
        cases (Store.perform_update_of_missing present).symm.trans performed
        exact .inl found
      | true =>
        cases (Store.perform_update_of_contains present).symm.trans performed
        cases here : Store.isAt kind key o with
        | false => exact .inl ((before.find?_put_of_ne here).trans found)
        | true =>
          obtain ⟨rfl, rfl⟩ := Store.isAt_iff.1 here
          exact .inr ⟨o.content, rfl, rfl, before.find?_put_self o⟩
  | flag key' =>
    obtain ⟨_, -, rfl⟩ := answered
    exact .inl found
  | password bytes =>
    obtain ⟨_, -, rfl⟩ := answered
    exact .inl found
  | patchKeycloakStatus | patchRealmStatus | patchFinalizers | login | admin | now =>
    obtain ⟨_, rfl⟩ := answered
    exact .inl found

/-- Where nothing is deleted, whatever is there in the beginning is as it was, or as the last update of
it has made it. -/
theorem kept_or_updated_of_run {α : Type} {program : Asking α} {result : α}
    (run : Run Flickering program before events result after)
    (keeps : ∀ event ∈ events, ∀ o, event.request ≠ .cluster (.delete o))
    (found : before.find? kind key = some x) :
    after.find? kind key = some x ∨
      ∃ y, (⟨.cluster (.update ⟨kind, y⟩), .ok ()⟩ : PassEvent) ∈ events ∧
        (⟨kind, y⟩ : Object).key = key ∧ after.find? kind key = some y := by
  induction run generalizing x with
  | done result state => exact .inl found
  | ask answered run ih =>
    obtain ⟨keeps_here, keeps_later⟩ := List.forall_mem_cons.1 keeps
    rcases answered.kept_or_updated keeps_here found with same | ⟨y, event_eq, key_eq, found'⟩
    · rcases ih keeps_later same with same | ⟨y, mem, key_eq, found'⟩
      · exact .inl same
      · exact .inr ⟨y, List.mem_cons_of_mem _ mem, key_eq, found'⟩
    · rcases ih keeps_later found' with same | ⟨z, mem, key_eq', found''⟩
      · exact .inr ⟨y, event_eq ▸ List.mem_cons_self, key_eq, same⟩
      · exact .inr ⟨z, List.mem_cons_of_mem _ mem, key_eq', found''⟩

/-- And then whatever is there stays there. -/
theorem contains_of_run {α : Type} {program : Asking α} {result : α}
    (run : Run Flickering program before events result after)
    (keeps : ∀ event ∈ events, ∀ o, event.request ≠ .cluster (.delete o))
    (present : before.contains kind key = true) : after.contains kind key = true := by
  obtain ⟨x, found⟩ := Option.isSome_iff_exists.1 (Store.isSome_find?_iff.2 present)
  rw [← Store.isSome_find?_iff]
  rcases kept_or_updated_of_run run keeps found with same | ⟨y, -, -, found'⟩
  · rw [same]
    rfl
  · rw [found']
    rfl

/-! ## What a pass has been given -/

/-- What the cluster hands out is what it has at the place that it was asked for. -/
theorem Flickering.find?_of_get {part : Part} {live : part.kind.Object}
    (answered : Flickering (.cluster (.get part.kind (part.key kc))) before (.ok live) after) :
    before.find? part.kind (part.key kc) = some live := by
  have performed := answered.performed
  cases found : before.find? part.kind (part.key kc) with
  | none =>
    cases (Store.perform_get_of_none found).symm.trans performed
  | some y =>
    cases (Store.perform_get_of_some found).symm.trans performed
    rfl

theorem key_of_handsOver {α : Type} {program : Asking α} {result : α} {part : Part}
    {live : part.kind.Object} (run : Run Flickering program before events result after)
    (given : HandsOver kc events part live) :
    (⟨part.kind, live⟩ : Object).key = part.key kc := by
  obtain ⟨middle, later, answered⟩ := run.exists_answered _ given
  exact Store.key_of_find? answered.find?_of_get

/-- And there is still something there in the end. -/
theorem contains_of_handsOver {α : Type} {program : Asking α} {result : α} {part : Part}
    {live : part.kind.Object} (run : Run Flickering program before events result after)
    (keeps : ∀ event ∈ events, ∀ o, event.request ≠ .cluster (.delete o))
    (given : HandsOver kc events part live) :
    after.contains part.kind (part.key kc) = true := by
  unfold HandsOver at given
  induction run with
  | done result state => cases given
  | ask answered run ih =>
    rcases List.mem_cons.1 given with here | later
    · cases here
      have present := Store.isSome_find?_iff.1
        (Option.isSome_iff_exists.2 ⟨live, answered.find?_of_get⟩)
      exact contains_of_run (.ask answered run) keeps present
    · exact ih (List.forall_mem_cons.1 keeps).2 later

/-! ## Applying -/

/-- An action that will succeed: what it updates is there. -/
def Applicable (store : Store) : Action → Prop
  | .create .. => True
  | .update o _ _ => store.contains o.kind o.key = true
  | _ => False

theorem only_applyAction_of_applicable {action : Action} (applicable : Applicable before action)
    (session : Option Session) :
    Only (fun request => ∀ o, request ≠ .cluster (.delete o)) (applyAction session action).run := by
  cases action with
  | create | update =>
    refine only_ask ?_
    rintro o ⟨⟩
  | _ => exact applicable.elim

theorem run_applyAction_flickering {session : Option Session} {action : Action}
    {result : Except OperatorError Unit} (applicable : Applicable before action)
    (run : Run Flickering (applyAction session action).run before events result after) :
    result = .ok () := by
  cases action with
  | create o msg =>
    obtain ⟨rfl, answered⟩ := run_clusterCall_iff.1 run
    exact (congrArg Prod.fst answered.performed).symm
  | update o previous msg =>
    obtain ⟨rfl, answered⟩ := run_clusterCall_iff.1 run
    exact (congrArg Prod.fst
      ((Store.perform_update_of_contains applicable).symm.trans answered.performed)).symm
  | _ => exact applicable.elim

/-- A plan that updates only what is there succeeds. -/
theorem run_applyPlan_flickering {session : Option Session} {plan : Plan}
    {result : Except OperatorError Unit} (applicable : ∀ action ∈ plan, Applicable before action)
    (run : Run Flickering (applyPlan session plan).run before events result after) :
    result = .ok () := by
  induction plan generalizing before events with
  | nil =>
    obtain ⟨-, rfl, -⟩ := run_pure_iff.1 run
    rfl
  | cons action plan ih =>
    obtain ⟨here, later⟩ := List.forall_mem_cons.1 applicable
    rcases run_bind_iff.1 run with ⟨e, -, failed⟩ | ⟨first, _, middle, second, rfl, first_run, rest⟩
    · cases run_applyAction_flickering here failed
    · -- Nothing is deleted, so that what will be updated is still there.
      have keeps := (only_applyAction_of_applicable here session).of_run first_run
      refine ih (fun action mem => ?_) rest
      have applicable := later action mem
      cases action with
      | create => trivial
      | update o previous msg => exact contains_of_run first_run keeps applicable
      | _ => exact applicable.elim

theorem applicable_action {b : Blueprint} {state : Snapshot} {part : Part}
    (in_place : ∀ live, state.found part = some live →
      (⟨part.kind, live⟩ : Object).key = part.key kc ∧ before.contains part.kind (part.key kc) = true) :
    Applicable before (part.action b state) := by
  cases found : state.found part with
  | none =>
    rw [Part.action_of_none found]
    trivial
  | some live =>
    obtain ⟨key_eq, present⟩ := in_place live found
    rw [Part.action_of_some found]
    show before.contains part.kind (⟨part.kind, part.refreshed b live⟩ : Object).key = true
    rwa [Part.key_refreshed, key_eq]

/-! ## Whole passes -/

/-- No call of reading fails. -/
theorem run_readSnapshot_flickering {result : Tracked Snapshot}
    (run : Run Flickering (readSnapshot kc) before events result after) :
    ∃ found, result.2 = .ok found := by
  obtain ⟨_, flags, middle, second, rfl, -, parts_run⟩ := Program.run_bind_iff.1 run
  obtain ⟨-, asked, -⟩ := run_readParts_given parts_run
  have serving : Run (Serving (fun _ => true) {}) (readParts kc {} (Part.read kc flags)) middle second
      result after := by
    refine parts_run.of_answers asked ?_
    rintro _ before answer after ⟨part, rfl⟩ answered
    rw [serving_all]
    exact answered.performed
  obtain ⟨found, result_eq, -⟩ := run_readParts serving
  exact ⟨found, result_eq⟩

theorem run_readAndPlan_flickering {result : Tracked (Snapshot × Plan)}
    (run : Run Flickering (readAndPlan profiles kc) before events result after) :
    ∃ state plan, result.2 = .ok (state, plan) := by
  obtain ⟨_, ⟨tracked, found⟩, _, _, rfl, read_run, rest⟩ := Program.run_bind_iff.1 run
  obtain ⟨state, rfl⟩ : ∃ state, found = .ok state := run_readSnapshot_flickering read_run
  obtain ⟨_, plan, _, _, rfl, -, rest⟩ := Program.run_bind_iff.1 rest
  obtain ⟨rfl, rfl, rfl⟩ := Program.run_done_iff.1 rest
  exact ⟨state, plan, rfl⟩

/-- So a pass succeeds. -/
theorem succeeds_of_flickering {result : Tracked InstallationOutcome}
    (managed : kc.spec.unmanaged = false) (internal : kc.spec.external.enabled = false)
    (run : Run Flickering (convergeInstallation profiles kc) before events result after) :
    ∃ outcome, result.2 = .ok outcome := by
  rw [convergeInstallation_eq internal] at run
  obtain ⟨planning, ⟨tracked, planned⟩, middle, applying, rfl, plan_run, rest⟩ :=
    Program.run_bind_iff.1 run
  obtain ⟨state, plan, rfl⟩ : ∃ state plan, planned = .ok (state, plan) :=
    run_readAndPlan_flickering plan_run
  obtain ⟨declared, asked, made⟩ := run_readAndPlan_given plan_run
  obtain ⟨given, flags, b, rfl, is_for, plan_eq⟩ := made state plan rfl
  have keeps := not_delete_of_asks (asked flags)
  have applicable : ∀ action ∈ plan, Applicable middle action := by
    rw [plan_eq]
    intro action mem
    obtain ⟨part, -, rfl⟩ := List.mem_map.1 mem
    have in_place : ∀ live, state.found part = some live →
        (⟨part.kind, live⟩ : Object).key = part.key kc ∧
          middle.contains part.kind (part.key kc) = true := by
      intro live found
      have handed := given part live found
      exact ⟨key_of_handsOver plan_run handed, contains_of_handsOver plan_run keeps handed⟩
    exact applicable_action in_place
  have spec_eq : b.kc.spec = kc.spec := (congrArg Keycloak.spec declared :)
  obtain ⟨_, applied, last, _, rfl, apply_run, rest⟩ := Program.run_bind_iff.1 rest
  rw [applyInstallation, if_neg (by simp [spec_eq, managed])] at apply_run
  rcases run_bind_iff.1 apply_run with ⟨e, -, failed⟩ | ⟨_, _, _, _, -, -, applied_run⟩
  · cases run_applyPlan_flickering applicable failed
  · obtain ⟨-, rfl, -⟩ := run_pure_iff.1 applied_run
    obtain ⟨_, _, _, -, -, rest⟩ := run_ask_bind_iff.1 rest
    obtain ⟨-, rfl, -⟩ := Program.run_done_iff.1 rest
    exact ⟨_, rfl⟩

/-- Whatever is there in the beginning is as it was, or it has been updated to what the pass has made of
the object that it has been given from the same place. -/
theorem kept_or_refreshed_of_run {result : Tracked InstallationOutcome}
    (run : Run Flickering (convergeInstallation profiles kc) before events result after)
    (found : before.find? kind key = some x) :
    after.find? kind key = some x ∨
      ∃ part b live, kind = part.kind ∧ key = part.key kc ∧ Blueprint.IsFor b profiles kc events ∧
        HandsOver kc events part live ∧
        (⟨.cluster (.update ⟨part.kind, part.refreshed b live⟩), .ok ()⟩ : PassEvent) ∈ events ∧
        after.find? part.kind (part.key kc) = some (part.refreshed b live) := by
  obtain ⟨flags, asked⟩ := asks_of_run run
  have keeps := not_delete_of_asks asked
  rcases kept_or_updated_of_run run keeps found with same | ⟨y, mem, key_eq, found'⟩
  · exact .inl same
  · obtain ⟨part, b, live, -, is_for, given, object_eq⟩ := (asked _ mem).exists_of_update
    cases object_eq
    have place_eq : key = part.key kc := by
      rw [← key_eq, Part.key_refreshed, key_of_handsOver run given]
    subst place_eq
    exact .inr ⟨part, b, live, rfl, rfl, is_for, given, mem, found'⟩

/-- While flags change in any way, a pass over an installation succeeds. What it has not been given is
as it was; whatever it has changed it has updated, to what it has made of the object that it has been
given from the same place; nothing is taken away; and it does not write both a route and an ingress. -/
theorem flickering_flags_do_no_harm {result : Tracked InstallationOutcome}
    (managed : kc.spec.unmanaged = false) (internal : kc.spec.external.enabled = false)
    (run : Run Flickering (convergeInstallation profiles kc) before events result after) :
    (∃ outcome, result.2 = .ok outcome) ∧
      (∀ (kind : Kind) key x, before.find? kind key = some x →
        (∀ given, (⟨.cluster (.get kind key), .ok given⟩ : PassEvent) ∉ events) →
        after.find? kind key = some x) ∧
      (∀ (kind : Kind) key x, before.find? kind key = some x → after.find? kind key ≠ some x →
        ∃ part b live, kind = part.kind ∧ key = part.key kc ∧ b.IsFor profiles kc events ∧
          HandsOver kc events part live ∧
          (⟨.cluster (.update ⟨part.kind, part.refreshed b live⟩), .ok ()⟩ : PassEvent) ∈ events ∧
          after.find? part.kind (part.key kc) = some (part.refreshed b live)) ∧
      (∀ event ∈ events, ∀ o, event.request ≠ .cluster (.delete o)) ∧
      (∀ kind key, before.contains kind key = true → after.contains kind key = true) ∧
      ¬ ((∃ event ∈ events, event.request.Puts .route) ∧
        ∃ event ∈ events, event.request.Puts .ingress) := by
  obtain ⟨flags, asked⟩ := asks_of_run run
  have keeps := not_delete_of_asks asked
  refine ⟨succeeds_of_flickering managed internal run, fun kind key x found withheld => ?_,
    fun kind key x found changed => ?_, keeps, fun kind key => contains_of_run run keeps, ?_⟩
  · rcases kept_or_refreshed_of_run run found with same | ⟨part, b, live, rfl, rfl, -, given, -, -⟩
    · exact same
    · exact absurd given (withheld live)
  · exact (kept_or_refreshed_of_run run found).resolve_left changed
  · rintro ⟨⟨event, mem, puts_route⟩, event', mem', puts_ingress⟩
    obtain ⟨part, wanted, kind_eq⟩ := (asked event mem).exists_of_puts puts_route
    obtain ⟨other, other_wanted, other_kind_eq⟩ := (asked event' mem').exists_of_puts puts_ingress
    obtain rfl : part = .route := by cases part <;> first | rfl | cases kind_eq
    obtain rfl : other = .ingress := by cases other <;> first | rfl | cases other_kind_eq
    -- Both would have been wanted with the same flags.
    simp only [Part.isWanted, Bool.and_eq_true, Bool.not_eq_true'] at wanted other_wanted
    exact Bool.false_ne_true (other_wanted.2.symm.trans wanted.2)

/-- Answers of a reliable cluster with a probe, which finds everything to be served as soon as a pass
has looked up whether there are routes. -/
def serveProbed : (request : PassRequest) → Store × Bool → request.Answer × (Store × Bool)
  | .flag key, (store, probed) => (probed, store, probed || key = .route)
  | request, (store, probed) =>
    let (answer, after) := serveReliably {} request store
    (answer, after, probed)

theorem flickering_serveProbed (request : PassRequest) (state : Store × Bool) :
    Flickering request state.1 (serveProbed request state).1 (serveProbed request state).2.1 := by
  obtain ⟨store, probed⟩ := state
  cases request with
  | flag key =>
    have set_last : (Capabilities.ofList [(key, probed)]).get key = probed := by
      simp [Capabilities.ofList, Capabilities.set, Capabilities.get, Capabilities.lookup]
    exact ⟨.ofList [(key, probed)], set_last.symm, rfl⟩
  | _ => exact ⟨{}, reliable_serveReliably {} _ store⟩

theorem exists_run_serveProbed {α : Type} (program : Asking α) (before : Store × Bool) :
    ∃ events, Run Flickering program before.1 events (program.run serveProbed before).1
      (program.run serveProbed before).2.1 := by
  let probed : PassEnvironment (Store × Bool) := fun request before answer after =>
    Flickering request before.1 answer after.1
  have answers : ∀ request state, probed request state (serveProbed request state).1
      (serveProbed request state).2 := flickering_serveProbed
  obtain ⟨events, run⟩ := Program.exists_run_of_serve answers program before
  exact ⟨events, run.simulated fun _ _ _ _ answered => answered⟩

/-- A pass that has looked for an ingress plans a route when the probe has found routes. The route that
is there, which it has not looked for, stays as it is. -/
theorem unread_route_stays :
    ∃ (start after : Store) (events : List PassEvent) (result : Tracked InstallationOutcome),
      (start.find? .route (ServerRoute.key reachableInstallation)).map
        (fun route : Route => route.spec.host) = some (some "sso.example.org") ∧
      Run Flickering (convergeInstallation {} reachableInstallation) start events result after ∧
      (∃ outcome, result.2 = .ok outcome) ∧
      (after.find? .route (ServerRoute.key reachableInstallation)).map
        (fun route : Route => route.spec.host) = some (some "sso.example.org") ∧
      after.contains .serviceMonitor (ServerMonitor.key reachableInstallation) = true ∧
      ¬ ((∃ event ∈ events, event.request.Puts .route) ∧
        ∃ event ∈ events, event.request.Puts .ingress) := by
  let route : Route :=
    { metadata := { name := some "keycloak" }
      spec := { host := some "sso.example.org", target := ⟨"Service", "keycloak"⟩ } }
  let start : Store := ⟨[⟨.route, route⟩]⟩
  obtain ⟨events, run⟩ :=
    exists_run_serveProbed (convergeInstallation {} reachableInstallation) (start, false)
  obtain ⟨succeeds, -, -, -, -, not_both⟩ := flickering_flags_do_no_harm rfl rfl run
  exact ⟨start, _, events, _, by decide +kernel, run, succeeds, by decide +kernel,
    by decide +kernel, not_both⟩

end Pass

end IdentityOperator
