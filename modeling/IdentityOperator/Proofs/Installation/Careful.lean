import IdentityOperator.Proofs.Credentials
import IdentityOperator.Proofs.Installation.Pass

/-!
A pass over one installation asks only what is careful with credentials.

The secret that an update is made from has been read earlier in the same pass. In between nothing
changes the secrets but the pass itself, and of the objects that it writes no two are at the same
place, so the secret is still the one that was read. Where the cluster has wrongly reported a secret
as missing, the pass creates it, and a creation is always careful.
-/

namespace IdentityOperator.Pass

open Program (Run Always Returns)

variable {before after store : Store} {events : List PassEvent}

/-! ## Reading -/

theorem sameSecrets_of_run {α : Type} {program : Asking α} {result : α}
    (only : Program.Only (¬ ·.Writes) program)
    (run : Run Unreliable program before events result after) : before.SameSecrets after :=
  only.relates .refl .trans (fun _ _ _ _ reads answered => sameSecrets_of_not_writes reads answered)
    run

theorem find?_of_get {kind : Kind} {key : ObjectKey} {x : kind.Object}
    (answered : Unreliable (.cluster (.get kind key)) before (.ok x) after) :
    before.find? kind key = some x := by
  obtain ⟨served, -, done | ⟨⟨e, impossible⟩, -⟩⟩ := answered
  · cases found : before.find? kind key with
    | none =>
      rw [Store.perform_get_of_none found] at done
      cases done
    | some y =>
      rw [Store.perform_get_of_some found] at done
      cases done
      rfl
  · cases impossible

/-- What a snapshot has of an installation was in a store with the same secrets. -/
def SeenIn (store : Store) (kc : Keycloak) (state : Snapshot) : Prop :=
  ∀ part live, state.found part = some live →
    ∃ seen : Store, store.SameSecrets seen ∧ seen.find? part.kind (part.key kc) = some live

theorem SeenIn.congr {kc other : Keycloak} {state : Snapshot} (seen : SeenIn before kc state)
    (same : before.SameSecrets after) (declared : kc.declaration = other.declaration) :
    SeenIn after other state := by
  intro part live found
  obtain ⟨store, same_seen, seen⟩ := seen part live found
  rw [Part.key_congr declared] at seen
  exact ⟨store, same.symm.trans same_seen, seen⟩

theorem SeenIn.put {kc : Keycloak} {state : Snapshot} {part : Part} {object : part.kind.Object}
    (seen : SeenIn store kc state) (found : store.find? part.kind (part.key kc) = some object) :
    SeenIn store kc (state.put part object) := by
  intro other live other_found
  by_cases same : other = part
  · subst same
    rw [Snapshot.found_put_self] at other_found
    cases other_found
    exact ⟨store, .refl store, found⟩
  · rw [Snapshot.found_put_of_ne state object same] at other_found
    exact seen other live other_found

theorem SeenIn.inPlace {kc : Keycloak} {state : Snapshot} (seen : SeenIn store kc state) :
    state.InPlace kc := by
  intro part live found
  obtain ⟨_, -, found⟩ := seen part live found
  exact Store.key_of_find? found

theorem seenIn_of_run_readParts {kc : Keycloak} {state found : Snapshot} {parts : List Part}
    {result : Tracked Snapshot} (seen : SeenIn before kc state)
    (run : Run Unreliable (readParts kc state parts) before events result after)
    (result_eq : result.2 = .ok found) :
    SeenIn before kc found ∧ result.1.declaration = kc.declaration := by
  induction parts generalizing kc state before events with
  | nil =>
    obtain ⟨rfl, rfl, rfl⟩ := Program.run_done_iff.1 run
    cases result_eq
    exact ⟨seen, rfl⟩
  | cons part parts ih =>
    obtain ⟨answer, middle, later, rfl, answered, rest⟩ := run_ask_bind_iff.1 run
    have same : before.SameSecrets middle := sameSecrets_of_not_writes id answered
    cases answer with
    | ok object =>
      have tracked : (if part.isTracked kc then kc.trackSecondary part.kind.name
          (part.kind.metadata object).nameAny else kc).declaration = kc.declaration := by
        split <;> rfl
      have seen_too := (seen.put (find?_of_get answered)).congr same tracked.symm
      obtain ⟨seen_found, declared⟩ := ih seen_too rest
      exact ⟨seen_found.congr same.symm tracked, declared.trans tracked⟩
    | error e =>
      -- An error may hide a secret that is there; then nothing is seen of it, which is no harm.
      dsimp only at rest
      split at rest
      · obtain ⟨seen_found, declared⟩ := ih (seen.congr same rfl) rest
        exact ⟨seen_found.congr same.symm rfl, declared⟩
      · obtain ⟨rfl, rfl, rfl⟩ := Program.run_done_iff.1 rest
        cases result_eq

theorem seenIn_of_run_readSnapshot {kc : Keycloak} {found : Snapshot} {result : Tracked Snapshot}
    (run : Run Unreliable (readSnapshot kc) before events result after)
    (result_eq : result.2 = .ok found) :
    SeenIn after kc found ∧ result.1.declaration = kc.declaration := by
  have only_read : Program.Only (¬ ·.Writes) (readSnapshot kc) :=
    only_readSnapshot (fun _ => id) (fun _ _ => id) kc
  have same := sameSecrets_of_run only_read run
  obtain ⟨first, flags, middle, second, rfl, flags_run, rest⟩ := Program.run_bind_iff.1 run
  have only_flags : Program.Only (¬ ·.Writes) installationFlags :=
    only_installationFlags fun _ => id
  have same_flags := sameSecrets_of_run only_flags flags_run
  have nothing_seen : SeenIn middle kc {} := fun _ _ impossible => by cases impossible
  obtain ⟨seen, declared⟩ := seenIn_of_run_readParts nothing_seen rest result_eq
  exact ⟨seen.congr (same_flags.symm.trans same) rfl, declared⟩

/-! ## Planning and applying -/

/-- An action by which no credential is lost, if it is applied now. -/
def CarefulAction (store : Store) : Action → Prop
  | .create .. => True
  | .update o _ _ => store.CarefulUpdate o
  | _ => False

theorem careful_action {b : Blueprint} {state : Snapshot} (seen : SeenIn store b.kc state)
    (part : Part) : CarefulAction store (part.action b state) := by
  unfold Part.action
  cases found : state.found part with
  | none => trivial
  | some live =>
    intro old new new_eq stored
    -- The secret that is stored now is the one that was read: nothing has changed it since.
    obtain ⟨before, same, seen⟩ := seen part live found
    have kind_eq : part.kind = .secret := congrArg Object.kind new_eq
    rw [Part.key_refreshed, Store.key_of_find? seen, ← same] at stored
    exact Part.keptIn_refreshed b (Store.eq_of_find? kind_eq seen stored) new_eq

theorem always_applyAction {action : Action} (careful : CarefulAction store action)
    (session : Option Session) :
    Always Unreliable Careful (applyAction session action).run store := by
  cases action with
  | create o msg => exact ⟨trivial, fun _ _ _ => trivial⟩
  | update o previous msg => exact ⟨careful, fun _ _ _ => trivial⟩
  | _ => exact careful.elim

/-- An action stays careful while other places are written to. -/
theorem CarefulAction.after_write {session : Option Session} {first later : Action} {o : Object}
    {result : Except OperatorError Unit} (careful : CarefulAction store later)
    (written : first.written? = some o)
    (run : Run Unreliable (applyAction session first).run store events result after)
    (elsewhere : ∀ other, later.written? = some other → Store.isAt o.kind o.key other = false) :
    CarefulAction after later := by
  cases later with
  | create o msg => trivial
  | update other previous msg =>
    rintro old new rfl stored
    refine careful old new rfl ?_
    have apart : Store.isAt .secret (⟨.secret, new⟩ : Object).key o = false :=
      (Store.isAt_comm _ _).trans (elsewhere _ rfl)
    cases first with
    | create o' msg' =>
      cases written
      obtain ⟨rfl, answered⟩ := run_clusterCall_iff.1 run
      rwa [find?_of_write apart (.inl rfl) answered] at stored
    | update o' previous' msg' =>
      cases written
      obtain ⟨rfl, answered⟩ := run_clusterCall_iff.1 run
      rwa [find?_of_write apart (.inr rfl) answered] at stored
    | _ => cases written
  | _ => exact careful.elim

/-- A plan is careful from its first action to its last one, wherever it stops. -/
theorem always_applyPlan {session : Option Session} {plan : Plan}
    (careful : ∀ action ∈ plan, CarefulAction store action)
    (distinct : Store.DistinctPlaces (plan.filterMap Action.written?)) :
    Always Unreliable Careful (applyPlan session plan).run store := by
  -- The invariant: what is still to be applied is careful in the store of the moment.
  induction plan generalizing store with
  | nil => trivial
  | cons action plan ih =>
    have here := careful action List.mem_cons_self
    obtain ⟨o, written⟩ : ∃ o, action.written? = some o := by
      cases action <;> first | exact ⟨_, rfl⟩ | exact here.elim
    rw [List.filterMap_cons_some written] at distinct
    obtain ⟨apart, distinct⟩ := List.pairwise_cons.1 distinct
    refine always_bind_iff.2 ⟨always_applyAction here session, fun events _ after run => ?_⟩
    refine ih (fun later mem => ?_) distinct
    exact (careful later (List.mem_cons_of_mem _ mem)).after_write written run fun other other_eq =>
      apart other (List.mem_filterMap.2 ⟨later, mem, other_eq⟩)

theorem returns_planInstallation (profiles : Profiles) (kc : Keycloak) (state : Snapshot) :
    Returns (fun plan => ∃ flags b, b.kc = kc ∧ b.profiles = profiles ∧
      b.databaseSecret = state.databaseSecret ∧
      plan = (Part.wanted kc flags).map (Part.action b state)) (planInstallation profiles kc state) :=
  Program.returns_bind fun flags => Program.returns_bind fun admin =>
    Program.returns_bind fun database =>
      ⟨flags, ⟨kc, profiles, ⟨admin, database⟩, state.databaseSecret⟩, rfl, rfl, rfl, rfl⟩

/-- However reading goes, a plan that comes of it has an action for each part that is wanted. -/
theorem returns_readAndPlan (profiles : Profiles) (kc : Keycloak) :
    Returns (fun planned => ∀ state plan, planned.2 = .ok (state, plan) → ∃ flags b,
      b.kc = planned.1 ∧ b.profiles = profiles ∧ b.databaseSecret = state.databaseSecret ∧
      plan = (Part.wanted planned.1 flags).map (Part.action b state)) (readAndPlan profiles kc) := by
  refine Program.returns_bind fun ⟨tracked, found⟩ => ?_
  cases found with
  | error e =>
    intro state plan impossible
    cases impossible
  | ok state =>
    refine Program.returns_bind_of_returns (returns_planInstallation profiles tracked state) ?_
    rintro plan made _ _ ⟨⟩
    exact made

/-! ## Whole passes -/

theorem always_applyInstallation {b : Blueprint} {state : Snapshot} (flags : InstallationFlags)
    (seen : SeenIn store b.kc state) :
    Always Unreliable Careful (applyInstallation b.kc
      ((Part.wanted b.kc flags).map (Part.action b state))).run store := by
  have careful : ∀ action ∈ (Part.wanted b.kc flags).map (Part.action b state),
      CarefulAction store action := by
    intro action mem
    obtain ⟨part, -, rfl⟩ := List.mem_map.1 mem
    exact careful_action seen part
  have distinct := Blueprint.distinctPlaces_objects seen.inPlace flags
  rw [Blueprint.objects, ← Blueprint.filterMap_written?] at distinct
  unfold applyInstallation
  split
  · trivial
  · exact always_bind_iff.2 ⟨always_applyPlan careful distinct, fun _ _ _ _ => trivial⟩

theorem always_convergeInstallation (profiles : Profiles) (kc : Keycloak) (store : Store) :
    Always Unreliable Careful (convergeInstallation profiles kc) store := by
  unfold convergeInstallation
  split
  · trivial
  · have only_read : Program.Only (¬ ·.Writes) (readSnapshot kc) :=
      only_readSnapshot (fun _ => id) (fun _ _ => id) kc
    refine Program.always_bind_iff.2 ⟨only_read.always careful_of_not_writes store, ?_⟩
    rintro events ⟨tracked, found⟩ after run
    cases found with
    | error e => trivial
    | ok state =>
      obtain ⟨seen, declared⟩ := seenIn_of_run_readSnapshot run rfl
      have only_plan : Program.Only (¬ ·.Writes) (planInstallation profiles tracked state) :=
        only_planInstallation (fun _ => id) (fun _ => id) profiles tracked state
      refine Program.always_bind_iff.2 ⟨only_plan.always careful_of_not_writes after, ?_⟩
      intro later plan last planRun
      have same := sameSecrets_of_run only_plan planRun
      obtain ⟨flags, b, rfl, -, -, rfl⟩ := (returns_planInstallation profiles tracked state).of_run planRun
      refine Program.always_bind_iff.2
        ⟨always_applyInstallation flags (seen.congr same declared.symm), ?_⟩
      intro _ applied _ _
      cases applied with
      | error e => trivial
      | ok _ => exact ⟨trivial, fun _ _ _ => trivial⟩

/-- A pass over an installation is careful from its first request to its last one. -/
theorem always_installation (profiles : Profiles) (kc : Keycloak) (store : Store) :
    Always Unreliable Careful (installation profiles kc).run store := by
  refine Program.always_bind_iff.2 ⟨always_convergeInstallation profiles kc store, ?_⟩
  rintro events ⟨tracked, result⟩ after -
  have report : ∀ ready error url,
      Always Unreliable Careful (reportInstallation tracked ready error url).run after :=
    fun ready error url =>
      ((only_reportInstallation tracked ready error url).mono fun _ =>
        PassRequest.Reports.not_replaces).always careful_of_not_replaces after
  cases result with
  | ok outcome =>
    refine Program.always_bind_iff.2 ⟨report _ _ _, fun _ reported _ _ => ?_⟩
    cases reported <;> trivial
  | error e => exact Program.always_bind_iff.2 ⟨report _ _ _, fun _ _ _ _ => trivial⟩

/-- And so is a pass over a declared realm. -/
theorem always_realm (declared : KeycloakRealm) (store : Store) :
    Always Unreliable Careful (realm declared).run store :=
  (only_realm_not_replaces declared).always careful_of_not_replaces store

end IdentityOperator.Pass
