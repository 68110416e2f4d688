import IdentityOperator.Proofs.Pass.FailFast
import IdentityOperator.Proofs.RealmDeclaration.UserSecrets
import IdentityOperator.Proofs.Store

/-!
Planning for a declared realm again after a plan for it has been applied.

A plan for a live declaration takes nothing away (`Action.Removes`). It creates the realm if reading
has not found it, and a secret for every user who has been found without one. Reading looks where the
plan puts things, so that after the plan everything is found (`ServedWorld.IsSettled`), and what is
planned then are the steps that are repeated with every pass
(`Pass.replanned_realm_needs_only_upkeep`).

What is known about secrets is filed by user name, and the secrets themselves by a name that is made
from it. Users of one name share an entry, users of different names may share a secret; in either case
all of them find one once the first one has got it.
-/

namespace IdentityOperator

/-! ## Worlds -/

/-- A cluster, and the admin API of an installation. -/
@[ext]
structure ServedWorld where
  store : Store := {}
  admin : MemoryAdmin := {}

namespace ServedWorld

variable {before middle after : ServedWorld} {declared : KeycloakRealm}

/-- Whatever is in one world is in the other one as well, though it may have been changed. -/
structure KeptIn (before after : ServedWorld) : Prop where
  objects : ∀ kind key, before.store.contains kind key = true →
    after.store.contains kind key = true
  realms : ∀ name, (before.admin.find? name).isSome → (after.admin.find? name).isSome

theorem KeptIn.refl (world : ServedWorld) : world.KeptIn world := ⟨fun _ _ => id, fun _ => id⟩

theorem KeptIn.trans (first : before.KeptIn middle) (second : middle.KeptIn after) :
    before.KeptIn after where
  objects kind key present := second.objects kind key (first.objects kind key present)
  realms name there := second.realms name (first.realms name there)

/-- What reading finds of a declared realm. -/
def snapshot (world : ServedWorld) (declared : KeycloakRealm) (kc : Keycloak) : RealmSnapshot where
  realm := world.admin.find? declared.realmName
  userSecrets := declared.spec.realm.users.map fun user =>
    (user.username, world.store.find? .secret (UserSecret.key declared user kc))

/-- A user is found to have a secret just if there is one under his key, whoever else has his name. -/
theorem hasUserSecret_snapshot (world : ServedWorld) (kc : Keycloak) {user : Admin.User}
    (declares : user ∈ declared.spec.realm.users) :
    (world.snapshot declared kc).hasUserSecret user.username =
      (world.store.find? .secret (UserSecret.key declared user kc)).isSome := by
  unfold RealmSnapshot.hasUserSecret RealmSnapshot.secretOf?
  cases entry : (world.snapshot declared kc).userSecrets.reverse.find?
      (·.1 = user.username) with
  | none =>
    have filed : (user.username, world.store.find? .secret (UserSecret.key declared user kc)) ∈
        (world.snapshot declared kc).userSecrets := List.mem_map.2 ⟨user, declares, rfl⟩
    have unnamed := List.find?_eq_none.1 entry _ (List.mem_reverse.2 filed)
    simp at unnamed
  | some found =>
    -- The entry may have been made for another user of the name, but with the same key.
    obtain ⟨other, -, rfl⟩ := List.mem_map.1 (List.mem_reverse.1 (List.mem_of_find?_eq_some entry))
    have same_name : other.username = user.username := by simpa using List.find?_some entry
    have same_key : UserSecret.key declared other kc = UserSecret.key declared user kc := by
      rw [UserSecret.key, UserSecret.key, same_name]
    rw [Option.map_some, same_key]
    cases world.store.find? .secret (UserSecret.key declared user kc) <;> rfl

/-- All that plans for a declaration create is there: the realm, and a secret under the key of each
user. -/
structure IsSettled (world : ServedWorld) (declared : KeycloakRealm) (kc : Keycloak) : Prop where
  realm : (world.admin.find? declared.realmName).isSome
  secrets : ∀ user ∈ declared.spec.realm.users,
    world.store.contains .secret (UserSecret.key declared user kc) = true

end ServedWorld

/-! ## Plans -/

/-- The steps that are repeated with every pass over a live declaration. -/
def KeycloakRealm.upkeep (declared : KeycloakRealm) : Plan :=
  [.ping "check if keycloak is available"] ++
  (if declared.spec.realm.groups.isSome then
    [.updateRealmGroups declared ("update realm groups " ++ declared.qualified)] else []) ++
  (if declared.spec.realm.userFederationProviders.isSome then
    [.updateRealm declared ("update realm " ++ declared.qualified)] else [])

namespace Action

/-- An action that takes an object or a realm away. -/
def Removes : Action → Prop
  | delete .. | deleteRealm .. => True
  | _ => False

/-- What an action creates is there. -/
def IsDoneIn (world : ServedWorld) : Action → Prop
  | create o _ => world.store.contains o.kind o.key = true
  | createRealm realm _ => (world.admin.find? realm.realmName).isSome
  | _ => True

theorem IsDoneIn.mono {action : Action} {before after : ServedWorld}
    (done : action.IsDoneIn before) (kept : before.KeptIn after) : action.IsDoneIn after := by
  cases action with
  | create o msg => exact kept.objects _ _ done
  | createRealm realm msg => exact kept.realms _ done
  | _ => trivial

end Action

namespace KeycloakRealm

variable {declared : KeycloakRealm} {kc : Keycloak} {passwords : Nat → String}
  {state : RealmSnapshot} {before after world : ServedWorld}

theorem not_removes_of_mem_plan (live : declared.isTombstoned = false) {action : Action}
    (planned : action ∈ declared.plan kc passwords state) : ¬ action.Removes := by
  rcases create_or_needsKeycloak_of_mem_plan planned with ⟨_, -, _, _, rfl⟩ | online
  · exact id
  · cases action with
    | delete o msg => cases online
    | deleteRealm realm msg => exact absurd rfl (not_deleteRealm_of_mem_plan live planned rfl _)
    | _ => exact id

/-- Where all that a plan creates is there, everything is: what the plan does not create has been found
before. -/
theorem isSettled_of_done (live : declared.isTombstoned = false) (kept : before.KeptIn after)
    (done : ∀ action ∈ declared.plan kc passwords (before.snapshot declared kc),
      action.IsDoneIn after) : after.IsSettled declared kc where
  realm := by
    cases found : before.admin.find? declared.realmName with
    | some realm => exact kept.realms _ (by simp [found])
    | none =>
      have missing : (before.snapshot declared kc).realm = none := found
      obtain ⟨_, _, planned, -, -⟩ := plan_of_missing live kc passwords missing
      rw [planned] at done
      exact done _ (List.mem_cons_of_mem _ List.mem_cons_self)
  secrets user declares := by
    cases has : (before.snapshot declared kc).hasUserSecret user.username with
    | true =>
      rw [before.hasUserSecret_snapshot kc declares, Store.isSome_find?_iff] at has
      exact kept.objects _ _ has
    | false =>
      obtain ⟨password, msg, planned⟩ := create_mem_plan live declares has
      exact done _ planned

/-- Where everything is there, nothing is planned but the upkeep. -/
theorem plan_of_isSettled (live : declared.isTombstoned = false)
    (settled : world.IsSettled declared kc) :
    declared.plan kc passwords (world.snapshot declared kc) = declared.upkeep := by
  have found : (world.snapshot declared kc).realm.isSome := settled.realm
  have nothing_handed_out :
      declared.usersPlan kc (world.snapshot declared kc) passwords = [] := by
    rw [usersPlan, List.flatten_eq_nil_iff]
    intro part mem
    obtain ⟨i, bound, rfl⟩ := List.mem_mapIdx.1 mem
    have declares := List.getElem_mem bound
    have present := Store.isSome_find?_iff.2 (settled.secrets _ declares)
    rw [userPlan, if_pos ((world.hasUserSecret_snapshot kc declares).trans present)]
  rw [plan, if_neg (by simp [live]), if_pos found, nothing_handed_out,
    if_pos (by rw [found, Bool.or_true]), List.append_nil, List.append_nil, List.append_nil, upkeep]

end KeycloakRealm

/-! ## Answers -/

/-- A request that takes an object or a realm away. -/
def PassRequest.Removes : PassRequest → Prop
  | cluster (.delete _) | admin _ (.deleteRealm _) => True
  | _ => False

/-- Only a deletion takes an object away. -/
theorem Store.contains_perform {store : Store} {kind : Kind} {key : ObjectKey}
    (present : store.contains kind key = true) {call : ClusterCall}
    (keeps : ∀ o, call ≠ .delete o) : (store.perform call).2.contains kind key = true := by
  cases call with
  | delete o => exact absurd rfl (keeps o)
  | get =>
    unfold perform
    dsimp only
    split <;> exact present
  | create o =>
    unfold perform
    dsimp only
    split
    · exact present
    · exact contains_put_of_contains o present
  | update o =>
    unfold perform
    dsimp only
    split
    · exact contains_put_of_contains o present
    · exact present
  | list => exact present

namespace Pass

open Program (Run Only)

/-- No call fails: the store answers for the cluster and the admin API for itself, which both keep what
they are asked to create if it exists. New passwords may be any. -/
def Faultless : PassEnvironment ServedWorld
  | .cluster call, before, answer, after =>
    before.store.perform call = (answer, after.store) ∧ after.admin = before.admin
  | .admin _ call, before, answer, after =>
    before.admin.serve call = (answer, after.admin) ∧ after.store = before.store
  | _, before, _, after => after = before

theorem total_faultless : Faultless.Total := by
  intro request world
  cases request with
  | cluster call => exact ⟨_, ⟨_, world.admin⟩, rfl, rfl⟩
  | admin session call => exact ⟨_, ⟨world.store, _⟩, rfl, rfl⟩
  | patchKeycloakStatus | patchRealmStatus | patchFinalizers => exact ⟨.ok (), world, rfl⟩
  | login => exact ⟨.error (.http ""), world, rfl⟩
  | flag => exact ⟨false, world, rfl⟩
  | password | now => exact ⟨"", world, rfl⟩

variable {before after : ServedWorld} {events : List PassEvent} {declared : KeycloakRealm}
  {kc : Keycloak} {session : Session} {α : Type}

theorem keptIn_of_request {request : PassRequest} {answer : request.Answer}
    (spares : ¬ request.Removes) (answered : Faultless request before answer after) :
    before.KeptIn after := by
  cases request with
  | cluster call =>
    obtain ⟨performed, admin_eq⟩ := answered
    have keeps : ∀ o, call ≠ .delete o := by
      rintro o rfl
      exact spares trivial
    refine ⟨fun kind key present => ?_, fun name there => by rwa [admin_eq]⟩
    have store_eq : (before.store.perform call).2 = after.store := congrArg Prod.snd performed
    exact store_eq ▸ Store.contains_perform present keeps
  | admin session call =>
    obtain ⟨served, store_eq⟩ := answered
    have keeps : ∀ name, call ≠ .deleteRealm name := by
      rintro name rfl
      exact spares trivial
    refine ⟨fun kind key present => by rwa [store_eq], fun name there => ?_⟩
    have admin_eq : (before.admin.serve call).2 = after.admin := congrArg Prod.snd served
    exact admin_eq ▸ MemoryAdmin.isSome_find?_serve there (keeps name)
  | _ =>
    obtain rfl := answered
    exact .refl _

theorem keptIn_of_run {program : Asking α} {result : α} (only : Only (¬ ·.Removes) program)
    (run : Run Faultless program before events result after) : before.KeptIn after :=
  only.relates .refl .trans (fun _ _ _ _ spares answered => keptIn_of_request spares answered) run

/-- To look an object up changes nothing, and brings it back or says that it is missing. -/
theorem Faultless.get {kind : Kind} {key : ObjectKey}
    {answer : (ClusterCall.get kind key).Answer}
    (answered : Faultless (.cluster (.get kind key)) before answer after) :
    after = before ∧
      ((∃ x, before.store.find? kind key = some x ∧ answer = .ok x) ∨
        before.store.find? kind key = none ∧ answer = .error (ClusterCall.missing kind key)) := by
  obtain ⟨performed, admin_eq⟩ := answered
  cases found : before.store.find? kind key with
  | some x =>
    rw [Store.perform_get_of_some found] at performed
    obtain ⟨answer_eq, store_eq⟩ := Prod.mk.inj performed
    exact ⟨ServedWorld.ext store_eq.symm admin_eq, .inl ⟨x, rfl, answer_eq.symm⟩⟩
  | none =>
    rw [Store.perform_get_of_none found] at performed
    obtain ⟨answer_eq, store_eq⟩ := Prod.mk.inj performed
    exact ⟨ServedWorld.ext store_eq.symm admin_eq, .inr ⟨rfl, answer_eq.symm⟩⟩

/-- What is asked within an installation is not answered by a failure. -/
theorem not_failsWith_of_isWithin {request : PassRequest} {answer : request.Answer}
    (within : request.IsWithin session) (answered : Faultless request before answer after) :
    ¬ request.FailsWith answer := by
  cases request with
  | admin used call =>
    rintro ⟨e, rfl⟩
    cases call <;> cases answered.1
  | password bytes => exact id
  | cluster call =>
    rintro ⟨e, rfl, intolerable⟩
    cases call with
    | create o => cases answered.1
    | get kind key =>
      rcases answered.get.2 with ⟨_, -, ⟨⟩⟩ | ⟨-, missing⟩
      cases missing
      cases intolerable
    | _ => exact within.elim
  | _ => exact within.elim

/-- Nothing else makes a part fail, so it succeeds. -/
theorem exists_ok_of_run {part : Asking (Except OperatorError α)}
    {result : Except OperatorError α} (only : Only (·.IsWithin session) part)
    (failFast : FailFast part) (run : Run Faultless part before events result after) :
    ∃ value, result = .ok value := by
  cases result with
  | ok value => exact ⟨value, rfl⟩
  | error e =>
    obtain ⟨earlier, event, rfl, fails, -⟩ := failFast.last_fails run
    have mem : event ∈ earlier ++ [event] := List.mem_append_right _ (List.mem_singleton_self _)
    obtain ⟨_, _, answered⟩ := run.exists_answered event mem
    exact absurd fails (not_failsWith_of_isWithin (only.of_run run event mem) answered)

/-! ## Reading and planning -/

theorem found_of_run_findSecret {key : ObjectKey} {found : Option Secret}
    (run : Run Faultless (findSecret key).run before events (.ok found) after) :
    found = before.store.find? .secret key ∧ after = before := by
  obtain ⟨_, outcome, _, _, rfl, attempted, concluded⟩ := run_bind_ok_iff.1 run
  obtain ⟨_, asked, same⟩ := run_attempt_iff.1 attempted
  cases same
  obtain ⟨rfl, unchanged, answered⟩ := run_clusterCall_iff.1 asked |>.imp_right Faultless.get
  subst unchanged
  rcases answered with ⟨secret, stored, rfl⟩ | ⟨missing, rfl⟩
  · obtain ⟨-, same, rfl⟩ := run_pure_iff.1 concluded
    cases same
    exact ⟨stored.symm, rfl⟩
  · rw [missing]
    obtain ⟨-, same, rfl⟩ := run_pure_iff.1 concluded
    cases same
    exact ⟨rfl, rfl⟩

theorem found_of_run_readUserSecrets {users : List Admin.User} {found : List (String × Option Secret)}
    (run : Run Faultless (readUserSecrets declared kc users).run before events (.ok found) after) :
    found = users.map (fun user =>
      (user.username, before.store.find? .secret (UserSecret.key declared user kc))) ∧
      after = before := by
  induction users generalizing before events found after with
  | nil =>
    obtain ⟨-, same, rfl⟩ := run_pure_iff.1 run
    cases same
    exact ⟨rfl, rfl⟩
  | cons user users ih =>
    obtain ⟨_, _, _, _, rfl, looked_up, rest⟩ := run_bind_ok_iff.1 run
    obtain ⟨rfl, rfl⟩ := found_of_run_findSecret looked_up
    obtain ⟨_, _, _, _, rfl, read, done⟩ := run_bind_ok_iff.1 rest
    obtain ⟨rfl, rfl⟩ := ih read
    obtain ⟨-, same, rfl⟩ := run_pure_iff.1 done
    cases same
    exact ⟨rfl, rfl⟩

theorem snapshot_of_run_readRealm {state : RealmSnapshot}
    (run : Run Faultless (readRealm session declared kc).run before events (.ok state) after) :
    state = before.snapshot declared kc ∧ after = before := by
  obtain ⟨_, found, middle, _, rfl, asked, rest⟩ := run_bind_ok_iff.1 run
  obtain ⟨rfl, served, store_eq⟩ := run_adminCall_iff.1 asked
  obtain ⟨found_eq, admin_eq⟩ := Prod.mk.inj served
  obtain rfl : middle = before := ServedWorld.ext store_eq admin_eq.symm
  cases found_eq
  obtain ⟨_, _, _, _, rfl, read, done⟩ := run_bind_ok_iff.1 rest
  obtain ⟨rfl, rfl⟩ := found_of_run_readUserSecrets read
  obtain ⟨-, same, rfl⟩ := run_pure_iff.1 done
  cases same
  exact ⟨rfl, rfl⟩

/-- Read what is there of a declared realm, and plan for it. -/
def readAndPlanRealm (session : Session) (declared : KeycloakRealm) (kc : Keycloak) : Pass Plan := do
  let state ← readRealm session declared kc
  ExceptT.lift (planRealm declared kc state)

theorem applyRealmWith_eq (session : Session) (declared : KeycloakRealm) (kc : Keycloak) :
    applyRealmWith session declared kc = (do
      let plan ← readAndPlanRealm session declared kc
      applyPlan (some session) plan
      pure (loginUrlFor session.endpoint declared.realmName)) := by
  rw [applyRealmWith, readAndPlanRealm, bind_assoc]

theorem only_readAndPlanRealm :
    Only (·.IsWithin session) (readAndPlanRealm session declared kc).run :=
  only_bind (only_readRealm (fun _ => trivial) (fun _ => rfl) _ _) fun _ =>
    only_lift (only_planRealm (fun _ => trivial) _ _ _)

theorem failFast_readAndPlanRealm : FailFast (readAndPlanRealm session declared kc).run :=
  failFast_bind (failFast_readRealm _ _ _) fun _ =>
    failFast_lift (only_planRealm (fun _ _ => id) _ _ _)

/-- To read and to plan succeeds and changes nothing, and the plan is made for what is there. -/
theorem run_readAndPlanRealm {result : Except OperatorError Plan}
    (run : Run Faultless (readAndPlanRealm session declared kc).run before events result after) :
    after = before ∧
      ∃ passwords, result = .ok (declared.plan kc passwords (before.snapshot declared kc)) := by
  obtain ⟨plan, rfl⟩ := exists_ok_of_run only_readAndPlanRealm failFast_readAndPlanRealm run
  obtain ⟨_, state, _, _, rfl, read, planned⟩ := run_bind_ok_iff.1 run
  obtain ⟨rfl, rfl⟩ := snapshot_of_run_readRealm read
  obtain ⟨_, planned, same⟩ := run_lift_iff.1 planned
  cases same
  obtain ⟨passwords, rfl⟩ := (returns_planRealm declared kc _).of_run planned
  refine ⟨?_, passwords, rfl⟩
  have passwords_only : ∀ state, Only (fun request => ∃ bytes, request = .password bytes)
      (planRealm declared kc state) := only_planRealm (fun bytes => ⟨bytes, rfl⟩) _ _
  refine (passwords_only _).relates (R := fun before after => after = before) (fun _ => rfl)
    (fun first second => second.trans first) ?_ planned
  rintro _ _ _ _ ⟨bytes, rfl⟩ unchanged
  exact unchanged

/-! ## Applying -/

theorem only_applyAction_spares {action : Action} (spares : ¬ action.Removes) :
    Only (¬ ·.Removes) (applyAction (some session) action).run := by
  cases action with
  | delete | deleteRealm => exact absurd trivial spares
  | createRealm realm msg =>
    exact only_bind trivial fun _ => only_bind (only_ask id) fun _ => trivial
  | configureRealm realm msg => exact only_configureRedirectors fun _ _ => id
  | create | update | ping | updateRealmGroups | updateRealm => exact only_ask id

theorem isDone_of_run_applyAction {action : Action}
    (run : Run Faultless (applyAction (some session) action).run before events (.ok ()) after) :
    action.IsDoneIn after := by
  cases action with
  | create o msg =>
    obtain ⟨-, performed, -⟩ := run_clusterCall_iff.1 run
    show after.store.contains o.kind o.key = true
    cases present : before.store.contains o.kind o.key with
    | true =>
      rw [Store.perform_create_of_contains present] at performed
      exact (Prod.mk.inj performed).2 ▸ present
    | false =>
      rw [Store.perform_create_of_missing present] at performed
      exact (Prod.mk.inj performed).2 ▸ (Store.holds_put_self before.store o).present
  | createRealm realm msg =>
    obtain ⟨_, -, ⟨served, -⟩, -⟩ := run_applyAction_createRealm run
    have admin_eq : (before.admin.serve _).2 = after.admin := congrArg Prod.snd served
    show (after.admin.find? realm.realmName).isSome
    rw [← admin_eq]
    exact MemoryAdmin.isSome_find?_serve_createRealm _ _
  | _ => trivial

/-- A plan by which nothing is taken away leaves everything there that its actions create. -/
theorem isDone_of_run_applyPlan {plan : Plan} (spares : ∀ action ∈ plan, ¬ action.Removes)
    (run : Run Faultless (applyPlan (some session) plan).run before events (.ok ()) after) :
    before.KeptIn after ∧ ∀ action ∈ plan, action.IsDoneIn after := by
  induction plan generalizing before events with
  | nil =>
    obtain ⟨-, -, rfl⟩ := run_pure_iff.1 run
    exact ⟨.refl _, by simp⟩
  | cons action plan ih =>
    obtain ⟨spares_first, spares⟩ := List.forall_mem_cons.1 spares
    obtain ⟨_, _, middle, _, rfl, applied, run⟩ := run_bind_ok_iff.1 run
    obtain ⟨kept, done⟩ := ih spares run
    have first_kept := keptIn_of_run (only_applyAction_spares spares_first) applied
    have first_done := (isDone_of_run_applyAction applied).mono kept
    exact ⟨first_kept.trans kept, List.forall_mem_cons.2 ⟨first_done, done⟩⟩

/-- Where a realm has been kept, all that its declaration asks for is there. -/
theorem run_applyRealmWith (live : declared.isTombstoned = false)
    {result : Except OperatorError String}
    (run : Run Faultless (applyRealmWith session declared kc).run before events result after) :
    result = .ok (loginUrlFor session.endpoint declared.realmName) ∧
      after.IsSettled declared kc := by
  have failFast : FailFast (applyRealmWith session declared kc).run := by
    rw [applyRealmWith_eq]
    exact failFast_bind failFast_readAndPlanRealm fun _ =>
      failFast_bind (failFast_applyPlan _ _) fun _ => trivial
  obtain ⟨url, rfl⟩ := exists_ok_of_run (only_applyRealmWith_isWithin _ _ _) failFast run
  rw [applyRealmWith_eq] at run
  obtain ⟨_, plan, _, _, rfl, planned, run⟩ := run_bind_ok_iff.1 run
  obtain ⟨rfl, passwords, same⟩ := run_readAndPlanRealm planned
  cases same
  obtain ⟨_, _, _, _, rfl, applied, done⟩ := run_bind_ok_iff.1 run
  obtain ⟨-, url_eq, rfl⟩ := run_pure_iff.1 done
  obtain ⟨kept, all_done⟩ := isDone_of_run_applyPlan
    (fun _ => KeycloakRealm.not_removes_of_mem_plan live) applied
  exact ⟨url_eq, KeycloakRealm.isSettled_of_done live kept all_done⟩

/-! ## Planning again -/

/-- Where nothing fails, keeping a live realm in an installation succeeds, whatever there is at first;
and the plan that is made afterwards has the steps of the upkeep and no others. -/
theorem replanned_realm_needs_only_upkeep (live : declared.isTombstoned = false)
    {result : Except OperatorError String}
    (run : Run Faultless (applyRealmWith session declared kc).run before events result after) :
    result = .ok (loginUrlFor session.endpoint declared.realmName) ∧
      ∀ (later : Session) (events : List PassEvent) (replanned : Except OperatorError Plan)
        (last : ServedWorld),
        Run Faultless (readAndPlanRealm later declared kc).run after events replanned last →
        replanned = .ok declared.upkeep := by
  obtain ⟨url_eq, settled⟩ := run_applyRealmWith live run
  refine ⟨url_eq, fun later events replanned last again => ?_⟩
  obtain ⟨-, passwords, rfl⟩ := run_readAndPlanRealm again
  rw [KeycloakRealm.plan_of_isSettled live settled]

/-- A realm with two users of one name, and with one whose secret is called like theirs. -/
def namesakeRealm : KeycloakRealm where
  metadata := { name := some "basic" }
  spec := {
    realm := {
      realm := "basic"
      users := [{ username := "b_c" }, { username := "b-c" }, { username := "b-c" }]
      groups := some [] }
    realmOverrides := [{ identityProvider := "broker" }] }

/-- Where there is nothing at first, all that is planned for it after a pass is to ask whether the
server answers and to look at the groups. -/
theorem namesakes_need_only_upkeep :
    (∀ user ∈ namesakeRealm.spec.realm.users, UserSecret.key namesakeRealm user {} =
      ⟨"credential-basic-b-c-default", "default"⟩) ∧
    ∃ (session : Session) (url : String) (after last : ServedWorld),
      (∃ events, Run Faultless (applyRealmWith session namesakeRealm {}).run {} events (.ok url)
        after) ∧
      ∃ events, Run Faultless (readAndPlanRealm session namesakeRealm {}).run after events
        (.ok [.ping "check if keycloak is available",
          .updateRealmGroups namesakeRealm "update realm groups /basic"]) last := by
  refine ⟨by decide, ⟨"http://sso", none⟩, ?_⟩
  obtain ⟨events, result, after, run⟩ := Program.exists_run total_faultless
    (applyRealmWith ⟨"http://sso", none⟩ namesakeRealm {}).run {}
  obtain ⟨rfl, again⟩ := replanned_realm_needs_only_upkeep rfl run
  obtain ⟨events', replanned, last, run'⟩ := Program.exists_run total_faultless
    (readAndPlanRealm ⟨"http://sso", none⟩ namesakeRealm {}).run after
  obtain rfl := again _ _ _ _ run'
  exact ⟨_, after, last, ⟨events, run⟩, events', run'⟩

end Pass

end IdentityOperator
