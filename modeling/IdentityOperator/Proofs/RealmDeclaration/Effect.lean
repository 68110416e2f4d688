import IdentityOperator.Proofs.Pass.FailFast
import IdentityOperator.Proofs.RealmDeclaration.Plan

/-!
What a pass over a live declaration does about its realm when any call may fail.

Nothing is certain about the answers (`Pass.Faltering`) but that a call to the admin API that does not
fail has done its work. A pass then has found the realm and left it there, or it has failed before it
got to create the realm, or it has created it (`Pass.RealmEffect`). Only in the last case does it ask
for redirections, and it configures all of them unless a call for setting the realm up has failed.
-/

namespace IdentityOperator.Pass

open Program (Run Only)

/-! ## Answers that may be failures -/

/-- Answers of which only this is certain: the one installation is listed or the listing fails, and a
call to the admin API has done its work unless it fails. One that fails may have done it, too. -/
def Faltering (kc : Keycloak) : PassEnvironment MemoryAdmin
  | .cluster (.list .keycloak _ _), before, answer, after =>
    after = before ∧ ((∃ e, answer = .error e) ∨ answer = .ok [kc])
  | .admin _ call, before, answer, after =>
    (answer, after) = before.serve call ∨
      ∃ e, answer = .error e ∧ (after = before ∨ after = (before.serve call).2)
  | _, before, _, after => after = before

variable {α β : Type} {kc : Keycloak} {before after : MemoryAdmin} {events : List PassEvent}
  {declared : KeycloakRealm}

theorem Faltering.unchanged {request : PassRequest} {answer : request.Answer}
    (answered : Faltering kc request before answer after)
    (callless : request.Callless) : after = before := by
  cases request with
  | admin session call => exact callless.elim
  | cluster call =>
    cases call with
    | list kind =>
      cases kind with
      | keycloak => exact answered.1
      | _ => exact answered
    | _ => exact answered
  | _ => exact answered

/-- What makes no call to the admin API changes nothing there. -/
theorem quiet_of_run {program : Asking α} {result : α} (only : Only PassRequest.Callless program)
    (run : Run (Faltering kc) program before events result after) :
    after = before ∧ ∀ event ∈ events, event.request.Redirectless := by
  constructor
  · exact only.relates (R := fun before after => after = before) (fun _ => rfl)
      (fun first second => second.trans first)
      (fun _ _ _ _ callless answered => answered.unchanged callless) run
  · exact fun event mem => (only.of_run run event mem).mono fun _ => False.elim

/-- A realm that no request removes stays. -/
theorem isSome_find?_of_run {program : Asking α} {result : α} {name : String}
    (only : Only (·.CallsOnly (· ≠ .deleteRealm name)) program)
    (run : Run (Faltering kc) program before events result after)
    (there : (before.find? name).isSome) : (after.find? name).isSome := by
  refine only.relates (R := fun before after => (before.find? name).isSome →
    (after.find? name).isSome) (fun _ => id) (fun first second => second ∘ first) ?_ run there
  intro request before answer after keeps answered there
  cases request with
  | admin session call =>
    -- Served, failed without an effect, or failed with one.
    rcases answered with served | ⟨-, -, rfl | rfl⟩
    · rw [show after = (before.serve call).2 from congrArg Prod.snd served]
      exact MemoryAdmin.isSome_find?_serve there keeps
    · exact there
    · exact MemoryAdmin.isSome_find?_serve there keeps
  | _ =>
    rw [answered.unchanged trivial]
    exact there

/-! ## What a pass does about a realm -/

/-- Unless it has failed to set the realm up, a pass or a part of one has configured all
redirections. -/
def SetUpOrFailed (declared : KeycloakRealm) (events : List PassEvent)
    (result : Except OperatorError α) : Prop :=
  (∃ e, result = .error e) ∧ (∃ event ∈ events, event.Fails ∧ event.request.SetsUp) ∨
    ∀ redirect ∈ declared.spec.realmOverrides,
      ∃ event ∈ events, event.Configures declared.realmName redirect

/-- What a pass, or a part of one, has done about a realm and its redirections. -/
inductive RealmEffect (declared : KeycloakRealm) (before : MemoryAdmin) (events : List PassEvent)
    (result : Except OperatorError α) (after : MemoryAdmin) : Prop
  /-- It has found the realm, and has not asked for redirections. -/
  | found : (before.find? declared.realmName).isSome → (after.find? declared.realmName).isSome →
    (∀ event ∈ events, event.request.Redirectless) →
    RealmEffect declared before events result after
  /-- It has not got to the point of creating the realm. -/
  | missing {e : OperatorError} : before.find? declared.realmName = none →
    after.find? declared.realmName = none → (∀ event ∈ events, event.request.Redirectless) →
    result = .error e → RealmEffect declared before events result after
  /-- It has created the realm. -/
  | created : before.find? declared.realmName = none → (after.find? declared.realmName).isSome →
    SetUpOrFailed declared events result → RealmEffect declared before events result after

/-- What has failed without a change. -/
theorem RealmEffect.idle {e : OperatorError}
    (redirectless : ∀ event ∈ events, event.request.Redirectless) :
    RealmEffect declared before events (.error e : Except OperatorError α) before := by
  cases there : before.find? declared.realmName with
  | some realm => exact .found (by simp [there]) (by simp [there]) redirectless
  | none => exact .missing there there redirectless rfl

theorem SetUpOrFailed.mono {wider : List PassEvent} {result : Except OperatorError α}
    {outcome : Except OperatorError β} (setup : SetUpOrFailed declared events result)
    (within : events ⊆ wider) (fails : ∀ e, result = .error e → ∃ e, outcome = .error e) :
    SetUpOrFailed declared wider outcome := by
  rcases setup with ⟨⟨e, failed⟩, event, mem, failure⟩ | configured
  · exact .inl ⟨fails e failed, event, within mem, failure⟩
  · refine .inr fun redirect declares => ?_
    obtain ⟨event, mem, configures⟩ := configured redirect declares
    exact ⟨event, within mem, configures⟩

/-- Other requests make no difference if they have nothing to do with redirections, as long as a
failure stays one. -/
theorem RealmEffect.mono {wider : List PassEvent} {result : Except OperatorError α}
    {outcome : Except OperatorError β} (effect : RealmEffect declared before events result after)
    (within : events ⊆ wider)
    (others : ∀ event ∈ wider, event ∈ events ∨ event.request.Redirectless)
    (fails : ∀ e, result = .error e → ∃ e, outcome = .error e) :
    RealmEffect declared before wider outcome after := by
  cases effect with
  | found there stays quiet =>
    exact .found there stays fun event mem => (others event mem).elim (quiet event) id
  | missing absent stays quiet failed =>
    obtain ⟨e, failed⟩ := fails _ failed
    exact .missing absent stays (fun event mem => (others event mem).elim (quiet event) id) failed
  | created absent there setup => exact .created absent there (setup.mono within fails)

theorem RealmEffect.behind {front : List PassEvent} {result : Except OperatorError α}
    (effect : RealmEffect declared before events result after)
    (earlier : ∀ event ∈ front, event.request.Redirectless) :
    RealmEffect declared before (front ++ events) result after := by
  refine effect.mono (List.subset_append_right _ _) (fun event mem => ?_)
    fun e failed => ⟨e, failed⟩
  rcases List.mem_append.1 mem with mem | mem
  · exact .inr (earlier event mem)
  · exact .inl mem

/-- What follows without calling the admin API makes no difference. -/
theorem RealmEffect.followed {back : List PassEvent} {last : MemoryAdmin} {rest : Pass β}
    {result : Except OperatorError α} {outcome : Except OperatorError β}
    (effect : RealmEffect declared before events result after)
    (callless : Only PassRequest.Callless rest.run)
    (run : Run (Faltering kc) rest.run after back outcome last)
    (fails : ∀ e, result = .error e → ∃ e, outcome = .error e) :
    RealmEffect declared before (events ++ back) outcome last := by
  obtain ⟨rfl, quiet⟩ := quiet_of_run callless run
  refine effect.mono (List.subset_append_left _ _) (fun event mem => ?_) fails
  rcases List.mem_append.1 mem with mem | mem
  · exact .inl mem
  · exact .inr (quiet event mem)

section Bind

variable {part : Pass α} {next : α → Pass β} {result : Except OperatorError β}

/-- A part that does not call the admin API, and then one whose effect is known. -/
theorem effect_of_run_bind_right (callless : Only PassRequest.Callless part.run)
    (effect : ∀ first value second, Run (Faltering kc) part.run before first (.ok value) before →
      Run (Faltering kc) (next value).run before second result after →
      RealmEffect declared before second result after)
    (run : Run (Faltering kc) (part >>= next).run before events result after) :
    RealmEffect declared before events result after := by
  rcases run_bind_iff.1 run with ⟨e, rfl, failed⟩ | ⟨first, value, _, second, rfl, done, rest⟩
  · obtain ⟨rfl, quiet⟩ := quiet_of_run callless failed
    exact .idle quiet
  · obtain ⟨rfl, quiet⟩ := quiet_of_run callless done
    exact (effect first value second done rest).behind quiet

/-- A part whose effect is known, and then one that does not call the admin API. -/
theorem effect_of_run_bind_left
    (effect : ∀ first result middle, Run (Faltering kc) part.run before first result middle →
      RealmEffect declared before first result middle)
    (callless : ∀ value, Only PassRequest.Callless (next value).run)
    (run : Run (Faltering kc) (part >>= next).run before events result after) :
    RealmEffect declared before events result after := by
  rcases run_bind_iff.1 run with ⟨e, rfl, failed⟩ | ⟨first, value, _, second, rfl, done, rest⟩
  · exact (effect events _ after failed).mono (fun _ => id) (fun _ => .inl) fun _ _ => ⟨e, rfl⟩
  · exact (effect first _ _ done).followed (callless value) rest
      fun _ impossible => nomatch impossible

end Bind

/-! ## One installation -/

/-- A call that has not failed has been served. -/
theorem Faltering.served {session : Session} {call : AdminCall} {value : call.Result}
    (answered : Faltering kc (.admin session call) before (.ok value) after) :
    ((.ok value : call.Answer), after) = before.serve call := by
  rcases answered with served | ⟨e, impossible, -⟩
  · exact served
  · cases impossible

/-- A call that reads changes nothing, whether it fails or not. -/
theorem Faltering.reads {session : Session} {call : AdminCall} {answer : call.Answer}
    (answered : Faltering kc (.admin session call) before answer after)
    (harmless : (before.serve call).2 = before) : after = before := by
  rcases answered with served | ⟨-, -, same | done⟩
  · exact (congrArg Prod.snd served).trans harmless
  · exact same
  · exact done.trans harmless

section Plan

variable {installation : Keycloak} {session : Session} {passwords : Nat → String}
  {state : RealmSnapshot} {result : Except OperatorError Unit}

theorem only_applyPlan_keeps (live : declared.isTombstoned = false) {plan : Plan}
    (part : plan ⊆ declared.plan installation passwords state) (name : String) :
    Only (·.CallsOnly (· ≠ .deleteRealm name)) (applyPlan (some session) plan).run :=
  (only_applyPlan_calls session plan).mono fun _ calls => calls.mono fun _ ⟨_, planned, called⟩ =>
    KeycloakRealm.not_deleteRealm_of_mem_plan live (part planned) called name

theorem effect_of_run_applyPlan_found (live : declared.isTombstoned = false)
    (found : state.realm.isSome) (there : (before.find? declared.realmName).isSome)
    (run : Run (Faltering kc) (applyPlan (some session)
      (declared.plan installation passwords state)).run before events result after) :
    RealmEffect declared before events result after := by
  have redirectless : Only PassRequest.Redirectless (applyPlan (some session)
      (declared.plan installation passwords state)).run :=
    (only_applyPlan_calls session _).mono fun _ calls => calls.mono fun _ ⟨_, planned, called⟩ =>
      KeycloakRealm.not_redirects_of_mem_plan live found planned called
  exact .found there (isSome_find?_of_run (only_applyPlan_keeps live (fun _ => id) _) run there)
    (redirectless.of_run run)

theorem only_applyPlan_setsUp {plan : Plan} (setup : ∀ action ∈ plan, action.SetsUp) :
    Only PassRequest.SetsUp (applyPlan (some session) plan).run := by
  induction plan with
  | nil => trivial
  | cons action plan ih =>
    refine only_bind ?_ fun _ => ih fun action mem => setup action (List.mem_cons_of_mem _ mem)
    have first := setup action List.mem_cons_self
    cases action with
    | create object msg => exact only_ask trivial
    | configureRealm realm msg => exact only_configureRedirectors fun _ _ => trivial
    | _ => exact first.elim

/-- Where a new realm has been set up all redirections have been configured, and where it has not a
call for it has failed. -/
theorem setup_of_run_applyPlan {setup rest : Plan} (sets_up : ∀ action ∈ setup, action.SetsUp)
    (configures : declared.spec.realmOverrides ≠ [] →
      .configureRealm declared "configure browser redirector" ∈ setup)
    (run : Run (Faltering kc) (applyPlan (some session) (setup ++ rest)).run before events result
      after) :
    SetUpOrFailed declared events result := by
  rw [applyPlan_append] at run
  rcases run_bind_iff.1 run with ⟨e, rfl, failed⟩ | ⟨first, _, _, _, rfl, done, -⟩
  -- A plan fails only with its last call, and up to here all of them set the realm up.
  · obtain ⟨earlier, event, rfl, fails, -⟩ := (failFast_applyPlan session setup).last_fails failed
    have setting_up := (only_applyPlan_setsUp sets_up).of_run failed event (by simp)
    exact .inl ⟨⟨e, rfl⟩, event, by simp, fails, setting_up⟩
  · refine .inr fun redirect mem => ?_
    obtain ⟨start, segment, stop, within, applied⟩ :=
      run_applyAction_of_run_applyPlan done (configures (List.ne_nil_of_mem mem))
    have configured := configured_of_run_configureRedirectors applied mem
    exact ⟨_, List.mem_append_left _ (within _ configured), session, rfl⟩

/-- Where the realm is missing the plan creates it and sets it up. -/
theorem effect_of_run_applyPlan_missing (live : declared.isTombstoned = false)
    (missing : state.realm = none) (absent : before.find? declared.realmName = none)
    (run : Run (Faltering kc) (applyPlan (some session)
      (declared.plan installation passwords state)).run before events result after) :
    RealmEffect declared before events result after := by
  obtain ⟨setup, rest, planned, sets_up, configures⟩ :=
    KeycloakRealm.plan_of_missing live installation passwords missing
  have part : setup ++ rest ⊆ declared.plan installation passwords state := fun _ mem =>
    planned ▸ List.mem_cons_of_mem _ (List.mem_cons_of_mem _ mem)
  have ping : (PassRequest.admin session .ping).Redirectless := by rintro ⟨_, _, ⟨⟩⟩
  have create : (PassRequest.admin session (.createRealm declared.spec.realm)).Redirectless := by
    rintro ⟨_, _, ⟨⟩⟩
  rw [planned] at run
  rcases run_bind_iff.1 run with ⟨e, rfl, refused⟩ | ⟨_, _, middle, later, rfl, pinged, after_ping⟩
  · obtain ⟨rfl, answered⟩ := run_adminCall_iff.1 refused
    rw [answered.reads rfl]
    exact .idle (List.forall_mem_singleton.2 ping)
  obtain ⟨rfl, answered⟩ := run_adminCall_iff.1 pinged
  obtain rfl := answered.reads rfl
  refine .behind ?_ (List.forall_mem_singleton.2 ping)
  rcases run_bind_iff.1 after_ping with
    ⟨e, rfl, refused⟩ | ⟨_, _, created, last, rfl, made, after_creation⟩
  · -- A creation that fails may have created the realm nevertheless.
    obtain ⟨answer, rfl, -, ⟨_, rfl, -⟩ | ⟨_, -, ⟨⟩⟩⟩ := run_applyAction_createRealm refused
    cases there : after.find? declared.realmName with
    | some realm =>
      exact .created absent (by simp [there])
        (.inl ⟨⟨e, rfl⟩, _, List.mem_singleton_self _, ⟨_, rfl⟩, trivial⟩)
    | none => exact .missing absent there (List.forall_mem_singleton.2 create) rfl
  · obtain ⟨_, rfl, answered, ⟨_, -, ⟨⟩⟩ | ⟨id, rfl, -⟩⟩ := run_applyAction_createRealm made
    have there : (created.find? declared.realmName).isSome := by
      rw [show created = _ from congrArg Prod.snd answered.served]
      exact MemoryAdmin.isSome_find?_serve_createRealm _ _
    refine .created absent
      (isSome_find?_of_run (only_applyPlan_keeps live part _) after_creation there) ?_
    exact (setup_of_run_applyPlan sets_up configures after_creation).mono
      (List.subset_append_right _ _) fun e failed => ⟨e, failed⟩

/-- What a plan does about the realm if it has been made from what is there. -/
theorem effect_of_run_applyPlan (live : declared.isTombstoned = false)
    (seen : state.realm = before.find? declared.realmName)
    (run : Run (Faltering kc) (applyPlan (some session)
      (declared.plan installation passwords state)).run before events result after) :
    RealmEffect declared before events result after := by
  cases there : before.find? declared.realmName with
  | some realm =>
    rw [there] at seen
    exact effect_of_run_applyPlan_found live (by simp [seen]) (by simp [there]) run
  | none =>
    rw [there] at seen
    exact effect_of_run_applyPlan_missing live seen there run

end Plan

/-- To read changes nothing, and brings back whether the realm is there. -/
theorem run_readRealm {session : Session} {installation : Keycloak}
    {result : Except OperatorError RealmSnapshot}
    (run : Run (Faltering kc) (readRealm session declared installation).run before events result
      after) :
    after = before ∧ (∀ event ∈ events, event.request.Redirectless) ∧
      ∀ state, result = .ok state → state.realm = before.find? declared.realmName := by
  have get : (PassRequest.admin session (.getRealm declared.realmName)).Redirectless := by
    rintro ⟨_, _, ⟨⟩⟩
  have secrets : Only PassRequest.Callless
      (readUserSecrets declared installation declared.spec.realm.users).run :=
    only_readUserSecrets (fun _ => trivial) _ _ _
  rcases run_bind_iff.1 run with ⟨e, rfl, refused⟩ | ⟨_, found, middle, later, rfl, got, rest⟩
  · obtain ⟨rfl, answered⟩ := run_adminCall_iff.1 refused
    exact ⟨answered.reads rfl, List.forall_mem_singleton.2 get,
      fun _ impossible => nomatch impossible⟩
  obtain ⟨rfl, answered⟩ := run_adminCall_iff.1 got
  obtain rfl := answered.reads rfl
  have found_eq : found = middle.find? declared.realmName := by
    have served := congrArg Prod.fst answered.served
    cases served
    rfl
  rcases run_bind_iff.1 rest with ⟨e, rfl, refused⟩ | ⟨_, _, _, _, rfl, looked_up, done⟩
  · obtain ⟨unchanged, quiet⟩ := quiet_of_run secrets refused
    exact ⟨unchanged, List.forall_mem_cons.2 ⟨get, quiet⟩, fun _ impossible => nomatch impossible⟩
  · obtain ⟨rfl, rfl, rfl⟩ := run_pure_iff.1 done
    obtain ⟨unchanged, quiet⟩ := quiet_of_run secrets looked_up
    refine ⟨unchanged, ?_, fun state state_eq => ?_⟩
    · rw [List.append_nil]
      exact List.forall_mem_cons.2 ⟨get, quiet⟩
    · cases state_eq
      exact found_eq

/-- What a pass does about the realm in the installation. -/
theorem effect_of_run_applyRealm (live : declared.isTombstoned = false) {installation : Keycloak}
    {result : Except OperatorError String}
    (run : Run (Faltering kc) (applyRealm declared installation).run before events result after) :
    RealmEffect declared before events result after := by
  refine effect_of_run_bind_right (only_ask trivial) (fun _ session _ _ run => ?_) run
  rcases run_bind_iff.1 run with ⟨e, rfl, refused⟩ | ⟨reading, state, _, acting, rfl, read, rest⟩
  · obtain ⟨rfl, quiet, -⟩ := run_readRealm refused
    exact .idle quiet
  obtain ⟨rfl, quiet, seen⟩ := run_readRealm read
  -- From here on the state that was read agrees with what is there.
  refine .behind ?_ quiet
  have planning : Only PassRequest.Callless
      (ExceptT.lift (planRealm declared installation state) : Pass Plan).run :=
    only_lift (only_planRealm (fun _ => trivial) _ _ _)
  refine effect_of_run_bind_right planning (fun _ plan _ planned run => ?_) rest
  obtain ⟨_, planned, plan_eq⟩ := run_lift_iff.1 planned
  cases plan_eq
  obtain ⟨passwords, rfl⟩ := (returns_planRealm declared installation state).of_run planned
  refine effect_of_run_bind_left
    (fun _ _ _ run => effect_of_run_applyPlan live (seen state rfl) run) (fun _ => ?_) run
  trivial

/-! ## The whole pass -/

/-- What going through the installations does about the realm, where there is but the one. -/
theorem effect_of_run_convergeRealm (live : declared.isTombstoned = false) (usable : kc.IsUsable)
    {result : Except OperatorError RealmOutcome}
    (run : Run (Faltering kc) (convergeRealm declared).run before events result after) :
    RealmEffect declared before events result after := by
  refine effect_of_run_bind_right (only_ask trivial) (fun _ installations _ listed run => ?_) run
  obtain ⟨-, -, answer⟩ := run_clusterCall_iff.1 listed
  obtain rfl : installations = [kc] := by
    rcases answer with ⟨_, ⟨⟩⟩ | answer
    exact Except.ok.inj answer
  rw [if_neg (by simp), applyRealmTo, KeycloakRealm.instanceStep_of_usable usable] at run
  refine effect_of_run_bind_left (fun _ _ _ run => effect_of_run_applyRealm live run)
    (fun _ => ?_) run
  trivial

/-- What a whole pass over a live declaration does about its realm. -/
theorem effect_of_run_realm (managed : declared.spec.unmanaged = false)
    (live : declared.isTombstoned = false) (usable : kc.IsUsable)
    {result : Except OperatorError Requeue}
    (run : Run (Faltering kc) (realm declared).run before events result after) :
    RealmEffect declared before events result after := by
  have reports : ∀ request : PassRequest, request.Reports → request.Callless := by
    intro request reports
    cases request <;> trivial
  have finalizers : ∀ request : PassRequest, request.TurnsFinalizer declared →
      request.Callless := by
    rintro request (rfl | rfl)
    · trivial
    · trivial
  rw [realm, if_neg (by simp [managed]), if_neg (by simp [live])] at run
  refine effect_of_run_bind_right (only_ensureFinalizer finalizers)
    (fun _ _ _ _ run => ?_) run
  rcases run_bind_iff.1 run with
    ⟨e, -, failed⟩ | ⟨first, outcome, middle, second, rfl, converge, rest⟩
  · obtain ⟨_, -, impossible⟩ := run_attempt_iff.1 failed
    cases impossible
  obtain ⟨_, converge, outcome_eq⟩ := run_attempt_iff.1 converge
  cases outcome_eq
  have effect := effect_of_run_convergeRealm live usable converge
  cases outcome with
  | ok outcome =>
    exact effect.followed (only_settleRealm reports finalizers outcome) rest
      fun _ impossible => nomatch impossible
  | error e =>
    refine effect.followed (only_failRealm reports declared e) rest fun _ _ => ?_
    rcases run_bind_iff.1 rest with ⟨e, failed, -⟩ | ⟨_, _, _, _, -, -, thrown⟩
    · exact ⟨e, failed⟩
    · exact ⟨e, (run_throw_iff.1 thrown).2.1⟩

end IdentityOperator.Pass
