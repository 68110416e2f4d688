import IdentityOperator.Proofs.Pass.Run

/-!
What applying a plan comes to, call by call.

An action stands for a list of requests (`Action.requests`), which are asked in their order up to the
first that is answered by an error (`AskedInTurn`); an action on the admin API for which there is no
client asks nothing and fails (`Action.ComesTo`). A plan is applied up to its first failing action, from
the state that the actions before it have left (`Pass.run_applyPlan_error_iff`), so the requests of a run
are a beginning of those that the plan stands for.
-/

namespace IdentityOperator

/-! ## Requests of actions -/

namespace Action

/-- The calls to the admin API that an action stands for, one after the other. -/
def adminCalls : Action → List AdminCall
  | ping _ => [.ping]
  | createRealm realm _ => [.createRealm realm.spec.realm]
  | deleteRealm realm _ => [.deleteRealm realm.realmName]
  | configureRealm realm _ =>
    realm.spec.realmOverrides.map (.configureRedirector realm.realmName)
  | updateRealmGroups realm _ => [.updateRealmGroups realm.spec.realm]
  | updateRealm realm _ => [.updateRealm realm.spec.realm]
  | create .. | update .. | delete .. => []

/-- The requests that an action stands for, one after the other. -/
def requests (session : Option Session) : Action → List PassRequest
  | create object _ => [.cluster (.create object)]
  | update object _ _ => [.cluster (.update object)]
  | delete object _ => [.cluster (.delete object)]
  | action => (session.map fun session => action.adminCalls.map (.admin session)).getD []

end Action

/-- The error by which a call has been answered. -/
def PassEvent.error? : PassEvent → Option OperatorError
  | ⟨.cluster _, .error e⟩ | ⟨.admin .., .error e⟩ => some e
  | _ => none

variable {σ : Type}

/-- Requests are asked in their order up to the first that is answered by an error. -/
inductive AskedInTurn (env : PassEnvironment σ) :
    List PassRequest → σ → List PassEvent → Except OperatorError Unit → σ → Prop
  | done (state : σ) : AskedInTurn env [] state [] (.ok ()) state
  | passed {request : PassRequest} {requests : List PassRequest} {before middle after : σ}
    {answer : request.Answer} {events : List PassEvent} {result : Except OperatorError Unit} :
    env request before answer middle → PassEvent.error? ⟨request, answer⟩ = none →
    AskedInTurn env requests middle events result after →
    AskedInTurn env (request :: requests) before (⟨request, answer⟩ :: events) result after
  | failed {request : PassRequest} {requests : List PassRequest} {before after : σ}
    {answer : request.Answer} {e : OperatorError} :
    env request before answer after → PassEvent.error? ⟨request, answer⟩ = some e →
    AskedInTurn env (request :: requests) before [⟨request, answer⟩] (.error e) after

/-- What an action comes to: without the client that it needs nothing is asked, and otherwise its
requests are. -/
def Action.ComesTo (env : PassEnvironment σ) (session : Option Session) (action : Action) (before : σ)
    (events : List PassEvent) (result : Except OperatorError Unit) (after : σ) : Prop :=
  if action.needsKeycloak && session.isNone then
    events = [] ∧ after = before ∧ result = .error (.reconciliation
      (action.summary ++ " needs a Keycloak client but none is attached"))
  else AskedInTurn env (action.requests session) before events result after

/-- The actions of a plan succeed one after the other, each from the state that the one before it has
left. -/
inductive Plan.Succeeds (env : PassEnvironment σ) (session : Option Session) :
    Plan → σ → List PassEvent → σ → Prop
  | nil (state : σ) : Succeeds env session [] state [] state
  | cons {action : Action} {plan : Plan} {before middle after : σ} {first rest : List PassEvent} :
    action.ComesTo env session before first (.ok ()) middle →
    Succeeds env session plan middle rest after →
    Succeeds env session (action :: plan) before (first ++ rest) after

/-! ## Requests in a row -/

namespace AskedInTurn

variable {env : PassEnvironment σ} {request : PassRequest} {requests : List PassRequest}
  {before after : σ} {events : List PassEvent} {result : Except OperatorError Unit}

theorem nil_iff :
    AskedInTurn env [] before events result after ↔ events = [] ∧ result = .ok () ∧ after = before := by
  constructor
  · intro asked
    cases asked
    exact ⟨rfl, rfl, rfl⟩
  · rintro ⟨rfl, rfl, rfl⟩
    exact .done _

/-- The first request is answered; by an error that is the end of it, and otherwise the others follow. -/
theorem cons_iff :
    AskedInTurn env (request :: requests) before events result after ↔
      ∃ answer middle rest, events = ⟨request, answer⟩ :: rest ∧ env request before answer middle ∧
        match PassEvent.error? ⟨request, answer⟩ with
        | none => AskedInTurn env requests middle rest result after
        | some e => rest = [] ∧ result = .error e ∧ after = middle := by
  constructor
  · intro asked
    cases asked with
    | passed answered fine asked => exact ⟨_, _, _, rfl, answered, by rwa [fine]⟩
    | failed answered refused => exact ⟨_, _, _, rfl, answered, by rw [refused]; exact ⟨rfl, rfl, rfl⟩⟩
  · rintro ⟨answer, middle, rest, rfl, answered, goes_on⟩
    split at goes_on
    · next fine => exact .passed answered fine goes_on
    · next e refused =>
      obtain ⟨rfl, rfl, rfl⟩ := goes_on
      exact .failed answered refused

/-- What is asked is a beginning of the requests. -/
theorem requests_prefix (asked : AskedInTurn env requests before events result after) :
    events.map (·.request) <+: requests := by
  induction asked with
  | done => exact List.prefix_rfl
  | passed _ _ _ ih => exact (List.prefix_cons_inj _).2 ih
  | failed => exact (List.prefix_cons_inj _).2 List.nil_prefix

/-- Without an error all of the requests are asked. -/
theorem requests_eq (asked : AskedInTurn env requests before events (.ok ()) after) :
    events.map (·.request) = requests := by
  generalize result_eq : Except.ok () = result at asked
  induction asked with
  | done => rfl
  | passed _ _ _ ih => exact congrArg _ (ih result_eq)
  | failed => cases result_eq

end AskedInTurn

namespace Pass

open Program (Run)

/-- A part that asks such requests in turn, and that is all. -/
def AsksInTurn (part : Pass Unit) (requests : List PassRequest) : Prop :=
  ∀ {σ : Type} {env : PassEnvironment σ} {before after : σ} {events : List PassEvent}
    {result : Except OperatorError Unit},
    Run env part.run before events result after ↔ AskedInTurn env requests before events result after

theorem asksInTurn_pure : AsksInTurn (pure ()) [] :=
  run_pure_iff.trans AskedInTurn.nil_iff.symm

/-- A request, and then what follows unless the answer is an error. -/
theorem asksInTurn_ask (request : PassRequest) {requests : List PassRequest}
    {answered : request.Answer → Pass Unit}
    (goes_on : ∀ answer, match PassEvent.error? ⟨request, answer⟩ with
      | none => AsksInTurn (answered answer) requests
      | some e => answered answer = throw e) :
    AsksInTurn (ExceptT.mk (.ask request fun answer => (answered answer).run))
      (request :: requests) := by
  intro σ env before after events result
  rw [AskedInTurn.cons_iff]
  refine Program.run_ask_iff.trans (exists_congr fun answer => exists_congr fun middle =>
    exists_congr fun later => and_congr_right' (and_congr_right' ?_))
  specialize goes_on answer
  split at goes_on
  · exact goes_on
  · rw [goes_on]
    exact run_throw_iff

variable {next : Pass Unit} {requests : List PassRequest}

theorem asksInTurn_adminCall (session : Session) (call : AdminCall)
    (rest : AsksInTurn next requests) :
    AsksInTurn (adminCall session call >>= fun _ => next) (.admin session call :: requests) := by
  refine asksInTurn_ask (.admin session call) fun (answer : Except OperatorError call.Result) => ?_
  cases answer with
  | ok value => exact rest
  | error e => rfl

theorem asksInTurn_clusterCall (call : ClusterCall) (rest : AsksInTurn next requests) :
    AsksInTurn (clusterCall call >>= fun _ => next) (.cluster call :: requests) := by
  refine asksInTurn_ask (.cluster call) fun (answer : Except OperatorError call.Result) => ?_
  cases answer with
  | ok value => exact rest
  | error e => rfl

theorem asksInTurn_of_bind {part : Pass Unit} (asks : AsksInTurn (part >>= fun _ => pure ()) requests) :
    AsksInTurn part requests :=
  bind_pure_unit (x := part) ▸ asks

theorem asksInTurn_configureRedirectors (session : Session) (realm : String)
    (redirects : List RedirectorOverride) :
    AsksInTurn (configureRedirectors session realm redirects)
      ((redirects.map (.configureRedirector realm)).map (.admin session)) := by
  induction redirects with
  | nil => exact asksInTurn_pure
  | cons redirect redirects ih => exact asksInTurn_adminCall session _ ih

/-- With the client that it needs, an action asks its requests in turn. -/
theorem asksInTurn_applyAction {session : Option Session} {action : Action}
    (equipped : (action.needsKeycloak && session.isNone) = false) :
    AsksInTurn (applyAction session action) (action.requests session) := by
  cases action with
  | create | update | delete =>
    exact asksInTurn_of_bind (asksInTurn_clusterCall _ asksInTurn_pure)
  | ping | deleteRealm | updateRealmGroups | updateRealm =>
    cases session with
    | some session => exact asksInTurn_of_bind (asksInTurn_adminCall session _ asksInTurn_pure)
    | none => cases equipped
  | createRealm =>
    cases session with
    | some session => exact asksInTurn_adminCall session _ asksInTurn_pure
    | none => cases equipped
  | configureRealm =>
    cases session with
    | some session => exact asksInTurn_configureRedirectors session _ _
    | none => cases equipped

/-! ## Plans -/

variable {env : PassEnvironment σ} {session : Option Session} {action : Action} {plan : Plan}
  {before after : σ} {events : List PassEvent} {result : Except OperatorError Unit}

/-- Without the client that it needs, an action asks nothing and fails. -/
theorem run_applyAction_none_iff (needs : action.needsKeycloak = true) :
    Run env (applyAction none action).run before events result after ↔
      events = [] ∧ after = before ∧ result = .error (.reconciliation
        (action.summary ++ " needs a Keycloak client but none is attached")) := by
  have fails : applyAction none action = throw (.reconciliation
      (action.summary ++ " needs a Keycloak client but none is attached")) := by
    cases action with
    | create | update | delete => cases needs
    | _ => rfl
  rw [fails, run_throw_iff, and_comm (a := result = _)]

/-- An action comes to what its requests come to, or lacks a client. -/
theorem run_applyAction_iff :
    Run env (applyAction session action).run before events result after ↔
      action.ComesTo env session before events result after := by
  unfold Action.ComesTo
  split
  · next lacking =>
    obtain ⟨needs, missing⟩ := Bool.and_eq_true_iff.1 lacking
    cases Option.isNone_iff_eq_none.1 missing
    exact run_applyAction_none_iff needs
  · next equipped => exact asksInTurn_applyAction (Bool.not_eq_true _ ▸ equipped)

/-- A plan succeeds where its actions do, one after the other. -/
theorem run_applyPlan_ok_iff :
    Run env (applyPlan session plan).run before events (.ok ()) after ↔
      plan.Succeeds env session before events after := by
  induction plan generalizing before events with
  | nil =>
    refine run_pure_iff.trans ⟨?_, fun done => ?_⟩
    · rintro ⟨rfl, -, rfl⟩
      exact .nil _
    · cases done
      exact ⟨rfl, rfl, rfl⟩
  | cons action plan ih =>
    refine run_bind_ok_iff.trans ⟨?_, fun succeeds => ?_⟩
    · rintro ⟨first, _, middle, rest, rfl, applied, rest_run⟩
      exact .cons (run_applyAction_iff.1 applied) (ih.1 rest_run)
    · cases succeeds with
      | cons comes succeeds =>
        exact ⟨_, (), _, _, rfl, run_applyAction_iff.2 comes, ih.2 succeeds⟩

/-- A plan fails where one of its actions does, after those before it have succeeded. -/
theorem run_applyPlan_error_iff {e : OperatorError} :
    Run env (applyPlan session plan).run before events (.error e) after ↔
      ∃ earlier failing later first middle last, plan = earlier ++ failing :: later ∧
        events = first ++ last ∧ Plan.Succeeds env session earlier before first middle ∧
        Action.ComesTo env session failing middle last (.error e) after := by
  constructor
  · intro run
    induction plan generalizing before events with
    | nil => cases (run_pure_iff.1 run).2.1
    | cons action plan ih =>
      rcases run_bind_iff.1 run with ⟨_, ⟨⟩, failed⟩ | ⟨first, _, middle, rest, rfl, applied, run⟩
      · exact ⟨[], action, plan, [], before, events, rfl, rfl, .nil _, run_applyAction_iff.1 failed⟩
      · obtain ⟨earlier, failing, later, second, middle', last, rfl, rfl, succeeds, fails⟩ := ih run
        exact ⟨action :: earlier, failing, later, first ++ second, middle', last, rfl,
          (List.append_assoc _ _ _).symm, .cons (run_applyAction_iff.1 applied) succeeds, fails⟩
  · rintro ⟨earlier, failing, later, first, middle, last, rfl, rfl, succeeds, fails⟩
    rw [applyPlan_append]
    refine run_bind_iff.2 (.inr ⟨first, (), middle, last, rfl, run_applyPlan_ok_iff.2 succeeds, ?_⟩)
    exact run_bind_iff.2 (.inl ⟨e, rfl, run_applyAction_iff.2 fails⟩)

/-! ## What is asked -/

theorem requests_prefix_of_comesTo (comes : action.ComesTo env session before events result after) :
    events.map (·.request) <+: action.requests session := by
  unfold Action.ComesTo at comes
  split at comes
  · obtain ⟨rfl, -, -⟩ := comes
    exact List.nil_prefix
  · exact comes.requests_prefix

theorem requests_eq_of_comesTo (comes : action.ComesTo env session before events (.ok ()) after) :
    events.map (·.request) = action.requests session := by
  unfold Action.ComesTo at comes
  split at comes
  · cases comes.2.2
  · exact comes.requests_eq

theorem requests_eq_of_succeeds (succeeds : plan.Succeeds env session before events after) :
    events.map (·.request) = plan.flatMap (Action.requests session) := by
  induction succeeds with
  | nil => rfl
  | cons comes _ ih => rw [List.map_append, List.flatMap_cons, requests_eq_of_comesTo comes, ih]

/-- A plan is applied up to its first failing action, whose error is the result; the actions before it
have succeeded, each from the state that the one before it has left, it has itself asked its requests up
to the first that failed, and nothing is asked for a later one. An action without the client that it
needs asks nothing at all. -/
theorem plan_is_applied_up_to_first_failure (env : PassEnvironment σ) (session : Option Session)
    (plan : Plan) :
    (∀ before events result after,
      (Run env (applyPlan session plan).run before events result after ↔
        (result = .ok () ∧ plan.Succeeds env session before events after) ∨
          ∃ e earlier failing later first middle last, result = .error e ∧
            plan = earlier ++ failing :: later ∧ events = first ++ last ∧
            Plan.Succeeds env session earlier before first middle ∧
            Action.ComesTo env session failing middle last (.error e) after) ∧
      (Run env (applyPlan session plan).run before events result after →
        events.map (·.request) <+: plan.flatMap (Action.requests session))) ∧
    ∀ action before events result after, action.needsKeycloak = true →
      (Run env (applyAction none action).run before events result after ↔
        events = [] ∧ after = before ∧ result = .error (.reconciliation
          (action.summary ++ " needs a Keycloak client but none is attached"))) := by
  refine ⟨fun before events result after => ⟨?_, fun run => ?_⟩,
    fun action before events result after needs => run_applyAction_none_iff needs⟩
  · cases result with
    | ok value =>
      cases value
      simp [run_applyPlan_ok_iff]
    | error e => simp [run_applyPlan_error_iff]
  · cases result with
    | ok _ => exact (requests_eq_of_succeeds (run_applyPlan_ok_iff.1 run)).symm ▸ List.prefix_rfl
    | error e =>
      obtain ⟨earlier, failing, later, first, middle, last, rfl, rfl, succeeds, fails⟩ :=
        run_applyPlan_error_iff.1 run
      rw [List.map_append, List.flatMap_append, requests_eq_of_succeeds succeeds,
        List.prefix_append_right_inj]
      exact (requests_prefix_of_comesTo fails).trans (List.prefix_append _ _)

/-- Where the second redirection of a realm is refused, the secret has been created and the first one
configured, and neither the third one nor the ping after it is asked for; without a client not even the
first one would be. -/
theorem nothing_is_asked_after_refused_redirection :
    ∃ (env : PassEnvironment Nat) (session : Session) (realm : KeycloakRealm) (plan : Plan)
      (events : List PassEvent),
      realm.spec.realmOverrides.length = 3 ∧ .configureRealm realm "" ∈ plan ∧
      (plan.flatMap (Action.requests (some session))).length = 5 ∧
      Run env (applyPlan (some session) plan).run 0 events (.error (.http "refused")) 3 ∧
      events.length = 3 ∧
      events.map (·.request) <+: plan.flatMap (Action.requests (some session)) ∧
      Run env (applyAction none (.configureRealm realm "")).run 1 [] (.error (.reconciliation
        "ConfigureRealm basic needs a Keycloak client but none is attached")) 1 := by
  -- Each call is counted, and the third one is refused.
  let env : PassEnvironment Nat := fun request before answer after =>
    after = before + 1 ∧
      PassEvent.error? ⟨request, answer⟩ = if before = 2 then some (.http "refused") else none
  let session : Session := { endpoint := "http://keycloak" }
  let secret : Object := ⟨.secret, ({} : Secret)⟩
  let realm : KeycloakRealm := { spec := {
    realm := { realm := "basic" }
    realmOverrides := [⟨"github", "browser"⟩, ⟨"google", "browser"⟩, ⟨"gitlab", "browser"⟩] } }
  let configure (identityProvider : String) : AdminCall :=
    .configureRedirector "basic" ⟨identityProvider, "browser"⟩
  let first : List PassEvent := [⟨.cluster (.create secret), .ok ()⟩]
  let last : List PassEvent := [⟨.admin session (configure "github"), .ok ()⟩,
    ⟨.admin session (configure "google"), .error (.http "refused")⟩]
  let plan : Plan := [.create secret "", .configureRealm realm "", .ping ""]
  have creates : Action.ComesTo env (some session) (.create secret "") 0 first (.ok ()) 1 :=
    AskedInTurn.passed ⟨rfl, rfl⟩ rfl (.done 1)
  have fails : Action.ComesTo env (some session) (.configureRealm realm "") 1 last
      (.error (.http "refused")) 3 :=
    AskedInTurn.passed ⟨rfl, rfl⟩ rfl (.failed ⟨rfl, rfl⟩ rfl)
  obtain ⟨of_plan, without_client⟩ := plan_is_applied_up_to_first_failure env (some session) plan
  obtain ⟨run_iff, asked⟩ := of_plan 0 (first ++ last) (.error (.http "refused")) 3
  have run := run_iff.2 (.inr ⟨_, [.create secret ""], .configureRealm realm "", [.ping ""], first, 1,
    last, rfl, rfl, rfl, .cons creates (.nil 1), fails⟩)
  have lacking := (without_client (.configureRealm realm "") 1 [] _ 1 rfl).2 ⟨rfl, rfl, rfl⟩
  exact ⟨env, session, realm, plan, _, rfl, List.mem_cons_of_mem _ List.mem_cons_self, rfl, run, rfl,
    asked run, lacking⟩

end Pass

end IdentityOperator
