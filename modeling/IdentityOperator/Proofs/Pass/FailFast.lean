import IdentityOperator.Proofs.Pass.Requests

/-!
Parts of passes that end with the first failure.

A call fails if it is answered by an error, except for looking up an object that turns out not to be
there. A part that is `FailFast` ends with an error as soon as one of its calls fails, and for no other
reason: where it succeeds none of its calls has failed, and where it does not the last one has, and
only this one.
-/

namespace IdentityOperator

/-- Whether a call is content with an error. -/
def ClusterCall.tolerates : ClusterCall → OperatorError → Bool
  | .get .., e => e.isAbsent
  | _, _ => false

/-- Whether an answer to a request is a failure. -/
def PassRequest.FailsWith : (request : PassRequest) → request.Answer → Prop
  | .cluster call, answer => ∃ e, answer = .error e ∧ call.tolerates e = false
  | .patchKeycloakStatus .., answer | .patchRealmStatus .., answer | .patchFinalizers .., answer =>
    ∃ e : OperatorError, answer = (.error e : Except OperatorError Unit)
  | .login _, answer => ∃ e : OperatorError, answer = (.error e : Except OperatorError Session)
  | .admin _ call, answer => ∃ e, answer = (.error e : call.Answer)
  | .flag _, _ | .password _, _ | .now, _ => False

/-- A call that has failed. -/
def PassEvent.Fails (event : PassEvent) : Prop := event.request.FailsWith event.answer

namespace Pass

open Program (Run)

variable {α β : Type}

/-- The first failure ends a part, and nothing else makes it fail. -/
def FailFast : Asking (Except OperatorError α) → Prop
  | .done (.ok _) => True
  | .done (.error _) => False
  | .ask request next => ∀ answer,
    (request.FailsWith answer → ∃ e, next answer = .done (.error e)) ∧
      (¬ request.FailsWith answer → FailFast (next answer))

/-! ## Runs -/

variable {σ : Type} {env : PassEnvironment σ} {before after : σ} {events : List PassEvent}

theorem FailFast.clean_of_ok {part : Asking (Except OperatorError α)} {value : α}
    (failFast : FailFast part) (run : Run env part before events (.ok value) after) :
    ∀ event ∈ events, ¬ PassEvent.Fails event := by
  induction part generalizing before events with
  | done result =>
    obtain ⟨rfl, -, -⟩ := Program.run_done_iff.1 run
    simp
  | ask request next ih =>
    obtain ⟨answer, middle, rest, rfl, -, run⟩ := Program.run_ask_iff.1 run
    obtain ⟨stops, goes_on⟩ := failFast answer
    have passed : ¬ request.FailsWith answer := by
      intro fails
      obtain ⟨e, stopped⟩ := stops fails
      rw [stopped] at run
      obtain ⟨-, impossible, -⟩ := Program.run_done_iff.1 run
      cases impossible
    exact List.forall_mem_cons.2 ⟨passed, ih answer (goes_on passed) run⟩

/-- The call that has made a part fail is its last one. -/
theorem FailFast.last_fails {part : Asking (Except OperatorError α)} {e : OperatorError}
    (failFast : FailFast part) (run : Run env part before events (.error e) after) :
    ∃ earlier event, events = earlier ++ [event] ∧ PassEvent.Fails event ∧
      ∀ event ∈ earlier, ¬ PassEvent.Fails event := by
  induction part generalizing before events with
  | done result =>
    obtain ⟨rfl, rfl, -⟩ := Program.run_done_iff.1 run
    exact failFast.elim
  | ask request next ih =>
    obtain ⟨answer, middle, rest, rfl, -, run⟩ := Program.run_ask_iff.1 run
    obtain ⟨stops, goes_on⟩ := failFast answer
    by_cases fails : request.FailsWith answer
    · obtain ⟨e', stopped⟩ := stops fails
      rw [stopped] at run
      obtain ⟨rfl, -, -⟩ := Program.run_done_iff.1 run
      exact ⟨[], _, rfl, fails, by simp⟩
    · obtain ⟨earlier, event, rfl, last, passed⟩ := ih answer (goes_on fails) run
      exact ⟨_ :: earlier, event, rfl, last, List.forall_mem_cons.2 ⟨fails, passed⟩⟩

/-! ## Parts in a row -/

theorem failFast_bind {part : Pass α} {next : α → Pass β} (first : FailFast part.run)
    (second : ∀ value, FailFast (next value).run) : FailFast (part >>= next).run := by
  rw [ExceptT.run_bind]
  -- On the tree of the first part: at its leaves the second one begins, and a failure ends both.
  generalize part.run = program at first
  induction program with
  | done result =>
    cases result with
    | ok value => exact second value
    | error e => exact first.elim
  | ask request answered ih =>
    intro answer
    obtain ⟨stops, goes_on⟩ := first answer
    refine ⟨fun fails => ?_, fun passed => ih answer (goes_on passed)⟩
    obtain ⟨e, stopped⟩ := stops fails
    refine ⟨e, ?_⟩
    show (answered answer).bind _ = _
    rw [stopped]
    rfl

/-- A part that does not fail, and whose requests do not fail. -/
theorem failFast_lift {part : Asking α}
    (only : Program.Only (fun request => ∀ answer, ¬ request.FailsWith answer) part) :
    FailFast (ExceptT.lift part : Pass α).run := by
  rw [ExceptT.run_lift]
  induction part with
  | done value => trivial
  | ask request next ih =>
    intro answer
    exact ⟨fun fails => absurd fails (only.1 answer), fun _ => ih answer (only.2 answer)⟩

theorem failFast_adminCall (session : Session) (call : AdminCall) :
    FailFast (adminCall session call).run := by
  intro answer
  cases answer with
  | ok value => exact ⟨by rintro ⟨e, ⟨⟩⟩, fun _ => trivial⟩
  | error e => exact ⟨fun _ => ⟨e, rfl⟩, fun passed => passed ⟨e, rfl⟩⟩

theorem failFast_login (kc : Keycloak) : FailFast (login kc).run := by
  intro answer
  cases answer with
  | ok value => exact ⟨by rintro ⟨e, ⟨⟩⟩, fun _ => trivial⟩
  | error e => exact ⟨fun _ => ⟨e, rfl⟩, fun passed => passed ⟨e, rfl⟩⟩

/-- A call that is content with no error; one that looks up an object is not of this sort. -/
theorem failFast_clusterCall {call : ClusterCall} (strict : ∀ e, call.tolerates e = false) :
    FailFast (clusterCall call).run := by
  intro answer
  cases answer with
  | ok value => exact ⟨by rintro ⟨e, ⟨⟩, -⟩, fun _ => trivial⟩
  | error e => exact ⟨fun _ => ⟨e, rfl⟩, fun passed => passed ⟨e, rfl, strict e⟩⟩

/-! ## Declared realms -/

theorem failFast_findSecret (key : ObjectKey) : FailFast (findSecret key).run := by
  intro answer
  cases answer with
  | ok secret => exact ⟨by rintro ⟨e, ⟨⟩, -⟩, fun _ => trivial⟩
  | error e =>
    cases absent : e.isAbsent with
    | true =>
      have result : (if e.isAbsent then pure none else throw e : Pass (Option Secret)).run =
          .done (.ok none) := by
        rw [if_pos absent]
        rfl
      refine ⟨?_, fun _ => ?_⟩
      · rintro ⟨e', ⟨⟩, present⟩
        exact absurd absent (by simpa [ClusterCall.tolerates] using present)
      · show FailFast (if e.isAbsent then pure none else throw e : Pass (Option Secret)).run
        rw [result]
        trivial
    | false =>
      refine ⟨fun _ => ⟨e, ?_⟩, fun passed => absurd ⟨e, rfl, absent⟩ passed⟩
      show (if e.isAbsent then pure none else throw e : Pass (Option Secret)).run = _
      rw [if_neg (by simp [absent])]
      rfl

theorem failFast_readUserSecrets (realm : KeycloakRealm) (kc : Keycloak)
    (users : List Admin.User) : FailFast (readUserSecrets realm kc users).run := by
  induction users with
  | nil => trivial
  | cons user users ih =>
    exact failFast_bind (failFast_findSecret _) fun _ => failFast_bind ih fun _ => trivial

theorem failFast_readRealm (session : Session) (realm : KeycloakRealm) (kc : Keycloak) :
    FailFast (readRealm session realm kc).run :=
  failFast_bind (failFast_adminCall _ _) fun _ =>
    failFast_bind (failFast_readUserSecrets _ _ _) fun _ => trivial

theorem failFast_configureRedirectors (session : Session) (realm : String)
    (redirects : List RedirectorOverride) :
    FailFast (configureRedirectors session realm redirects).run := by
  induction redirects with
  | nil => trivial
  | cons redirect redirects ih => exact failFast_bind (failFast_adminCall _ _) fun _ => ih

/-- With a client at hand, an action fails only if a call does. -/
theorem failFast_applyAction (session : Session) (action : Action) :
    FailFast (applyAction (some session) action).run := by
  cases action with
  | create o msg => exact failFast_clusterCall fun _ => rfl
  | update o previous msg => exact failFast_clusterCall fun _ => rfl
  | delete o msg => exact failFast_clusterCall fun _ => rfl
  | createRealm realm msg =>
    exact failFast_bind trivial fun _ => failFast_bind (failFast_adminCall _ _) fun _ => trivial
  | configureRealm realm msg => exact failFast_configureRedirectors _ _ _
  | ping | deleteRealm | updateRealmGroups | updateRealm => exact failFast_adminCall _ _

theorem failFast_applyPlan (session : Session) (plan : Plan) :
    FailFast (applyPlan (some session) plan).run := by
  induction plan with
  | nil => trivial
  | cons action plan ih => exact failFast_bind (failFast_applyAction _ _) fun _ => ih

theorem failFast_applyRealm (realm : KeycloakRealm) (kc : Keycloak) :
    FailFast (applyRealm realm kc).run := by
  refine failFast_bind (failFast_login _) fun session => ?_
  refine failFast_bind (failFast_readRealm _ _ _) fun state => ?_
  have planning : FailFast (ExceptT.lift (planRealm realm kc state) : Pass Plan).run :=
    failFast_lift (only_planRealm (fun _ _ => id) _ _ _)
  exact failFast_bind planning fun _ => failFast_bind (failFast_applyPlan _ _) fun _ => trivial

theorem failFast_applyRealmTo (realm : KeycloakRealm) (loginUrl : String)
    (installations : List Keycloak) :
    FailFast (applyRealmTo realm loginUrl installations).run := by
  induction installations generalizing loginUrl with
  | nil => trivial
  | cons kc rest ih =>
    unfold applyRealmTo
    split
    · exact ih _
    · trivial
    · exact failFast_bind (failFast_applyRealm _ _) fun _ => ih _

/-- Going through the installations ends with the first failure, and fails for no other reason. -/
theorem failFast_convergeRealm (realm : KeycloakRealm) : FailFast (convergeRealm realm).run := by
  refine failFast_bind (failFast_clusterCall fun _ => rfl) fun installations => ?_
  split
  · trivial
  · exact failFast_applyRealmTo _ _ _

end Pass

end IdentityOperator
