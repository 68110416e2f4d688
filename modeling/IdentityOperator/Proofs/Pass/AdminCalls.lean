import IdentityOperator.Proofs.Pass.Requests

/-!
The calls to the admin API that a plan stands for, and what becomes of a realm in spite of failures.

An action makes certain calls (`Action.Calls`), and a plan makes those of its actions and no others.
A plan that has been applied without an error has applied every one of its actions. Against an admin
API of which any call may fail, before or after it has done its work, a realm that is there stays
there unless a call removes it.
-/

namespace IdentityOperator

/-! ## Calls of actions -/

/-- The calls that an action makes. -/
def Action.Calls : Action → AdminCall → Prop
  | .ping _, call => call = .ping
  | .createRealm realm _, call => call = .createRealm realm.spec.realm
  | .deleteRealm realm _, call => call = .deleteRealm realm.realmName
  | .configureRealm realm _, call =>
    ∃ redirect ∈ realm.spec.realmOverrides, call = .configureRedirector realm.realmName redirect
  | .updateRealmGroups realm _, call => call = .updateRealmGroups realm.spec.realm
  | .updateRealm realm _, call => call = .updateRealm realm.spec.realm
  | .create .., _ | .update .., _ | .delete .., _ => False

/-- A request that, if it calls the admin API at all, does so in such a way. -/
def PassRequest.CallsOnly (sort : AdminCall → Prop) : PassRequest → Prop
  | .admin _ call => sort call
  | _ => True

theorem PassRequest.CallsOnly.mono {sort wider : AdminCall → Prop} {request : PassRequest}
    (calls : request.CallsOnly sort) (covers : ∀ call, sort call → wider call) :
    request.CallsOnly wider := by
  cases request with
  | admin session call => exact covers call calls
  | _ => trivial

namespace Pass

open Program (Run Only)

theorem only_applyAction_calls (session : Session) (action : Action) :
    Only (·.CallsOnly action.Calls) (applyAction (some session) action).run := by
  cases action with
  | create | update | delete => exact only_ask trivial
  | createRealm realm msg =>
    exact only_bind trivial fun _ => only_bind (only_ask rfl) fun _ => trivial
  | configureRealm realm msg =>
    exact only_configureRedirectors fun redirect mem => ⟨redirect, mem, rfl⟩
  | ping | deleteRealm | updateRealmGroups | updateRealm => exact only_ask rfl

/-- To apply a plan makes no other calls than those of its actions. -/
theorem only_applyPlan_calls (session : Session) (plan : Plan) :
    Only (·.CallsOnly fun call => ∃ action ∈ plan, action.Calls call)
      (applyPlan (some session) plan).run :=
  only_applyPlan fun action planned => (only_applyAction_calls session action).mono
    fun _ calls => calls.mono fun _ called => ⟨action, planned, called⟩

/-! ## Plans that have been applied -/

variable {σ : Type} {env : PassEnvironment σ} {before after : σ} {events : List PassEvent}

/-- Where a plan has been applied, so has each of its actions. -/
theorem run_applyAction_of_run_applyPlan {session : Option Session} {plan : Plan} {action : Action}
    (run : Run env (applyPlan session plan).run before events (.ok ()) after)
    (planned : action ∈ plan) :
    ∃ start segment stop, (∀ event ∈ segment, event ∈ events) ∧
      Run env (applyAction session action).run start segment (.ok ()) stop := by
  induction plan generalizing before events with
  | nil => cases planned
  | cons first plan ih =>
    obtain ⟨front, _, middle, rest, rfl, applied, rest_run⟩ := run_bind_ok_iff.1 run
    rcases List.mem_cons.1 planned with rfl | planned
    · exact ⟨_, front, _, fun event mem => List.mem_append_left _ mem, applied⟩
    · obtain ⟨start, segment, stop, within, applied⟩ := ih rest_run planned
      exact ⟨start, segment, stop, fun event mem => List.mem_append_right _ (within event mem),
        applied⟩

/-- To create a realm is one call, which fails or brings back the id of the realm. -/
theorem run_applyAction_createRealm {session : Session} {realm : KeycloakRealm} {msg : String}
    {result : Except OperatorError Unit}
    (run : Run env (applyAction (some session) (.createRealm realm msg)).run before events result
      after) :
    ∃ answer : (AdminCall.createRealm realm.spec.realm).Answer,
      events = [⟨.admin session (.createRealm realm.spec.realm), answer⟩] ∧
      env (.admin session (.createRealm realm.spec.realm)) before answer after ∧
      ((∃ e, answer = .error e ∧ result = .error e) ∨ ∃ id, answer = .ok id ∧ result = .ok ()) := by
  have call : Run env (adminCall session (.createRealm realm.spec.realm) >>= fun _ => pure () :
      Pass Unit).run before events result after := run
  rcases run_bind_iff.1 call with ⟨e, rfl, refused⟩ | ⟨_, id, _, _, rfl, made, done⟩
  · obtain ⟨rfl, answered⟩ := run_adminCall_iff.1 refused
    exact ⟨_, rfl, answered, .inl ⟨e, rfl, rfl⟩⟩
  · obtain ⟨rfl, rfl, rfl⟩ := run_pure_iff.1 done
    obtain ⟨rfl, answered⟩ := run_adminCall_iff.1 made
    exact ⟨_, rfl, answered, .inr ⟨id, rfl, rfl⟩⟩

/-- Where the redirections have been configured, so has each of them. -/
theorem configured_of_run_configureRedirectors {session : Session} {realm : String}
    {redirects : List RedirectorOverride} {redirect : RedirectorOverride}
    (run : Run env (configureRedirectors session realm redirects).run before events (.ok ()) after)
    (declared : redirect ∈ redirects) :
    ⟨.admin session (.configureRedirector realm redirect), .ok ()⟩ ∈ events := by
  induction redirects generalizing before events with
  | nil => cases declared
  | cons first redirects ih =>
    obtain ⟨front, answer, middle, rest, rfl, called, rest_run⟩ := run_bind_ok_iff.1 run
    obtain ⟨rfl, -⟩ := run_adminCall_iff.1 called
    rcases List.mem_cons.1 declared with rfl | declared
    · exact List.mem_append_left _ (List.mem_singleton.2 rfl)
    · exact List.mem_append_right _ (ih rest_run declared)

end Pass

/-! ## Realms that stay -/

namespace MemoryAdmin

theorem isSome_find?_put_self (api : MemoryAdmin) (realm : Admin.Realm) :
    ((api.put realm).find? realm.realm).isSome := by
  unfold put find?
  split
  · next there =>
    obtain ⟨old, mem, named⟩ := List.find?_isSome.1 there
    rw [List.find?_isSome]
    refine ⟨realm, List.mem_map.2 ⟨old, mem, ?_⟩, by simp⟩
    rw [if_pos (by simpa using named)]
  · simp

theorem isSome_find?_put {api : MemoryAdmin} {name : String} (there : (api.find? name).isSome)
    (realm : Admin.Realm) : ((api.put realm).find? name).isSome := by
  by_cases same : realm.realm = name
  · rw [← same]
    exact isSome_find?_put_self api realm
  · obtain ⟨old, mem, named⟩ := List.find?_isSome.1 there
    rw [find?, List.find?_isSome]
    refine ⟨old, ?_, named⟩
    unfold put
    split
    · have other : old.realm ≠ realm.realm := by
        intro taken
        rw [decide_eq_true_eq] at named
        exact same (taken.symm.trans named)
      exact List.mem_map.2 ⟨old, mem, if_neg other⟩
    · exact List.mem_append_left _ mem

/-- A realm that has been created is there, whether it has been there before or not. -/
theorem isSome_find?_serve_createRealm (api : MemoryAdmin) (realm : Admin.Realm) :
    ((api.serve (.createRealm realm)).2.find? realm.realm).isSome := by
  unfold serve
  dsimp only
  split
  · assumption
  · exact isSome_find?_put_self api realm

/-- Only a call that removes the realm makes it go away. -/
theorem isSome_find?_serve {api : MemoryAdmin} {name : String} (there : (api.find? name).isSome)
    {call : AdminCall} (keeps : call ≠ .deleteRealm name) :
    ((api.serve call).2.find? name).isSome := by
  cases call with
  | createRealm realm =>
    unfold serve
    dsimp only
    split
    · exact there
    · exact isSome_find?_put there realm
  | updateRealm realm => exact isSome_find?_put there realm
  | deleteRealm removed =>
    have other : name ≠ removed := fun same => keeps (same ▸ rfl)
    obtain ⟨old, mem, named⟩ := List.find?_isSome.1 there
    refine List.find?_isSome.2 ⟨old, List.mem_filter.2 ⟨mem, ?_⟩, named⟩
    rw [decide_eq_true_eq] at named
    simpa [named] using other
  | _ => exact there

end MemoryAdmin

end IdentityOperator
