import IdentityOperator.Proofs.Pass.FailFast
import IdentityOperator.Proofs.RealmDeclaration.Plan
import Mathlib.Data.List.Forall2

/-!
When the finalizer of a declared realm is taken off.

A declaration that is being deleted is let go by the last request of a pass, and by no other one. What
such a pass has asked before it can be told apart installation by installation: from every usable one
the realm has been removed, and every other one is itself being deleted (`Cleared`). Nothing in the
statements depends on what answers: they hold in every environment, so for every choice of failing
calls and of installations listed.
-/

namespace IdentityOperator

namespace KeycloakRealm

/-! ## What is asked of one installation -/

/-- What a pass has asked of an installation from which nothing keeps the declaration any more. -/
inductive Cleared (declared : KeycloakRealm) (kc : Keycloak) : List PassEvent → Prop
  /-- The realm has been removed, by a client that has logged in there. -/
  | removed {session : Session} {found : Option Admin.Realm} {lookups : List PassEvent} :
    kc.IsUsable →
    (∀ event ∈ lookups, (∃ key, event.request = .cluster (.get .secret key)) ∧
      ¬ PassEvent.Fails event) →
    Cleared declared kc (⟨.login kc, .ok session⟩ ::
      ⟨.admin session (.getRealm declared.realmName), .ok found⟩ ::
      (lookups ++ [⟨.admin session (.deleteRealm declared.realmName), .ok ()⟩]))
  /-- It cannot be used, and it is going away itself. -/
  | leaving : ¬ kc.IsUsable → kc.metadata.isDeleting = true → Cleared declared kc []

theorem Cleared.usable_or_leaving {declared : KeycloakRealm} {kc : Keycloak}
    {events : List PassEvent} (cleared : Cleared declared kc events) :
    kc.IsUsable ∨ kc.metadata.isDeleting = true := by
  cases cleared with
  | removed usable _ => exact .inl usable
  | leaving _ leaving => exact .inr leaving

end KeycloakRealm

namespace Pass

open Program (Run)

variable {σ : Type} {env : PassEnvironment σ} {before after : σ} {events : List PassEvent}
  {declared : KeycloakRealm} {kc : Keycloak}

/-- To remove a realm takes no password. -/
theorem planRealm_of_tombstoned (deleting : declared.isTombstoned = true) (kc : Keycloak)
    (state : RealmSnapshot) :
    planRealm declared kc state =
      pure [.deleteRealm declared ("removing realm " ++ declared.qualified)] := by
  simp [planRealm, deleting, userPasswords, KeycloakRealm.plan_of_tombstoned]

/-- What has been read before the realm is removed. -/
theorem run_readRealm_ok {session : Session} {state : RealmSnapshot}
    (run : Run env (readRealm session declared kc).run before events (.ok state) after) :
    ∃ found lookups, events = ⟨.admin session (.getRealm declared.realmName), .ok found⟩ :: lookups ∧
      ∀ event ∈ lookups, (∃ key, event.request = .cluster (.get .secret key)) ∧
        ¬ PassEvent.Fails event := by
  obtain ⟨first, found, middle, rest, rfl, get_run, rest_run⟩ := run_bind_ok_iff.1 run
  obtain ⟨rfl, -⟩ := run_adminCall_iff.1 get_run
  obtain ⟨lookups, secrets, last, none_left, rfl, read_run, done⟩ := run_bind_ok_iff.1 rest_run
  obtain ⟨rfl, -, -⟩ := run_pure_iff.1 done
  have lookups_only : Program.Only (fun request => ∃ key, request = .cluster (.get .secret key))
      (readUserSecrets declared kc declared.spec.realm.users).run :=
    only_readUserSecrets (fun key => ⟨key, rfl⟩) _ _ _
  have passed := (failFast_readUserSecrets declared kc declared.spec.realm.users).clean_of_ok
    read_run
  exact ⟨found, lookups, by simp, fun event mem =>
    ⟨lookups_only.of_run read_run event mem, passed event mem⟩⟩

/-- A pass that gets past a usable installation has removed the realm there. -/
theorem cleared_of_run_applyRealm (deleting : declared.isTombstoned = true)
    (usable : kc.IsUsable) {loginUrl : String}
    (run : Run env (applyRealm declared kc).run before events (.ok loginUrl) after) :
    declared.Cleared kc events := by
  obtain ⟨first, session, _, rest, rfl, login_run, rest_run⟩ := run_bind_ok_iff.1 run
  obtain ⟨rfl, -⟩ := run_login_iff.1 login_run
  obtain ⟨reading, state, _, applying, rfl, read_run, plan_run⟩ := run_bind_ok_iff.1 rest_run
  obtain ⟨found, lookups, rfl, looked_up⟩ := run_readRealm_ok read_run
  rw [planRealm_of_tombstoned deleting] at plan_run
  obtain ⟨_, _, _, none_left, rfl, apply_run, done⟩ := run_bind_ok_iff.1
    (show Run env ((adminCall session (.deleteRealm declared.realmName) >>= fun _ => pure ()) >>=
      fun _ => pure _ : Pass String).run _ _ _ _ from plan_run)
  obtain ⟨rfl, -, -⟩ := run_pure_iff.1 done
  obtain ⟨removing, removed, _, none_left, rfl, remove_run, done⟩ := run_bind_ok_iff.1 apply_run
  obtain ⟨rfl, -, -⟩ := run_pure_iff.1 done
  obtain ⟨rfl, -⟩ := run_adminCall_iff.1 remove_run
  obtain rfl : removed = () := rfl
  simpa using @KeycloakRealm.Cleared.removed declared kc session found lookups usable looked_up

/-- A pass that gets past all installations has cleared them one after the other. -/
theorem cleared_of_run_applyRealmTo (deleting : declared.isTombstoned = true)
    {installations : List Keycloak} {loginUrl lastUrl : String}
    (run : Run env (applyRealmTo declared loginUrl installations).run before events
      (.ok (.applied lastUrl)) after) :
    ∃ segments, events = segments.flatten ∧
      List.Forall₂ declared.Cleared installations segments := by
  induction installations generalizing loginUrl before events with
  | nil =>
    obtain ⟨rfl, -, -⟩ := run_pure_iff.1 run
    exact ⟨[], rfl, .nil⟩
  | cons kc rest ih =>
    unfold applyRealmTo at run
    rcases declared.instanceStep_of_tombstoned deleting kc with
      ⟨step, usable⟩ | ⟨step, unusable, leaving⟩ | ⟨⟨reason, step⟩, -⟩
    · rw [step] at run
      obtain ⟨first, url, middle, second, rfl, apply_run, rest_run⟩ := run_bind_ok_iff.1 run
      obtain ⟨segments, rfl, cleared⟩ := ih rest_run
      exact ⟨first :: segments, rfl, .cons (cleared_of_run_applyRealm deleting usable apply_run)
        cleared⟩
    · rw [step] at run
      obtain ⟨segments, rfl, cleared⟩ := ih run
      exact ⟨[] :: segments, rfl, .cons (.leaving unusable leaving) cleared⟩
    · rw [step] at run
      obtain ⟨-, impossible, -⟩ := run_pure_iff.1 run
      cases impossible

/-- A pass waits for an installation that can neither be used nor is being deleted. -/
theorem waits_of_run_applyRealmTo (deleting : declared.isTombstoned = true)
    {installations : List Keycloak} {loginUrl reason : String}
    (run : Run env (applyRealmTo declared loginUrl installations).run before events
      (.ok (.waiting reason)) after) :
    ∃ kc ∈ installations, ¬ kc.IsUsable ∧ kc.metadata.isDeleting = false := by
  induction installations generalizing loginUrl before events with
  | nil =>
    obtain ⟨-, impossible, -⟩ := run_pure_iff.1 run
    cases impossible
  | cons kc rest ih =>
    unfold applyRealmTo at run
    rcases declared.instanceStep_of_tombstoned deleting kc with
      ⟨step, -⟩ | ⟨step, -, -⟩ | ⟨⟨_, step⟩, unusable, staying⟩
    · rw [step] at run
      obtain ⟨_, _, _, _, rfl, -, rest_run⟩ := run_bind_ok_iff.1 run
      obtain ⟨kc, listed, waits⟩ := ih rest_run
      exact ⟨kc, List.mem_cons_of_mem _ listed, waits⟩
    · rw [step] at run
      obtain ⟨kc, listed, waits⟩ := ih run
      exact ⟨kc, List.mem_cons_of_mem _ listed, waits⟩
    · exact ⟨kc, List.mem_cons_self, unusable, staying⟩

/-- The call that lists the installations of a declared realm. -/
def listing (declared : KeycloakRealm) : ClusterCall :=
  .list .keycloak declared.ns declared.spec.instanceSelector.toLabelSelector

theorem cleared_of_run_convergeRealm (deleting : declared.isTombstoned = true) {loginUrl : String}
    (run : Run env (convergeRealm declared).run before events (.ok (.applied loginUrl)) after) :
    ∃ (installations : List Keycloak) (segments : List (List PassEvent)),
      events = ⟨.cluster (listing declared), .ok installations⟩ :: segments.flatten ∧
      List.Forall₂ declared.Cleared installations segments := by
  obtain ⟨first, installations, middle, rest, rfl, list_run, rest_run⟩ := run_bind_ok_iff.1 run
  obtain ⟨rfl, -⟩ := run_clusterCall_iff.1 list_run
  rw [if_neg (by simp [deleting])] at rest_run
  obtain ⟨segments, rfl, cleared⟩ := cleared_of_run_applyRealmTo deleting rest_run
  exact ⟨installations, segments, rfl, cleared⟩

theorem waits_of_run_convergeRealm (deleting : declared.isTombstoned = true) {reason : String}
    (run : Run env (convergeRealm declared).run before events (.ok (.waiting reason)) after) :
    ∃ (installations : List Keycloak) (later : List PassEvent),
      events = ⟨.cluster (listing declared), .ok installations⟩ :: later ∧
      ∃ kc ∈ installations, ¬ kc.IsUsable ∧ kc.metadata.isDeleting = false := by
  obtain ⟨first, installations, middle, rest, rfl, list_run, rest_run⟩ := run_bind_ok_iff.1 run
  obtain ⟨rfl, -⟩ := run_clusterCall_iff.1 list_run
  rw [if_neg (by simp [deleting])] at rest_run
  exact ⟨installations, rest, rfl, waits_of_run_applyRealmTo deleting rest_run⟩

/-! ## The whole pass -/

/-- What a pass that asks for new finalizers has asked in all: for the installations, for what clears
them, and then for the finalizers of the declaration without the operator's own. -/
def ReleasesFinalizer (declared : KeycloakRealm) (events : List PassEvent) : Prop :=
  ∃ (installations : List Keycloak) (segments : List (List PassEvent))
    (answer : Except OperatorError Unit),
    events = ⟨.cluster (listing declared), .ok installations⟩ :: segments.flatten ++
      [⟨.patchFinalizers declared.metadata.key
        (declared.metadata.finalizerList.filter (· ≠ "keycloak.org/realm-cleanup")), answer⟩] ∧
    List.Forall₂ declared.Cleared installations segments ∧
    ∀ event ∈ ⟨.cluster (listing declared), .ok installations⟩ :: segments.flatten,
      ¬ PassEvent.Fails event

/-- Once every installation has been gone through, the finalizer is all that is left. -/
theorem run_settleRealm_applied (deleting : declared.isTombstoned = true) {loginUrl : String}
    {result : Except OperatorError Requeue}
    (run : Run env (settleRealm declared (.applied loginUrl)).run before events result after) :
    ∃ answer, events =
      [⟨.patchFinalizers declared.metadata.key declared.otherFinalizers, answer⟩] := by
  have settle : settleRealm declared (.applied loginUrl) = (do
      removeFinalizer declared
      pure .onChange) := by
    rw [settleRealm, if_pos deleting]
  rw [settle] at run
  rcases run_bind_iff.1 run with ⟨e, -, failed⟩ | ⟨patch, _, _, none_left, rfl, patched, done⟩
  · exact ⟨_, (run_patchFinalizers_iff.1 failed).1⟩
  · obtain ⟨rfl, -, -⟩ := run_pure_iff.1 done
    obtain ⟨rfl, -⟩ := run_patchFinalizers_iff.1 patched
    exact ⟨_, rfl⟩

/-- What keeps the finalizer on: a call that has failed, or an installation that can neither be used
nor is being deleted. -/
def KeepsFinalizer (declared : KeycloakRealm) (events : List PassEvent) : Prop :=
  (∃ event ∈ events, PassEvent.Fails event) ∨
    ∃ (installations : List Keycloak) (later : List PassEvent),
      events = ⟨.cluster (listing declared), .ok installations⟩ :: later ∧
      ∃ kc ∈ installations, ¬ kc.IsUsable ∧ kc.metadata.isDeleting = false

/-- A pass over a declaration that is being deleted releases it, or it has a reason not to and asks
for no finalizers at all. -/
theorem releases_or_not (managed : declared.spec.unmanaged = false)
    (deleting : declared.isTombstoned = true) {result : Except OperatorError Requeue}
    (run : Run env (realm declared).run before events result after) :
    ReleasesFinalizer declared events ∨
      KeepsFinalizer declared events ∧ ∀ event ∈ events, ¬ event.request.IsFinalizers := by
  rw [realm, if_neg (by simp [managed]), if_pos deleting, keepRealm] at run
  rcases run_bind_iff.1 run with
    ⟨e, -, failed⟩ | ⟨first, outcome, middle, second, rfl, converge, rest⟩
  · obtain ⟨_, -, impossible⟩ := run_attempt_iff.1 failed
    cases impossible
  obtain ⟨_, converge, outcome_eq⟩ := run_attempt_iff.1 converge
  cases outcome_eq
  have not_yet : ∀ event ∈ first, ¬ event.request.IsFinalizers := fun event mem =>
    ((only_convergeRealm declared).of_run converge event mem).not_isFinalizers
  -- The pass has failed, it has gone through all installations, or it has to wait for one.
  rcases outcome with e | (loginUrl | reason)
  · obtain ⟨earlier, event, rfl, fails, -⟩ := (failFast_convergeRealm declared).last_fails converge
    refine .inr ⟨.inl ⟨event, by simp, fails⟩, fun event mem => ?_⟩
    rcases List.mem_append.1 mem with mem | mem
    · exact not_yet event mem
    · have only := only_failRealm (fun _ => PassRequest.Reports.not_isFinalizers) declared e
      exact only.of_run rest event mem
  · obtain ⟨installations, segments, rfl, cleared⟩ := cleared_of_run_convergeRealm deleting converge
    have passed := (failFast_convergeRealm declared).clean_of_ok converge
    obtain ⟨answer, rfl⟩ := run_settleRealm_applied deleting rest
    exact .inl ⟨installations, segments, answer, rfl, cleared, passed⟩
  · obtain ⟨installations, later, rfl, waits⟩ := waits_of_run_convergeRealm deleting converge
    refine .inr ⟨.inr ⟨installations, later ++ second, rfl, waits⟩, fun event mem => ?_⟩
    rcases List.mem_append.1 mem with mem | mem
    · exact not_yet event mem
    · have report := (only_reportRealm declared (.waiting reason) none).mono
        fun _ => PassRequest.Reports.not_isFinalizers
      have only : Program.Only (¬ ·.IsFinalizers) (settleRealm declared (.waiting reason)).run :=
        only_bind report fun _ => trivial
      exact only.of_run rest event mem

/-! ## The finalizer is safe -/

/-- The finalizer of a declaration that is being deleted is taken off only by a pass that has removed
the realm from every listed installation that can be used, all others being deleted themselves. An
installation that has to be waited for, or a failure, keeps it on; and what is planned for a usable
installation is to remove the realm and nothing else. -/
theorem finalizer_released_only_when_cleared (managed : declared.spec.unmanaged = false)
    (deleting : declared.isTombstoned = true) {result : Except OperatorError Requeue}
    (run : Run env (realm declared).run before events result after) :
    (∀ event ∈ events, event.request.IsFinalizers → ReleasesFinalizer declared events) ∧
      (∀ (installations : List Keycloak) later,
        events = ⟨.cluster (listing declared), .ok installations⟩ :: later →
        ∀ kc ∈ installations, ¬ kc.IsUsable → kc.metadata.isDeleting = false →
        ∀ event ∈ events, ¬ event.request.IsFinalizers) ∧
      (∀ earlier event later, events = earlier ++ event :: later → PassEvent.Fails event →
        ∀ event ∈ later, ¬ event.request.IsFinalizers) ∧
      ∀ kc passwords state, declared.plan kc passwords state =
        [.deleteRealm declared ("removing realm " ++ declared.qualified)] := by
  have released : ∀ event ∈ events, event.request.IsFinalizers →
      ReleasesFinalizer declared events := by
    intro event mem asks
    rcases releases_or_not managed deleting run with releases | ⟨-, never⟩
    · exact releases
    · exact absurd asks (never event mem)
  refine ⟨released, ?_, ?_, KeycloakRealm.plan_of_tombstoned deleting⟩
  · intro installations later events_eq kc listed unusable staying event mem asks
    obtain ⟨cleared_ones, segments, answer, shape, cleared, -⟩ := released event mem asks
    rw [events_eq] at shape
    obtain ⟨same, -⟩ := List.cons.inj shape
    cases same
    have each := ((List.forall₂_and_left _ _).1
      (cleared.imp fun _ _ cleared => ⟨cleared.usable_or_leaving, cleared⟩)).1
    rcases each kc listed with usable | leaving
    · exact unusable usable
    · rw [staying] at leaving
      cases leaving
  · intro earlier event later events_eq fails asked mem asks
    obtain ⟨installations, segments, answer, shape, -, passed⟩ :=
      released asked (by rw [events_eq]; simp [mem]) asks
    -- Behind the failed call there is something, so it is not the request for finalizers itself.
    rcases List.eq_nil_or_concat later with rfl | ⟨between, last, rfl⟩
    · cases mem
    · rw [events_eq, List.concat_eq_append, ← List.cons_append, ← List.append_assoc] at shape
      have front := (List.append_inj' shape rfl).1
      refine passed event ?_ fails
      rw [← front]
      simp

/-- A declaration that is going, and that others hold back too. -/
def leavingRealm : KeycloakRealm where
  metadata :=
    { name := some "basic", deletionTimestamp := some "2020-01-01T00:00:00Z"
      finalizers := some ["example.com/audit", "keycloak.org/realm-cleanup"] }
  spec := { realm := { realm := "basic" } }

/-- An installation that somebody else runs. -/
def outsideInstallation : Keycloak where
  spec := { external := { enabled := true, url := some "https://sso" } }

/-- A pass that finds this one installation releases the declaration. -/
theorem finalizer_released_from_outside_installation :
    ∃ events, Run (fun _ before _ after => after = before : PassEnvironment Unit)
        (realm leavingRealm).run () events (.ok .onChange) () ∧
      ReleasesFinalizer leavingRealm events := by
  let events : List PassEvent := [
    ⟨.cluster (listing leavingRealm), .ok [outsideInstallation]⟩,
    ⟨.login outsideInstallation, .ok { endpoint := "https://sso" }⟩,
    ⟨.admin { endpoint := "https://sso" } (.getRealm "basic"), .ok none⟩,
    ⟨.admin { endpoint := "https://sso" } (.deleteRealm "basic"), .ok ()⟩,
    ⟨.patchFinalizers ⟨"basic", "default"⟩ ["example.com/audit"], .ok ()⟩]
  have run : Run (fun _ before _ after => after = before : PassEnvironment Unit)
      (realm leavingRealm).run () events (.ok .onChange) () :=
    .ask rfl (.ask rfl (.ask rfl (.ask rfl (.ask rfl (.done _ _)))))
  obtain ⟨released, -⟩ := finalizer_released_only_when_cleared rfl rfl run
  exact ⟨events, run, released ⟨.patchFinalizers ⟨"basic", "default"⟩ ["example.com/audit"], .ok ()⟩
    (by simp [events]) ⟨_, _, rfl⟩⟩

/-- Where nothing keeps the finalizer on, it is taken off. -/
theorem finalizer_released_unless_kept (managed : declared.spec.unmanaged = false)
    (deleting : declared.isTombstoned = true) {result : Except OperatorError Requeue}
    (run : Run env (realm declared).run before events result after)
    (free : ¬ KeepsFinalizer declared events) : ReleasesFinalizer declared events := by
  rcases releases_or_not managed deleting run with releases | ⟨keeps, -⟩
  · exact releases
  · exact absurd keeps free

end Pass

end IdentityOperator
