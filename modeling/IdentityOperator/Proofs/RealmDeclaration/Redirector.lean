import IdentityOperator.Proofs.RealmDeclaration.Effect
import IdentityOperator.Proofs.RealmDeclaration.Finalizer

/-!
When the redirections of a declared realm are configured.

Redirections are configured on a brand new realm only: the pass that creates the realm configures
them, and one that finds the realm does not. Any call of a pass may fail (`Pass.Faltering`), so that
the creating pass may stop short of some of them, and then no later pass makes up for it. Whatever
passes have gone before and come after, the creating one decides about the redirections
(`Pass.redirections_configured_by_creating_pass`).
-/

namespace IdentityOperator

theorem PassEvent.Configures.not_redirectless {realm : String} {redirect : RedirectorOverride}
    {event : PassEvent} (configures : event.Configures realm redirect) :
    ¬ event.request.Redirectless := by
  obtain ⟨session, rfl⟩ := configures
  exact fun redirectless => redirectless ⟨realm, redirect, rfl⟩

theorem PassEvent.Configures.not_fails {realm : String} {redirect : RedirectorOverride}
    {event : PassEvent} (configures : event.Configures realm redirect) : ¬ event.Fails := by
  obtain ⟨session, rfl⟩ := configures
  intro fails
  obtain ⟨e, impossible⟩ := fails
  cases impossible

namespace Pass

open Program (Run)

/-! ## Passes one after the other -/

/-- A pass that has been made, with what was there before and after it. -/
structure RealmPass where
  before : MemoryAdmin
  events : List PassEvent
  result : Except OperatorError Requeue
  after : MemoryAdmin

/-- Passes over a live declaration, one after the other. What the declaration says stays the same. -/
inductive RealmSeries (kc : Keycloak) (spec : KeycloakRealmSpec) :
    MemoryAdmin → List RealmPass → Prop
  | nil (start : MemoryAdmin) : RealmSeries kc spec start []
  | cons {declared : KeycloakRealm} {pass : RealmPass} {passes : List RealmPass} :
    declared.spec = spec → declared.isTombstoned = false →
    Run (Faltering kc) (realm declared).run pass.before pass.events pass.result pass.after →
    RealmSeries kc spec pass.after passes → RealmSeries kc spec pass.before (pass :: passes)

namespace RealmPass

/-- A redirection has been configured by the pass. -/
def Configures (pass : RealmPass) (realm : String) (redirect : RedirectorOverride) : Prop :=
  ∃ event ∈ pass.events, event.Configures realm redirect

/-- The pass has asked for no redirection. -/
def Redirectless (pass : RealmPass) : Prop := ∀ event ∈ pass.events, event.request.Redirectless

end RealmPass

variable {kc : Keycloak} {spec : KeycloakRealmSpec} {start : MemoryAdmin} {passes : List RealmPass}

/-- Once the realm is there no pass asks for redirections. -/
theorem RealmSeries.redirectless (series : RealmSeries kc spec start passes)
    (managed : spec.unmanaged = false) (usable : kc.IsUsable)
    (there : (start.find? spec.realm.realm).isSome) : ∀ pass ∈ passes, pass.Redirectless := by
  induction series with
  | nil start => simp
  | cons spec_eq live run series ih =>
    subst spec_eq
    cases effect_of_run_realm managed live usable run with
    | found _ stays quiet => exact List.forall_mem_cons.2 ⟨quiet, ih stays⟩
    | missing absent | created absent =>
      exact absurd (there.symm.trans (congrArg Option.isSome absent)) (by simp)

/-- One pass decides about the redirections of a realm that was missing: the one that creates it. All
passes before it fail, none before it or after it asks for a redirection, and it configures every
one of them unless it fails to set the realm up. -/
theorem redirections_configured_by_creating_pass (series : RealmSeries kc spec start passes)
    (managed : spec.unmanaged = false) (usable : kc.IsUsable)
    (absent : start.find? spec.realm.realm = none)
    (completed : ∃ pass ∈ passes, ∃ requeue, pass.result = .ok requeue) :
    ∃ earlier creating later, passes = earlier ++ creating :: later ∧
      creating.before.find? spec.realm.realm = none ∧
      (creating.after.find? spec.realm.realm).isSome ∧
      (∀ pass ∈ earlier, pass.Redirectless ∧ ∃ e, pass.result = .error e) ∧
      (∀ pass ∈ later, pass.Redirectless) ∧
      ((∃ e, creating.result = .error e) ∧
          (∃ event ∈ creating.events, event.Fails ∧ event.request.SetsUp) ∨
        ∀ redirect ∈ spec.realmOverrides, creating.Configures spec.realm.realm redirect) := by
  induction series with
  | nil start =>
    obtain ⟨pass, mem, -⟩ := completed
    cases mem
  | @cons declared pass passes spec_eq live run series ih =>
    subst spec_eq
    cases effect_of_run_realm managed live usable run with
    | found there => exact absurd (there.symm.trans (congrArg Option.isSome absent)) (by simp)
    | missing _ still quiet failed =>
      -- This pass is not the completed one, so the creating one comes later.
      have completed_later : ∃ pass ∈ passes, ∃ requeue, pass.result = .ok requeue := by
        obtain ⟨other, mem, requeue, ok⟩ := completed
        rcases List.mem_cons.1 mem with rfl | mem
        · rw [failed] at ok
          cases ok
        · exact ⟨other, mem, requeue, ok⟩
      obtain ⟨earlier, creating, later, rfl, rest⟩ := ih still completed_later
      obtain ⟨missing, created, before_it, after_it, configured⟩ := rest
      exact ⟨pass :: earlier, creating, later, rfl, missing, created,
        List.forall_mem_cons.2 ⟨⟨quiet, _, failed⟩, before_it⟩, after_it, configured⟩
    | created missing there done =>
      have quiet := series.redirectless managed usable there
      exact ⟨[], pass, passes, rfl, missing, there, by simp, quiet, done⟩

/-- A realm with one redirection. -/
def redirectedRealm : KeycloakRealm where
  metadata := { name := some "basic", finalizers := some ["keycloak.org/realm-cleanup"] }
  spec := { realm := { realm := "basic" }, realmOverrides := [{ identityProvider := "github" }] }

/-- What passes over the realm ask of an installation before they act. -/
def openingEvents (found : Option Admin.Realm) : List PassEvent := [
  ⟨.cluster (listing redirectedRealm), .ok [outsideInstallation]⟩,
  ⟨.login outsideInstallation, .ok { endpoint := "https://sso" }⟩,
  ⟨.admin { endpoint := "https://sso" } (.getRealm "basic"), .ok found⟩,
  ⟨.admin { endpoint := "https://sso" } .ping, .ok ()⟩]

/-- What they report in the end. -/
def closingEvents (outcome : RealmOutcome) (error : Option String) : List PassEvent := [
  ⟨.now, "2020-01-01T00:00:00Z"⟩,
  ⟨.patchRealmStatus ⟨"basic", "default"⟩
    (redirectedRealm.statusAfterPass outcome error "2020-01-01T00:00:00Z"), .ok ()⟩]

/-- A pass that nothing disturbs. -/
def undisturbedPass : RealmPass where
  before := {}
  events := openingEvents none ++ [
    ⟨.admin { endpoint := "https://sso" } (.createRealm { realm := "basic" }), .ok ""⟩,
    ⟨.admin { endpoint := "https://sso" } (.configureRedirector "basic"
      { identityProvider := "github" }), .ok ()⟩] ++
    closingEvents (.applied "https://sso/auth/realms/basic/account") none
  result := .ok (.after 60)
  after := { realms := [{ realm := "basic" }] }

/-- It configures the redirection. -/
theorem redirection_configured_by_undisturbed_pass :
    RealmSeries outsideInstallation redirectedRealm.spec {} [undisturbedPass] ∧
      undisturbedPass.Configures "basic" { identityProvider := "github" } := by
  have run : Run (Faltering outsideInstallation) (realm redirectedRealm).run
      undisturbedPass.before undisturbedPass.events undisturbedPass.result undisturbedPass.after :=
    .ask ⟨rfl, .inr rfl⟩ (.ask rfl (.ask (.inl rfl) (.ask (.inl rfl) (.ask (.inl rfl)
      (.ask (.inl rfl) (.ask rfl (.ask rfl (.done _ _))))))))
  have series : RealmSeries outsideInstallation redirectedRealm.spec {} [undisturbedPass] :=
    .cons rfl rfl run (.nil _)
  obtain ⟨earlier, creating, later, split, -, -, -, -, done⟩ :=
    redirections_configured_by_creating_pass series rfl (.inl rfl) rfl
      ⟨undisturbedPass, List.mem_singleton_self _, _, rfl⟩
  have same : creating = undisturbedPass := by
    have mem : creating ∈ [undisturbedPass] := by
      rw [split]
      simp
    exact List.mem_singleton.1 mem
  subst same
  rcases done with ⟨⟨e, failed⟩, -⟩ | configured
  · cases failed
  · exact ⟨series, configured _ (List.mem_singleton_self _)⟩

/-- The redirection is refused to the pass that creates the realm. -/
def interruptedPass : RealmPass where
  before := {}
  events := openingEvents none ++ [
    ⟨.admin { endpoint := "https://sso" } (.createRealm { realm := "basic" }), .ok ""⟩,
    ⟨.admin { endpoint := "https://sso" } (.configureRedirector "basic"
      { identityProvider := "github" }), .error (.http "timeout")⟩] ++
    closingEvents (.waiting "") (some "HTTP error: timeout")
  result := .error (.http "timeout")
  after := { realms := [{ realm := "basic" }] }

/-- The next pass finds the realm, and completes. -/
def followingPass : RealmPass where
  before := { realms := [{ realm := "basic" }] }
  events := openingEvents (some { realm := "basic" }) ++
    closingEvents (.applied "https://sso/auth/realms/basic/account") none
  result := .ok (.after 60)
  after := { realms := [{ realm := "basic" }] }

/-- A pass that completes does not make up for what an earlier one has been refused: it need not be
the case that every redirection has been configured once a pass has completed. -/
theorem redirection_missing_after_completed_pass :
    ¬ ∀ (kc : Keycloak) (spec : KeycloakRealmSpec) (start : MemoryAdmin) (passes : List RealmPass),
      RealmSeries kc spec start passes → spec.unmanaged = false → spec.realmOverrides ≠ [] →
      kc.IsUsable → start.find? spec.realm.realm = none →
      (∃ pass ∈ passes, ∃ requeue, pass.result = .ok requeue) →
      ∀ redirect ∈ spec.realmOverrides,
        ∃ pass ∈ passes, pass.Configures spec.realm.realm redirect := by
  have first : Run (Faltering outsideInstallation) (realm redirectedRealm).run
      interruptedPass.before interruptedPass.events interruptedPass.result interruptedPass.after :=
    .ask ⟨rfl, .inr rfl⟩ (.ask rfl (.ask (.inl rfl) (.ask (.inl rfl) (.ask (.inl rfl)
      (.ask (.inr ⟨_, rfl, .inl rfl⟩) (.ask rfl (.ask rfl (.done _ _))))))))
  have second : Run (Faltering outsideInstallation) (realm redirectedRealm).run
      followingPass.before followingPass.events followingPass.result followingPass.after :=
    .ask ⟨rfl, .inr rfl⟩ (.ask rfl (.ask (.inl rfl) (.ask (.inl rfl) (.ask rfl (.ask rfl
      (.done _ _))))))
  have series : RealmSeries outsideInstallation redirectedRealm.spec {}
      [interruptedPass, followingPass] := .cons rfl rfl first (.cons rfl rfl second (.nil _))
  have refused : ∀ event ∈ interruptedPass.events, event.request.Redirectless ∨ event.Fails := by
    simp [interruptedPass, openingEvents, closingEvents, PassRequest.CallsOnly, AdminCall.Redirects,
      PassEvent.Fails, PassRequest.FailsWith]
    exact ⟨_, rfl⟩
  have quiet : followingPass.Redirectless := by
    simp [RealmPass.Redirectless, followingPass, openingEvents, closingEvents,
      PassRequest.CallsOnly, AdminCall.Redirects]
  intro claimed
  obtain ⟨pass, mem, event, within, configures⟩ := claimed _ _ _ _ series rfl
    (List.cons_ne_nil _ _) (.inl rfl) rfl ⟨followingPass, by simp, _, rfl⟩ _
    (List.mem_singleton_self _)
  simp only [List.mem_cons, List.not_mem_nil, or_false] at mem
  rcases mem with rfl | rfl
  · rcases refused event within with redirectless | fails
    · exact configures.not_redirectless redirectless
    · exact configures.not_fails fails
  · exact configures.not_redirectless (quiet event within)

end Pass

end IdentityOperator
