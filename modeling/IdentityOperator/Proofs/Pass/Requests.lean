import IdentityOperator.Pass.Realm
import IdentityOperator.Proofs.Pass.Run

/-!
What the parts of passes ask, whatever they are answered.

Reading, planning and reporting write no object. A pass over a declared realm creates objects and
neither updates nor deletes one, and while it goes through the installations it reports nothing and
leaves the finalizers alone.
-/

namespace IdentityOperator

namespace PassRequest

/-- A request to write an object. -/
def Writes : PassRequest → Prop
  | cluster (.create _) | cluster (.update _) | cluster (.delete _) => True
  | _ => False

/-- A request to write over an object or to take it away. -/
def Replaces : PassRequest → Prop
  | cluster (.update _) | cluster (.delete _) => True
  | _ => False

/-- A request by which a pass reports what came of it. -/
def Reports : PassRequest → Prop
  | patchKeycloakStatus .. | patchRealmStatus .. | now => True
  | _ => False

/-- A request for the finalizers of a declared realm. -/
def IsFinalizers (request : PassRequest) : Prop :=
  ∃ key finalizers, request = patchFinalizers key finalizers

/-- A request to put the operator's own finalizer on a declaration or to take it off. -/
def TurnsFinalizer (declared : KeycloakRealm) (request : PassRequest) : Prop :=
  request = patchFinalizers declared.metadata.key
      (declared.metadata.finalizerList ++ [KeycloakRealm.finalizer]) ∨
    request = patchFinalizers declared.metadata.key declared.otherFinalizers

/-- A request by which a realm is kept in an installation. -/
def KeepsRealm : PassRequest → Prop
  | cluster (.get ..) | cluster (.list ..) | cluster (.create _) => True
  | login _ | admin .. | password _ => True
  | _ => False

/-- A request by which a realm is kept in the installation that one has logged in to. -/
def IsWithin (session : Session) : PassRequest → Prop
  | admin used _ => used = session
  | cluster (.get .secret _) | cluster (.create _) | password _ => True
  | _ => False

theorem IsWithin.keepsRealm {session : Session} {request : PassRequest}
    (within : request.IsWithin session) : request.KeepsRealm := by
  cases request with
  | cluster call => cases call <;> trivial
  | admin used call => trivial
  | password bytes => trivial
  | _ => exact within.elim

theorem TurnsFinalizer.isFinalizers {declared : KeycloakRealm} {request : PassRequest}
    (turns : request.TurnsFinalizer declared) : request.IsFinalizers := by
  rcases turns with rfl | rfl
  · exact ⟨_, _, rfl⟩
  · exact ⟨_, _, rfl⟩

theorem KeepsRealm.not_replaces {request : PassRequest} (keeps : request.KeepsRealm) :
    ¬ request.Replaces := by
  cases request with
  | cluster call => cases call <;> simp_all [KeepsRealm, Replaces]
  | _ => exact id

theorem Reports.not_replaces {request : PassRequest} (reports : request.Reports) :
    ¬ request.Replaces := by
  cases request with
  | cluster call => cases reports
  | _ => exact id

theorem Reports.not_isFinalizers {request : PassRequest} (reports : request.Reports) :
    ¬ request.IsFinalizers := by
  rintro ⟨key, finalizers, rfl⟩
  exact reports

theorem IsFinalizers.not_replaces {request : PassRequest} (asks : request.IsFinalizers) :
    ¬ request.Replaces := by
  obtain ⟨key, finalizers, rfl⟩ := asks
  exact id

theorem KeepsRealm.not_isFinalizers {request : PassRequest} (keeps : request.KeepsRealm) :
    ¬ request.IsFinalizers := by
  rintro ⟨key, finalizers, rfl⟩
  exact keeps

theorem KeepsRealm.not_reports {request : PassRequest} (keeps : request.KeepsRealm) :
    ¬ request.Reports := by
  cases request with
  | cluster call => exact id
  | patchKeycloakStatus | patchRealmStatus | now => exact keeps.elim
  | _ => exact id

theorem not_replaces_of_not_writes {request : PassRequest} (reads : ¬ request.Writes) :
    ¬ request.Replaces := by
  cases request with
  | cluster call => cases call <;> simp_all [Writes, Replaces]
  | _ => exact id

end PassRequest

namespace KeycloakRealm

variable {declared : KeycloakRealm} {kc : Keycloak} {state : RealmSnapshot}
  {passwords : Nat → String} {action : Action}

/-- Credential secrets are handed out by creating them. -/
theorem create_of_mem_usersPlan (planned : action ∈ declared.usersPlan kc state passwords) :
    ∃ user ∈ declared.spec.realm.users, ∃ password msg,
      action = .create ⟨.secret, UserSecret.fresh declared user kc password⟩ msg := by
  simp only [usersPlan, List.mem_flatten, List.mem_mapIdx] at planned
  obtain ⟨_, ⟨i, bound, rfl⟩, planned⟩ := planned
  unfold userPlan at planned
  split at planned
  · cases planned
  · exact ⟨_, List.getElem_mem bound, _, _, List.mem_singleton.1 planned⟩

/-- All else that is planned is done by the installation. -/
theorem create_or_needsKeycloak_of_mem_plan (planned : action ∈ declared.plan kc passwords state) :
    (∃ user ∈ declared.spec.realm.users, ∃ password msg,
        action = .create ⟨.secret, UserSecret.fresh declared user kc password⟩ msg) ∨
      action.needsKeycloak = true := by
  unfold plan at planned
  split at planned
  · rw [List.mem_singleton.1 planned]
    exact .inr rfl
  · simp only [List.mem_append, List.mem_ite_nil_left, List.mem_ite_nil_right,
      List.mem_singleton] at planned
    rcases planned with ((((rfl | ⟨-, rfl⟩) | secret) | ⟨-, rfl⟩) | ⟨-, rfl⟩) | ⟨-, rfl⟩
    · exact .inr rfl
    · exact .inr rfl
    · exact .inl (create_of_mem_usersPlan secret)
    · exact .inr rfl
    · exact .inr rfl
    · exact .inr rfl

end KeycloakRealm

namespace Pass

open Program (Always Only Returns)

variable {α β : Type} {sort : PassRequest → Prop}

/-! ## Parts in a row -/

theorem only_bind {part : Pass α} {next : α → Pass β} (first : Only sort part.run)
    (second : ∀ value, Only sort (next value).run) : Only sort (part >>= next).run :=
  Program.only_exceptT_bind first second

theorem only_lift {part : Asking α} (only : Only sort part) :
    Only sort (ExceptT.lift part : Pass α).run :=
  Program.only_bind only fun _ => trivial

theorem only_lift_bind_of_returns {part : Asking α} {next : α → Pass β} {post : α → Prop}
    (first : Only sort part) (returns : Returns post part)
    (second : ∀ value, post value → Only sort (next value).run) :
    Only sort (ExceptT.lift part >>= next : Pass β).run := by
  rw [ExceptT.run_bind_lift]
  exact Program.only_bind_of_returns first returns second

theorem only_attempt {part : Pass α} (only : Only sort part.run) :
    Only sort (attempt part).run :=
  only_lift only

theorem only_ask {request : PassRequest} (allowed : sort request) : Only sort (ask request) :=
  ⟨allowed, fun _ => trivial⟩

/-! ## Installations -/

theorem only_installationFlags (allowed : ∀ key, sort (.flag key)) :
    Only sort installationFlags :=
  ⟨allowed _, fun _ => ⟨allowed _, fun _ => ⟨allowed _, fun _ => ⟨allowed _, fun _ => trivial⟩⟩⟩⟩

theorem only_readParts (gets : ∀ kind key, sort (.cluster (.get kind key))) (kc : Keycloak)
    (state : Snapshot) (parts : List Part) : Only sort (readParts kc state parts) := by
  induction parts generalizing kc state with
  | nil => trivial
  | cons part parts ih =>
    refine Program.only_bind (only_ask (gets _ _)) fun answer => ?_
    cases answer with
    | ok object => exact ih _ _
    | error e =>
      dsimp only
      split
      · exact ih _ _
      · trivial

theorem only_readSnapshot (flags : ∀ key, sort (.flag key))
    (gets : ∀ kind key, sort (.cluster (.get kind key))) (kc : Keycloak) :
    Only sort (readSnapshot kc) :=
  Program.only_bind (only_installationFlags flags) fun _ => only_readParts gets _ _ _

theorem only_passwordIf (needed : Bool) (bytes : Nat) (allowed : sort (.password bytes)) :
    Only sort (passwordIf needed bytes) := by
  cases needed with
  | true => exact only_ask allowed
  | false => trivial

theorem only_planInstallation (flags : ∀ key, sort (.flag key))
    (passwords : ∀ bytes, sort (.password bytes)) (profiles : Profiles) (kc : Keycloak)
    (state : Snapshot) : Only sort (planInstallation profiles kc state) := by
  refine Program.only_bind (only_installationFlags flags) fun _ => ?_
  refine Program.only_bind (only_passwordIf _ _ (passwords _)) fun _ => ?_
  exact Program.only_bind (only_passwordIf _ _ (passwords _)) fun _ => trivial

theorem only_reportInstallation (kc : Keycloak) (ready : Bool) (error : Option String)
    (externalUrl : String) :
    Only PassRequest.Reports (reportInstallation kc ready error externalUrl).run :=
  only_bind (only_lift (only_ask trivial)) fun _ => only_ask trivial

/-! ## Declared realms -/

theorem only_findSecret {key : ObjectKey} (allowed : sort (.cluster (.get .secret key))) :
    Only sort (findSecret key).run := by
  refine only_bind (only_attempt (only_ask allowed)) fun found => ?_
  cases found with
  | ok secret => trivial
  | error e =>
    dsimp only
    split <;> trivial

theorem only_readUserSecrets (allowed : ∀ key, sort (.cluster (.get .secret key)))
    (realm : KeycloakRealm) (kc : Keycloak) (users : List Admin.User) :
    Only sort (readUserSecrets realm kc users).run := by
  induction users with
  | nil => trivial
  | cons user users ih =>
    exact only_bind (only_findSecret (allowed _)) fun _ => only_bind ih fun _ => trivial

theorem only_readRealm {session : Session} (gets : ∀ key, sort (.cluster (.get .secret key)))
    (calls : ∀ call, sort (.admin session call)) (realm : KeycloakRealm) (kc : Keycloak) :
    Only sort (readRealm session realm kc).run :=
  only_bind (only_ask (calls _)) fun _ =>
    only_bind (only_readUserSecrets gets _ _ _) fun _ => trivial

theorem only_userPasswords (allowed : ∀ bytes, sort (.password bytes)) (state : RealmSnapshot)
    (users : List Admin.User) : Only sort (userPasswords state users) := by
  induction users with
  | nil => trivial
  | cons user users ih =>
    exact Program.only_bind (only_passwordIf _ _ (allowed _)) fun _ =>
      Program.only_bind ih fun _ => trivial

theorem only_planRealm (allowed : ∀ bytes, sort (.password bytes)) (realm : KeycloakRealm)
    (kc : Keycloak) (state : RealmSnapshot) : Only sort (planRealm realm kc state) :=
  Program.only_bind (only_userPasswords allowed _ _) fun _ => trivial

theorem returns_planRealm (realm : KeycloakRealm) (kc : Keycloak) (state : RealmSnapshot) :
    Returns (fun plan => ∃ passwords, plan = realm.plan kc passwords state)
      (planRealm realm kc state) :=
  Program.returns_bind fun _ => ⟨_, rfl⟩

theorem only_configureRedirectors {session : Session} {realm : String}
    {redirects : List RedirectorOverride}
    (allowed : ∀ redirect ∈ redirects, sort (.admin session (.configureRedirector realm redirect))) :
    Only sort (configureRedirectors session realm redirects).run := by
  induction redirects with
  | nil => trivial
  | cons redirect redirects ih =>
    refine only_bind (only_ask (allowed redirect List.mem_cons_self)) fun _ => ?_
    exact ih fun other mem => allowed other (List.mem_cons_of_mem _ mem)

/-- An action that is done by an installation only calls its admin API. -/
theorem only_applyAction_of_needsKeycloak {action : Action} (online : action.needsKeycloak = true)
    {session : Session} (calls : ∀ call, sort (.admin session call)) :
    Only sort (applyAction (some session) action).run := by
  cases action with
  | create | update | delete => cases online
  | createRealm realm msg =>
    show Only _ (adminCall session (.createRealm realm.spec.realm) >>= fun _ => pure () :
      Pass Unit).run
    exact only_bind (only_ask (calls _)) fun _ => trivial
  | configureRealm realm msg => exact only_configureRedirectors fun _ _ => calls _
  | ping | deleteRealm | updateRealmGroups | updateRealm => exact only_ask (calls _)

theorem only_applyPlan {session : Option Session} {plan : Plan}
    (each : ∀ action ∈ plan, Only sort (applyAction session action).run) :
    Only sort (applyPlan session plan).run := by
  induction plan with
  | nil => trivial
  | cons action plan ih =>
    exact only_bind (each action List.mem_cons_self) fun _ =>
      ih fun action mem => each action (List.mem_cons_of_mem _ mem)

/-- Keep the realm in an installation that one has logged in to. -/
def applyRealmWith (session : Session) (realm : KeycloakRealm) (kc : Keycloak) : Pass String := do
  let state ← readRealm session realm kc
  let plan ← ExceptT.lift (planRealm realm kc state)
  applyPlan (some session) plan
  pure (loginUrlFor session.endpoint realm.realmName)

theorem applyRealm_eq (realm : KeycloakRealm) (kc : Keycloak) :
    applyRealm realm kc = login kc >>= fun session => applyRealmWith session realm kc := rfl

/-- Within an installation secrets are looked up, those of users are created, and all else is done by
its admin API. -/
theorem only_applyRealmWith {session : Session} {declared : KeycloakRealm} {kc : Keycloak}
    (gets : ∀ key, sort (.cluster (.get .secret key)))
    (creates : ∀ user ∈ declared.spec.realm.users, ∀ password,
      sort (.cluster (.create ⟨.secret, UserSecret.fresh declared user kc password⟩)))
    (passwords : ∀ bytes, sort (.password bytes)) (calls : ∀ call, sort (.admin session call)) :
    Only sort (applyRealmWith session declared kc).run := by
  refine only_bind (only_readRealm gets calls _ _) fun state => ?_
  refine only_lift_bind_of_returns (only_planRealm passwords _ _ _) (returns_planRealm _ _ _) ?_
  rintro _ ⟨made, rfl⟩
  refine only_bind (only_applyPlan fun action planned => ?_) fun _ => trivial
  rcases KeycloakRealm.create_or_needsKeycloak_of_mem_plan planned with
    ⟨user, mem, password, msg, rfl⟩ | online
  · exact only_ask (creates user mem password)
  · exact only_applyAction_of_needsKeycloak online calls

theorem only_applyRealmWith_isWithin (session : Session) (realm : KeycloakRealm) (kc : Keycloak) :
    Only (·.IsWithin session) (applyRealmWith session realm kc).run :=
  only_applyRealmWith (fun _ => trivial) (fun _ _ _ => trivial) (fun _ => trivial) fun _ => rfl

theorem only_applyRealm (realm : KeycloakRealm) (kc : Keycloak) :
    Only PassRequest.KeepsRealm (applyRealm realm kc).run :=
  only_bind (only_ask trivial) fun session =>
    (only_applyRealmWith_isWithin session realm kc).mono fun _ => PassRequest.IsWithin.keepsRealm

theorem only_applyRealmTo {realm : KeycloakRealm} {installations : List Keycloak}
    (each : ∀ kc ∈ installations, Only sort (applyRealm realm kc).run) (loginUrl : String) :
    Only sort (applyRealmTo realm loginUrl installations).run := by
  induction installations generalizing loginUrl with
  | nil => trivial
  | cons kc rest ih =>
    have later := ih fun other mem => each other (List.mem_cons_of_mem _ mem)
    unfold applyRealmTo
    split
    · exact later _
    · trivial
    · exact only_bind (each kc List.mem_cons_self) fun _ => later _

/-- Going through the installations, a pass reports nothing and leaves the finalizers alone. -/
theorem only_convergeRealm (realm : KeycloakRealm) :
    Only PassRequest.KeepsRealm (convergeRealm realm).run := by
  refine only_bind (only_ask trivial) fun installations => ?_
  split
  · trivial
  · exact only_applyRealmTo (fun kc _ => only_applyRealm realm kc) _

theorem only_reportRealm (realm : KeycloakRealm) (outcome : RealmOutcome)
    (error : Option String) : Only PassRequest.Reports (reportRealm realm outcome error).run :=
  only_bind (only_lift (only_ask trivial)) fun _ => only_ask trivial

theorem only_settleRealm {realm : KeycloakRealm}
    (reports : ∀ request, request.Reports → sort request)
    (finalizers : ∀ request, request.TurnsFinalizer realm → sort request)
    (outcome : RealmOutcome) : Only sort (settleRealm realm outcome).run := by
  have report := fun outcome => (only_reportRealm realm outcome none).mono reports
  cases outcome with
  | applied loginUrl =>
    unfold settleRealm
    dsimp only
    split
    · exact only_bind (only_ask (finalizers _ (.inr rfl))) fun _ => trivial
    · exact only_bind (report _) fun _ => trivial
  | waiting reason => exact only_bind (report _) fun _ => trivial

theorem only_unmanagedRealm {realm : KeycloakRealm}
    (reports : ∀ request, request.Reports → sort request)
    (finalizers : ∀ request, request.TurnsFinalizer realm → sort request) :
    Only sort (unmanagedRealm realm).run := by
  unfold unmanagedRealm
  split
  · split
    · exact only_bind (only_ask (finalizers _ (.inr rfl))) fun _ => trivial
    · trivial
  · exact only_bind ((only_reportRealm _ _ _).mono reports) fun _ => trivial

theorem only_ensureFinalizer {realm : KeycloakRealm}
    (finalizers : ∀ request, request.TurnsFinalizer realm → sort request) :
    Only sort (ensureFinalizer realm).run := by
  unfold ensureFinalizer
  split
  · trivial
  · exact only_ask (finalizers _ (.inl rfl))

/-- What follows a failure. -/
theorem only_failRealm (reports : ∀ request, request.Reports → sort request)
    (realm : KeycloakRealm) (e : OperatorError) :
    Only sort (do
      let _ ← attempt (reportRealm realm (.waiting "") (some e.message))
      throw e : Pass Requeue).run :=
  only_bind (only_attempt ((only_reportRealm _ _ _).mono reports)) fun _ => trivial

/-- The installations are gone through, and then the pass reports or turns to its finalizer. -/
theorem only_keepRealm {declared : KeycloakRealm}
    (keeps : ∀ request, request.KeepsRealm → sort request)
    (reports : ∀ request, request.Reports → sort request)
    (finalizers : ∀ request, request.TurnsFinalizer declared → sort request) :
    Only sort (keepRealm declared).run := by
  refine only_bind (only_attempt ((only_convergeRealm declared).mono keeps)) fun result => ?_
  cases result with
  | ok outcome => exact only_settleRealm reports finalizers outcome
  | error e => exact only_failRealm reports declared e

/-- What a whole pass over a declared realm asks. -/
theorem only_realm {declared : KeycloakRealm}
    (keeps : ∀ request, request.KeepsRealm → sort request)
    (reports : ∀ request, request.Reports → sort request)
    (finalizers : ∀ request, request.TurnsFinalizer declared → sort request) :
    Only sort (realm declared).run := by
  unfold realm
  split
  · exact only_unmanagedRealm reports finalizers
  · split
    · exact only_keepRealm keeps reports finalizers
    · exact only_bind (only_ensureFinalizer finalizers) fun _ =>
        only_keepRealm keeps reports finalizers

/-- Before and after the installations are gone through, a pass reports and turns to its finalizer,
so that all depends on what may be asked between. -/
theorem always_realm_of_convergeRealm {σ : Type} {env : PassEnvironment σ}
    {allowed : PassRequest → σ → Prop} {declared : KeycloakRealm}
    (converges : ∀ state, Always env allowed (convergeRealm declared).run state)
    (reports : ∀ request, request.Reports → ∀ state, allowed request state)
    (finalizers : ∀ request, request.TurnsFinalizer declared → ∀ state, allowed request state)
    (before : σ) : Always env allowed (realm declared).run before := by
  have settles : ∀ {α : Type} {part : Asking α},
      Only (fun request => ∀ state, allowed request state) part →
      ∀ state, Always env allowed part state :=
    fun only state => only.always (fun _ state permitted => permitted state) state
  have keeps : ∀ state, Always env allowed (keepRealm declared).run state := by
    intro state
    have attempted : Always env allowed (attempt (convergeRealm declared)).run state :=
      Program.always_bind_iff.2 ⟨converges state, fun _ _ _ _ => trivial⟩
    refine always_bind_iff.2 ⟨attempted, fun _ result after _ => ?_⟩
    cases result with
    | ok outcome => exact settles (only_settleRealm reports finalizers outcome) after
    | error e => exact settles (only_failRealm reports declared e) after
  unfold realm
  split
  · exact settles (only_unmanagedRealm reports finalizers) before
  · split
    · exact keeps before
    · exact always_bind_iff.2
        ⟨settles (only_ensureFinalizer finalizers) before, fun _ _ after _ => keeps after⟩

/-- A whole pass over a declared realm neither updates nor deletes an object. -/
theorem only_realm_not_replaces (declared : KeycloakRealm) :
    Only (¬ ·.Replaces) (realm declared).run :=
  only_realm (fun _ => PassRequest.KeepsRealm.not_replaces)
    (fun _ => PassRequest.Reports.not_replaces)
    fun _ turns => turns.isFinalizers.not_replaces

end Pass

end IdentityOperator
