import IdentityOperator.Proofs.Installation.Reading

/-!
What a pass does not manage it leaves alone.

An installation that someone else runs is only reported about, without a look at the cluster. An
unmanaged one is looked at and planned for like any other, but of the plan nothing is carried out. An
unmanaged realm is reported about, or let go when it is being deleted. None of these passes writes to
any object but the one that it is about (`Pass.only_installation_spares`,
`Pass.only_unmanagedRealm_spares`), also where it fails or is cut off.
-/

namespace IdentityOperator

namespace PassRequest

/-- A request that may change the object at a place. -/
def WritesTo (kind : Kind) (key : ObjectKey) : PassRequest → Prop
  | cluster (.create o) | cluster (.update o) | cluster (.delete o) => o.kind = kind ∧ o.key = key
  | patchKeycloakStatus place _ => kind = .keycloak ∧ key = place
  | patchRealmStatus place _ | patchFinalizers place _ => kind = .keycloakRealm ∧ key = place
  | _ => False

/-- A request that only looks up objects or flags, or makes a password. -/
def Looks : PassRequest → Prop
  | cluster (.get ..) | flag _ | password _ => True
  | _ => False

/-- A request that changes no object but perhaps the one at a place. -/
def Spares (kind : Kind) (key : ObjectKey) (request : PassRequest) : Prop :=
  ∀ other place, request.WritesTo other place → other = kind ∧ place = key

theorem Looks.spares {request : PassRequest} {kind : Kind} {key : ObjectKey}
    (looks : request.Looks) : request.Spares kind key := by
  intro other place writes
  cases request with
  | cluster call => cases call <;> first | exact writes.elim | exact looks.elim
  | _ => first | exact writes.elim | exact looks.elim

end PassRequest

/-- An installation that is declared alike, but managed. -/
def Keycloak.managed (kc : Keycloak) : Keycloak :=
  { kc with spec := { kc.spec with unmanaged := false } }

namespace Part

theorem key_managed (kc : Keycloak) (part : Part) : part.key kc.managed = part.key kc := by
  cases part <;> rfl

theorem isTracked_managed (kc : Keycloak) (part : Part) :
    part.isTracked kc.managed = part.isTracked kc := by
  cases part <;> rfl

/-- What is built for an installation does not depend on who manages it. -/
theorem action_managed (b : Blueprint) (state : Snapshot) (part : Part) :
    part.action { b with kc := b.kc.managed } state = part.action b state := by
  unfold action
  cases state.found part <;> cases part <;> rfl

end Part

namespace Pass

open Program (Run Reaches Only Follows)

/-- Any answers, as long as a request changes only what it writes to. -/
def Confined : PassEnvironment Store := fun request before _ after =>
  ∀ kind key, ¬ request.WritesTo kind key → after.find? kind key = before.find? kind key

theorem find?_perform {call : ClusterCall} {kind : Kind} {key : ObjectKey} (store : Store)
    (spared : ¬ (PassRequest.cluster call).WritesTo kind key) :
    (store.perform call).2.find? kind key = store.find? kind key := by
  have elsewhere : ∀ o : Object, ¬ (o.kind = kind ∧ o.key = key) → Store.isAt kind key o = false :=
    fun o spared => Bool.not_eq_true _ ▸ mt Store.isAt_iff.1 spared
  cases call with
  | get kind key => cases found : store.find? kind key <;> simp [Store.perform, found]
  | list kind ns labels => rfl
  | create o =>
    cases present : store.contains o.kind o.key with
    | true => rw [Store.perform_create_of_contains present]
    | false =>
      rw [Store.perform_create_of_missing present]
      exact Store.find?_put_of_ne store (elsewhere o spared)
  | update o =>
    cases present : store.contains o.kind o.key with
    | true =>
      rw [Store.perform_update_of_contains present]
      exact Store.find?_put_of_ne store (elsewhere o spared)
    | false => rw [Store.perform_update_of_missing present]
  | delete o => exact Store.find?_remove_of_ne store (not_and_or.1 spared)

/-- A reliable cluster changes only what is written to. -/
theorem confined_of_reliable {capabilities : Capabilities} {request : PassRequest}
    {before after : Store} {answer : request.Answer}
    (answered : Reliable capabilities request before answer after) :
    Confined request before answer after := by
  intro kind key spared
  cases request with
  | cluster call =>
    have after_eq : after = (before.perform call).2 := congrArg Prod.snd answered.symm
    rw [after_eq]
    exact find?_perform before spared
  | flag _ | password _ => rw [answered.2]
  | _ => rw [show after = before from answered]

theorem confined_of_refusing {refused : Kind} {capabilities : Capabilities} {request : PassRequest}
    {before after : Store} {answer : request.Answer}
    (answered : Refusing refused capabilities request before answer after) :
    Confined request before answer after := by
  intro kind key spared
  obtain rfl : after = (serveRefusing refused capabilities request before).2 :=
    congrArg Prod.snd answered
  unfold serveRefusing
  split
  · rfl
  · exact confined_of_reliable (reliable_serveReliably capabilities request before) kind key spared

/-- Requests that spare all but one place leave what is elsewhere as it is, wherever they are cut off. -/
theorem find?_of_reaches {α : Type} {program : Asking α} {kind other : Kind} {key place : ObjectKey}
    {before after : Store} (only : Only (PassRequest.Spares kind key) program)
    (reached : Reaches Confined program before after) (elsewhere : ¬ (other = kind ∧ place = key)) :
    after.find? other place = before.find? other place := by
  let same : Store → Store → Prop := fun before after =>
    after.find? other place = before.find? other place
  have same_trans : ∀ {a b c}, same a b → same b c → same a c :=
    fun first second => Eq.trans second first
  refine only.relates_of_reaches (R := same) (fun _ => rfl) same_trans ?_ reached
  intro request before answer after spares answered
  exact answered other place fun writes => elsewhere (spares other place writes)

section Installation

variable {σ : Type} {env : PassEnvironment σ} {before after : σ} {events : List PassEvent}
  {profiles : Profiles} {kc : Keycloak}

/-! ## Planning -/

/-- Reading takes no notice of who manages an installation. -/
theorem readParts_managed (kc : Keycloak) (state : Snapshot) (parts : List Part) :
    readParts kc.managed state parts =
      (fun result => (result.1.managed, result.2)) <$> readParts kc state parts := by
  induction parts generalizing kc state with
  | nil => rfl
  | cons part parts ih =>
    rw [readParts, readParts, Part.key_managed, map_bind]
    refine congrArg (ask (.cluster (.get part.kind (part.key kc))) >>= ·) (funext fun answer => ?_)
    cases answer with
    | ok object =>
      have noted : ∀ name, (if part.isTracked kc.managed then
          kc.managed.trackSecondary part.kind.name name else kc.managed) =
          (if part.isTracked kc then kc.trackSecondary part.kind.name name else kc).managed := by
        intro name
        rw [Part.isTracked_managed]
        split <;> rfl
      exact (congrArg (readParts · _ parts) (noted _)).trans (ih _ _)
    | error e =>
      dsimp only
      split
      · exact ih kc state
      · rfl

theorem planInstallation_managed (profiles : Profiles) (kc : Keycloak) (state : Snapshot) :
    planInstallation profiles kc.managed state = planInstallation profiles kc state := by
  have plan_eq : ∀ flags passwords, installationPlan kc.managed flags profiles passwords state =
      installationPlan kc flags profiles passwords state := by
    intro flags passwords
    exact List.map_congr_left fun part _ => Part.action_managed
      { kc, profiles, passwords, databaseSecret := state.databaseSecret } state part
  simp only [planInstallation, plan_eq]
  rfl

/-- An installation is planned for in the same way, whoever manages it. -/
theorem readAndPlan_managed (profiles : Profiles) (kc : Keycloak) :
    readAndPlan profiles kc.managed =
      (fun result => (result.1.managed, result.2)) <$> readAndPlan profiles kc := by
  have read_eq : readSnapshot kc.managed =
      (fun result => (result.1.managed, result.2)) <$> readSnapshot kc := by
    rw [readSnapshot, readSnapshot, map_bind]
    exact congrArg (installationFlags >>= ·) (funext fun flags => readParts_managed kc {} _)
  rw [readAndPlan, readAndPlan, read_eq, map_bind, bind_map_left]
  refine congrArg (readSnapshot kc >>= ·) (funext fun result => ?_)
  obtain ⟨tracked, found⟩ := result
  cases found with
  | error e => rfl
  | ok state =>
    dsimp only
    rw [planInstallation_managed, map_bind]
    rfl

/-! ## What is asked -/

/-- Of an installation that is not the operator's own to manage, a pass only looks something up. -/
theorem only_convergeInstallation_looks (profiles : Profiles)
    (foreign : kc.spec.external.enabled = true ∨ kc.spec.unmanaged = true) :
    Only PassRequest.Looks (convergeInstallation profiles kc) := by
  unfold convergeInstallation
  split
  · trivial
  · next internal =>
    have unmanaged : kc.spec.unmanaged = true := foreign.resolve_left internal
    have reads : Only PassRequest.Looks (readSnapshot kc) :=
      only_readSnapshot (fun _ => trivial) (fun _ _ => trivial) kc
    refine Program.only_bind_of_returns reads (returns_readSnapshot kc)
      fun (tracked, found) tracks => ?_
    cases found with
    | error e => trivial
    | ok state =>
      refine Program.only_bind
        (only_planInstallation (fun _ => trivial) (fun _ => trivial) _ _ _) fun plan => ?_
      rw [applyInstallation, if_pos (tracks.spec_eq ▸ unmanaged)]
      exact only_ask trivial

theorem only_reportInstallation_spares {tracked : Keycloak} (tracks : Tracks tracked kc)
    (ready : Bool) (error : Option String) (url : String) :
    Only (PassRequest.Spares .keycloak kc.metadata.key)
      (reportInstallation tracked ready error url).run := by
  refine only_bind (only_lift (only_ask fun _ _ => False.elim)) fun _ => only_ask ?_
  rw [tracks.metadata_eq]
  exact fun _ _ => id

/-- Such a pass changes nothing but what is reported about the installation. -/
theorem only_installation_spares (profiles : Profiles)
    (foreign : kc.spec.external.enabled = true ∨ kc.spec.unmanaged = true) :
    Only (PassRequest.Spares .keycloak kc.metadata.key) (installation profiles kc).run := by
  have converging : Only (PassRequest.Spares .keycloak kc.metadata.key)
      (convergeInstallation profiles kc) :=
    (only_convergeInstallation_looks profiles foreign).mono fun _ looks => looks.spares
  refine Program.only_bind_of_returns converging (returns_convergeInstallation profiles kc)
    fun (tracked, outcome) tracks => ?_
  cases outcome with
  | ok outcome =>
    refine Program.only_bind (only_reportInstallation_spares tracks _ _ _) fun told => ?_
    cases told <;> trivial
  | error e => exact Program.only_bind (only_reportInstallation_spares tracks _ _ _) fun _ => trivial

/-- An external installation is reported to be ready without a look at the cluster. -/
theorem run_installation_external {result : Except OperatorError Requeue}
    (external : kc.spec.external.enabled = true)
    (run : Run env (installation profiles kc).run before events result after) :
    ∃ time answer, events = [⟨.now, time⟩, ⟨.patchKeycloakStatus kc.metadata.key
      (kc.statusAfterPass true none (kc.spec.external.url.getD "") time), answer⟩] := by
  obtain ⟨_, tracked, outcome, _, time, _, answer, -, rfl, -, converge_run, -, -⟩ :=
    run_installation run
  rw [convergeInstallation, if_pos external] at converge_run
  obtain ⟨rfl, result_eq, -⟩ := Program.run_done_iff.1 converge_run
  obtain ⟨rfl, rfl⟩ := Prod.mk.inj result_eq
  exact ⟨time, answer, rfl⟩

/-- The plan for an unmanaged installation is not carried out, and the installation counts as ready. -/
theorem carryOut_unmanaged (unmanaged : kc.spec.unmanaged = true) (state : Snapshot) (plan : Plan) :
    carryOut kc state plan =
      (ask (.flag .route) >>= fun _ => pure (kc, .ok ⟨true, state.externalUrl⟩)) := by
  have ready : ∀ routes, state.isReady kc routes = true := fun _ => by
    simp [Snapshot.isReady, unmanaged]
  rw [carryOut, applyInstallation, if_pos unmanaged]
  refine congrArg (ask (.flag .route) >>= ·) (funext fun (routes : Bool) => ?_)
  rw [ready]

/-- What is planned for an unmanaged installation is left at that. -/
theorem run_convergeInstallation_unmanaged {tracked : Keycloak}
    {outcome : Except OperatorError InstallationOutcome}
    (internal : kc.spec.external.enabled = false) (unmanaged : kc.spec.unmanaged = true)
    (run : Run env (convergeInstallation profiles kc) before events (tracked, outcome) after) :
    ∃ planning checking planned middle, events = planning ++ checking ∧
      Run env (readAndPlan profiles kc) before planning (tracked, planned) middle ∧
      outcome = planned.map fun made => ⟨true, made.1.externalUrl⟩ := by
  rw [convergeInstallation_eq internal] at run
  obtain ⟨planning, ⟨seen, planned⟩, middle, checking, rfl, plan_run, rest⟩ :=
    Program.run_bind_iff.1 run
  cases planned with
  | error e =>
    obtain ⟨rfl, result_eq, -⟩ := Program.run_done_iff.1 rest
    obtain ⟨rfl, rfl⟩ := Prod.mk.inj result_eq
    exact ⟨planning, [], .error e, middle, rfl, plan_run, rfl⟩
  | ok made =>
    obtain ⟨state, plan⟩ := made
    have declared : seen.declaration = kc.declaration := (run_readAndPlan_given plan_run).1
    have spec_eq : seen.spec = kc.spec := congrArg (·.spec) declared
    dsimp only at rest
    rw [carryOut_unmanaged (spec_eq ▸ unmanaged)] at rest
    obtain ⟨_, _, _, rfl, -, last⟩ := run_ask_bind_iff.1 rest
    obtain ⟨rfl, result_eq, -⟩ := Program.run_done_iff.1 last
    obtain ⟨rfl, rfl⟩ := Prod.mk.inj result_eq
    exact ⟨planning, _, .ok (state, plan), middle, rfl, plan_run, rfl⟩

/-- Of an unmanaged installation a pass looks something up, makes the plan that it would make for a
managed one, and reports. -/
theorem run_installation_unmanaged {result : Except OperatorError Requeue}
    (internal : kc.spec.external.enabled = false) (unmanaged : kc.spec.unmanaged = true)
    (run : Run env (installation profiles kc).run before events result after) :
    ∃ planning checking tracked planned time answer,
      events = planning ++ checking ++ [⟨.now, time⟩, ⟨.patchKeycloakStatus kc.metadata.key
        (statusAfter tracked (planned.map fun made => ⟨true, made.1.externalUrl⟩) time), answer⟩] ∧
      (∀ event ∈ planning ++ checking, event.request.Looks) ∧
      Follows (readAndPlan profiles kc) planning (tracked, planned) ∧
      Follows (readAndPlan profiles kc.managed) planning (tracked.managed, planned) := by
  obtain ⟨_, tracked, outcome, _, time, _, answer, tracks, rfl, -, converge_run, -, -⟩ :=
    run_installation run
  have only_looks := (only_convergeInstallation_looks profiles (.inr unmanaged)).of_run converge_run
  obtain ⟨planning, checking, planned, _, rfl, plan_run, rfl⟩ :=
    run_convergeInstallation_unmanaged internal unmanaged converge_run
  refine ⟨planning, checking, tracked, planned, time, answer, by rw [tracks.metadata_eq],
    only_looks, plan_run.follows, ?_⟩
  rw [readAndPlan_managed]
  exact Program.run_map_iff.2 ⟨_, plan_run.follows, rfl⟩

end Installation

/-! ## Realms -/

section Realm

variable {declared : KeycloakRealm}

theorem only_unmanagedRealm_spares (declared : KeycloakRealm) :
    Only (PassRequest.Spares .keycloakRealm declared.metadata.key)
      (unmanagedRealm declared).run := by
  unfold unmanagedRealm
  split
  · split
    · exact only_bind (only_ask fun _ _ => id) fun _ => trivial
    · trivial
  · refine only_bind (only_bind (only_lift (only_ask fun _ _ => False.elim)) fun _ => ?_)
      fun _ => trivial
    exact only_ask fun _ _ => id

/-- An unmanaged realm is reported about as long as it is live, and then its finalizer is taken off. -/
theorem run_unmanagedRealm {σ : Type} {env : PassEnvironment σ} {before after : σ}
    {events : List PassEvent} {result : Except OperatorError Requeue}
    (run : Run env (unmanagedRealm declared).run before events result after) :
    (declared.isTombstoned = false → ∃ time answer, events = [⟨.now, time⟩,
        ⟨.patchRealmStatus declared.metadata.key
          (declared.statusAfterPass (.waiting "realm is unmanaged") none time), answer⟩]) ∧
      (declared.isTombstoned = true → declared.hasFinalizer = true → ∃ answer,
        events = [⟨.patchFinalizers declared.metadata.key declared.otherFinalizers, answer⟩]) ∧
      (declared.isTombstoned = true → declared.hasFinalizer = false → events = []) := by
  unfold unmanagedRealm KeycloakRealm.releasesStaleFinalizer at run
  cases deleting : declared.isTombstoned with
  | false =>
    rw [if_neg (by simp [deleting])] at run
    obtain ⟨told, reporting⟩ := exists_run_of_bind_pure run
    obtain ⟨time, _, later, rfl, -, patching⟩ := run_now_bind_iff.1 reporting
    obtain ⟨rfl, -⟩ := run_ask_iff.1 patching
    exact ⟨fun _ => ⟨time, told, rfl⟩, Bool.noConfusion, Bool.noConfusion⟩
  | true =>
    rw [if_pos deleting] at run
    cases carries : declared.hasFinalizer with
    | false =>
      rw [if_neg (by simp [carries])] at run
      obtain ⟨rfl, -, -⟩ := run_pure_iff.1 run
      exact ⟨Bool.noConfusion, fun _ => Bool.noConfusion, fun _ _ => rfl⟩
    | true =>
      rw [if_pos (by simp [deleting, carries])] at run
      obtain ⟨told, releasing⟩ := exists_run_of_bind_pure run
      obtain ⟨rfl, -⟩ := run_patchFinalizers_iff.1 releasing
      exact ⟨Bool.noConfusion, fun _ _ => ⟨told, rfl⟩, fun _ => Bool.noConfusion⟩

end Realm

/-! ## All that is not managed -/

/-- Whatever flags there are and whatever calls fail, a pass over an external installation only patches
its status; one over an unmanaged installation besides only looks something up and makes the plan that it
would make for a managed one; and one over an unmanaged realm makes one patch, of its status or of its
finalizers, or none. No other object changes, at no point of such a pass. -/
theorem foreign_resources_are_left_alone (profiles : Profiles) (kc : Keycloak)
    (declared : KeycloakRealm) :
    (kc.spec.external.enabled = true → ∀ before events result after,
      Run Confined (installation profiles kc).run before events result after →
      ∃ time answer, events = [⟨.now, time⟩, ⟨.patchKeycloakStatus kc.metadata.key
        (kc.statusAfterPass true none (kc.spec.external.url.getD "") time), answer⟩]) ∧
    (kc.spec.external.enabled = false → kc.spec.unmanaged = true →
      ∀ before events result after,
      Run Confined (installation profiles kc).run before events result after →
      ∃ planning checking tracked planned time answer,
        events = planning ++ checking ++ [⟨.now, time⟩, ⟨.patchKeycloakStatus kc.metadata.key
          (statusAfter tracked (planned.map fun made => ⟨true, made.1.externalUrl⟩) time),
            answer⟩] ∧
        (∀ event ∈ planning ++ checking, event.request.Looks) ∧
        Follows (readAndPlan profiles kc) planning (tracked, planned) ∧
        Follows (readAndPlan profiles kc.managed) planning (tracked.managed, planned) ∧
        ∀ state plan, planned = .ok (state, plan) → ∃ flags b, b.IsFor profiles kc planning ∧
          plan = (Part.wanted kc flags).map (Part.action b state)) ∧
    (kc.spec.external.enabled = true ∨ kc.spec.unmanaged = true → ∀ before after,
      Reaches Confined (installation profiles kc).run before after →
      ∀ kind key, ¬ (kind = .keycloak ∧ key = kc.metadata.key) →
        after.find? kind key = before.find? kind key) ∧
    (declared.spec.unmanaged = true → ∀ before events result after,
      Run Confined (realm declared).run before events result after →
      (declared.isTombstoned = false → ∃ time answer, events = [⟨.now, time⟩,
        ⟨.patchRealmStatus declared.metadata.key
          (declared.statusAfterPass (.waiting "realm is unmanaged") none time), answer⟩]) ∧
      (declared.isTombstoned = true → declared.hasFinalizer = true → ∃ answer,
        events = [⟨.patchFinalizers declared.metadata.key declared.otherFinalizers, answer⟩]) ∧
      (declared.isTombstoned = true → declared.hasFinalizer = false → events = [])) ∧
    (declared.spec.unmanaged = true → ∀ before after,
      Reaches Confined (realm declared).run before after →
      ∀ kind key, ¬ (kind = .keycloakRealm ∧ key = declared.metadata.key) →
        after.find? kind key = before.find? kind key) := by
  refine ⟨fun external before events result after run => run_installation_external external run,
    fun internal unmanaged before events result after run => ?_,
    fun foreign before after reached kind key elsewhere =>
      find?_of_reaches (only_installation_spares profiles foreign) reached elsewhere,
    fun unmanaged before events result after run => ?_,
    fun unmanaged before after reached kind key elsewhere => ?_⟩
  · obtain ⟨planning, checking, tracked, planned, time, answer, rfl, looks, follows, managed⟩ :=
      run_installation_unmanaged internal unmanaged run
    refine ⟨planning, checking, tracked, planned, time, answer, rfl, looks, follows, managed, ?_⟩
    rintro state plan rfl
    obtain ⟨-, -, made⟩ := run_readAndPlan_given follows
    obtain ⟨-, flags, b, b_eq, is_for, plan_eq⟩ := made state plan rfl
    refine ⟨flags, b, is_for, plan_eq.trans ?_⟩
    rw [Part.wanted_congr (b_eq ▸ is_for.declared)]
  · rw [realm, if_pos unmanaged] at run
    exact run_unmanagedRealm run
  · rw [realm, if_pos unmanaged] at reached
    exact find?_of_reaches (only_unmanagedRealm_spares declared) reached elsewhere

/-- Where the stateful set cannot be looked up, a pass over an unmanaged installation fails, reports so and
leaves its service as it is; one over an external installation does not notice; and one over a realm
that is being deleted only takes the operator's finalizer off. -/
theorem service_stays_though_reading_fails :
    ∃ (hosted lent : Keycloak) (leaving : KeycloakRealm) (start : Store),
      start.contains .service (ServerService.key lent) = true ∧
      (∃ events result after time answer,
        Run Confined (installation {} hosted).run start events result after ∧
        events = [⟨.now, time⟩, ⟨.patchKeycloakStatus hosted.metadata.key
          (hosted.statusAfterPass true none "https://sso.example.org" time), answer⟩]) ∧
      (∃ events after planning checking time status answer,
        Run Confined (installation {} lent).run start events (.error (.kubeApi "timeout")) after ∧
        events = planning ++ checking ++
          [⟨.now, time⟩, ⟨.patchKeycloakStatus lent.metadata.key status, answer⟩] ∧
        (∀ event ∈ planning ++ checking, event.request.Looks) ∧
        after.find? .service (ServerService.key lent) =
          start.find? .service (ServerService.key lent)) ∧
      ∃ events result after answer, Run Confined (realm leaving).run start events result after ∧
        events = [⟨.patchFinalizers leaving.metadata.key ["example.org/backup"], answer⟩] := by
  let hosted : Keycloak :=
    { spec := { external := { enabled := true, url := some "https://sso.example.org" } } }
  let lent : Keycloak := { spec := { unmanaged := true } }
  let leaving : KeycloakRealm :=
    { metadata :=
        { deletionTimestamp := some "2024-01-01T00:00:00Z"
          finalizers := some ["example.org/backup", KeycloakRealm.finalizer] }
      spec := { unmanaged := true, realm := { realm := "night" } } }
  let service : Service := { metadata := { name := some "keycloak" } }
  let start : Store := ⟨[⟨.service, service⟩]⟩
  let serve := serveRefusing .statefulSet {}
  have confined : ∀ request state,
      Confined request state (serve request state).1 (serve request state).2 :=
    fun request state => confined_of_refusing (refusing_serveRefusing .statefulSet {} request state)
  obtain ⟨hosted_events, hosted_run⟩ :=
    Program.exists_run_of_serve confined (installation {} hosted).run start
  obtain ⟨lent_events, lent_run⟩ :=
    Program.exists_run_of_serve confined (installation {} lent).run start
  obtain ⟨leaving_events, leaving_run⟩ :=
    Program.exists_run_of_serve confined (realm leaving).run start
  have lent_fails : ((installation {} lent).run.run serve start).1 =
      .error (.kubeApi "timeout") := rfl
  rw [lent_fails] at lent_run
  obtain ⟨external, -, -, -, -⟩ := foreign_resources_are_left_alone {} hosted leaving
  obtain ⟨-, unmanaged, spares, unmanaged_realm, -⟩ :=
    foreign_resources_are_left_alone {} lent leaving
  obtain ⟨time, answer, hosted_eq⟩ := external rfl _ _ _ _ hosted_run
  obtain ⟨planning, checking, _, _, later, reported, lent_eq, looks, -⟩ :=
    unmanaged rfl rfl _ _ _ _ lent_run
  obtain ⟨released, leaving_eq⟩ := (unmanaged_realm rfl _ _ _ _ leaving_run).2.1 rfl rfl
  exact ⟨hosted, lent, leaving, start, rfl,
    ⟨hosted_events, _, _, time, answer, hosted_run, hosted_eq⟩,
    ⟨lent_events, _, planning, checking, later, _, reported, lent_run, lent_eq, looks,
      spares (.inr rfl) _ _ lent_run.reaches _ _ (by decide)⟩,
    ⟨leaving_events, _, _, released, leaving_run, leaving_eq⟩⟩

end Pass

end IdentityOperator
