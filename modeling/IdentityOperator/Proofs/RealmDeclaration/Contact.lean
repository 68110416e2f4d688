import IdentityOperator.Proofs.RealmDeclaration.Finalizer

/-!
Which installations a pass over a declared realm reaches out to, and when.

A pass that lists installations deals with those that are within reach one after the other: with the
usable ones that are listed before the first one that has to be waited for, up to one whose handling
fails (`Pass.DealtWith`). Everything that is asked of an installation stands between the login there
and the next one, so no other installation is ever contacted. An unmanaged declaration makes a pass
reach out to nobody, and a live one makes it put the finalizer on first. As for the finalizer, what
answers is left open, so that any call may fail.
-/

namespace IdentityOperator

/-- A request to an installation. -/
def PassRequest.Contacts : PassRequest → Prop
  | .login _ | .admin .. => True
  | _ => False

/-- A request to an installation, or for a list of them. -/
def PassRequest.Seeks : PassRequest → Prop
  | .cluster (.list ..) => True
  | request => request.Contacts

theorem PassRequest.Contacts.seeks {request : PassRequest} (contacts : request.Contacts) :
    request.Seeks := by
  cases request with
  | login kc => trivial
  | admin session call => trivial
  | _ => exact contacts.elim

theorem PassRequest.Reports.not_seeks {request : PassRequest} (reports : request.Reports) :
    ¬ request.Seeks := by
  cases request with
  | cluster call => exact reports.elim
  | login kc => exact reports.elim
  | admin session call => exact reports.elim
  | _ => exact id

theorem PassRequest.TurnsFinalizer.not_seeks {declared : KeycloakRealm} {request : PassRequest}
    (turns : request.TurnsFinalizer declared) : ¬ request.Seeks := by
  rcases turns with rfl | rfl
  · exact id
  · exact id

/-- The installations that a pass has tried to log in to, in the order of the attempts. -/
def loginsOf (events : List PassEvent) : List Keycloak :=
  events.filterMap fun event =>
    match event.request with
    | .login kc => some kc
    | _ => none

theorem loginsOf_append (first second : List PassEvent) :
    loginsOf (first ++ second) = loginsOf first ++ loginsOf second :=
  List.filterMap_append

theorem loginsOf_eq_nil {events : List PassEvent}
    (elsewhere : ∀ event ∈ events, ∀ kc, event.request ≠ .login kc) : loginsOf events = [] := by
  refine List.filterMap_eq_nil_iff.2 fun event mem => ?_
  have other := elsewhere event mem
  split
  · next kc login => exact absurd login (other kc)
  · rfl

theorem loginsOf_eq_nil_of_not_seeks {events : List PassEvent}
    (quiet : ∀ event ∈ events, ¬ event.request.Seeks) : loginsOf events = [] := by
  refine loginsOf_eq_nil fun event mem kc login => quiet event mem ?_
  rw [login]
  trivial

namespace KeycloakRealm

variable {declared : KeycloakRealm} {kc : Keycloak}

/-- Of listed installations those that a pass gets to: the usable ones before the first one that it
has to wait for. -/
def reachable (declared : KeycloakRealm) (installations : List Keycloak) : List Keycloak :=
  (installations.takeWhile fun kc => ¬ declared.WaitsFor kc).filter fun kc => kc.IsUsable

theorem reachable_cons_of_usable (usable : kc.IsUsable) (rest : List Keycloak) :
    declared.reachable (kc :: rest) = kc :: declared.reachable rest := by
  have goes_on : ¬ declared.WaitsFor kc := fun waits => waits.1 usable
  simp [reachable, goes_on, usable]

theorem reachable_cons_of_skipped (unusable : ¬ kc.IsUsable) (goes_on : ¬ declared.WaitsFor kc)
    (rest : List Keycloak) : declared.reachable (kc :: rest) = declared.reachable rest := by
  simp [reachable, goes_on, unusable]

theorem reachable_cons_of_waits (waits : declared.WaitsFor kc) (rest : List Keycloak) :
    declared.reachable (kc :: rest) = [] := by
  simp [reachable, waits]

end KeycloakRealm

namespace Pass

open Program (Run)

variable {σ α : Type} {env : PassEnvironment σ} {before after : σ} {events : List PassEvent}
  {declared : KeycloakRealm} {kc : Keycloak}

/-! ## One installation -/

/-- What is asked in order to keep a realm in one installation: the login there, and if it succeeds
nothing but requests of this session. -/
inductive Handling (kc : Keycloak) : List PassEvent → Prop
  | refused (e : OperatorError) : Handling kc [⟨.login kc, .error e⟩]
  | entered (session : Session) {later : List PassEvent} :
    (∀ event ∈ later, event.request.IsWithin session) →
    Handling kc (⟨.login kc, .ok session⟩ :: later)

theorem handling_of_run_applyRealm {result : Except OperatorError String}
    (run : Run env (applyRealm declared kc).run before events result after) :
    Handling kc events := by
  rw [applyRealm_eq] at run
  rcases run_bind_iff.1 run with ⟨e, -, failed⟩ | ⟨_, session, _, later, rfl, entered, rest⟩
  · obtain ⟨rfl, -⟩ := run_login_iff.1 failed
    exact .refused e
  · obtain ⟨rfl, -⟩ := run_login_iff.1 entered
    exact .entered session ((only_applyRealmWith_isWithin session declared kc).of_run rest)

theorem Handling.loginsOf (handling : Handling kc events) : loginsOf events = [kc] := by
  cases handling with
  | refused e => rfl
  | @entered session later within =>
    have none_later : IdentityOperator.loginsOf later = [] := by
      refine loginsOf_eq_nil fun event mem other login => ?_
      have inside := within event mem
      rw [login] at inside
      exact inside
    exact congrArg (kc :: ·) none_later

/-- Whoever is called has let the operator in. -/
theorem Handling.login_of_admin (handling : Handling kc events) {event : PassEvent}
    (mem : event ∈ events) {session : Session} {call : AdminCall}
    (calls : event.request = .admin session call) : ⟨.login kc, .ok session⟩ ∈ events := by
  cases handling with
  | refused e =>
    rw [List.mem_singleton.1 mem] at calls
    cases calls
  | entered opened within =>
    rcases List.mem_cons.1 mem with rfl | mem
    · cases calls
    · have inside := within event mem
      rw [calls] at inside
      obtain rfl : session = opened := inside
      exact List.mem_cons_self

/-! ## One installation after the other -/

/-- Installations are dealt with one after the other, up to one whose handling fails. -/
inductive DealtWith : List Keycloak → List PassEvent → Prop
  | none : DealtWith [] []
  | passed {kc : Keycloak} {queue : List Keycloak} {segment later : List PassEvent} :
    Handling kc segment → (∀ event ∈ segment, ¬ PassEvent.Fails event) → DealtWith queue later →
    DealtWith (kc :: queue) (segment ++ later)
  | failed {kc : Keycloak} {queue : List Keycloak} {segment : List PassEvent} :
    Handling kc segment → (∃ event ∈ segment, PassEvent.Fails event) →
    DealtWith (kc :: queue) segment

theorem dealtWith_of_run_applyRealmTo {installations : List Keycloak} {loginUrl : String}
    {result : Except OperatorError RealmOutcome}
    (run : Run env (applyRealmTo declared loginUrl installations).run before events result after) :
    DealtWith (declared.reachable installations) events := by
  induction installations generalizing loginUrl before events with
  | nil =>
    obtain ⟨rfl, -, -⟩ := run_pure_iff.1 run
    exact .none
  | cons kc rest ih =>
    unfold applyRealmTo at run
    rcases declared.instanceStep_cases kc with
      ⟨step, usable⟩ | ⟨step, unusable, goes_on⟩ | ⟨⟨reason, step⟩, waits⟩
    · rw [step] at run
      rw [KeycloakRealm.reachable_cons_of_usable usable]
      rcases run_bind_iff.1 run with ⟨e, -, failed⟩ | ⟨first, url, _, later, rfl, passed, run⟩
      · obtain ⟨earlier, event, rfl, fails, -⟩ := (failFast_applyRealm declared kc).last_fails failed
        exact .failed (handling_of_run_applyRealm failed) ⟨event, by simp, fails⟩
      · exact .passed (handling_of_run_applyRealm passed)
          ((failFast_applyRealm declared kc).clean_of_ok passed) (ih run)
    · rw [step] at run
      rw [KeycloakRealm.reachable_cons_of_skipped unusable goes_on]
      exact ih run
    · rw [step] at run
      rw [KeycloakRealm.reachable_cons_of_waits waits]
      obtain ⟨rfl, -, -⟩ := run_pure_iff.1 run
      exact .none

/-- The logins are those to the first installations of the queue. Only where the handling of the last
one of them fails are there others left. -/
theorem DealtWith.logins {queue : List Keycloak} (dealt : DealtWith queue events) :
    ∃ left, queue = loginsOf events ++ left ∧
      (left ≠ [] → ∃ earlier kc segment, events = earlier ++ segment ∧ Handling kc segment ∧
        ∃ event ∈ segment, PassEvent.Fails event) := by
  induction dealt with
  | none => exact ⟨[], rfl, fun more => absurd rfl more⟩
  | @passed kc queue segment later handling clean dealt ih =>
    obtain ⟨left, rfl, stopped⟩ := ih
    refine ⟨left, ?_, fun more => ?_⟩
    · rw [loginsOf_append, handling.loginsOf]
      rfl
    · obtain ⟨earlier, last, rest, rfl, failing⟩ := stopped more
      exact ⟨segment ++ earlier, last, rest, (List.append_assoc _ _ _).symm, failing⟩
  | @failed kc queue segment handling fails =>
    refine ⟨queue, ?_, fun _ => ⟨[], kc, segment, rfl, handling, fails⟩⟩
    rw [handling.loginsOf]
    rfl

/-- Whoever is contacted is one of the queue and has been logged in to. -/
theorem DealtWith.of_contacts {queue : List Keycloak} (dealt : DealtWith queue events)
    {event : PassEvent} (mem : event ∈ events) :
    (∀ kc, event.request = .login kc → kc ∈ queue) ∧
      ∀ session call, event.request = .admin session call →
        ∃ kc ∈ queue, ⟨.login kc, .ok session⟩ ∈ events := by
  obtain ⟨left, queue_eq, -⟩ := dealt.logins
  constructor
  · intro kc login
    rw [queue_eq]
    refine List.mem_append_left _ (List.mem_filterMap.2 ⟨event, mem, ?_⟩)
    rw [login]
  · intro session call calls
    clear queue_eq
    induction dealt with
    | none => cases mem
    | @passed kc queue segment later handling clean dealt ih =>
      rcases List.mem_append.1 mem with mem | mem
      · exact ⟨kc, List.mem_cons_self,
          List.mem_append_left _ (handling.login_of_admin mem calls)⟩
      · obtain ⟨other, queued, entered⟩ := ih mem
        exact ⟨other, List.mem_cons_of_mem _ queued, List.mem_append_right _ entered⟩
    | @failed kc queue segment handling fails =>
      exact ⟨kc, List.mem_cons_self, handling.login_of_admin mem calls⟩

/-- To deal with installations lists none. -/
theorem DealtWith.not_lists {queue : List Keycloak} (dealt : DealtWith queue events)
    {event : PassEvent} (mem : event ∈ events) {kind : Kind} {ns labels : String} :
    event.request ≠ .cluster (.list kind ns labels) := by
  intro lists
  have handled : ∀ {kc segment}, Handling kc segment → event ∉ segment := by
    intro kc segment handling mem
    cases handling with
    | refused e =>
      rw [List.mem_singleton.1 mem] at lists
      cases lists
    | entered session within =>
      rcases List.mem_cons.1 mem with rfl | mem
      · cases lists
      · have inside := within event mem
        rw [lists] at inside
        exact inside
  induction dealt with
  | none => cases mem
  | passed handling clean dealt ih => exact (List.mem_append.1 mem).elim (handled handling) ih
  | failed handling fails => exact handled handling mem

/-! ## The whole pass -/

/-- What a pass asks of installations: nothing unless it has been told which there are, and then it
deals with those within reach. -/
inductive Outreach (declared : KeycloakRealm) : List PassEvent → Prop
  | unlisted {events : List PassEvent} :
    (∀ event ∈ events, ¬ event.request.Contacts) →
    (∀ installations : List Keycloak, ⟨.cluster (listing declared), .ok installations⟩ ∉ events) →
    Outreach declared events
  | listed (installations : List Keycloak) {opening dealt closing : List PassEvent} :
    (∀ event ∈ opening, ¬ event.request.Seeks) →
    DealtWith (declared.reachable installations) dealt →
    (∀ event ∈ closing, ¬ event.request.Seeks) →
    Outreach declared
      (opening ++ ⟨.cluster (listing declared), .ok installations⟩ :: (dealt ++ closing))

theorem outreach_of_not_seeks (quiet : ∀ event ∈ events, ¬ event.request.Seeks) :
    Outreach declared events :=
  .unlisted (fun event mem contacts => quiet event mem contacts.seeks)
    fun _ mem => quiet _ mem trivial

theorem Outreach.surrounded {opening closing : List PassEvent} (outreach : Outreach declared events)
    (before_it : ∀ event ∈ opening, ¬ event.request.Seeks)
    (after_it : ∀ event ∈ closing, ¬ event.request.Seeks) :
    Outreach declared (opening ++ (events ++ closing)) := by
  cases outreach with
  | unlisted untouched never =>
    refine .unlisted ?_ ?_
    · simp only [List.forall_mem_append]
      exact ⟨fun event mem contacts => before_it event mem contacts.seeks, untouched,
        fun event mem contacts => after_it event mem contacts.seeks⟩
    · intro installations
      simp only [List.mem_append, not_or]
      exact ⟨fun mem => before_it _ mem trivial, never installations,
        fun mem => after_it _ mem trivial⟩
  | @listed installations front dealt back quiet_front dealt_with quiet_back =>
    have regrouped : opening ++ ((front ++ ⟨.cluster (listing declared), .ok installations⟩ ::
        (dealt ++ back)) ++ closing) = (opening ++ front) ++
          ⟨.cluster (listing declared), .ok installations⟩ :: (dealt ++ (back ++ closing)) := by
      simp
    rw [regrouped]
    exact .listed installations (List.forall_mem_append.2 ⟨before_it, quiet_front⟩) dealt_with
      (List.forall_mem_append.2 ⟨quiet_back, after_it⟩)

theorem outreach_of_run_convergeRealm {result : Except OperatorError RealmOutcome}
    (run : Run env (convergeRealm declared).run before events result after) :
    Outreach declared events := by
  rcases run_bind_iff.1 run with ⟨e, -, failed⟩ | ⟨_, installations, _, later, rfl, listed, rest⟩
  · obtain ⟨rfl, -⟩ := run_clusterCall_iff.1 failed
    refine .unlisted (List.forall_mem_singleton.2 id) fun installations mem => ?_
    cases List.mem_singleton.1 mem
  obtain ⟨rfl, -⟩ := run_clusterCall_iff.1 listed
  have dealt : DealtWith (declared.reachable installations) later := by
    split at rest
    · next nobody =>
      obtain ⟨rfl, -, -⟩ := run_pure_iff.1 rest
      rw [Bool.and_eq_true, List.isEmpty_iff] at nobody
      rw [nobody.1]
      exact .none
    · exact dealtWith_of_run_applyRealmTo rest
  have alone : Outreach declared
      ([] ++ ⟨.cluster (listing declared), .ok installations⟩ :: (later ++ [])) :=
    .listed installations (by simp) dealt (by simp)
  rw [List.append_nil] at alone
  exact alone

/-- Reports and finalizers have nothing to do with installations. -/
theorem outreach_of_run_keepRealm {result : Except OperatorError Requeue}
    (run : Run env (keepRealm declared).run before events result after) :
    Outreach declared events := by
  rcases run_bind_iff.1 run with
    ⟨e, -, failed⟩ | ⟨first, outcome, middle, second, rfl, converge, rest⟩
  · obtain ⟨_, -, impossible⟩ := run_attempt_iff.1 failed
    cases impossible
  obtain ⟨_, converge, outcome_eq⟩ := run_attempt_iff.1 converge
  cases outcome_eq
  have settled : ∀ event ∈ second, ¬ event.request.Seeks := by
    cases outcome with
    | ok outcome =>
      have only : Program.Only (¬ ·.Seeks) (settleRealm declared outcome).run :=
        only_settleRealm (fun _ => PassRequest.Reports.not_seeks)
          (fun _ => PassRequest.TurnsFinalizer.not_seeks) outcome
      exact only.of_run rest
    | error e => exact (only_failRealm (fun _ => PassRequest.Reports.not_seeks) declared e).of_run rest
  have whole : Outreach declared ([] ++ (first ++ second)) :=
    (outreach_of_run_convergeRealm converge).surrounded (by simp) settled
  exact whole

/-- A managed declaration that is not being deleted gets the finalizer before anything else. -/
theorem run_realm_of_live (managed : declared.spec.unmanaged = false)
    (live : declared.isTombstoned = false) {result : Except OperatorError Requeue}
    (run : Run env (realm declared).run before events result after) :
    (∃ e, events = [⟨.patchFinalizers declared.metadata.key
        (declared.metadata.finalizerList ++ [KeycloakRealm.finalizer]), .error e⟩]) ∨
      ∃ opening middle rest, events = opening ++ rest ∧
        (declared.hasFinalizer = true ∧ opening = [] ∨
          opening = [⟨.patchFinalizers declared.metadata.key
            (declared.metadata.finalizerList ++ [KeycloakRealm.finalizer]), .ok ()⟩]) ∧
        Run env (keepRealm declared).run middle rest result after := by
  rw [realm, if_neg (by simp [managed]), if_neg (by simp [live])] at run
  unfold ensureFinalizer at run
  rcases run_bind_iff.1 run with ⟨e, -, failed⟩ | ⟨opening, _, middle, rest, rfl, marked, run⟩
  · split at failed
    · obtain ⟨-, impossible, -⟩ := run_pure_iff.1 failed
      cases impossible
    · exact .inl ⟨e, (run_patchFinalizers_iff.1 failed).1⟩
  · refine .inr ⟨opening, middle, rest, rfl, ?_, run⟩
    split at marked
    · next there => exact .inl ⟨there, (run_pure_iff.1 marked).1⟩
    · exact .inr (run_patchFinalizers_iff.1 marked).1

theorem outreach_of_run_realm (managed : declared.spec.unmanaged = false)
    {result : Except OperatorError Requeue}
    (run : Run env (realm declared).run before events result after) :
    Outreach declared events := by
  cases deleting : declared.isTombstoned with
  | true =>
    rw [realm, if_neg (by simp [managed]), if_pos deleting] at run
    exact outreach_of_run_keepRealm run
  | false =>
    rcases run_realm_of_live managed deleting run with
      ⟨e, rfl⟩ | ⟨opening, _, rest, rfl, marked, run⟩
    · exact outreach_of_not_seeks (List.forall_mem_singleton.2 id)
    · have quiet : ∀ event ∈ opening, ¬ event.request.Seeks := by
        rcases marked with ⟨-, rfl⟩ | rfl
        · simp
        · exact List.forall_mem_singleton.2 id
      have whole : Outreach declared (opening ++ (rest ++ [])) :=
        (outreach_of_run_keepRealm run).surrounded quiet (by simp)
      rwa [List.append_nil] at whole

/-- Who has been logged in to, where installations have been listed. -/
theorem Outreach.logins (outreach : Outreach declared events) {installations : List Keycloak}
    (told : ⟨.cluster (listing declared), .ok installations⟩ ∈ events) :
    ∃ left, declared.reachable installations = loginsOf events ++ left ∧
      (left ≠ [] → ∃ kc segment, segment <:+: events ∧ Handling kc segment ∧
        ∃ event ∈ segment, PassEvent.Fails event) := by
  cases outreach with
  | unlisted untouched never => exact absurd told (never installations)
  | @listed found opening dealt closing quiet_front dealt_with quiet_back =>
    obtain rfl : installations = found := by
      simp only [List.mem_append, List.mem_cons] at told
      rcases told with told | same | told | told
      · exact absurd trivial (quiet_front _ told)
      · cases same
        rfl
      · exact absurd rfl (dealt_with.not_lists told)
      · exact absurd trivial (quiet_back _ told)
    have logins : loginsOf (opening ++ ⟨.cluster (listing declared), .ok installations⟩ ::
        (dealt ++ closing)) = loginsOf dealt := by
      have nowhere : loginsOf opening = [] := loginsOf_eq_nil_of_not_seeks quiet_front
      have nowhere_later : loginsOf closing = [] := loginsOf_eq_nil_of_not_seeks quiet_back
      have unseen : loginsOf (⟨.cluster (listing declared), .ok installations⟩ ::
          (dealt ++ closing)) = loginsOf (dealt ++ closing) := rfl
      rw [loginsOf_append, nowhere, unseen, loginsOf_append, nowhere_later, List.nil_append,
        List.append_nil]
    rw [logins]
    obtain ⟨left, queue_eq, stopped⟩ := dealt_with.logins
    refine ⟨left, queue_eq, fun more => ?_⟩
    obtain ⟨earlier, kc, segment, rfl, handling, fails⟩ := stopped more
    refine ⟨kc, segment, ⟨opening ++ ⟨.cluster (listing declared), .ok installations⟩ :: earlier,
      closing, ?_⟩, handling, fails⟩
    simp

/-- Nobody is contacted but usable installations. -/
theorem Outreach.usable (outreach : Outreach declared events) {event : PassEvent}
    (mem : event ∈ events) :
    (∀ kc, event.request = .login kc → kc.IsUsable) ∧
      ∀ session call, event.request = .admin session call →
        ∃ kc, kc.IsUsable ∧ ⟨.login kc, .ok session⟩ ∈ events := by
  have silent : ¬ event.request.Contacts →
      (∀ kc, event.request = .login kc → kc.IsUsable) ∧
        ∀ session call, event.request = .admin session call →
          ∃ kc, kc.IsUsable ∧ ⟨.login kc, .ok session⟩ ∈ events := by
    intro quiet
    refine ⟨fun kc login => absurd ?_ quiet, fun session call calls => absurd ?_ quiet⟩
    · rw [login]
      trivial
    · rw [calls]
      trivial
  cases outreach with
  | unlisted untouched never => exact silent (untouched event mem)
  | @listed installations opening dealt closing quiet_front dealt_with quiet_back =>
    simp only [List.mem_append, List.mem_cons] at mem
    rcases mem with mem | rfl | mem | mem
    · exact silent fun contacts => quiet_front event mem contacts.seeks
    · exact silent id
    · obtain ⟨logins, calls⟩ := dealt_with.of_contacts mem
      have usable : ∀ kc ∈ declared.reachable installations, kc.IsUsable := fun kc queued => by
        simpa using (List.mem_filter.1 queued).2
      refine ⟨fun kc login => usable kc (logins kc login), fun session call calls_it => ?_⟩
      obtain ⟨kc, queued, entered⟩ := calls session call calls_it
      exact ⟨kc, usable kc queued, by simp [entered]⟩
    · exact silent fun contacts => quiet_back event mem contacts.seeks

/-- A pass reaches out to installations in the order of its listing and within its limits: to none on
behalf of an unmanaged declaration; for a live one only once this carries the finalizer; to the usable
ones before the first that has to be waited for, up to one whose handling fails; and never to one that
cannot be used. -/
theorem contacts_only_within_reach {result : Except OperatorError Requeue}
    (run : Run env (realm declared).run before events result after) :
    (declared.spec.unmanaged = true → ∀ event ∈ events, ¬ event.request.Seeks) ∧
      (declared.spec.unmanaged = false → declared.isTombstoned = false →
        ∀ earlier kc answer later, events = earlier ++ ⟨.login kc, answer⟩ :: later →
          declared.hasFinalizer = true ∨
            ⟨.patchFinalizers declared.metadata.key
              (declared.metadata.finalizerList ++ ["keycloak.org/realm-cleanup"]), .ok ()⟩
              ∈ earlier) ∧
      (declared.spec.unmanaged = false → Outreach declared events) ∧
      (∀ installations : List Keycloak,
        ⟨.cluster (listing declared), .ok installations⟩ ∈ events →
          ∃ left, declared.reachable installations = loginsOf events ++ left ∧
            (left ≠ [] → ∃ kc segment, segment <:+: events ∧ Handling kc segment ∧
              ∃ event ∈ segment, PassEvent.Fails event)) ∧
      ∀ event ∈ events, (∀ kc, event.request = .login kc → kc.IsUsable) ∧
        ∀ session call, event.request = .admin session call →
          ∃ kc, kc.IsUsable ∧ ⟨.login kc, .ok session⟩ ∈ events := by
  have alone : declared.spec.unmanaged = true → ∀ event ∈ events, ¬ event.request.Seeks := by
    intro unmanaged
    rw [realm, if_pos unmanaged] at run
    have only : Program.Only (¬ ·.Seeks) (unmanagedRealm declared).run :=
      only_unmanagedRealm (fun _ => PassRequest.Reports.not_seeks)
        fun _ => PassRequest.TurnsFinalizer.not_seeks
    exact only.of_run run
  have outreach : Outreach declared events := by
    cases unmanaged : declared.spec.unmanaged with
    | true => exact outreach_of_not_seeks (alone unmanaged)
    | false => exact outreach_of_run_realm unmanaged run
  refine ⟨alone, ?_, fun _ => outreach, fun _ told => outreach.logins told,
    fun _ mem => outreach.usable mem⟩
  intro managed live earlier kc answer later events_eq
  rcases run_realm_of_live managed live run with
    ⟨e, refused⟩ | ⟨opening, _, rest, split_at, marked, -⟩
  · have login : ⟨.login kc, answer⟩ ∈ events := by simp [events_eq]
    rw [refused, List.mem_singleton] at login
    cases login
  rcases marked with ⟨there, -⟩ | rfl
  · exact .inl there
  -- The finalizer comes first of all, so whatever stands before the login begins with it.
  · refine .inr ?_
    rw [events_eq] at split_at
    cases earlier with
    | nil => cases (List.cons.inj split_at).1
    | cons first earlier =>
      rw [(List.cons.inj split_at).1]
      exact List.mem_cons_self

/-- A declaration that has not been seen before. -/
def newRealm : KeycloakRealm where
  metadata := { name := some "basic", finalizers := some ["example.com/audit"] }
  spec := { realm := { realm := "basic" } }

/-- An installation that lets nobody in. -/
def closedInstallation : Keycloak where
  spec := { external := { enabled := true, url := some "https://closed" } }

/-- The first of three installations takes the realm and the second one lets nobody in, so that the
third one is not contacted. -/
theorem contacts_end_at_closed_installation :
    ∃ events, Run (fun _ before _ after => after = before : PassEnvironment Unit)
        (realm newRealm).run () events (.error (.http "refused")) () ∧
      loginsOf events = [outsideInstallation, closedInstallation] ∧
      ⟨.patchFinalizers ⟨"basic", "default"⟩ ["example.com/audit", "keycloak.org/realm-cleanup"],
        .ok ()⟩ ∈ events.take 1 ∧
      ∃ left, newRealm.reachable [outsideInstallation, closedInstallation, outsideInstallation] =
        loginsOf events ++ left := by
  let opening : List PassEvent := [
    ⟨.patchFinalizers ⟨"basic", "default"⟩ ["example.com/audit", "keycloak.org/realm-cleanup"],
      .ok ()⟩]
  let listed : List PassEvent := [
    ⟨.cluster (listing newRealm),
      .ok [outsideInstallation, closedInstallation, outsideInstallation]⟩]
  let dealt : List PassEvent := [
    ⟨.admin { endpoint := "https://sso" } (.getRealm "basic"), .ok none⟩,
    ⟨.admin { endpoint := "https://sso" } .ping, .ok ()⟩,
    ⟨.admin { endpoint := "https://sso" } (.createRealm { realm := "basic" }), .ok ""⟩,
    ⟨.login closedInstallation, .error (.http "refused")⟩,
    ⟨.now, "2020-01-01T00:00:00Z"⟩,
    ⟨.patchRealmStatus ⟨"basic", "default"⟩ (newRealm.statusAfterPass (.waiting "")
      (some "HTTP error: refused") "2020-01-01T00:00:00Z"), .ok ()⟩]
  let events : List PassEvent := opening ++ listed ++
    ⟨.login outsideInstallation, .ok { endpoint := "https://sso" }⟩ :: dealt
  have run : Run (fun _ before _ after => after = before : PassEnvironment Unit)
      (realm newRealm).run () events (.error (.http "refused")) () :=
    .ask rfl (.ask rfl (.ask rfl (.ask rfl (.ask rfl (.ask rfl (.ask rfl (.ask rfl (.ask rfl
      (.done _ _)))))))))
  obtain ⟨-, finalizer_first, -, in_order, -⟩ := contacts_only_within_reach run
  obtain ⟨left, queue_eq, -⟩ := in_order [outsideInstallation, closedInstallation,
    outsideInstallation] (List.mem_cons_of_mem _ List.mem_cons_self)
  have marked := finalizer_first rfl rfl (opening ++ listed) outsideInstallation
    (.ok { endpoint := "https://sso" }) dealt rfl
  have unmarked : newRealm.hasFinalizer = false := by decide
  rw [unmarked] at marked
  have first : ⟨.patchFinalizers ⟨"basic", "default"⟩
      ["example.com/audit", "keycloak.org/realm-cleanup"], .ok ()⟩ ∈ opening ++ listed :=
    marked.resolve_left (by simp)
  refine ⟨events, run, rfl, ?_, left, queue_eq⟩
  rcases List.mem_append.1 first with first | first
  · exact first
  · cases List.mem_singleton.1 first

end Pass

end IdentityOperator
