import IdentityOperator.Proofs.Installation.Careful
import IdentityOperator.Proofs.RealmDeclaration.Finalizer
import IdentityOperator.Proofs.RealmDeclaration.UserSecrets

/-!
Whose credentials the secrets hold that passes over declared realms leave behind.

A pass looks for the secret of every user and creates it where there is none; a secret that is there
is taken for the user's own. So the first user under a name gets the secret, and everybody else of that
name finds his credentials in it (`Store.HandsOut`). Where the names of all secrets are different, every
user has his own one once a pass over his realm has succeeded
(`Pass.user_secret_is_own_unless_shared`). Any call may fail, with or without having been carried out, and
passes may be cut off and repeated in any order.
-/

namespace IdentityOperator

/-- The users of declared realms, each one with his realm. -/
def declaredUsers (realms : List KeycloakRealm) : List (KeycloakRealm × Admin.User) :=
  realms.flatMap fun declared => declared.spec.realm.users.map (declared, ·)

theorem mem_declaredUsers {realms : List KeycloakRealm} {declared : KeycloakRealm}
    {user : Admin.User} :
    (declared, user) ∈ declaredUsers realms ↔
      declared ∈ realms ∧ user ∈ declared.spec.realm.users := by
  simp [declaredUsers]

/-- A request that writes nothing but a new secret of a user. -/
def PassRequest.HandsOut (declared : KeycloakRealm) (kc : Keycloak) (request : PassRequest) : Prop :=
  request.Writes → ∃ user ∈ declared.spec.realm.users, ∃ password,
    request = .cluster (.create ⟨.secret, UserSecret.fresh declared user kc password⟩)

/-- A secret has been found under a key, or one has been created there. -/
def PassEvent.Shows (key : ObjectKey) (event : PassEvent) : Prop :=
  (∃ secret : Secret, event = ⟨.cluster (.get .secret key), .ok secret⟩) ∨
    ∃ secret : Secret, (⟨.secret, secret⟩ : Object).key = key ∧
      event = ⟨.cluster (.create ⟨.secret, secret⟩), .ok ()⟩

/-- A copy of a declaration that says the same: whatever else may have changed, the users and the
place of their secrets are the same. -/
structure KeycloakRealm.IsCopyOf (copy declared : KeycloakRealm) : Prop where
  spec_eq : copy.spec = declared.spec
  ns_eq : copy.ns = declared.ns

theorem UserSecret.fresh_copy {copy declared : KeycloakRealm} (same : copy.IsCopyOf declared)
    (user : Admin.User) (kc : Keycloak) (password : String) :
    fresh copy user kc password = fresh declared user kc password := by
  have name_eq : copy.realmName = declared.realmName := by
    rw [KeycloakRealm.realmName, KeycloakRealm.realmName, same.spec_eq]
  simp only [fresh, key, name_eq, same.ns_eq]

/-! ## Stores -/

namespace Store

variable {realms : List KeycloakRealm} {kc : Keycloak} {before middle after : Store}

/-- Nothing has happened to the secrets but that new ones have been created, each one for a user. -/
def HandsOut (realms : List KeycloakRealm) (kc : Keycloak) (before after : Store) : Prop :=
  ∀ key, after.find? .secret key = before.find? .secret key ∨
    before.find? .secret key = none ∧ ∃ declared user, (declared, user) ∈ declaredUsers realms ∧
      UserSecret.key declared user kc = key ∧ ∃ password,
        after.find? .secret key = some (UserSecret.fresh declared user kc password)

theorem SameSecrets.handsOut (same : before.SameSecrets after) :
    HandsOut realms kc before after := fun key => .inl (same key)

theorem HandsOut.trans (first : HandsOut realms kc before middle)
    (second : HandsOut realms kc middle after) : HandsOut realms kc before after := by
  intro key
  rcases second key with same | ⟨missing, handed_out⟩
  · rw [same]
    exact first key
  · rcases first key with same | ⟨-, _, _, -, -, password, found⟩
    · rw [same] at missing
      exact .inr ⟨missing, handed_out⟩
    · rw [found] at missing
      cases missing

theorem HandsOut.isSome (hands_out : HandsOut realms kc before after) {key : ObjectKey}
    (present : (before.find? .secret key).isSome) : (after.find? .secret key).isSome := by
  rcases hands_out key with same | ⟨missing, -⟩
  · rwa [same]
  · rw [missing] at present
    cases present

/-- To create the secret of a user hands it out, unless there is one of its name. -/
theorem handsOut_perform_create {declared : KeycloakRealm} {user : Admin.User}
    (declares : (declared, user) ∈ declaredUsers realms) (password : String) (store : Store) :
    HandsOut realms kc store
      (store.perform (.create ⟨.secret, UserSecret.fresh declared user kc password⟩)).2 := by
  cases present : store.contains .secret (UserSecret.key declared user kc) with
  | true =>
    rw [perform_create_of_contains present]
    exact (SameSecrets.refl store).handsOut
  | false =>
    rw [perform_create_of_missing present]
    intro key
    by_cases here : UserSecret.key declared user kc = key
    · subst here
      exact .inr ⟨find?_eq_none_iff.2 present, declared, user, declares, rfl, password,
        store.find?_put_self ⟨.secret, UserSecret.fresh declared user kc password⟩⟩
    · refine .inl (store.find?_put_of_ne ?_)
      rw [← Bool.not_eq_true, isAt_iff]
      exact fun there => here there.2

end Store

namespace Pass

open Program (Run Reaches Always Only)

/-! ## What a pass writes -/

section Writing

variable {realms : List KeycloakRealm} {declared copy : KeycloakRealm} {kc other : Keycloak}
  {before after : Store}

theorem only_applyRealm_handsOut (near : other.ns = kc.ns) :
    Only (·.HandsOut declared kc) (applyRealm declared other).run := by
  refine only_bind (only_ask fun writes => writes.elim) fun session => ?_
  refine only_applyRealmWith (fun _ writes => writes.elim) ?_ (fun _ writes => writes.elim)
    fun _ writes => writes.elim
  intro user mem password _
  exact ⟨user, mem, password, by rw [UserSecret.fresh_congr near]⟩

/-- Installations are listed in the namespace of the declaration. -/
theorem ns_of_listed {installations : List Keycloak}
    (listed : Unreliable (.cluster (listing declared)) before (.ok installations) after) :
    ∀ kc ∈ installations, kc.ns = declared.ns := by
  obtain ⟨served, -, done | ⟨⟨e, impossible⟩, -⟩⟩ := listed
  · cases done
    intro kc mem
    obtain ⟨o, -, fits⟩ := List.mem_filterMap.1 mem
    split at fits
    · next here =>
      obtain rfl := Store.as?_eq_some_iff.1 fits
      exact here.2.1
    · cases fits
  · cases impossible

/-- Whatever a pass is answered, it writes nothing but new secrets of users. -/
theorem always_realm_handsOut (together : declared.ns = kc.ns) (store : Store) :
    Always Unreliable (fun request _ => request.HandsOut declared kc) (realm declared).run store := by
  refine always_realm_of_convergeRealm (fun store => ?_) ?_ ?_ store
  · refine always_bind_iff.2 ⟨⟨fun writes => writes.elim, fun _ _ _ => trivial⟩, ?_⟩
    intro events installations after listed
    have near := ns_of_listed (run_clusterCall_iff.1 listed).2
    split
    · trivial
    · have each : ∀ other ∈ installations,
          Only (·.HandsOut declared kc) (applyRealm declared other).run :=
        fun other mem => only_applyRealm_handsOut ((near other mem).trans together)
      exact (only_applyRealmTo each "").always (fun _ _ hands_out => hands_out) after
  · intro request reports _ writes
    cases request with
    | cluster call => exact reports.elim
    | _ => exact writes.elim
  · rintro request (rfl | rfl) _ writes
    · exact writes.elim
    · exact writes.elim

/-- A request of a pass hands secrets out, or it leaves all of them alone. -/
theorem handsOut_of_request {request : PassRequest} {answer : request.Answer}
    (declares : declared ∈ realms) (same : copy.IsCopyOf declared)
    (hands_out : request.HandsOut copy kc) (answered : Unreliable request before answer after) :
    before.HandsOut realms kc after := by
  by_cases writes : request.Writes
  · obtain ⟨user, mem, password, rfl⟩ := hands_out writes
    rw [same.spec_eq] at mem
    rw [UserSecret.fresh_copy same] at answered
    have performed : before.HandsOut realms kc _ :=
      Store.handsOut_perform_create (mem_declaredUsers.2 ⟨declares, mem⟩) password before
    rcases sameSecrets_or answered with untouched | carried_out
    · exact untouched.handsOut
    · exact performed.trans carried_out.handsOut
  · exact (sameSecrets_of_not_writes writes answered).handsOut

/-- A pass over a copy of a declaration hands secrets out, wherever it is cut off. -/
theorem handsOut_of_reaches (declares : declared ∈ realms) (same : copy.IsCopyOf declared)
    (together : declared.ns = kc.ns) (reached : Reaches Unreliable (realm copy).run before after) :
    before.HandsOut realms kc after :=
  (always_realm_handsOut (same.ns_eq.trans together) before).relates_of_reaches
    (fun store => (Store.SameSecrets.refl store).handsOut) Store.HandsOut.trans
    (fun _ _ _ _ hands_out answered => handsOut_of_request declares same hands_out answered) reached

end Writing

/-! ## What a pass finds or creates -/

section Showing

variable {σ : Type} {env : PassEnvironment σ} {start stop : σ} {before after : Store}
  {events : List PassEvent} {declared : KeycloakRealm} {kc : Keycloak} {key : ObjectKey}

theorem isSome_find?_of_answered {request : PassRequest} {answer : request.Answer}
    (shows : PassEvent.Shows key ⟨request, answer⟩)
    (answered : Unreliable request before answer after) : (after.find? .secret key).isSome := by
  rcases shows with ⟨secret, same⟩ | ⟨secret, rfl, same⟩
  · cases same
    have untouched : before.SameSecrets after := sameSecrets_of_not_writes id answered
    rw [untouched key, find?_of_get answered]
    rfl
  · cases same
    obtain ⟨served, same, done | ⟨⟨e, impossible⟩, -⟩⟩ := answered
    · rw [same, Store.isSome_find?_iff]
      cases present : before.contains .secret (⟨.secret, secret⟩ : Object).key with
      | true =>
        rw [Store.perform_create_of_contains present] at done
        cases done
        exact present
      | false =>
        rw [Store.perform_create_of_missing present] at done
        cases done
        exact (Store.holds_put_self before ⟨.secret, secret⟩).present
    · cases impossible

/-- What has been shown to be there is there at the end. -/
theorem isSome_find?_of_shown {α : Type} {program : Asking α} {result : α}
    (keeps : Only (¬ ·.Replaces) program)
    (run : Run Unreliable program before events result after)
    (shown : ∃ event ∈ events, PassEvent.Shows key event) : (after.find? .secret key).isSome := by
  induction run with
  | done result store =>
    obtain ⟨event, mem, -⟩ := shown
    cases mem
  | @ask request next before middle after answer events result answered run ih =>
    obtain ⟨event, mem, shows⟩ := shown
    rcases List.mem_cons.1 mem with rfl | mem
    · have kept : middle.CredentialsKeptIn after :=
        (keeps.2 answer).relates (fun store => (Store.SameSecrets.refl store).kept)
          Store.CredentialsKeptIn.trans
          (fun request before _ _ keeps answered =>
            (careful_of_not_replaces request before keeps).kept answered) run
      obtain ⟨secret, found⟩ := Option.isSome_iff_exists.1 (isSome_find?_of_answered shows answered)
      obtain ⟨new, found_too, -⟩ := kept key secret found
      rw [found_too]
      rfl
    · exact ih (keeps.2 answer) ⟨event, mem, shows⟩

/-- To look a secret up brings one back only where it has been found. -/
theorem shows_of_run_findSecret {secret : Secret}
    (run : Run env (findSecret key).run start events (.ok (some secret)) stop) :
    ∃ event ∈ events, PassEvent.Shows key event := by
  obtain ⟨first, answer, middle, rest, rfl, looked_up, concluded⟩ := run_bind_ok_iff.1 run
  obtain ⟨outcome, asked, outcome_eq⟩ := run_attempt_iff.1 looked_up
  cases outcome_eq
  obtain ⟨rfl, -⟩ := run_clusterCall_iff.1 asked
  cases answer with
  | ok found =>
    obtain ⟨-, same, -⟩ := run_pure_iff.1 concluded
    cases same
    exact ⟨_, List.mem_cons_self, .inl ⟨secret, rfl⟩⟩
  | error e =>
    dsimp only at concluded
    split at concluded
    · obtain ⟨-, impossible, -⟩ := run_pure_iff.1 concluded
      cases impossible
    · obtain ⟨-, impossible, -⟩ := run_throw_iff.1 concluded
      cases impossible

theorem shows_of_run_readUserSecrets {users : List Admin.User}
    {found : List (String × Option Secret)}
    (run : Run env (readUserSecrets declared kc users).run start events (.ok found) stop)
    {username : String} {secret : Secret} (mem : (username, some secret) ∈ found) :
    ∃ user ∈ users, user.username = username ∧
      ∃ event ∈ events, PassEvent.Shows (UserSecret.key declared user kc) event := by
  induction users generalizing start events found with
  | nil =>
    obtain ⟨-, same, -⟩ := run_pure_iff.1 run
    cases same
    cases mem
  | cons user users ih =>
    obtain ⟨first, own, _, rest, rfl, looked_up, run⟩ := run_bind_ok_iff.1 run
    obtain ⟨second, others, _, none_left, rfl, read, done⟩ := run_bind_ok_iff.1 run
    obtain ⟨rfl, same, rfl⟩ := run_pure_iff.1 done
    cases same
    rcases List.mem_cons.1 mem with same | mem
    · cases same
      obtain ⟨event, mem, shows⟩ := shows_of_run_findSecret looked_up
      exact ⟨user, List.mem_cons_self, rfl, event, by simp [mem], shows⟩
    · obtain ⟨other, declares, same_name, event, mem, shows⟩ := ih read mem
      exact ⟨other, List.mem_cons_of_mem _ declares, same_name, event, by simp [mem], shows⟩

theorem mem_userSecrets_of_hasUserSecret {state : RealmSnapshot} {username : String}
    (has : state.hasUserSecret username = true) :
    ∃ secret, (username, some secret) ∈ state.userSecrets := by
  unfold RealmSnapshot.hasUserSecret RealmSnapshot.secretOf? at has
  cases found : state.userSecrets.reverse.find? (·.1 = username) with
  | none => simp [found] at has
  | some entry =>
    obtain ⟨name, known⟩ := entry
    have same : name = username := by simpa using List.find?_some found
    cases known with
    | none => simp [found] at has
    | some secret =>
      exact ⟨secret, same ▸ List.mem_reverse.1 (List.mem_of_find?_eq_some found)⟩

/-- Only a secret that has been found counts as present. -/
theorem shows_of_run_readRealm {session : Session} {state : RealmSnapshot}
    (run : Run env (readRealm session declared kc).run start events (.ok state) stop)
    {user : Admin.User} (has : state.hasUserSecret user.username = true) :
    ∃ event ∈ events, PassEvent.Shows (UserSecret.key declared user kc) event := by
  obtain ⟨first, found, _, rest, rfl, -, run⟩ := run_bind_ok_iff.1 run
  obtain ⟨second, secrets, _, none_left, rfl, looked_up, done⟩ := run_bind_ok_iff.1 run
  obtain ⟨-, same, -⟩ := run_pure_iff.1 done
  cases same
  obtain ⟨secret, mem⟩ := mem_userSecrets_of_hasUserSecret has
  obtain ⟨other, -, same_name, event, mem, shows⟩ := shows_of_run_readUserSecrets looked_up mem
  have same_key : UserSecret.key declared other kc = UserSecret.key declared user kc := by
    rw [UserSecret.key, UserSecret.key, same_name]
  rw [same_key] at shows
  exact ⟨event, by simp [mem], shows⟩

/-- A realm that is kept in an installation has every user's secret found or created there. -/
theorem shows_of_run_applyRealmWith (live : declared.isTombstoned = false) {loginUrl : String}
    {session : Session}
    (run : Run env (applyRealmWith session declared kc).run start events (.ok loginUrl) stop)
    {user : Admin.User} (declares : user ∈ declared.spec.realm.users) :
    ∃ event ∈ events, PassEvent.Shows (UserSecret.key declared user kc) event := by
  obtain ⟨reading, state, _, rest, rfl, read, run⟩ := run_bind_ok_iff.1 run
  obtain ⟨planning, plan, _, rest, rfl, planned, run⟩ := run_bind_ok_iff.1 run
  obtain ⟨applying, _, _, none_left, rfl, applied, done⟩ := run_bind_ok_iff.1 run
  obtain ⟨_, planned, plan_eq⟩ := run_lift_iff.1 planned
  cases plan_eq
  obtain ⟨passwords, rfl⟩ := (returns_planRealm declared kc state).of_run planned
  cases has : state.hasUserSecret user.username with
  | true =>
    obtain ⟨event, mem, shows⟩ := shows_of_run_readRealm read has
    exact ⟨event, List.mem_append_left _ mem, shows⟩
  | false =>
    obtain ⟨password, msg, planned⟩ := KeycloakRealm.create_mem_plan live declares has
    obtain ⟨_, segment, _, within, created⟩ := run_applyAction_of_run_applyPlan applied planned
    obtain ⟨rfl, -⟩ := run_clusterCall_iff.1 created
    have mem := within _ List.mem_cons_self
    refine ⟨_, ?_, .inr ⟨_, UserSecret.key_fresh declared user kc password, rfl⟩⟩
    exact List.mem_append_right _ (List.mem_append_right _ (List.mem_append_left _ mem))

/-- A pass that gets past all installations has done so for each of them. -/
theorem shows_of_run_applyRealmTo (live : declared.isTombstoned = false)
    {installations : List Keycloak} {loginUrl lastUrl : String}
    (run : Run env (applyRealmTo declared loginUrl installations).run start events
      (.ok (.applied lastUrl)) stop) (listed : kc ∈ installations)
    {user : Admin.User} (declares : user ∈ declared.spec.realm.users) :
    ∃ event ∈ events, PassEvent.Shows (UserSecret.key declared user kc) event := by
  induction installations generalizing loginUrl start events with
  | nil => cases listed
  | cons first installations ih =>
    unfold applyRealmTo at run
    rcases declared.instanceStep_cases first with
      ⟨step, usable⟩ | ⟨step, unusable, goes_on⟩ | ⟨⟨reason, step⟩, waits⟩
    · rw [step] at run
      obtain ⟨handled, url, _, rest, rfl, applied, run⟩ := run_bind_ok_iff.1 run
      rcases List.mem_cons.1 listed with rfl | listed
      · rw [applyRealm_eq] at applied
        obtain ⟨opening, session, _, inside, rfl, -, kept⟩ := run_bind_ok_iff.1 applied
        obtain ⟨event, mem, shows⟩ := shows_of_run_applyRealmWith live kept declares
        exact ⟨event, by simp [mem], shows⟩
      · obtain ⟨event, mem, shows⟩ := ih run listed
        exact ⟨event, List.mem_append_right _ mem, shows⟩
    · exact absurd ⟨unusable, fun leaving => by simp [live] at leaving⟩ goes_on
    · rw [step] at run
      obtain ⟨-, impossible, -⟩ := run_pure_iff.1 run
      cases impossible

/-- What a pass that comes back after a minute has behind it: it has kept a live realm in the
installations that it has listed. -/
theorem run_keepRealm_of_applied
    (run : Run env (keepRealm declared).run start events (.ok (.after 60)) stop) :
    declared.isTombstoned = false ∧ ∃ segment url ended,
      Run env (convergeRealm declared).run start segment (.ok (.applied url)) ended ∧
        ∀ event ∈ segment, event ∈ events := by
  obtain ⟨segment, outcome, _, rest, rfl, attempted, run⟩ := run_bind_ok_iff.1 run
  obtain ⟨_, converged, outcome_eq⟩ := run_attempt_iff.1 attempted
  cases outcome_eq
  rcases outcome with e | (url | reason)
  · obtain ⟨_, _, _, _, -, -, thrown⟩ := run_bind_ok_iff.1 run
    cases (run_throw_iff.1 thrown).2.1
  · cases deleting : declared.isTombstoned with
    | false => exact ⟨rfl, segment, url, _, converged, fun event => List.mem_append_left _⟩
    | true =>
      have released : Run env (settleRealm declared (.applied url)).run _ rest (.ok (.after 60))
          stop := run
      rw [settleRealm, if_pos deleting] at released
      obtain ⟨_, _, _, _, -, -, done⟩ := run_bind_ok_iff.1 released
      cases (run_pure_iff.1 done).2.1
  · obtain ⟨_, _, _, _, -, -, done⟩ := run_bind_ok_iff.1 run
    cases (run_pure_iff.1 done).2.1

theorem run_convergeRealm_of_applied
    (run : Run env (realm declared).run start events (.ok (.after 60)) stop) :
    declared.isTombstoned = false ∧ ∃ begun segment url ended,
      Run env (convergeRealm declared).run begun segment (.ok (.applied url)) ended ∧
        ∀ event ∈ segment, event ∈ events := by
  unfold realm at run
  split at run
  · unfold unmanagedRealm at run
    split at run
    · split at run
      · obtain ⟨_, _, _, _, -, -, done⟩ := run_bind_ok_iff.1 run
        cases (run_pure_iff.1 done).2.1
      · cases (run_pure_iff.1 run).2.1
    · obtain ⟨_, _, _, _, -, -, done⟩ := run_bind_ok_iff.1 run
      cases (run_pure_iff.1 done).2.1
  · split at run
    · obtain ⟨live, kept⟩ := run_keepRealm_of_applied run
      exact ⟨live, start, kept⟩
    · obtain ⟨_, _, begun, rest, rfl, -, run⟩ := run_bind_ok_iff.1 run
      obtain ⟨live, segment, url, ended, converged, within⟩ := run_keepRealm_of_applied run
      exact ⟨live, begun, segment, url, ended, converged,
        fun event mem => List.mem_append_right _ (within event mem)⟩

/-- A pass that has kept a live realm in the installations leaves a secret behind under the name of
each user. -/
theorem isSome_find?_of_run_realm {finish : Store} (together : declared.ns = kc.ns)
    (run : Run Unreliable (realm declared).run before events (.ok (.after 60)) finish)
    {user : Admin.User} (declares : user ∈ declared.spec.realm.users) :
    (finish.find? .secret (UserSecret.key declared user kc)).isSome := by
  obtain ⟨live, _, segment, url, _, converged, within⟩ := run_convergeRealm_of_applied run
  obtain ⟨opening, installations, _, rest, rfl, listed, applied⟩ := run_bind_ok_iff.1 converged
  have near := ns_of_listed (run_clusterCall_iff.1 listed).2
  cases installations with
  | nil =>
    rw [if_pos (by simp [live])] at applied
    obtain ⟨-, impossible, -⟩ := run_pure_iff.1 applied
    cases impossible
  | cons first installations =>
    rw [if_neg (by simp)] at applied
    obtain ⟨event, mem, shows⟩ := shows_of_run_applyRealmTo live applied List.mem_cons_self declares
    have first_near : first.ns = kc.ns := (near first List.mem_cons_self).trans together
    rw [UserSecret.key_congr first_near] at shows
    exact isSome_find?_of_shown (only_realm_not_replaces declared) run
      ⟨event, within event (List.mem_append_right _ mem), shows⟩

end Showing

/-! ## Passes over several realms -/

/-- Passes over declared realms, one after the other, each over a copy of its declaration: the store
before and after them, and what has come of those that were not cut off. -/
inductive RealmPasses (realms : List KeycloakRealm) :
    Store → List (KeycloakRealm × Except OperatorError Requeue) → Store → Prop
  | none (store : Store) : RealmPasses realms store [] store
  | ended {declared copy : KeycloakRealm} {before middle after : Store} {events : List PassEvent}
    {result : Except OperatorError Requeue}
    {outcomes : List (KeycloakRealm × Except OperatorError Requeue)} :
    declared ∈ realms → copy.IsCopyOf declared →
    Run Unreliable (realm copy).run before events result middle →
    RealmPasses realms middle outcomes after →
    RealmPasses realms before ((declared, result) :: outcomes) after
  | cutOff {declared copy : KeycloakRealm} {before middle after : Store}
    {outcomes : List (KeycloakRealm × Except OperatorError Requeue)} :
    declared ∈ realms → copy.IsCopyOf declared →
    Reaches Unreliable (realm copy).run before middle →
    RealmPasses realms middle outcomes after → RealmPasses realms before outcomes after

namespace RealmPasses

variable {realms : List KeycloakRealm} {kc : Keycloak} {start finish : Store}
  {outcomes : List (KeycloakRealm × Except OperatorError Requeue)} {declared : KeycloakRealm}
  {user : Admin.User}

theorem handsOut (passes : RealmPasses realms start outcomes finish)
    (together : ∀ declared ∈ realms, declared.ns = kc.ns) : start.HandsOut realms kc finish := by
  induction passes with
  | none store => exact (Store.SameSecrets.refl store).handsOut
  | ended declares same run passes ih =>
    exact (handsOut_of_reaches declares same (together _ declares) run.reaches).trans ih
  | cutOff declares same reached passes ih =>
    exact (handsOut_of_reaches declares same (together _ declares) reached).trans ih

/-- From a pass on that has succeeded, there is a secret under the name of every user of its realm. -/
theorem isSome_find? (passes : RealmPasses realms start outcomes finish)
    (together : ∀ declared ∈ realms, declared.ns = kc.ns)
    (succeeded : (declared, .ok (.after 60)) ∈ outcomes)
    (declares : user ∈ declared.spec.realm.users) :
    (finish.find? .secret (UserSecret.key declared user kc)).isSome := by
  induction passes with
  | none store => cases succeeded
  | @ended of copy before middle after events result outcomes mem same run passes ih =>
    rcases List.mem_cons.1 succeeded with now | later
    · cases now
      have near : copy.ns = kc.ns := same.ns_eq.trans (together declared mem)
      have key_eq : UserSecret.key copy user kc = UserSecret.key declared user kc :=
        congrArg Object.key (congrArg (Object.mk .secret) (UserSecret.fresh_copy same user kc ""))
      rw [← same.spec_eq] at declares
      have there := isSome_find?_of_run_realm near run declares
      rw [key_eq] at there
      exact (passes.handsOut together).isSome there
    · exact ih later
  | cutOff mem same reached passes ih => exact ih succeeded

/-- Whoever has got the secret under the name of a user's one: it is a user of this name. -/
theorem exists_owner (passes : RealmPasses realms start outcomes finish)
    (together : ∀ declared ∈ realms, declared.ns = kc.ns)
    (blank : ∀ key secret, start.find? .secret key = some secret →
      key = AdminSecret.key kc ∨ key = DatabaseSecret.key kc)
    (apart : UserSecret.key declared user kc ≠ AdminSecret.key kc)
    (succeeded : (declared, .ok (.after 60)) ∈ outcomes)
    (declares : user ∈ declared.spec.realm.users) :
    ∃ secret, finish.find? .secret (UserSecret.key declared user kc) = some secret ∧
      ∃ other namesake, (other, namesake) ∈ declaredUsers realms ∧
        UserSecret.key other namesake kc = UserSecret.key declared user kc ∧
        UserSecret.IsOf namesake secret := by
  have there := passes.isSome_find? together succeeded declares
  rcases passes.handsOut together (UserSecret.key declared user kc) with
    same | ⟨-, other, namesake, mem, same_key, password, found⟩
  · rw [same] at there
    obtain ⟨secret, found⟩ := Option.isSome_iff_exists.1 there
    rcases blank _ secret found with taken | taken
    · exact absurd taken apart
    · exact absurd taken (UserSecret.key_ne_databaseSecret_key declared user kc)
  · exact ⟨_, found, other, namesake, mem, same_key, UserSecret.isOf_fresh _ _ _ _⟩

end RealmPasses

variable {realms : List KeycloakRealm} {kc : Keycloak} {start finish : Store}
  {outcomes : List (KeycloakRealm × Except OperatorError Requeue)}

/-- Declarations in the namespace of an installation name every user of a realm once, and there are
no secrets but those of the installation. After passes over them of which one over each has kept its
realm (it comes back after a minute) there is a secret under the name of every user, with the
credentials of a user of this name; and these are his own unless another user, or the administrator,
has a secret of the same name. -/
theorem user_secret_is_own_unless_shared (passes : RealmPasses realms start outcomes finish)
    (together : ∀ declared ∈ realms, declared.ns = kc.ns)
    (distinct : ((declaredUsers realms).map fun entry =>
      (entry.1.realmName, entry.2.username)).Nodup)
    (blank : ∀ key secret, start.find? .secret key = some secret →
      key = AdminSecret.key kc ∨ key = DatabaseSecret.key kc)
    (succeeded : ∀ declared ∈ realms, (declared, .ok (.after 60)) ∈ outcomes) :
    ∀ declared ∈ realms, ∀ user ∈ declared.spec.realm.users,
      UserSecret.key declared user kc ≠ AdminSecret.key kc →
      ∃ secret, finish.find? .secret (UserSecret.key declared user kc) = some secret ∧
        (∃ other namesake, (other, namesake) ∈ declaredUsers realms ∧
          UserSecret.key other namesake kc = UserSecret.key declared user kc ∧
          UserSecret.IsOf namesake secret) ∧
        ((∀ other namesake, (other, namesake) ∈ declaredUsers realms →
            UserSecret.key other namesake kc = UserSecret.key declared user kc →
            (other.realmName, namesake.username) = (declared.realmName, user.username)) →
          UserSecret.IsOf user secret) := by
  intro declared mem user declares apart
  obtain ⟨secret, found, other, namesake, listed, same_key, owner⟩ :=
    passes.exists_owner together blank apart (succeeded declared mem) declares
  refine ⟨secret, found, ⟨other, namesake, listed, same_key, owner⟩, fun alone => ?_⟩
  have own : (declared, user) ∈ declaredUsers realms := mem_declaredUsers.2 ⟨mem, declares⟩
  have same_entry : (other, namesake) = (declared, user) :=
    List.inj_on_of_nodup_map distinct listed own (alone other namesake listed same_key)
  cases same_entry
  exact owner

/-- Where all names can be read off the names of the secrets, every user has his own secret. -/
theorem own_secret_of_telling_names (passes : RealmPasses realms start outcomes finish)
    (together : ∀ declared ∈ realms, declared.ns = kc.ns)
    (distinct : ((declaredUsers realms).map fun entry =>
      (entry.1.realmName, entry.2.username)).Nodup)
    (telling : ∀ declared user, (declared, user) ∈ declaredUsers realms →
      UserSecret.IsTelling declared.realmName user.username)
    (blank : ∀ key secret, start.find? .secret key = some secret →
      key = AdminSecret.key kc ∨ key = DatabaseSecret.key kc)
    {declared : KeycloakRealm} {user : Admin.User} (listed : (declared, user) ∈ declaredUsers realms)
    (apart : UserSecret.key declared user kc ≠ AdminSecret.key kc)
    (succeeded : (declared, .ok (.after 60)) ∈ outcomes) :
    ∃ secret, finish.find? .secret (UserSecret.key declared user kc) = some secret ∧
      UserSecret.IsOf user secret := by
  obtain ⟨secret, found, other, namesake, listed_too, same_key, owner⟩ :=
    passes.exists_owner together blank apart succeeded (mem_declaredUsers.1 listed).2
  obtain ⟨realm_eq, name_eq⟩ := UserSecret.name_inj (telling other namesake listed_too)
    (telling declared user listed) (congrArg ObjectKey.name same_key)
  have same_entry : (other, namesake) = (declared, user) :=
    List.inj_on_of_nodup_map distinct listed_too listed (by rw [realm_eq, name_eq])
  cases same_entry
  exact ⟨secret, found, owner⟩

/-- A user with a password. -/
def userWith (username password : String) : Admin.User where
  username := username
  credentials := [{ credentialType := "password", value := password }]

/-- A realm with three users, two of whom share a secret. -/
def crowdedRealm : KeycloakRealm where
  metadata := { name := some "basic", finalizers := some ["keycloak.org/realm-cleanup"] }
  spec := { realm := { realm := "basic", users := [
    userWith "b_c" "first", userWith "b-c" "second", userWith "eve" "third"] } }

/-- A cluster with an installation and no secrets. -/
def secretless : Store := ⟨[⟨.keycloak, outsideInstallation⟩]⟩

theorem blank_secretless (key : ObjectKey) (secret : Secret)
    (found : secretless.find? .secret key = some secret) :
    key = AdminSecret.key outsideInstallation ∨ key = DatabaseSecret.key outsideInstallation := by
  have none_there : secretless.find? .secret key = none := by
    simp [Store.find?, secretless, Store.isAt]
  rw [none_there] at found
  cases found

/-- Answers where nothing goes wrong. -/
def serveWell : (request : PassRequest) → Store → request.Answer × Store
  | .cluster call, store => store.perform call
  | .login _, store => (.ok { endpoint := "https://sso" }, store)
  | .admin _ call, store => (((({} : MemoryAdmin).serve call).1), store)
  | .patchKeycloakStatus .., store | .patchRealmStatus .., store | .patchFinalizers .., store =>
    (.ok (), store)
  | .flag _, store => (false, store)
  | .password _, store => ("", store)
  | .now, store => ("", store)

theorem unreliable_serveWell (request : PassRequest) (store : Store) :
    Unreliable request store (serveWell request store).1 (serveWell request store).2 := by
  cases request with
  | cluster call => exact ⟨_, .refl _, .inl rfl⟩
  | _ => exact Store.SameSecrets.refl store

/-- The cluster after a pass over the realm. -/
def crowdedStore : Store := ((realm crowdedRealm).run.run serveWell secretless).2

theorem passes_crowdedRealm :
    RealmPasses [crowdedRealm] secretless [(crowdedRealm, .ok (.after 60))] crowdedStore := by
  obtain ⟨events, run⟩ :=
    Program.exists_run_of_serve unreliable_serveWell (realm crowdedRealm).run secretless
  have applied : ((realm crowdedRealm).run.run serveWell secretless).1 = .ok (.after 60) := by rfl
  rw [applied] at run
  exact .ended List.mem_cons_self ⟨rfl, rfl⟩ run (.none _)

/-- Of the three users one has a secret of a name of its own, and so his own secret. -/
theorem third_user_has_his_own_secret :
    ∃ secret, crowdedStore.find? .secret ⟨"credential-basic-eve-default", "default"⟩ = some secret ∧
      UserSecret.IsOf (userWith "eve" "third") secret := by
  have together : ∀ declared ∈ [crowdedRealm], declared.ns = outsideInstallation.ns :=
    List.forall_mem_singleton.2 rfl
  have distinct : ((declaredUsers [crowdedRealm]).map fun entry =>
      (entry.1.realmName, entry.2.username)).Nodup := by decide
  have declares : userWith "eve" "third" ∈ crowdedRealm.spec.realm.users :=
    List.mem_of_getElem? (i := 2) rfl
  obtain ⟨secret, found, -, own⟩ := user_secret_is_own_unless_shared passes_crowdedRealm together
    distinct blank_secretless (List.forall_mem_singleton.2 List.mem_cons_self) crowdedRealm
    List.mem_cons_self (userWith "eve" "third") declares (by decide)
  refine ⟨secret, found, own fun other namesake listed same_key => ?_⟩
  obtain ⟨mem, declares⟩ := mem_declaredUsers.1 listed
  rw [List.mem_singleton] at mem
  subst mem
  simp only [crowdedRealm, List.mem_cons, List.not_mem_nil, or_false] at declares
  rcases declares with rfl | rfl | rfl
  · exact absurd same_key (by decide)
  · exact absurd same_key (by decide)
  · rfl

/-- Another one has to do with the credentials of the first one. -/
theorem second_user_has_no_secret_of_his_own :
    ¬ ∀ (realms : List KeycloakRealm) (kc : Keycloak) (start finish : Store)
      (outcomes : List (KeycloakRealm × Except OperatorError Requeue)),
      RealmPasses realms start outcomes finish →
      (∀ declared ∈ realms, declared.ns = kc.ns) →
      ((declaredUsers realms).map fun entry => (entry.1.realmName, entry.2.username)).Nodup →
      (∀ key secret, start.find? .secret key = some secret →
        key = AdminSecret.key kc ∨ key = DatabaseSecret.key kc) →
      (∀ declared ∈ realms, (declared, .ok (.after 60)) ∈ outcomes) →
      ∀ declared ∈ realms, ∀ user ∈ declared.spec.realm.users,
        ∃ secret, finish.find? .secret (UserSecret.key declared user kc) = some secret ∧
          UserSecret.IsOf user secret := by
  intro own
  obtain ⟨secret, found, is_his⟩ := own [crowdedRealm] outsideInstallation secretless crowdedStore _
    passes_crowdedRealm (List.forall_mem_singleton.2 rfl) (by decide) blank_secretless
    (List.forall_mem_singleton.2 List.mem_cons_self) crowdedRealm List.mem_cons_self
    (userWith "b-c" "second") (List.mem_of_getElem? (i := 1) rfl)
  have first_name : (crowdedStore.find? .secret (UserSecret.key crowdedRealm
      (userWith "b-c" "second") outsideInstallation)).bind
        (fun secret : Secret => secret.data.bind (·.get? "username")) =
      some (Utf8.encode "b_c") := by rfl
  rw [found] at first_name
  have same : some (Utf8.encode "b-c") = some (Utf8.encode "b_c") :=
    is_his.username.symm.trans first_name
  exact absurd same (by decide)

end Pass

end IdentityOperator
