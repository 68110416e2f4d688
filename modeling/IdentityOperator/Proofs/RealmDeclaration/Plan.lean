import IdentityOperator.Proofs.Pass.AdminCalls

/-!
What is done with an installation on behalf of a declared realm, and what is planned there.

A declaration that is being deleted has its realm removed. For a live one the realm is created where
it is missing, and then set up: secrets are handed out and redirections are configured. Where the realm
is found, no redirection is configured, and never is the realm of a live declaration removed.
-/

namespace IdentityOperator

/-- An installation that can be used: somebody else runs it, or it has been reported ready. -/
def Keycloak.IsUsable (kc : Keycloak) : Prop :=
  kc.spec.external.enabled = true ∨ ∃ status, kc.status = some status ∧ status.ready = true

theorem Keycloak.unusableReason?_eq_none_iff {kc : Keycloak} :
    kc.unusableReason? = none ↔ kc.IsUsable := by
  unfold unusableReason? IsUsable
  cases kc.spec.external.enabled <;> cases kc.status <;> simp

instance (kc : Keycloak) : Decidable kc.IsUsable :=
  decidable_of_iff _ Keycloak.unusableReason?_eq_none_iff

/-- A call that configures a redirection. -/
def AdminCall.Redirects (call : AdminCall) : Prop :=
  ∃ realm redirect, call = .configureRedirector realm redirect

/-- A redirection has been configured. -/
def PassEvent.Configures (realm : String) (redirect : RedirectorOverride) (event : PassEvent) :
    Prop :=
  ∃ session, event = ⟨.admin session (.configureRedirector realm redirect), .ok ()⟩

/-- A request that configures no redirection. -/
abbrev PassRequest.Redirectless (request : PassRequest) : Prop :=
  request.CallsOnly (¬ ·.Redirects)

/-- A request that does not call the admin API. -/
abbrev PassRequest.Callless (request : PassRequest) : Prop :=
  request.CallsOnly fun _ => False

/-- A request by which a brand new realm is set up. -/
def PassRequest.SetsUp : PassRequest → Prop
  | .cluster (.create _) | .admin _ (.createRealm _) | .admin _ (.configureRedirector ..) => True
  | _ => False

/-- An action by which a realm that has just been created is set up. -/
def Action.SetsUp : Action → Prop
  | .create .. | .configureRealm .. => True
  | _ => False

/-! ## What is planned -/

namespace KeycloakRealm

variable {declared : KeycloakRealm} {kc : Keycloak} {passwords : Nat → String}
  {state : RealmSnapshot}

/-- An installation holds up the pass: it cannot be used, and it is not to be passed over as one that
goes away together with the realm. -/
def WaitsFor (declared : KeycloakRealm) (kc : Keycloak) : Prop :=
  ¬ kc.IsUsable ∧ ¬ (declared.isTombstoned = true ∧ kc.metadata.isDeleting = true)

instance : Decidable (declared.WaitsFor kc) := inferInstanceAs (Decidable (_ ∧ _))

/-- What is done with an installation. -/
theorem instanceStep_cases (declared : KeycloakRealm) (kc : Keycloak) :
    (declared.instanceStep kc = .apply ∧ kc.IsUsable) ∨
      (declared.instanceStep kc = .skip ∧ ¬ kc.IsUsable ∧ ¬ declared.WaitsFor kc) ∨
      ((∃ reason, declared.instanceStep kc = .wait reason) ∧ declared.WaitsFor kc) := by
  simp only [WaitsFor, ← Keycloak.unusableReason?_eq_none_iff]
  unfold instanceStep
  cases kc.unusableReason? with
  | none => exact .inl ⟨rfl, rfl⟩
  | some reason =>
    by_cases leaving : declared.isTombstoned = true ∧ kc.metadata.isDeleting = true
    · simp [leaving]
    · simp [leaving]

theorem instanceStep_of_usable (usable : kc.IsUsable) : declared.instanceStep kc = .apply := by
  rw [instanceStep, Keycloak.unusableReason?_eq_none_iff.2 usable]

/-- The plan for a declaration that is being deleted, whatever is there. -/
theorem plan_of_tombstoned {declared : KeycloakRealm} (deleting : declared.isTombstoned = true)
    (kc : Keycloak) (passwords : Nat → String) (state : RealmSnapshot) :
    declared.plan kc passwords state =
      [.deleteRealm declared ("removing realm " ++ declared.qualified)] := by
  rw [plan, if_pos deleting]

/-- What is done with an installation on behalf of a declaration that is being deleted. -/
theorem instanceStep_of_tombstoned {declared : KeycloakRealm}
    (deleting : declared.isTombstoned = true) (kc : Keycloak) :
    (declared.instanceStep kc = .apply ∧ kc.IsUsable) ∨
      (declared.instanceStep kc = .skip ∧ ¬ kc.IsUsable ∧ kc.metadata.isDeleting = true) ∨
      ((∃ reason, declared.instanceStep kc = .wait reason) ∧ ¬ kc.IsUsable ∧
        kc.metadata.isDeleting = false) := by
  rcases declared.instanceStep_cases kc with applies | ⟨step, unusable, goes_on⟩ | ⟨step, waits⟩
  · exact .inl applies
  · have leaving : kc.metadata.isDeleting = true := by
      simpa [WaitsFor, unusable, deleting] using goes_on
    exact .inr (.inl ⟨step, unusable, leaving⟩)
  · exact .inr (.inr ⟨step, waits.1, by simpa [deleting] using waits.2⟩)

/-- The calls planned for a live declaration: none removes the realm, and redirections are only
configured where the realm is missing. -/
theorem calls_of_mem_plan (live : declared.isTombstoned = false) {action : Action}
    (planned : action ∈ declared.plan kc passwords state) {call : AdminCall}
    (called : action.Calls call) :
    call = .ping ∨ call = .createRealm declared.spec.realm ∨
      (state.realm = none ∧ call.Redirects) ∨
      call = .updateRealmGroups declared.spec.realm ∨ call = .updateRealm declared.spec.realm := by
  rw [plan, if_neg (by simp [live])] at planned
  simp only [List.mem_append, List.mem_ite_nil_left, List.mem_ite_nil_right,
    List.mem_singleton] at planned
  rcases planned with
    ((((rfl | ⟨-, rfl⟩) | secret) | ⟨brand_new, rfl⟩) | ⟨-, rfl⟩) | ⟨-, rfl⟩
  · exact .inl called
  · exact .inr (.inl called)
  · obtain ⟨_, -, _, _, rfl⟩ := create_of_mem_usersPlan secret
    exact called.elim
  · obtain ⟨redirect, -, rfl⟩ := called
    refine .inr (.inr (.inl ⟨?_, _, redirect, rfl⟩))
    simp_all
  · exact .inr (.inr (.inr (.inl called)))
  · exact .inr (.inr (.inr (.inr called)))

theorem not_deleteRealm_of_mem_plan (live : declared.isTombstoned = false) {action : Action}
    (planned : action ∈ declared.plan kc passwords state) {call : AdminCall}
    (called : action.Calls call) (name : String) : call ≠ .deleteRealm name := by
  rcases calls_of_mem_plan live planned called with rfl | rfl | ⟨-, _, _, rfl⟩ | rfl | rfl <;>
    rintro ⟨⟩

theorem not_redirects_of_mem_plan (live : declared.isTombstoned = false)
    (found : state.realm.isSome) {action : Action}
    (planned : action ∈ declared.plan kc passwords state) {call : AdminCall}
    (called : action.Calls call) : ¬ call.Redirects := by
  rcases calls_of_mem_plan live planned called with rfl | rfl | ⟨missing, -⟩ | rfl | rfl
  · rintro ⟨_, _, ⟨⟩⟩
  · rintro ⟨_, _, ⟨⟩⟩
  · simp [missing] at found
  · rintro ⟨_, _, ⟨⟩⟩
  · rintro ⟨_, _, ⟨⟩⟩

/-- Where the realm is missing the plan begins by creating it and setting it up. -/
theorem plan_of_missing (live : declared.isTombstoned = false) (kc : Keycloak)
    (passwords : Nat → String) (missing : state.realm = none) :
    ∃ setup rest, declared.plan kc passwords state = .ping "check if keycloak is available" ::
        .createRealm declared ("create realm " ++ declared.qualified) :: (setup ++ rest) ∧
      (∀ action ∈ setup, action.SetsUp) ∧
      (declared.spec.realmOverrides ≠ [] →
        .configureRealm declared "configure browser redirector" ∈ setup) := by
  have planned : declared.plan kc passwords state = .ping "check if keycloak is available" ::
      .createRealm declared ("create realm " ++ declared.qualified) ::
        ((declared.usersPlan kc state passwords ++
          (if declared.spec.realmOverrides.isEmpty then []
            else [.configureRealm declared "configure browser redirector"])) ++
          ((if declared.spec.realm.groups.isSome then
            [.updateRealmGroups declared ("update realm groups " ++ declared.qualified)] else []) ++
          (if declared.spec.realm.userFederationProviders.isSome then
            [.updateRealm declared ("update realm " ++ declared.qualified)] else []))) := by
    simp [plan, live, missing]
  refine ⟨_, _, planned, List.forall_mem_append.2 ⟨?_, ?_⟩, fun declares => by simp [declares]⟩
  · intro action secret
    obtain ⟨_, -, _, _, rfl⟩ := create_of_mem_usersPlan secret
    trivial
  · split <;> simp [Action.SetsUp]

end KeycloakRealm

end IdentityOperator
