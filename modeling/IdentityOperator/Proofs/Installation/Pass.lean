import IdentityOperator.Pass.Installation
import IdentityOperator.Proofs.Installation.Part
import IdentityOperator.Proofs.Pass.Run

/-!
A pass over one installation, against a cluster that answers every call.

Such a pass reads the store as it is, so that what it plans fits the store: it creates what is not
there and updates what is. It therefore succeeds, and the store after it is the one before with the
objects of the plan put into it (`Pass.run_convergeInstallation`). A password is made only where a
secret lacks one.

The parts of a pass are looked at against a cluster that may not serve every kind (`Pass.Serving`).
What it does not serve is read as missing, so that planning goes on, but writing it fails.
-/

namespace IdentityOperator

/-- A request for a new password. -/
def PassRequest.IsPassword : PassRequest → Prop
  | .password _ => True
  | _ => False

theorem Password.ofBytes_ne {content : List UInt8}
    (nonempty : content ≠ []) : Password.ofBytes content ≠ "" := by
  have chars : Base64.encodeChars .urlSafe content ≠ [] := by
    match content, nonempty with
    | [a], _ => simp [Base64.encodeChars]
    | [a, b], _ => simp [Base64.encodeChars]
    | a :: b :: c :: rest, _ => simp [Base64.encodeChars]
  simpa [Password.ofBytes, Base64.encode] using chars

namespace Snapshot

/-- Everything that a store has of an installation. -/
def ofStore (kc : Keycloak) (store : Store) : Snapshot where
  found part := store.find? part.kind (part.key kc)

theorem inPlace_ofStore (kc : Keycloak) (store : Store) : (ofStore kc store).InPlace kc :=
  fun _ _ found => Store.key_of_find? found

theorem ofStore_congr {kc other : Keycloak} (same : kc.declaration = other.declaration)
    (store : Store) : ofStore kc store = ofStore other store := by
  simp only [ofStore, Part.key_congr same]

end Snapshot

namespace Pass

open Program (Run)

/-! ## The environment -/

/-- Every call to the cluster is answered by the store, flags do not change, and a new password is
made of the number of bytes that was asked for. Nothing else touches the store. -/
def Reliable (capabilities : Capabilities) : PassEnvironment Store
  | .cluster call, store, answer, after => store.perform call = (answer, after)
  | .flag key, store, answer, after => answer = capabilities.get key ∧ after = store
  | .password bytes, store, answer, after =>
    (∃ content : List UInt8, content.length = bytes ∧ answer = Password.ofBytes content) ∧
      after = store
  | _, store, _, after => after = store

/-- Answers of a reliable cluster, with a password of as many zeros. -/
def serveReliably (capabilities : Capabilities) :
    (request : PassRequest) → Store → request.Answer × Store
  | .cluster call, store => store.perform call
  | .flag key, store => (capabilities.get key, store)
  | .password bytes, store => (Password.ofBytes (List.replicate bytes 0), store)
  | .patchKeycloakStatus .., store | .patchRealmStatus .., store | .patchFinalizers .., store =>
    (.ok (), store)
  | .login _, store => (.error (.http ""), store)
  | .admin _ _, store => (.error (.http ""), store)
  | .now, store => ("", store)

theorem reliable_serveReliably (capabilities : Capabilities) (request : PassRequest)
    (store : Store) :
    Reliable capabilities request store (serveReliably capabilities request store).1
      (serveReliably capabilities request store).2 := by
  cases request with
  | flag key => exact ⟨rfl, rfl⟩
  | password bytes => exact ⟨⟨List.replicate bytes 0, List.length_replicate, rfl⟩, rfl⟩
  | _ => rfl

theorem total_reliable (capabilities : Capabilities) : (Reliable capabilities).Total :=
  fun request store => ⟨_, _, reliable_serveReliably capabilities request store⟩

/-- The cluster serves some kinds and not others. It answers a call about a kind that it does not
serve by saying so; the rest is reliable. -/
def Serving (served : Kind → Bool) (capabilities : Capabilities) : PassEnvironment Store
  | .cluster call, store, answer, after =>
    if served call.kind then store.perform call = (answer, after)
    else (∃ text, answer = .error (.kindNotRegistered text)) ∧ after = store
  | request, store, answer, after => Reliable capabilities request store answer after

theorem serving_all (capabilities : Capabilities) :
    Serving (fun _ => true) capabilities = Reliable capabilities := by
  funext request store answer after
  cases request with
  | cluster call =>
    unfold Serving
    exact if_pos rfl
  | _ => rfl

variable {served : Kind → Bool} {capabilities : Capabilities} {before after : Store}
  {events : List PassEvent} {kc : Keycloak} {profiles : Profiles}

theorem Serving.performed {call : ClusterCall} {answer : call.Answer}
    (answered : Serving served capabilities (.cluster call) before answer after)
    (is_served : served call.kind = true) : before.perform call = (answer, after) := by
  have cases : if served call.kind then before.perform call = (answer, after)
      else (∃ text, answer = .error (.kindNotRegistered text)) ∧ after = before := answered
  rwa [if_pos is_served] at cases

theorem Serving.refused {call : ClusterCall} {answer : call.Answer}
    (answered : Serving served capabilities (.cluster call) before answer after)
    (unserved : served call.kind = false) :
    (∃ text, answer = .error (.kindNotRegistered text)) ∧ after = before := by
  have cases : if served call.kind then before.perform call = (answer, after)
      else (∃ text, answer = .error (.kindNotRegistered text)) ∧ after = before := answered
  rwa [if_neg (by simp [unserved])] at cases

/-! ## Reading -/

theorem run_installationFlags {flags : InstallationFlags}
    (run : Run (Serving served capabilities) installationFlags before events flags after) :
    flags = capabilities.installationFlags ∧ after = before ∧
      ∀ event ∈ events, ¬ event.request.IsPassword := by
  obtain ⟨_, _, _, rfl, ⟨rfl, rfl⟩, rest⟩ := run_ask_bind_iff.1 run
  obtain ⟨_, _, _, rfl, ⟨rfl, rfl⟩, rest₂⟩ := run_ask_bind_iff.1 rest
  obtain ⟨_, _, _, rfl, ⟨rfl, rfl⟩, rest₃⟩ := run_ask_bind_iff.1 rest₂
  obtain ⟨_, _, _, rfl, ⟨rfl, rfl⟩, rest₄⟩ := run_ask_bind_iff.1 rest₃
  obtain ⟨rfl, rfl, rfl⟩ := Program.run_done_iff.1 rest₄
  refine ⟨rfl, rfl, ?_⟩
  simp [PassRequest.IsPassword]

/-- Reading leaves the store alone, and finds of each part it reads what the store has of it, as far as
its kind is served. -/
theorem run_readParts {parts : List Part} {state : Snapshot} {result : Tracked Snapshot}
    (run : Run (Serving served capabilities) (readParts kc state parts) before events result
      after) :
    ∃ found, result.2 = .ok found ∧ result.1.declaration = kc.declaration ∧ after = before ∧
      (∀ part, found.found part =
        if part ∈ parts ∧ served part.kind = true then
          (before.find? part.kind (part.key kc)).or (state.found part)
        else state.found part) ∧
      ∀ event ∈ events, ¬ event.request.IsPassword := by
  induction parts generalizing kc state events with
  | nil =>
    obtain ⟨rfl, rfl, rfl⟩ := Program.run_done_iff.1 run
    exact ⟨state, rfl, rfl, rfl, by simp, by simp⟩
  | cons part parts ih =>
    obtain ⟨answer, middle, later, rfl, answered, rest⟩ := run_ask_bind_iff.1 run
    cases is_served : served part.kind with
    | false =>
      obtain ⟨⟨text, rfl⟩, rfl⟩ := answered.refused is_served
      obtain ⟨found, result_eq, declared, rfl, found_eq, quiet⟩ := ih rest
      refine ⟨found, result_eq, declared, rfl, fun other => ?_, List.forall_mem_cons.2 ⟨id, quiet⟩⟩
      rw [found_eq]
      by_cases same : other = part
      · subst same
        simp [is_served]
      · simp [same]
    | true =>
      have performed := answered.performed is_served
      cases live : before.find? part.kind (part.key kc) with
      | none =>
        cases (Store.perform_get_of_none live).symm.trans performed
        obtain ⟨found, result_eq, declared, rfl, found_eq, quiet⟩ := ih rest
        refine ⟨found, result_eq, declared, rfl, fun other => ?_,
          List.forall_mem_cons.2 ⟨id, quiet⟩⟩
        rw [found_eq]
        by_cases same : other = part
        · subst same
          simp [live]
        · simp [same]
      | some object =>
        cases (Store.perform_get_of_some live).symm.trans performed
        obtain ⟨found, result_eq, declared, rfl, found_eq, quiet⟩ := ih rest
        have tracked : ∀ name : String, (if part.isTracked kc then
            kc.trackSecondary part.kind.name name else kc).declaration = kc.declaration := by
          intro name
          split <;> rfl
        refine ⟨found, result_eq, declared.trans (tracked _), rfl, fun other => ?_,
          List.forall_mem_cons.2 ⟨id, quiet⟩⟩
        rw [found_eq, Part.key_congr (tracked _)]
        by_cases same : other = part
        · subst same
          simp [live, is_served]
        · simp [same, Snapshot.found_put_of_ne state object same]

theorem run_readSnapshot {result : Tracked Snapshot}
    (run : Run (Serving served capabilities) (readSnapshot kc) before events result after) :
    ∃ found, result.2 = .ok found ∧ result.1.declaration = kc.declaration ∧ after = before ∧
      (∀ part : Part, part.isRead kc capabilities.installationFlags = true →
        found.found part =
          if served part.kind then (Snapshot.ofStore kc before).found part else none) ∧
      ∀ event ∈ events, ¬ event.request.IsPassword := by
  obtain ⟨first, flags, middle, second, rfl, flagRun, rest⟩ := Program.run_bind_iff.1 run
  obtain ⟨rfl, rfl, flags_quiet⟩ := run_installationFlags flagRun
  obtain ⟨found, result_eq, declared, rfl, found_eq, quiet⟩ := run_readParts rest
  refine ⟨found, result_eq, declared, rfl, fun part isRead => ?_, fun event mem => ?_⟩
  · have mem : part ∈ Part.read kc capabilities.installationFlags := by
      refine List.mem_filter.2 ⟨?_, isRead⟩
      cases part <;> decide
    rw [found_eq]
    simp only [mem, true_and, Option.or_none]
    rfl
  · rcases List.mem_append.1 mem with mem | mem
    · exact flags_quiet event mem
    · exact quiet event mem

/-! ## Planning -/

/-- A password that is needed is not empty; one that is not needed is not asked for. -/
theorem run_passwordIf {needed : Bool} {bytes : Nat} {password : String} (some_bytes : bytes ≠ 0)
    (run : Run (Serving served capabilities) (passwordIf needed bytes) before events password
      after) :
    after = before ∧ (needed = true → password ≠ "") ∧ (needed = false → events = []) := by
  cases needed with
  | true =>
    obtain ⟨rfl, ⟨content, rfl, rfl⟩, rfl⟩ := run_ask_iff.1 run
    refine ⟨rfl, fun _ => Password.ofBytes_ne ?_, by simp⟩
    exact List.ne_nil_of_length_pos (Nat.pos_of_ne_zero some_bytes)
  | false =>
    obtain ⟨rfl, rfl, rfl⟩ := Program.run_done_iff.1 run
    exact ⟨rfl, by simp, fun _ => rfl⟩

/-- The plan is made from a blueprint with enough passwords, and none is made for nothing. -/
theorem run_planInstallation {state : Snapshot} {plan : Plan}
    (run : Run (Serving served capabilities) (planInstallation profiles kc state) before events plan
      after) :
    ∃ b : Blueprint, b.kc = kc ∧ b.profiles = profiles ∧ b.databaseSecret = state.databaseSecret ∧
      b.Suffices state ∧
      plan = (Part.wanted kc capabilities.installationFlags).map (Part.action b state) ∧
      after = before ∧
      (state.needsAdminPassword = false → state.needsDatabasePassword kc = false →
        ∀ event ∈ events, ¬ event.request.IsPassword) := by
  obtain ⟨first, flags, middle, second, rfl, flagRun, rest⟩ := Program.run_bind_iff.1 run
  obtain ⟨rfl, rfl, flags_quiet⟩ := run_installationFlags flagRun
  obtain ⟨third, admin, later, fourth, rfl, adminRun, rest₂⟩ := Program.run_bind_iff.1 rest
  obtain ⟨rfl, admin_made, admin_quiet⟩ := run_passwordIf (by decide) adminRun
  obtain ⟨fifth, database, last, sixth, rfl, databaseRun, rest₃⟩ :=
    Program.run_bind_iff.1 rest₂
  obtain ⟨rfl, database_made, database_quiet⟩ := run_passwordIf (by decide) databaseRun
  obtain ⟨rfl, rfl, rfl⟩ := Program.run_done_iff.1 rest₃
  refine ⟨⟨kc, profiles, ⟨admin, database⟩, state.databaseSecret⟩, rfl, rfl, rfl,
    ⟨admin_made, database_made⟩, rfl, rfl, fun no_admin no_database => ?_⟩
  rw [admin_quiet no_admin, database_quiet no_database, List.append_nil, List.append_nil,
    List.append_nil]
  exact flags_quiet

/-- Read an installation and plan for what is there; nothing is applied yet. -/
def readAndPlan (profiles : Profiles) (kc : Keycloak) : Asking (Tracked (Snapshot × Plan)) := do
  let (kc, found) ← readSnapshot kc
  match found with
  | .error e => pure (kc, .error e)
  | .ok state =>
    let plan ← planInstallation profiles kc state
    pure (kc, .ok (state, plan))

/-- What comes after the planning: the plan is applied, and then it is seen whether the installation
is ready. -/
def carryOut (kc : Keycloak) (state : Snapshot) (plan : Plan) :
    Asking (Tracked InstallationOutcome) := do
  match ← (applyInstallation kc plan).run with
  | .error e => pure (kc, .error e)
  | .ok _ =>
    let routeSupported ← ask (.flag .route)
    pure (kc, .ok ⟨state.isReady kc routeSupported, state.externalUrl⟩)

/-- A pass over an installation of the operator's own reads and plans, and then carries out the
plan. -/
theorem convergeInstallation_eq (internal : kc.spec.external.enabled = false) :
    convergeInstallation profiles kc = (do
      let (kc, planned) ← readAndPlan profiles kc
      match planned with
      | .error e => pure (kc, .error e)
      | .ok (state, plan) => carryOut kc state plan) := by
  rw [convergeInstallation, if_neg (by simp [internal]), readAndPlan, bind_assoc]
  refine congrArg (readSnapshot kc >>= ·) (funext fun ⟨tracked, found⟩ => ?_)
  cases found with
  | error e => rfl
  | ok state =>
    simp only [bind_assoc]
    rfl

/-- A plan that has been made for what is seen of an installation in a store. -/
structure Planned (served : Kind → Bool) (flags : InstallationFlags) (profiles : Profiles)
    (kc : Keycloak) (store : Store) (b : Blueprint) (state : Snapshot) : Prop where
  declared : b.kc.declaration = kc.declaration
  profiles_eq : b.profiles = profiles
  secret_eq : b.databaseSecret = state.databaseSecret
  enough : b.Suffices state
  seen : ∀ part ∈ Part.wanted b.kc flags, state.found part =
    if served part.kind then (Snapshot.ofStore b.kc store).found part else none

/-- Of what is served the plan knows everything. -/
theorem Planned.agrees {flags : InstallationFlags} {b : Blueprint} {state : Snapshot}
    (planned : Planned served flags profiles kc before b state)
    (are_served : ∀ part ∈ Part.wanted b.kc flags, served part.kind = true) :
    ∀ part ∈ Part.wanted b.kc flags,
      state.found part = (Snapshot.ofStore b.kc before).found part := by
  intro part wanted
  rw [planned.seen part wanted, if_pos (are_served part wanted)]

/-- Reading and planning succeed and leave the store alone, and make no password where no secret lacks
one. -/
theorem run_readAndPlan {result : Tracked (Snapshot × Plan)}
    (run : Run (Serving served capabilities) (readAndPlan profiles kc) before events result after) :
    ∃ b state, Planned served capabilities.installationFlags profiles kc before b state ∧
      result = (b.kc, .ok (state,
        (Part.wanted b.kc capabilities.installationFlags).map (Part.action b state))) ∧
      after = before ∧
      (state.needsAdminPassword = false → state.needsDatabasePassword b.kc = false →
        ∀ event ∈ events, ¬ event.request.IsPassword) := by
  obtain ⟨first, ⟨tracked, read⟩, middle, second, rfl, readRun, rest⟩ := Program.run_bind_iff.1 run
  obtain ⟨state, rfl, declared, rfl, state_eq, read_quiet⟩ := run_readSnapshot readRun
  obtain ⟨third, plan, later, fourth, rfl, planRun, rest₂⟩ := Program.run_bind_iff.1 rest
  obtain ⟨b, rfl, rfl, secret_eq, enough, rfl, rfl, plan_quiet⟩ := run_planInstallation planRun
  obtain ⟨rfl, rfl, rfl⟩ := Program.run_done_iff.1 rest₂
  refine ⟨b, state, ⟨declared, rfl, secret_eq, enough, fun part wanted => ?_⟩, rfl, rfl,
    fun no_admin no_database event mem => ?_⟩
  -- Reading has noted what it found in the status, and the declaration is as it was.
  · rw [Part.wanted_congr declared] at wanted
    rw [Snapshot.ofStore_congr declared]
    exact state_eq part (Part.isRead_of_isWanted (List.mem_filter.1 wanted).2)
  · rw [List.append_nil] at mem
    rcases List.mem_append.1 mem with mem | mem
    · exact read_quiet event mem
    · exact plan_quiet no_admin no_database event mem

/-! ## Applying -/

/-- An action that finds the store as its plan expects it: nothing where it creates, something where
it updates. -/
def Fits (store : Store) : Action → Prop
  | .create o _ => store.contains o.kind o.key = false
  | .update o _ _ => store.contains o.kind o.key = true
  | _ => False

theorem Fits.put {store : Store} {action : Action} {o : Object} (fits : Fits store action)
    (elsewhere : ∀ written, action.written? = some written →
      Store.isAt written.kind written.key o = false) : Fits (store.put o) action := by
  cases action with
  | create written msg => exact (store.contains_put_of_ne (elsewhere written rfl)).trans fits
  | update written previous msg =>
    exact (store.contains_put_of_ne (elsewhere written rfl)).trans fits
  | _ => exact fits

theorem run_applyAction {session : Option Session} {action : Action}
    {result : Except OperatorError Unit} (fits : Fits before action)
    (is_served : ∀ o, action.written? = some o → served o.kind = true)
    (run : Run (Serving served capabilities) (applyAction session action).run before events result
      after) :
    ∃ o, action.written? = some o ∧ result = .ok () ∧ after = before.put o ∧
      ∀ event ∈ events, ¬ event.request.IsPassword := by
  cases action with
  | create o msg =>
    obtain ⟨rfl, answered⟩ := run_clusterCall_iff.1 run
    cases (Store.perform_create_of_missing fits).symm.trans (answered.performed (is_served o rfl))
    exact ⟨o, rfl, rfl, rfl, by simp [PassRequest.IsPassword]⟩
  | update o previous msg =>
    obtain ⟨rfl, answered⟩ := run_clusterCall_iff.1 run
    cases (Store.perform_update_of_contains fits).symm.trans (answered.performed (is_served o rfl))
    exact ⟨o, rfl, rfl, rfl, by simp [PassRequest.IsPassword]⟩
  | _ => exact fits.elim

/-- An object of a kind that is not served cannot be written. -/
theorem run_applyAction_refused {session : Option Session} {action : Action} {o : Object}
    {result : Except OperatorError Unit} (written : action.written? = some o)
    (unserved : served o.kind = false)
    (run : Run (Serving served capabilities) (applyAction session action).run before events result
      after) :
    (∃ text, result = .error (.kindNotRegistered text)) ∧ after = before := by
  cases action with
  | create o' msg =>
    cases written
    obtain ⟨rfl, answered⟩ := run_clusterCall_iff.1 run
    exact answered.refused unserved
  | update o' previous msg =>
    cases written
    obtain ⟨rfl, answered⟩ := run_clusterCall_iff.1 run
    exact answered.refused unserved
  | _ => cases written

/-- A plan that fits the store and is about kinds that are served succeeds, and puts its objects into
the store. -/
theorem run_applyPlan {session : Option Session} {plan : Plan}
    {result : Except OperatorError Unit} (fits : ∀ action ∈ plan, Fits before action)
    (are_served : ∀ o ∈ plan.filterMap Action.written?, served o.kind = true)
    (distinct : Store.DistinctPlaces (plan.filterMap Action.written?))
    (run : Run (Serving served capabilities) (applyPlan session plan).run before events result
      after) :
    result = .ok () ∧ after = before.putAll (plan.filterMap Action.written?) ∧
      ∀ event ∈ events, ¬ event.request.IsPassword := by
  induction plan generalizing before events with
  | nil =>
    obtain ⟨rfl, rfl, rfl⟩ := run_pure_iff.1 run
    exact ⟨rfl, rfl, by simp⟩
  | cons action plan ih =>
    have here := fits action List.mem_cons_self
    have is_served : ∀ o, action.written? = some o → served o.kind = true := fun o written =>
      are_served o (List.mem_filterMap.2 ⟨action, List.mem_cons_self, written⟩)
    rcases run_bind_iff.1 run with ⟨e, -, failed⟩ | ⟨first, _, middle, second, rfl, first_run, rest⟩
    · obtain ⟨_, _, impossible, _⟩ := run_applyAction here is_served failed
      cases impossible
    · obtain ⟨o, written, -, rfl, quiet⟩ := run_applyAction here is_served first_run
      rw [List.filterMap_cons_some written] at distinct are_served ⊢
      obtain ⟨apart, distinct⟩ := List.pairwise_cons.1 distinct
      -- The later actions write elsewhere, so that this write takes nothing from under them.
      have fits_later : ∀ action ∈ plan, Fits (before.put o) action := by
        intro action mem
        refine (fits action (List.mem_cons_of_mem _ mem)).put fun other other_written => ?_
        have differs := apart other (List.mem_filterMap.2 ⟨action, mem, other_written⟩)
        exact (Store.isAt_comm other o).trans differs
      obtain ⟨result_eq, after_eq, later_quiet⟩ :=
        ih fits_later (fun o mem => are_served o (List.mem_cons_of_mem _ mem)) distinct rest
      refine ⟨result_eq, after_eq, fun event mem => ?_⟩
      rcases List.mem_append.1 mem with mem | mem
      · exact quiet event mem
      · exact later_quiet event mem

/-! ## The pass -/

theorem fits_action {state : Snapshot} {store : Store} {b : Blueprint} {part : Part}
    (found_eq : state.found part = store.find? part.kind (part.key b.kc)) :
    Fits store (part.action b state) := by
  unfold Part.action
  rw [found_eq]
  cases live : store.find? part.kind (part.key b.kc) with
  | none =>
    show store.contains part.kind (⟨part.kind, part.fresh b⟩ : Object).key = false
    rw [Part.key_fresh]
    exact Store.find?_eq_none_iff.1 live
  | some x =>
    show store.contains part.kind (⟨part.kind, part.refreshed b x⟩ : Object).key = true
    rw [Part.key_refreshed, Store.key_of_find? live, ← Store.isSome_find?_iff, live]
    rfl

/-- The actions for some parts fit the store that they have been planned for, and they write the
objects of these parts, each to a place of its own. -/
theorem fits_actions {b : Blueprint} {state : Snapshot} {store : Store} {parts : List Part}
    (nodup : parts.Nodup)
    (agrees : ∀ part ∈ parts, state.found part = (Snapshot.ofStore b.kc store).found part) :
    (∀ action ∈ parts.map (Part.action b state), Fits store action) ∧
      (parts.map (Part.action b state)).filterMap Action.written? =
        parts.map (b.object (Snapshot.ofStore b.kc store)) ∧
      Store.DistinctPlaces ((parts.map (Part.action b state)).filterMap Action.written?) := by
  have written_eq : (parts.map (Part.action b state)).filterMap Action.written? =
      parts.map (b.object (Snapshot.ofStore b.kc store)) := by
    rw [Blueprint.filterMap_written?]
    refine List.map_congr_left fun part mem => ?_
    rw [Blueprint.object, Blueprint.object, agrees part mem]
  refine ⟨fun action mem => ?_, written_eq, ?_⟩
  · obtain ⟨part, part_mem, rfl⟩ := List.mem_map.1 mem
    exact fits_action (agrees part part_mem)
  · rw [written_eq]
    exact Blueprint.distinctPlaces_map (Snapshot.inPlace_ofStore b.kc store) nodup

/-- The plan for what the store has is applied in full. -/
theorem run_applyInstallation {b : Blueprint} {state : Snapshot}
    {result : Except OperatorError Bool} (managed : b.kc.spec.unmanaged = false)
    (agrees : ∀ part ∈ Part.wanted b.kc capabilities.installationFlags,
      state.found part = (Snapshot.ofStore b.kc before).found part)
    (are_served : ∀ part ∈ Part.wanted b.kc capabilities.installationFlags,
      served part.kind = true)
    (run : Run (Serving served capabilities) (applyInstallation b.kc
      ((Part.wanted b.kc capabilities.installationFlags).map (Part.action b state))).run before
      events result after) :
    result = .ok true ∧
      after = before.putAll
        (b.objects capabilities.installationFlags (Snapshot.ofStore b.kc before)) ∧
      ∀ event ∈ events, ¬ event.request.IsPassword := by
  obtain ⟨fits, written_eq, distinct⟩ := fits_actions (Part.nodup_wanted _ _) agrees
  have kinds_served : ∀ o ∈ ((Part.wanted b.kc capabilities.installationFlags).map
      (Part.action b state)).filterMap Action.written?, served o.kind = true := by
    rw [written_eq]
    intro o mem
    obtain ⟨part, wanted, rfl⟩ := List.mem_map.1 mem
    exact are_served part wanted
  rw [applyInstallation, if_neg (by simp [managed])] at run
  rcases run_bind_iff.1 run with ⟨e, -, failed⟩ | ⟨first, _, middle, second, rfl, first_run, rest⟩
  · obtain ⟨impossible, -⟩ := run_applyPlan fits kinds_served distinct failed
    cases impossible
  · obtain ⟨-, rfl, quiet⟩ := run_applyPlan fits kinds_served distinct first_run
    obtain ⟨rfl, rfl, rfl⟩ := run_pure_iff.1 rest
    exact ⟨rfl, by rw [written_eq]; rfl, by simpa using quiet⟩

/-- What a pass over a declaration makes of a store: it puts the objects of a blueprint into it that
has been made from what was there. -/
structure Effect (kc : Keycloak) (profiles : Profiles) (flags : InstallationFlags) (b : Blueprint)
    (before after : Store) : Prop where
  kc_eq : b.kc = kc
  profiles_eq : b.profiles = profiles
  secret_eq : b.databaseSecret = (Snapshot.ofStore kc before).databaseSecret
  enough : b.Suffices (Snapshot.ofStore kc before)
  after_eq : after = before.putAll (b.objects flags (Snapshot.ofStore kc before))

/-- A plan for a store that serves all that is wanted becomes an effect by putting its objects into the
store. -/
theorem Planned.effect {flags : InstallationFlags} {b : Blueprint} {state : Snapshot}
    (planned : Planned served flags profiles kc before b state)
    (are_served : ∀ part ∈ Part.wanted b.kc flags, served part.kind = true) :
    Effect kc.declaration profiles flags { b with kc := b.kc.declaration } before
      (before.putAll (b.objects flags (Snapshot.ofStore b.kc before))) := by
  have agrees := planned.agrees are_served
  have ofStore_eq := Snapshot.ofStore_congr
    (planned.declared.trans kc.declaration_declaration.symm) before
  have secret_found := agrees .databaseSecret (Part.mem_wanted rfl)
  refine ⟨planned.declared, planned.profiles_eq, ?_, ⟨fun needed => ?_, fun needed => ?_⟩, ?_⟩
  · rw [← ofStore_eq]
    exact planned.secret_eq.trans secret_found
  · rw [← ofStore_eq, Snapshot.needsAdminPassword,
      ← agrees .adminSecret (Part.mem_wanted rfl)] at needed
    exact planned.enough.admin needed
  · rw [← ofStore_eq, Snapshot.needsDatabasePassword, Snapshot.databaseSecret, ← secret_found]
      at needed
    exact planned.enough.database needed
  · rw [Blueprint.objects_declaration, ofStore_eq]

/-- A pass succeeds where everything that is wanted is served, and makes no password where no secret
lacks one. -/
theorem run_convergeInstallation_served {result : Tracked InstallationOutcome}
    (managed : kc.spec.unmanaged = false) (internal : kc.spec.external.enabled = false)
    (are_served : ∀ part ∈ Part.wanted kc capabilities.installationFlags,
      served part.kind = true)
    (run : Run (Serving served capabilities) (convergeInstallation profiles kc) before events result
      after) :
    (∃ b, Effect kc.declaration profiles capabilities.installationFlags b before after) ∧
      (∃ outcome, result.2 = .ok outcome) ∧
      ((Snapshot.ofStore kc.declaration before).needsAdminPassword = false →
        (Snapshot.ofStore kc.declaration before).needsDatabasePassword kc.declaration = false →
        ∀ event ∈ events, ¬ event.request.IsPassword) := by
  rw [convergeInstallation_eq internal] at run
  obtain ⟨first, _, middle, second, rfl, plan_run, rest⟩ := Program.run_bind_iff.1 run
  obtain ⟨b, state, planned, rfl, rfl, plan_quiet⟩ := run_readAndPlan plan_run
  obtain ⟨third, applied, last, fourth, rfl, applyRun, rest₂⟩ := Program.run_bind_iff.1 rest
  have spec_eq : b.kc.spec = kc.spec := (congrArg Keycloak.spec planned.declared :)
  rw [← Part.wanted_congr planned.declared] at are_served
  have agrees := planned.agrees are_served
  obtain ⟨rfl, rfl, apply_quiet⟩ :=
    run_applyInstallation (spec_eq ▸ managed) agrees are_served applyRun
  obtain ⟨_, _, _, rfl, ⟨rfl, rfl⟩, rest₃⟩ := run_ask_bind_iff.1 rest₂
  obtain ⟨rfl, rfl, rfl⟩ := Program.run_done_iff.1 rest₃
  refine ⟨⟨_, planned.effect are_served⟩, ⟨_, rfl⟩, fun no_admin no_database => ?_⟩
  rw [← Snapshot.ofStore_congr (planned.declared.trans kc.declaration_declaration.symm)]
    at no_admin no_database
  rw [Snapshot.needsAdminPassword, ← agrees .adminSecret (Part.mem_wanted rfl)] at no_admin
  rw [Snapshot.needsDatabasePassword, Snapshot.databaseSecret,
    ← agrees .databaseSecret (Part.mem_wanted rfl)] at no_database
  have plan_quiet := plan_quiet no_admin
    ((DatabaseSecret.needsPassword_congr spec_eq _).trans no_database)
  simp only [List.mem_append, List.mem_cons, List.not_mem_nil, or_false]
  rintro event (mem | mem | rfl)
  · exact plan_quiet event mem
  · exact apply_quiet event mem
  · exact id

/-- A pass against a reliable cluster succeeds, and makes no password where no secret lacks one. -/
theorem run_convergeInstallation {result : Tracked InstallationOutcome}
    (managed : kc.spec.unmanaged = false) (internal : kc.spec.external.enabled = false)
    (run : Run (Reliable capabilities) (convergeInstallation profiles kc) before events result
      after) :
    (∃ b, Effect kc.declaration profiles capabilities.installationFlags b before after) ∧
      (∃ outcome, result.2 = .ok outcome) ∧
      ((Snapshot.ofStore kc.declaration before).needsAdminPassword = false →
        (Snapshot.ofStore kc.declaration before).needsDatabasePassword kc.declaration = false →
        ∀ event ∈ events, ¬ event.request.IsPassword) := by
  rw [← serving_all] at run
  exact run_convergeInstallation_served managed internal (fun _ _ => rfl) run

end Pass

end IdentityOperator
