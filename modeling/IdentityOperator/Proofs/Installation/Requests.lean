import IdentityOperator.Proofs.Installation.Careful

/-!
What a pass over one installation asks.

A pass looks up flags, asks for passwords, looks for the parts of its installation at their places, and
writes parts that are wanted. What it creates it has built from the declaration, and what it updates it
has refreshed from an object that it was given in the same pass. This holds whatever the pass is
answered (`Pass.asks_of_run`), so that each environment has only to add what its answers are like.
-/

namespace IdentityOperator

/-- A request to write an object of a kind. -/
def PassRequest.Puts (kind : Kind) : PassRequest → Prop
  | .cluster (.create o) | .cluster (.update o) => o.kind = kind
  | _ => False

/-- The cluster has handed out an object of a part of an installation. -/
def HandsOver (kc : Keycloak) (events : List PassEvent) (part : Part) (live : part.kind.Object) :
    Prop :=
  (⟨.cluster (.get part.kind (part.key kc)), .ok live⟩ : PassEvent) ∈ events

/-- Objects are built for an installation from what a pass has been given. -/
structure Blueprint.IsFor (b : Blueprint) (profiles : Profiles) (kc : Keycloak)
    (events : List PassEvent) : Prop where
  declared : b.kc.declaration = kc.declaration
  profiles_eq : b.profiles = profiles
  secret_given : ∀ secret, b.databaseSecret = some secret →
    HandsOver kc events .databaseSecret secret

namespace Pass

open Program (Run Only)

/-- The requests of a pass over an installation that has seen some events and plans with some flags. -/
inductive Asks (profiles : Profiles) (kc : Keycloak) (flags : InstallationFlags)
    (events : List PassEvent) : PassRequest → Prop
  | flag (key : CapabilityKey) : Asks profiles kc flags events (.flag key)
  | password (bytes : Nat) : Asks profiles kc flags events (.password bytes)
  | get (part : Part) : Asks profiles kc flags events (.cluster (.get part.kind (part.key kc)))
  | create {part : Part} {b : Blueprint} :
    part.isWanted kc flags = true → b.IsFor profiles kc events →
    Asks profiles kc flags events (.cluster (.create ⟨part.kind, part.fresh b⟩))
  | update {part : Part} {b : Blueprint} {live : part.kind.Object} :
    part.isWanted kc flags = true → b.IsFor profiles kc events → HandsOver kc events part live →
    Asks profiles kc flags events (.cluster (.update ⟨part.kind, part.refreshed b live⟩))

section Single

variable {profiles : Profiles} {kc : Keycloak} {flags : InstallationFlags} {events : List PassEvent}
  {o : Object}

theorem Asks.exists_of_update (asks : Asks profiles kc flags events (.cluster (.update o))) :
    ∃ part b live, part.isWanted kc flags = true ∧ Blueprint.IsFor b profiles kc events ∧
      HandsOver kc events part live ∧ o = ⟨part.kind, part.refreshed b live⟩ := by
  cases asks with
  | update wanted is_for given => exact ⟨_, _, _, wanted, is_for, given, rfl⟩

/-- What is written is an object of a part that is wanted. -/
theorem Asks.exists_of_puts {request : PassRequest} {kind : Kind}
    (asks : Asks profiles kc flags events request) (puts : request.Puts kind) :
    ∃ part : Part, part.isWanted kc flags = true ∧ part.kind = kind := by
  cases asks with
  | create wanted _ => exact ⟨_, wanted, puts⟩
  | update wanted _ _ => exact ⟨_, wanted, puts⟩
  | _ => exact puts.elim

theorem not_delete_of_asks {more : List PassEvent}
    (asked : ∀ event ∈ more, Asks profiles kc flags events event.request) :
    ∀ event ∈ more, ∀ o, event.request ≠ .cluster (.delete o) := by
  intro event mem o request_eq
  have asks := asked event mem
  rw [request_eq] at asks
  cases asks

end Single

section Runs

variable {σ : Type} {env : PassEnvironment σ} {before after : σ} {events : List PassEvent}
  {kc : Keycloak} {profiles : Profiles} {flags : InstallationFlags}

/-! ## Reading -/

/-- What reading comes to know it has been given at the places of the parts. -/
theorem run_readParts_given {state : Snapshot} {parts : List Part}
    {result : Tracked Snapshot} (run : Run env (readParts kc state parts) before events result after) :
    result.1.declaration = kc.declaration ∧
      (∀ event ∈ events, ∃ part : Part, event.request = .cluster (.get part.kind (part.key kc))) ∧
      ∀ found, result.2 = .ok found → ∀ part live, found.found part = some live →
        state.found part = some live ∨ HandsOver kc events part live := by
  induction parts generalizing kc state before events with
  | nil =>
    obtain ⟨rfl, rfl, rfl⟩ := Program.run_done_iff.1 run
    refine ⟨rfl, by simp, ?_⟩
    rintro found ⟨⟩ part live known
    exact .inl known
  | cons part parts ih =>
    obtain ⟨answer, middle, later, rfl, -, rest⟩ := run_ask_bind_iff.1 run
    cases answer with
    | ok object =>
      have tracked : (if part.isTracked kc then kc.trackSecondary part.kind.name
          (part.kind.metadata object).nameAny else kc).declaration = kc.declaration := by
        split <;> rfl
      obtain ⟨declared, asked, given⟩ := ih rest
      have key_eq : ∀ other : Part, other.key _ = other.key kc := Part.key_congr tracked
      refine ⟨declared.trans tracked, List.forall_mem_cons.2 ⟨⟨part, rfl⟩, fun event mem => ?_⟩, ?_⟩
      · obtain ⟨other, request_eq⟩ := asked event mem
        rw [key_eq] at request_eq
        exact ⟨other, request_eq⟩
      · intro found result_eq other live known
        unfold HandsOver at given ⊢
        rcases given found result_eq other live known with known | given
        · by_cases same : other = part
          · subst same
            cases (Snapshot.found_put_self state other object).symm.trans known
            exact .inr List.mem_cons_self
          · exact .inl ((Snapshot.found_put_of_ne state object same).symm.trans known)
        · rw [key_eq] at given
          exact .inr (List.mem_cons_of_mem _ given)
    | error e =>
      dsimp only at rest
      split at rest
      · obtain ⟨declared, asked, given⟩ := ih rest
        refine ⟨declared, List.forall_mem_cons.2 ⟨⟨part, rfl⟩, asked⟩, ?_⟩
        intro found result_eq other live known
        exact (given found result_eq other live known).imp_right (List.mem_cons_of_mem _)
      · obtain ⟨rfl, rfl, rfl⟩ := Program.run_done_iff.1 rest
        refine ⟨rfl, List.forall_mem_singleton.2 ⟨part, rfl⟩, ?_⟩
        rintro found ⟨⟩

theorem run_readSnapshot_given (profiles : Profiles) {result : Tracked Snapshot}
    (run : Run env (readSnapshot kc) before events result after) :
    result.1.declaration = kc.declaration ∧
      (∀ flags, ∀ event ∈ events, Asks profiles kc flags events event.request) ∧
      ∀ found, result.2 = .ok found → ∀ part live, found.found part = some live →
        HandsOver kc events part live := by
  obtain ⟨first, looked_up, middle, second, rfl, flags_run, parts_run⟩ := Program.run_bind_iff.1 run
  obtain ⟨declared, asked, given⟩ := run_readParts_given parts_run
  have only_flags : Only (fun request => ∃ key, request = .flag key) installationFlags :=
    only_installationFlags fun key => ⟨key, rfl⟩
  refine ⟨declared, fun flags => List.forall_mem_append.2
    ⟨fun event mem => ?_, fun event mem => ?_⟩, ?_⟩
  · obtain ⟨key, request_eq⟩ := only_flags.of_run flags_run event mem
    rw [request_eq]
    exact .flag key
  · obtain ⟨part, request_eq⟩ := asked event mem
    rw [request_eq]
    exact .get part
  · intro found result_eq part live known
    rcases given found result_eq part live known with nothing | given
    · cases nothing
    · exact List.mem_append_right _ given

/-! ## Planning -/

theorem Asks.mono {request : PassRequest} {more : List PassEvent}
    (asks : Asks profiles kc flags events request) (covers : events ⊆ more) :
    Asks profiles kc flags more request := by
  have still_for : ∀ {b : Blueprint}, b.IsFor profiles kc events → b.IsFor profiles kc more :=
    fun is_for => ⟨is_for.declared, is_for.profiles_eq, fun secret found =>
      covers (is_for.secret_given secret found)⟩
  cases asks with
  | flag key => exact .flag key
  | password bytes => exact .password bytes
  | get part => exact .get part
  | create wanted is_for => exact .create wanted (still_for is_for)
  | update wanted is_for given => exact .update wanted (still_for is_for) (covers given)

/-- A plan is made from what has been given before. -/
theorem run_readAndPlan_given {planned : Tracked (Snapshot × Plan)}
    (run : Run env (readAndPlan profiles kc) before events planned after) :
    planned.1.declaration = kc.declaration ∧
      (∀ flags, ∀ event ∈ events, Asks profiles kc flags events event.request) ∧
      ∀ state plan, planned.2 = .ok (state, plan) →
        (∀ part live, state.found part = some live → HandsOver kc events part live) ∧
        ∃ flags b, b.kc = planned.1 ∧ b.IsFor profiles kc events ∧
          plan = (Part.wanted planned.1 flags).map (Part.action b state) := by
  obtain ⟨reading, ⟨tracked, found⟩, middle, planning, rfl, read_run, rest⟩ :=
    Program.run_bind_iff.1 run
  obtain ⟨declared, read_asked, given⟩ := run_readSnapshot_given profiles read_run
  cases found with
  | error e =>
    obtain ⟨rfl, rfl, rfl⟩ := Program.run_done_iff.1 rest
    rw [List.append_nil]
    refine ⟨declared, read_asked, ?_⟩
    rintro state plan ⟨⟩
  | ok state =>
    obtain ⟨asked, plan, _, _, rfl, plan_run, rest⟩ := Program.run_bind_iff.1 rest
    obtain ⟨rfl, rfl, rfl⟩ := Program.run_done_iff.1 rest
    have only_plan : ∀ flags, Only (Asks profiles kc flags (reading ++ (asked ++ [])))
        (planInstallation profiles tracked state) :=
      fun flags => only_planInstallation .flag .password profiles tracked state
    refine ⟨declared, fun flags => List.forall_mem_append.2
      ⟨fun event mem => ?_, fun event mem => ?_⟩, ?_⟩
    · exact (read_asked flags event mem).mono (List.subset_append_left _ _)
    · rw [List.append_nil] at mem
      exact (only_plan flags).of_run plan_run event mem
    · rintro state' plan' ⟨⟩
      have given_before : ∀ part live, state.found part = some live →
          HandsOver kc (reading ++ (asked ++ [])) part live := fun part live known =>
        List.mem_append_left _ (given state rfl part live known)
      obtain ⟨flags, b, rfl, profiles_eq, secret_eq, plan_eq⟩ :=
        (returns_planInstallation profiles tracked state).of_run plan_run
      refine ⟨given_before, flags, b, rfl, ⟨declared, profiles_eq, ?_⟩, plan_eq⟩
      intro secret found
      rw [secret_eq] at found
      exact given_before .databaseSecret secret found

/-! ## Applying -/

/-- An action for a wanted part asks for what has been built, or for what has been refreshed. -/
theorem only_applyAction_action {b : Blueprint} {state : Snapshot} {part : Part}
    (session : Option Session) (wanted : part.isWanted kc flags = true)
    (is_for : b.IsFor profiles kc events)
    (given : ∀ part live, state.found part = some live → HandsOver kc events part live) :
    Only (Asks profiles kc flags events) (applyAction session (part.action b state)).run := by
  cases found : state.found part with
  | none =>
    rw [Part.action_of_none found]
    exact only_ask (.create wanted is_for)
  | some live =>
    rw [Part.action_of_some found]
    exact only_ask (.update wanted is_for (given part live found))

theorem only_carryOut {b : Blueprint} {state : Snapshot} (is_for : b.IsFor profiles kc events)
    (given : ∀ part live, state.found part = some live → HandsOver kc events part live) :
    Only (Asks profiles kc flags events)
      (carryOut b.kc state ((Part.wanted b.kc flags).map (Part.action b state))) := by
  have only_apply : Only (Asks profiles kc flags events)
      (applyInstallation b.kc ((Part.wanted b.kc flags).map (Part.action b state))).run := by
    unfold applyInstallation
    split
    · trivial
    · refine only_bind (only_applyPlan fun action mem => ?_) fun _ => trivial
      obtain ⟨part, wanted, rfl⟩ := List.mem_map.1 mem
      rw [Part.wanted_congr is_for.declared] at wanted
      exact only_applyAction_action none (List.mem_filter.1 wanted).2 is_for given
  refine Program.only_bind only_apply fun applied => ?_
  cases applied with
  | error e => trivial
  | ok _ => exact Program.only_bind (only_ask (.flag _)) fun _ => trivial

/-! ## The pass -/

/-- Whatever a pass is answered, there are flags with which it has planned, so that it has asked nothing
but what such a pass asks. -/
theorem asks_of_run {result : Tracked InstallationOutcome}
    (run : Run env (convergeInstallation profiles kc) before events result after) :
    ∃ flags, ∀ event ∈ events, Asks profiles kc flags events event.request := by
  cases external : kc.spec.external.enabled with
  | true =>
    rw [convergeInstallation, if_pos external] at run
    obtain ⟨rfl, -, -⟩ := Program.run_done_iff.1 run
    exact ⟨{}, by simp⟩
  | false =>
    rw [convergeInstallation_eq external] at run
    obtain ⟨planning, ⟨tracked, planned⟩, middle, applying, rfl, plan_run, rest⟩ :=
      Program.run_bind_iff.1 run
    obtain ⟨-, plan_asked, made⟩ := run_readAndPlan_given plan_run
    cases planned with
    | error e =>
      obtain ⟨rfl, -, -⟩ := Program.run_done_iff.1 rest
      rw [List.append_nil]
      exact ⟨{}, plan_asked {}⟩
    | ok planned =>
      obtain ⟨state, plan⟩ := planned
      obtain ⟨given, flags, b, rfl, is_for, plan_eq⟩ := made state plan rfl
      rw [plan_eq] at rest
      refine ⟨flags, List.forall_mem_append.2 ⟨fun event mem => ?_, fun event mem => ?_⟩⟩
      · exact (plan_asked flags event mem).mono (List.subset_append_left _ _)
      · exact ((only_carryOut is_for given).of_run rest event mem).mono
          (List.subset_append_left _ _)

end Runs

end Pass

end IdentityOperator
