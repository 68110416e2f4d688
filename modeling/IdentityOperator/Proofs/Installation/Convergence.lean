import IdentityOperator.Proofs.Installation.Pass
import Mathlib.Tactic.Choose

/-!
Passes over one installation come to rest.

The first pass brings every object in line, but it builds the stateful set from the database secret
as it found it, which the same pass completes. The second pass finds the secret completed and brings
the stateful set in line with it. From then on a pass writes what is there already, and no secret
lacks a password: `PassSeries.settled_after_two_passes`. Nothing but the stateful set takes the second
pass.
-/

namespace IdentityOperator.Pass

/-! ## Consecutive passes -/

section Consecutive

variable {kc : Keycloak} {profiles : Profiles} {flags : InstallationFlags}
  {b later last : Blueprint} {before after afterwards final : Store} {part : Part}

theorem Effect.holds (effect : Effect kc profiles flags b before after)
    (wanted : part ∈ Part.wanted kc flags) :
    after.Holds (b.object (Snapshot.ofStore kc before) part) := by
  obtain ⟨rfl, -, -, -, rfl⟩ := effect
  exact Store.holds_putAll
    (Blueprint.distinctPlaces_objects (Snapshot.inPlace_ofStore b.kc before) flags)
    (List.mem_map_of_mem wanted) before

/-- What a pass has written is what the next one finds. -/
theorem Effect.found_eq (effect : Effect kc profiles flags b before after)
    (wanted : part ∈ Part.wanted kc flags) :
    (Snapshot.ofStore kc after).found part =
      some (part.written b ((Snapshot.ofStore kc before).found part)) := by
  have found := (effect.holds wanted).find?
  obtain ⟨rfl, -, -, -, -⟩ := effect
  rwa [Blueprint.key_object (Snapshot.inPlace_ofStore b.kc before)] at found

/-- The next pass writes it again, unless it is the stateful set. -/
theorem Effect.object_eq (first : Effect kc profiles flags b before after)
    (second : Effect kc profiles flags later after afterwards)
    (wanted : part ∈ Part.wanted kc flags) (part_ne : part ≠ .statefulSet) :
    later.object (Snapshot.ofStore kc after) part = b.object (Snapshot.ofStore kc before) part := by
  have kc_eq : later.kc = b.kc := second.kc_eq.trans first.kc_eq.symm
  have refreshed_eq := Part.refreshed_written kc_eq first.enough part_ne
  rw [Blueprint.object, first.found_eq wanted, Blueprint.object]
  exact congrArg (Object.mk part.kind) refreshed_eq

theorem Effect.found_unchanged (first : Effect kc profiles flags b before after)
    (second : Effect kc profiles flags later after afterwards)
    (wanted : part ∈ Part.wanted kc flags) (part_ne : part ≠ .statefulSet) :
    (Snapshot.ofStore kc afterwards).found part = (Snapshot.ofStore kc after).found part := by
  have kc_eq : later.kc = b.kc := second.kc_eq.trans first.kc_eq.symm
  rw [second.found_eq wanted, first.found_eq wanted]
  exact congrArg some (Part.refreshed_written kc_eq first.enough part_ne)

/-- Two passes after each other leave stores that differ in the stateful set at most. -/
theorem Effect.remove_statefulSet (first : Effect kc profiles flags b before after)
    (second : Effect kc profiles flags later after afterwards) :
    afterwards.remove .statefulSet (ServerStatefulSet.key kc) =
      after.remove .statefulSet (ServerStatefulSet.key kc) := by
  rw [second.after_eq]
  refine Store.remove_putAll fun o mem => ?_
  obtain ⟨part, wanted, rfl⟩ := List.mem_map.1 mem
  rw [second.kc_eq] at wanted
  by_cases part_eq : part = .statefulSet
  -- The stateful set is at the place that is left out; all else is put again as it is.
  · subst part_eq
    have in_place := Snapshot.inPlace_ofStore later.kc after
    rw [second.kc_eq] at in_place
    refine .inl (Store.isAt_iff.2 ⟨rfl, ?_⟩)
    rw [Blueprint.key_object (second.kc_eq ▸ in_place), second.kc_eq]
    rfl
  · rw [first.object_eq second wanted part_eq]
    exact .inr (first.holds wanted)

/-- A third pass changes nothing: the second one has found the database secret as the third one finds
it, so that the stateful set has been brought in line with it. -/
theorem Effect.fixed (first : Effect kc profiles flags b before after)
    (second : Effect kc profiles flags later after afterwards)
    (third : Effect kc profiles flags last afterwards final) : final = afterwards := by
  have held : ∀ o ∈ last.objects flags (Snapshot.ofStore kc afterwards), afterwards.Holds o := by
    intro o mem
    obtain ⟨part, wanted, rfl⟩ := List.mem_map.1 mem
    rw [third.kc_eq] at wanted
    by_cases part_eq : part = .statefulSet
    -- The second pass has built it from the database secret that the third one finds.
    · subst part_eq
      have secret_wanted : Part.databaseSecret ∈ Part.wanted kc flags :=
        List.mem_filter.2 ⟨by decide, rfl⟩
      have secret_eq : last.databaseSecret = later.databaseSecret := by
        rw [third.secret_eq, second.secret_eq]
        exact first.found_unchanged second secret_wanted (by decide)
      have same : last.object (Snapshot.ofStore kc afterwards) .statefulSet =
          later.object (Snapshot.ofStore kc after) .statefulSet := by
        rw [Blueprint.object, second.found_eq wanted, first.found_eq wanted, Blueprint.object,
          first.found_eq wanted]
        exact congrArg (Object.mk .statefulSet) (ServerStatefulSet.refreshed_refreshed
          (third.kc_eq.trans second.kc_eq.symm) (third.profiles_eq.trans second.profiles_eq.symm)
          secret_eq (ServerStatefulSet.isSome_spec_written _))
      rw [same]
      exact second.holds wanted
    · rw [second.object_eq third wanted part_eq]
      exact second.holds wanted
  rw [third.after_eq]
  exact Store.putAll_of_holds held

/-- After a pass no secret lacks a password. -/
theorem Effect.needs_no_password (effect : Effect kc profiles flags b before after) :
    (Snapshot.ofStore kc after).needsAdminPassword = false ∧
      (Snapshot.ofStore kc after).needsDatabasePassword kc = false := by
  have admin_wanted : Part.adminSecret ∈ Part.wanted kc flags :=
    List.mem_filter.2 ⟨by decide, rfl⟩
  have database_wanted : Part.databaseSecret ∈ Part.wanted kc flags :=
    List.mem_filter.2 ⟨by decide, rfl⟩
  constructor
  · rw [Snapshot.needsAdminPassword, effect.found_eq admin_wanted]
    exact AdminSecret.needsPassword_of_complete (AdminSecret.complete_written effect.enough)
  · rw [Snapshot.needsDatabasePassword, Snapshot.databaseSecret, effect.found_eq database_wanted]
    have settled := DatabaseSecret.settled_written effect.enough
    rw [effect.kc_eq] at settled
    exact DatabaseSecret.needsPassword_of_settled settled

end Consecutive

/-! ## Series of passes -/

/-- Passes over one declaration, each against the store that the one before has left. What is
reported about the installation may change between them. -/
structure PassSeries (capabilities : Capabilities) (profiles : Profiles) (kc : Keycloak) where
  declared : Nat → Keycloak
  alike : ∀ n, (declared n).declaration = kc.declaration
  stores : Nat → Store
  events : Nat → List PassEvent
  results : Nat → Tracked InstallationOutcome
  run : ∀ n, Program.Run (Reliable capabilities) (convergeInstallation profiles (declared n))
    (stores n) (events n) (results n) (stores (n + 1))

/-- There is a series from every store. -/
theorem exists_passSeries (capabilities : Capabilities) (profiles : Profiles) {kc : Keycloak}
    {declared : Nat → Keycloak} (alike : ∀ n, (declared n).declaration = kc.declaration)
    (start : Store) :
    ∃ series : PassSeries capabilities profiles kc,
      series.declared = declared ∧ series.stores 0 = start := by
  choose events results next run using fun n store =>
    Program.exists_run (total_reliable capabilities) (convergeInstallation profiles (declared n))
      store
  let stores : Nat → Store := Nat.rec start next
  exact ⟨⟨declared, alike, stores, fun n => events n (stores n), fun n => results n (stores n),
    fun n => run n (stores n)⟩, rfl, rfl⟩

namespace PassSeries

variable {capabilities : Capabilities} {profiles : Profiles} {kc : Keycloak}

/-- What is declared is the same for every pass. -/
theorem spec_eq (series : PassSeries capabilities profiles kc) (n : Nat) :
    (series.declared n).spec = kc.spec :=
  (congrArg Keycloak.spec (series.alike n) :)

/-- What a single pass of a series does. -/
theorem exists_effect (series : PassSeries capabilities profiles kc)
    (managed : kc.spec.unmanaged = false) (internal : kc.spec.external.enabled = false) (n : Nat) :
    (∃ b, Effect kc.declaration profiles capabilities.installationFlags b (series.stores n)
        (series.stores (n + 1))) ∧
      (∃ outcome, (series.results n).2 = .ok outcome) ∧
      ((Snapshot.ofStore kc.declaration (series.stores n)).needsAdminPassword = false →
        (Snapshot.ofStore kc.declaration (series.stores n)).needsDatabasePassword kc.declaration =
          false →
        ∀ event ∈ series.events n, ¬ event.request.IsPassword) := by
  have managed_now : (series.declared n).spec.unmanaged = false := by rw [series.spec_eq, managed]
  have internal_now : (series.declared n).spec.external.enabled = false := by
    rw [series.spec_eq, internal]
  have effect := run_convergeInstallation managed_now internal_now (series.run n)
  rwa [series.alike n] at effect

/-- From every store, passes succeed; after two of them the store stays as it is and no password is
made; and after the first one it stays as it is but for the stateful set. -/
theorem settled_after_two_passes (series : PassSeries capabilities profiles kc)
    (managed : kc.spec.unmanaged = false) (internal : kc.spec.external.enabled = false) :
    (∀ n, ∃ outcome, (series.results n).2 = .ok outcome) ∧
      (∀ n, 2 ≤ n → series.stores n = series.stores 2) ∧
      (∀ n, 2 ≤ n → ∀ event ∈ series.events n, ¬ event.request.IsPassword) ∧
      ∀ n, 1 ≤ n → (series.stores n).remove .statefulSet (ServerStatefulSet.key kc) =
        (series.stores 1).remove .statefulSet (ServerStatefulSet.key kc) := by
  have pass := series.exists_effect managed internal
  refine ⟨fun n => (pass n).2.1, fun n late => ?_, fun n late => ?_, fun n late => ?_⟩
  · induction late with
    | refl => rfl
    | step late ih =>
      obtain ⟨m, rfl⟩ := Nat.exists_eq_add_of_le' late
      obtain ⟨b, first⟩ := (pass m).1
      obtain ⟨later, second⟩ := (pass (m + 1)).1
      obtain ⟨last, third⟩ := (pass (m + 2)).1
      exact (first.fixed second third).trans ih
  · obtain ⟨m, rfl⟩ := Nat.exists_eq_add_of_le' late
    obtain ⟨b, effect⟩ := (pass (m + 1)).1
    obtain ⟨no_admin, no_database⟩ := effect.needs_no_password
    exact (pass (m + 2)).2.2 no_admin no_database
  · induction late with
    | refl => rfl
    | step late ih =>
      obtain ⟨m, rfl⟩ := Nat.exists_eq_add_of_le' late
      obtain ⟨b, first⟩ := (pass m).1
      obtain ⟨later, second⟩ := (pass (m + 1)).1
      exact (first.remove_statefulSet second).trans ih

/-- Such a series starts, for one, from a stateful set and a database secret with nothing in them. -/
theorem settled_after_two_passes_from_blank_objects :
    ∃ series : PassSeries {} {} {},
      series.stores 0 = ⟨[
        ⟨.statefulSet, ({ metadata := { name := some "keycloak" } } : StatefulSet)⟩,
        ⟨.secret, ({ metadata := { name := some "keycloak-db-secret" } } : Secret)⟩]⟩ ∧
      (∀ n, 2 ≤ n → series.stores n = series.stores 2) ∧
      ∀ n, 2 ≤ n → ∀ event ∈ series.events n, ¬ event.request.IsPassword := by
  have alike : ∀ n : Nat, ((fun _ => {} : Nat → Keycloak) n).declaration =
      ({} : Keycloak).declaration := fun _ => rfl
  obtain ⟨series, -, start⟩ := exists_passSeries {} {} alike ⟨[
    ⟨.statefulSet, ({ metadata := { name := some "keycloak" } } : StatefulSet)⟩,
    ⟨.secret, ({ metadata := { name := some "keycloak-db-secret" } } : Secret)⟩]⟩
  obtain ⟨-, fixed, quiet, -⟩ := settled_after_two_passes series rfl rfl
  exact ⟨series, start, fixed, quiet⟩

end PassSeries

end IdentityOperator.Pass
