import IdentityOperator.Proofs.Installation.Abandoned
import IdentityOperator.Proofs.Installation.Convergence
import IdentityOperator.Proofs.Installation.NewPasswords
import Mathlib.Logic.Relation

/-!
Passes that are given up leave no trace.

Passes put the objects of an installation into the store in one order, so that after any number of
them, wherever each was given up, the first few parts have been brought in line and the others are as
they were (`Pass.Progress`). An object that was made by an earlier pass is brought in line like one
that has been there from the start (`Pass.Brought`). So two passes that come to their end leave the
same store as if none had been given up before, but for the passwords that had to be made:
`Pass.given_up_passes_leave_no_trace`.
-/

namespace IdentityOperator

open Relation (ReflTransGen)

namespace Pass

variable {capabilities : Capabilities} {profiles : Profiles} {kc : Keycloak}
  {flags : InstallationFlags} {start before middle between after whole : Store} {b later : Blueprint}
  {part : Part} {m : Nat} {content final other : (part : Part) → part.kind.Object}

/-! ## Objects that passes have made -/

/-- Passes have made such an object of a part; the first of them found the part as it is in a store. -/
inductive Brought (kc : Keycloak) (profiles : Profiles) (start : Store) (part : Part) :
    part.kind.Object → Prop
  | written {b : Blueprint} {state : Snapshot} :
    b.kc = kc → b.profiles = profiles → b.Suffices state →
    state.found part = start.find? part.kind (part.key kc) →
    Brought kc profiles start part (part.written b (state.found part))
  | refreshed {later : Blueprint} {x : part.kind.Object} :
    later.kc = kc → later.profiles = profiles → Brought kc profiles start part x →
    Brought kc profiles start part (part.refreshed later x)

namespace Brought

theorem key {x : part.kind.Object} (brought : Brought kc profiles start part x) :
    (⟨part.kind, x⟩ : Object).key = part.key kc := by
  induction brought with
  | written kc_eq _ _ found_eq =>
    subst kc_eq
    rw [found_eq]
    exact Part.key_written fun _ found => Store.key_of_find? found
  | refreshed _ _ _ ih => rw [Part.key_refreshed, ih]

/-- But for the stateful set, such an object is as the first pass has written it, and it stays so. -/
theorem exists_written {x : part.kind.Object} (brought : Brought kc profiles start part x)
    (part_ne : part ≠ .statefulSet) :
    (∃ b : Blueprint, b.kc = kc ∧ x = part.written b (start.find? part.kind (part.key kc))) ∧
      ∀ later : Blueprint, later.kc = kc → part.refreshed later x = x := by
  induction brought with
  | written kc_eq _ enough found_eq =>
    refine ⟨⟨_, kc_eq, by rw [found_eq]⟩, fun later later_eq => ?_⟩
    exact Part.refreshed_written (later_eq.trans kc_eq.symm) enough part_ne
  | refreshed later_eq _ _ ih =>
    obtain ⟨written, stays⟩ := ih
    rw [stays _ later_eq]
    exact ⟨written, stays⟩

/-- Another pass makes the same of every stateful set that passes have made. -/
theorem refreshed_statefulSet {x : Part.statefulSet.kind.Object}
    (brought : Brought kc profiles start Part.statefulSet x) (b_eq : b.kc = kc) :
    (StatefulSet.spec x).isSome ∧ ∀ later : Blueprint,
      Part.refreshed later .statefulSet x = Part.refreshed later .statefulSet
        (Part.written b .statefulSet
          (start.find? Part.statefulSet.kind (Part.statefulSet.key kc))) := by
  induction brought with
  | written kc_eq _ _ found_eq =>
    refine ⟨ServerStatefulSet.isSome_spec_written _, fun later => ?_⟩
    rw [found_eq]
    exact ServerStatefulSet.refreshed_written (kc_eq.trans b_eq.symm) _
  | refreshed _ _ _ ih =>
    obtain ⟨present, same⟩ := ih
    refine ⟨rfl, fun later => ?_⟩
    rw [ServerStatefulSet.refreshed_of_refreshed present]
    exact same later

end Brought

/-! ## How far passes have come -/

/-- Passes have brought the first few parts in line, and left the others as they are in a store. -/
structure Progress (kc : Keycloak) (profiles : Profiles) (flags : InstallationFlags) (start : Store)
    (m : Nat) (content : (part : Part) → part.kind.Object) (store : Store) : Prop where
  store_eq : store = start.putAll (Part.objects content ((Part.wanted kc flags).take m))
  brought : ∀ part ∈ (Part.wanted kc flags).take m, Brought kc profiles start part (content part)

theorem nodup_take_wanted (kc : Keycloak) (flags : InstallationFlags) (m : Nat) :
    ((Part.wanted kc flags).take m).Nodup :=
  (Part.nodup_wanted kc flags).sublist (List.take_sublist _ _)

namespace Progress

theorem refl (kc : Keycloak) (profiles : Profiles) (flags : InstallationFlags) (start : Store)
    (content : (part : Part) → part.kind.Object) :
    Progress kc profiles flags start 0 content start :=
  ⟨rfl, by simp⟩

theorem atPlaces (progress : Progress kc profiles flags start m content before) :
    Part.AtPlaces kc content ((Part.wanted kc flags).take m) :=
  fun part mem => (progress.brought part mem).key

theorem find?_of_mem (progress : Progress kc profiles flags start m content before)
    (mem : part ∈ (Part.wanted kc flags).take m) :
    before.find? part.kind (part.key kc) = some (content part) := by
  rw [progress.store_eq]
  exact progress.atPlaces.find?_of_mem (nodup_take_wanted kc flags m) mem start

theorem find?_of_not_mem (progress : Progress kc profiles flags start m content before)
    (absent : part ∉ (Part.wanted kc flags).take m) :
    before.find? part.kind (part.key kc) = start.find? part.kind (part.key kc) := by
  rw [progress.store_eq]
  exact progress.atPlaces.find?_of_not_mem absent start

/-- A pass that is given up after some objects takes an installation as far as it has come itself, and
never back. -/
theorem giveUp (progress : Progress kc profiles flags start m content before)
    (effect : Effect kc profiles flags b before whole) (n : Nat) :
    Progress kc profiles flags start (max m n)
      (Part.overlaid (Part.wanted kc flags) n
        (fun part => part.written b (before.find? part.kind (part.key kc))) content)
      (before.putAll ((b.objects flags (Snapshot.ofStore kc before)).take n)) := by
  obtain ⟨rfl, profiles_eq, -, enough, -⟩ := effect
  have objects_eq : (b.objects flags (Snapshot.ofStore b.kc before)).take n =
      Part.objects (fun part => part.written b (before.find? part.kind (part.key b.kc)))
        ((Part.wanted b.kc flags).take n) := List.map_take.symm
  have at_places : Part.AtPlaces b.kc
      (fun part => part.written b (before.find? part.kind (part.key b.kc)))
      ((Part.wanted b.kc flags).take n) := fun part _ =>
    Part.key_written fun _ found => Store.key_of_find? found
  refine ⟨?_, fun part mem => ?_⟩
  · have put_twice := Part.AtPlaces.putAll_take progress.atPlaces at_places
      (Part.nodup_wanted b.kc flags) start
    rw [← progress.store_eq] at put_twice
    rw [objects_eq, put_twice]
  · rcases Part.mem_take_max mem with mem | ⟨absent, mem⟩
    · rw [Part.overlaid_of_mem mem]
      by_cases made : part ∈ (Part.wanted b.kc flags).take m
      · rw [progress.find?_of_mem made]
        exact .refreshed rfl profiles_eq (progress.brought part made)
      · exact .written rfl profiles_eq enough (progress.find?_of_not_mem made)
    · rw [Part.overlaid_of_not_mem absent]
      exact progress.brought part mem

/-- A whole pass takes an installation to the end. -/
theorem finish (progress : Progress kc profiles flags start m content before)
    (effect : Effect kc profiles flags b before after) :
    ∃ content, Progress kc profiles flags start (Part.wanted kc flags).length content after ∧
      ∀ part ∈ Part.wanted kc flags,
        content part = part.written b (before.find? part.kind (part.key kc)) := by
  have after_eq := effect.after_eq
  have objects_length : (b.objects flags (Snapshot.ofStore kc before)).length =
      (Part.wanted kc flags).length := by
    rw [Blueprint.objects, List.length_map, effect.kc_eq]
  have take_eq : (Part.wanted kc flags).take (max m (Part.wanted kc flags).length) =
      Part.wanted kc flags := List.take_of_length_le (Nat.le_max_right _ _)
  obtain ⟨store_eq, brought⟩ := progress.giveUp effect (Part.wanted kc flags).length
  rw [← objects_length, List.take_length, ← after_eq, objects_length, take_eq] at store_eq
  rw [take_eq] at brought
  refine ⟨Part.overlaid (Part.wanted kc flags) (Part.wanted kc flags).length
    (fun part => part.written b (before.find? part.kind (part.key kc))) content, ⟨?_, ?_⟩,
    fun part mem => ?_⟩
  · rwa [List.take_length]
  · rwa [List.take_length]
  · exact Part.overlaid_of_mem (by rwa [List.take_length])

end Progress

/-! ## Installations at rest -/

/-- What an installation consists of after passes, the last two of which were whole: the pods of the
stateful set use the database that its secret names. -/
structure AtRest (kc : Keycloak) (profiles : Profiles) (flags : InstallationFlags) (start : Store)
    (final : (part : Part) → part.kind.Object) : Prop where
  brought : ∀ part ∈ Part.wanted kc flags, Brought kc profiles start part (final part)
  statefulSet : ∃ (later : Blueprint) (x : Part.statefulSet.kind.Object), later.kc = kc ∧
    later.profiles = profiles ∧ later.databaseSecret = some (final .databaseSecret) ∧
    Brought kc profiles start Part.statefulSet x ∧
    final .statefulSet = Part.refreshed later .statefulSet x

theorem Progress.atRest (progress : Progress kc profiles flags start m content middle)
    (first : Effect kc profiles flags b middle between)
    (second : Effect kc profiles flags later between after) :
    ∃ final, AtRest kc profiles flags start final ∧
      after = start.putAll (Part.objects final (Part.wanted kc flags)) := by
  obtain ⟨content₁, progress₁, -⟩ := progress.finish first
  obtain ⟨content₂, progress₂, content_eq⟩ := progress₁.finish second
  have brought := progress₁.brought
  have found : ∀ part ∈ Part.wanted kc flags,
      between.find? part.kind (part.key kc) = some (content₁ part) := by
    intro part mem
    refine progress₁.find?_of_mem ?_
    rwa [List.take_length]
  rw [List.take_length] at brought
  -- The second pass leaves all but the stateful set alone, so that it has found the secret as it stays.
  have secret_wanted : Part.databaseSecret ∈ Part.wanted kc flags := Part.mem_wanted rfl
  have set_wanted : Part.statefulSet ∈ Part.wanted kc flags := Part.mem_wanted rfl
  have secret_eq : content₂ .databaseSecret = content₁ .databaseSecret := by
    rw [content_eq _ secret_wanted, found _ secret_wanted]
    exact ((brought _ secret_wanted).exists_written (by decide)).2 later second.kc_eq
  have set_eq : content₂ .statefulSet = Part.refreshed later .statefulSet (content₁ .statefulSet) := by
    rw [content_eq _ set_wanted, found _ set_wanted]
    rfl
  obtain ⟨store_eq, brought₂⟩ := progress₂
  rw [List.take_length] at store_eq brought₂
  refine ⟨content₂, ⟨brought₂, later, _, second.kc_eq, second.profiles_eq, ?_,
    brought _ set_wanted, set_eq⟩, store_eq⟩
  rw [second.secret_eq, secret_eq]
  exact found _ secret_wanted

/-- Two installations at rest that come from the same store are the same but for the passwords that had
to be made. -/
theorem AtRest.blanked_eq (rest : AtRest kc profiles flags start final)
    (other_rest : AtRest kc profiles flags start other) (wanted : part ∈ Part.wanted kc flags) :
    part.blanked kc (start.find? part.kind (part.key kc)) (final part) =
      part.blanked kc (start.find? part.kind (part.key kc)) (other part) := by
  have but_set : ∀ part ∈ Part.wanted kc flags, part ≠ .statefulSet →
      part.blanked kc (start.find? part.kind (part.key kc)) (final part) =
        part.blanked kc (start.find? part.kind (part.key kc)) (other part) := by
    intro part wanted part_ne
    obtain ⟨⟨b, rfl, final_eq⟩, -⟩ := (rest.brought part wanted).exists_written part_ne
    obtain ⟨⟨later, kc_eq, other_eq⟩, -⟩ := (other_rest.brought part wanted).exists_written part_ne
    rw [final_eq, other_eq]
    exact (Part.blanked_written kc_eq part_ne _).symm
  by_cases part_eq : part = .statefulSet
  · subst part_eq
    have secrets_eq := but_set .databaseSecret (Part.mem_wanted rfl) (by decide)
    obtain ⟨b, x, rfl, rfl, b_secret, x_brought, final_eq⟩ := rest.statefulSet
    obtain ⟨later, y, kc_eq, profiles_eq, later_secret, y_brought, other_eq⟩ := other_rest.statefulSet
    have same := ServerStatefulSet.refreshed_congr kc_eq profiles_eq b_secret later_secret
      fun key differs => DatabaseSecret.value?_congr secrets_eq differs
    show final .statefulSet = other .statefulSet
    rw [final_eq, other_eq, (x_brought.refreshed_statefulSet (b := b) rfl).2,
      (y_brought.refreshed_statefulSet (b := b) rfl).2]
    exact (same _).symm
  · exact but_set part wanted part_eq

/-! ## Stores without passwords that had to be made -/

theorem AtRest.withoutMade_putAll (rest : AtRest kc profiles flags start final) :
    (start.putAll (Part.objects final (Part.wanted kc flags))).withoutMade kc start =
      start.putAll (Part.objects
        (fun part => part.blanked kc (start.find? part.kind (part.key kc)) (final part))
        (Part.wanted kc flags)) := by
  have at_places : Part.AtPlaces kc final (Part.wanted kc flags) := fun part mem =>
    (rest.brought part mem).key
  exact at_places.withoutMade_putAll

theorem AtRest.withoutMade_eq (rest : AtRest kc profiles flags start final)
    (other_rest : AtRest kc profiles flags start other) :
    (start.putAll (Part.objects final (Part.wanted kc flags))).withoutMade kc start =
      (start.putAll (Part.objects other (Part.wanted kc flags))).withoutMade kc start := by
  rw [rest.withoutMade_putAll, other_rest.withoutMade_putAll]
  refine congrArg start.putAll (List.map_congr_left fun part wanted => ?_)
  exact congrArg (Object.mk part.kind) (rest.blanked_eq other_rest wanted)

/-! ## Passes -/

/-- A pass over what is declared of an installation that is given up somewhere: a call of it fails, or
it is cut off. -/
def GivesUp (capabilities : Capabilities) (profiles : Profiles) (kc : Keycloak)
    (before after : Store) : Prop :=
  ∃ declared : Keycloak, declared.declaration = kc.declaration ∧
    Program.Reaches (Breakable capabilities) (convergeInstallation profiles declared) before after

/-- A pass over what is declared of an installation that comes to its end; no call of it fails. -/
def Completes (capabilities : Capabilities) (profiles : Profiles) (kc : Keycloak)
    (before after : Store) : Prop :=
  ∃ (declared : Keycloak) (events : List PassEvent) (tracked : Keycloak)
    (outcome : InstallationOutcome), declared.declaration = kc.declaration ∧
      Program.Run (Reliable capabilities) (convergeInstallation profiles declared) before events
        (tracked, .ok outcome) after

section Passes

variable (managed : kc.spec.unmanaged = false) (internal : kc.spec.external.enabled = false)

include managed internal

theorem exists_completes (capabilities : Capabilities) (profiles : Profiles) (before : Store) :
    ∃ after, Completes capabilities profiles kc before after := by
  obtain ⟨events, ⟨tracked, result⟩, after, run⟩ := Program.exists_run
    (total_reliable capabilities) (convergeInstallation profiles kc) before
  obtain ⟨-, ⟨outcome, rfl⟩, -⟩ := run_convergeInstallation managed internal run
  exact ⟨after, kc, events, tracked, outcome, rfl, run⟩

theorem Completes.exists_effect (completes : Completes capabilities profiles kc before after) :
    ∃ b, Effect kc.declaration profiles capabilities.installationFlags b before after := by
  obtain ⟨declared, events, tracked, outcome, alike, run⟩ := completes
  have spec_eq : declared.spec = kc.spec := (congrArg Keycloak.spec alike :)
  obtain ⟨⟨b, effect⟩, -⟩ :=
    run_convergeInstallation (spec_eq ▸ managed) (spec_eq ▸ internal) run
  rw [alike] at effect
  exact ⟨b, effect⟩

/-- A pass that is given up takes an installation on or leaves it as it was. -/
theorem Progress.of_givesUp
    (progress : Progress kc.declaration profiles capabilities.installationFlags start m content before)
    (given_up : GivesUp capabilities profiles kc before after) :
    ∃ n later, Progress kc.declaration profiles capabilities.installationFlags start n later after := by
  obtain ⟨declared, alike, reached⟩ := given_up
  have spec_eq : declared.spec = kc.spec := (congrArg Keycloak.spec alike :)
  rcases reaches_convergeInstallation (spec_eq ▸ managed) (spec_eq ▸ internal) reached with
    rfl | ⟨b, whole, n, effect, rfl⟩
  · exact ⟨m, content, progress⟩
  · rw [alike] at effect ⊢
    exact ⟨_, _, progress.giveUp effect n⟩

theorem exists_progress (given_up : ReflTransGen (GivesUp capabilities profiles kc) start middle) :
    ∃ m content,
      Progress kc.declaration profiles capabilities.installationFlags start m content middle := by
  induction given_up with
  | refl =>
    exact ⟨0, fun part => part.fresh ⟨kc, profiles, ⟨"", ""⟩, none⟩, .refl _ _ _ _ _⟩
  | tail _ step ih =>
    obtain ⟨m, content, progress⟩ := ih
    exact progress.of_givesUp managed internal step

theorem exists_atRest (given_up : ReflTransGen (GivesUp capabilities profiles kc) start middle)
    (first : Completes capabilities profiles kc middle between)
    (second : Completes capabilities profiles kc between after) :
    ∃ final, AtRest kc.declaration profiles capabilities.installationFlags start final ∧
      after = start.putAll (Part.objects final
        (Part.wanted kc.declaration capabilities.installationFlags)) := by
  obtain ⟨m, content, progress⟩ := exists_progress managed internal given_up
  obtain ⟨b, first⟩ := first.exists_effect managed internal
  obtain ⟨later, second⟩ := second.exists_effect managed internal
  exact progress.atRest first second

/-- Whatever passes have been given up before, two passes can be completed, and the store after them is
the one after two passes that nothing has come before; only the passwords that had to be made may be
others. -/
theorem given_up_passes_leave_no_trace
    (given_up : ReflTransGen (GivesUp capabilities profiles kc) start middle) :
    (∃ between after, Completes capabilities profiles kc middle between ∧
      Completes capabilities profiles kc between after) ∧
    ∀ between after between' undisturbed, Completes capabilities profiles kc middle between →
      Completes capabilities profiles kc between after →
      Completes capabilities profiles kc start between' →
      Completes capabilities profiles kc between' undisturbed →
      after.withoutMade kc start = undisturbed.withoutMade kc start := by
  constructor
  · obtain ⟨between, first⟩ := exists_completes managed internal capabilities profiles middle
    obtain ⟨after, second⟩ := exists_completes managed internal capabilities profiles between
    exact ⟨between, after, first, second⟩
  · intro between after between' undisturbed first second first' second'
    obtain ⟨final, rest, rfl⟩ := exists_atRest managed internal given_up first second
    obtain ⟨other, other_rest, rfl⟩ := exists_atRest managed internal .refl first' second'
    exact rest.withoutMade_eq other_rest

end Passes

/-- The request asks for a volume. -/
def createsClaim : PassRequest → Bool
  | .cluster (.create o) => o.kind = .persistentVolumeClaim
  | _ => false

/-- A pass over a new installation that is cut off before it creates the fourth object. -/
theorem three_objects_leave_no_trace :
    ∃ middle, GivesUp {} {} {} {} middle ∧ middle.objects.map Object.kind =
        [.secret, .secret, .persistentVolumeClaim] ∧
      ∃ between after between' undisturbed, Completes {} {} {} middle between ∧
        Completes {} {} {} between after ∧ Completes {} {} {} {} between' ∧
        Completes {} {} {} between' undisturbed ∧
        after.withoutMade {} {} = undisturbed.withoutMade {} {} := by
  let middle : Store :=
    ((convergeInstallation {} {}).runUntil createsClaim (serveReliably {}) ({} : Store)).2
  have answers : ∀ request store, Breakable {} request store (serveReliably {} request store).1
      (serveReliably {} request store).2 := fun request store =>
    .inl (reliable_serveReliably {} request store)
  have given_up : GivesUp {} {} {} {} middle :=
    ⟨{}, rfl, Program.reaches_runUntil answers createsClaim _ _⟩
  have managed : ({} : Keycloak).spec.unmanaged = false := rfl
  have internal : ({} : Keycloak).spec.external.enabled = false := rfl
  obtain ⟨⟨between, after, first, second⟩, same⟩ :=
    given_up_passes_leave_no_trace managed internal (ReflTransGen.single given_up)
  obtain ⟨between', first'⟩ := exists_completes managed internal {} {} {}
  obtain ⟨undisturbed, second'⟩ := exists_completes managed internal {} {} between'
  exact ⟨middle, given_up, by decide +kernel, between, after, between', undisturbed, first, second,
    first', second', same _ _ _ _ first second first' second'⟩

end Pass

end IdentityOperator
