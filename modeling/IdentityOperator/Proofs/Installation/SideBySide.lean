import IdentityOperator.Proofs.Installation.Namespaces
import IdentityOperator.Proofs.Installation.NewPasswords

/-!
Passes over two installations in different namespaces, side by side.

Each of the two passes stays in its namespace, where the other one changes nothing. So each is answered
as if it ran alone (`Pass.exists_alone_of_woven`), and the store in the end has in either namespace what
the pass there makes of it alone, and everywhere else what it had (`Pass.agreeIn_of_woven`). The passes
might as well have run one after the other
(`Pass.passes_in_different_namespaces_are_independent`).

A password is new in each run, so that plans and stores of different runs are compared without.
-/

namespace IdentityOperator

namespace Store

variable {store other : Store} {kc : Keycloak} {ns : String}

theorem AgreeIn.withoutMade (agree : store.AgreeIn ns other) (kc : Keycloak) (start : Store) :
    (store.withoutMade kc start).AgreeIn ns (other.withoutMade kc start) :=
  fun kind key inside => find?_withoutMade_congr (agree kind key inside) start

/-- New passwords are in the namespace of the installation only. -/
theorem agreeIn_withoutMade_of_ne (store start : Store) (apart : kc.ns ≠ ns) :
    store.AgreeIn ns (store.withoutMade kc start) := by
  intro kind key inside
  have elsewhere : ∀ part : Part, ¬ (part.kind = kind ∧ part.key kc = key) := by
    rintro part ⟨-, rfl⟩
    exact apart ((part.ns_key kc).symm.trans inside)
  rw [withoutMade, find?_blank_of_ne _ start (elsewhere _), find?_blank_of_ne _ start (elsewhere _)]

/-- Two stores that have come from the same one have the same at every place, but for the passwords that
had to be made for two installations. The order in which they list their objects may differ: new objects
come to the end. -/
def SameButMade (kc other : Keycloak) (start first second : Store) : Prop :=
  ∀ kind key, ((first.withoutMade kc start).withoutMade other start).find? kind key =
    ((second.withoutMade kc start).withoutMade other start).find? kind key

end Store

/-- A request to look up a flag or an object, which has one answer. -/
def PassRequest.IsLookup : PassRequest → Prop
  | .flag _ | .cluster (.get ..) => True
  | _ => False

namespace Pass

open Program (Run Follows Woven Only)

variable {capabilities : Capabilities} {profiles profiles' : Profiles} {kc other : Keycloak}
  {flags : InstallationFlags} {start after after' : Store} {events others : List PassEvent}
  {result result' : Tracked InstallationOutcome}

/-! ## Plans -/

/-- A pass that is answered so plans so. -/
def Plans (profiles : Profiles) (kc : Keycloak) (events : List PassEvent) (plan : Plan) : Prop :=
  ∃ planning applying tracked state, events = planning ++ applying ∧
    Follows (readAndPlan profiles kc) planning (tracked, .ok (state, plan))

/-- A pass that has been answered so has planned what every pass plans that runs alone on a store; only
the new passwords in the plan may be others. -/
def PlansAsAlone (capabilities : Capabilities) (profiles : Profiles) (kc : Keycloak) (start : Store)
    (events : List PassEvent) : Prop :=
  ∃ tracked state,
    (∃ passwords, Plans profiles kc events
      (installationPlan tracked capabilities.installationFlags profiles passwords state)) ∧
    ∀ alone result after,
      Run (Reliable capabilities) (convergeInstallation profiles kc) start alone result after →
      ∃ passwords, Plans profiles kc alone
        (installationPlan tracked capabilities.installationFlags profiles passwords state)

theorem Reliable.unique_of_isLookup {request : PassRequest} {before after after' : Store}
    {answer answer' : request.Answer}
    (answered : Reliable capabilities request before answer after) (lookup : request.IsLookup)
    (answered' : Reliable capabilities request before answer' after') :
    answer = answer' ∧ after = after' := by
  cases request with
  | cluster call =>
    have same : (answer, after) = (answer', after') := Eq.trans (Eq.symm answered) answered'
    exact Prod.mk.inj same
  | flag key =>
    obtain ⟨rfl, rfl⟩ := answered
    obtain ⟨rfl, rfl⟩ := answered'
    exact ⟨rfl, rfl⟩
  | _ => exact lookup.elim

/-- All passes over a store see the same of an installation, and plan for that. -/
theorem exists_seen (internal : kc.spec.external.enabled = false) (start : Store) :
    ∃ tracked state, ∀ events result after,
      Run (Reliable capabilities) (convergeInstallation profiles kc) start events result after →
      ∃ passwords, Plans profiles kc events
        (installationPlan tracked capabilities.installationFlags profiles passwords state) := by
  have only_lookups : Only PassRequest.IsLookup (readSnapshot kc) :=
    only_readSnapshot (fun _ => trivial) (fun _ _ => trivial) kc
  obtain ⟨seen, ⟨tracked, found⟩, middle, read_run⟩ :=
    Program.exists_run (total_reliable capabilities) (readSnapshot kc) start
  have serving_run := read_run
  rw [← serving_all] at serving_run
  obtain ⟨state, found_eq, -⟩ := run_readSnapshot serving_run
  obtain rfl : found = .ok state := found_eq
  refine ⟨tracked, state, fun events result after run => ?_⟩
  rw [convergeInstallation_eq internal] at run
  obtain ⟨planning, planned, _, applying, rfl, plan_run, -⟩ := Program.run_bind_iff.1 run
  have follows := plan_run.follows
  obtain ⟨reading, found', _, making, rfl, read_run', rest⟩ := Program.run_bind_iff.1 plan_run
  obtain ⟨rfl, rfl, rfl⟩ := only_lookups.unique
    (fun _ _ _ _ _ _ lookup answered answered' => answered.unique_of_isLookup lookup answered')
    read_run read_run'
  obtain ⟨_, plan, _, _, rfl, made, rest⟩ := Program.run_bind_iff.1 rest
  obtain ⟨rfl, rfl, rfl⟩ := Program.run_done_iff.1 rest
  rw [← serving_all] at made
  obtain ⟨b, rfl, rfl, secret_eq, -, plan_eq, -⟩ := run_planInstallation made
  have made_for : plan =
      installationPlan b.kc capabilities.installationFlags b.profiles b.passwords state := by
    rw [plan_eq, installationPlan, ← secret_eq]
  rw [made_for] at follows
  exact ⟨b.passwords, _, applying, b.kc, state, rfl, follows⟩

/-! ## Alone -/

section Alone

variable (woven : Woven (Reliable capabilities) (convergeInstallation profiles kc)
  (convergeInstallation profiles' other) start events result others result' after)

include woven

/-- Beside the other pass, too, a pass stays in the namespace of its installation. -/
theorem within_of_woven : ∀ event ∈ events, event.request.Within kc.ns := by
  have run : Run Proper (convergeInstallation profiles kc) () events result () :=
    woven.run_left_stateless fun _ _ _ _ => Reliable.proper
  exact within_of_run_proper run

/-- It is answered as if it ran alone, and in its namespace the store becomes what the pass alone makes
of it. -/
theorem exists_alone_of_woven (apart : kc.ns ≠ other.ns) :
    ∃ alone, Run (Reliable capabilities) (convergeInstallation profiles kc) start events result alone ∧
      after.AgreeIn kc.ns alone :=
  woven.exists_run_left (within_of_woven woven) (within_of_woven woven.symm)
    (fun _ _ _ _ _ within answered agree => answered.exists_agreeing within agree)
    (fun _ _ _ _ _ within answered agree =>
      (answered.agreeIn_of_within within apart.symm).symm.trans agree)
    (.refl _ _)

/-- In all other namespaces nothing changes. -/
theorem agreeIn_of_woven {ns : String} (apart : kc.ns ≠ ns) (other_apart : other.ns ≠ ns) :
    start.AgreeIn ns after :=
  woven.preserves (within_of_woven woven) (within_of_woven woven.symm)
    (fun _ _ _ _ within answered agree => by
      rcases within with within | within
      · exact agree.trans (answered.agreeIn_of_within within apart)
      · exact agree.trans (answered.agreeIn_of_within within other_apart))
    (.refl ns start)

end Alone

/-! ## The stores in the end -/

theorem Effect.after_eq_putAll {b : Blueprint} (effect : Effect kc profiles flags b start after) :
    Part.AtPlaces kc (fun part => part.written b (start.find? part.kind (part.key kc)))
        (Part.wanted kc flags) ∧
      after = start.putAll (Part.objects
        (fun part => part.written b (start.find? part.kind (part.key kc))) (Part.wanted kc flags)) := by
  obtain ⟨rfl, -, -, -, after_eq⟩ := effect
  exact ⟨fun part _ => Part.key_written fun _ found => Store.key_of_find? found, after_eq⟩

/-- Two passes over the same store write the same, but for the passwords that have to be made. -/
theorem Effect.blanked_written {b later : Blueprint} (effect : Effect kc profiles flags b start after)
    (effect' : Effect kc profiles flags later start after') (part : Part) :
    part.blanked kc (start.find? part.kind (part.key kc))
        (part.written b (start.find? part.kind (part.key kc))) =
      part.blanked kc (start.find? part.kind (part.key kc))
        (part.written later (start.find? part.kind (part.key kc))) := by
  obtain ⟨rfl, rfl, secret_eq, -, -⟩ := effect
  obtain ⟨kc_eq, profiles_eq, secret_eq', -, -⟩ := effect'
  by_cases part_eq : part = .statefulSet
  -- Both have found the same database secret, which the stateful set depends on.
  · subst part_eq
    obtain ⟨kc, profiles, passwords, secret⟩ := later
    cases kc_eq
    cases profiles_eq
    cases secret_eq'.trans secret_eq.symm
    cases start.find? Part.statefulSet.kind (Part.statefulSet.key b.kc) <;> rfl
  · exact (Part.blanked_written kc_eq part_eq _).symm

theorem Effect.withoutMade_eq {b later : Blueprint} (effect : Effect kc profiles flags b start after)
    (effect' : Effect kc profiles flags later start after') :
    after.withoutMade kc start = after'.withoutMade kc start := by
  obtain ⟨at_places, rfl⟩ := effect.after_eq_putAll
  obtain ⟨at_places', rfl⟩ := effect'.after_eq_putAll
  rw [at_places.withoutMade_putAll, at_places'.withoutMade_putAll]
  refine congrArg start.putAll (List.map_congr_left fun part _ => ?_)
  exact congrArg (Object.mk part.kind) (effect.blanked_written effect' part)

/-- Any two passes over the same store leave the same, but for the passwords that have to be made. -/
theorem withoutMade_eq_of_runs (managed : kc.spec.unmanaged = false)
    (internal : kc.spec.external.enabled = false)
    (run : Run (Reliable capabilities) (convergeInstallation profiles kc) start events result after)
    (run' : Run (Reliable capabilities) (convergeInstallation profiles kc) start others result'
      after') :
    after.withoutMade kc start = after'.withoutMade kc start := by
  obtain ⟨⟨b, effect⟩, -⟩ := run_convergeInstallation managed internal run
  obtain ⟨⟨later, effect'⟩, -⟩ := run_convergeInstallation managed internal run'
  exact effect.withoutMade_eq effect'

/-- In whatever order two passes are woven, in the namespace of the one they leave the same, but for the
passwords that have to be made. -/
theorem agreeIn_withoutMade_of_woven {events' others' : List PassEvent}
    {last last' : Tracked InstallationOutcome} (managed : kc.spec.unmanaged = false)
    (internal : kc.spec.external.enabled = false) (apart : kc.ns ≠ other.ns)
    (woven : Woven (Reliable capabilities) (convergeInstallation profiles kc)
      (convergeInstallation profiles' other) start events result others result' after)
    (woven' : Woven (Reliable capabilities) (convergeInstallation profiles kc)
      (convergeInstallation profiles' other) start events' last others' last' after') :
    (after.withoutMade kc start).AgreeIn kc.ns (after'.withoutMade kc start) := by
  obtain ⟨alone, run, agree⟩ := exists_alone_of_woven woven apart
  obtain ⟨alone', run', agree'⟩ := exists_alone_of_woven woven' apart
  have agree_alone := agree.withoutMade kc start
  rw [withoutMade_eq_of_runs managed internal run run'] at agree_alone
  exact agree_alone.trans (agree'.withoutMade kc start).symm

section Independent

variable (managed : kc.spec.unmanaged = false) (internal : kc.spec.external.enabled = false)
  (managed' : other.spec.unmanaged = false) (internal' : other.spec.external.enabled = false)
  (apart : kc.ns ≠ other.ns)

include managed internal managed' internal' apart

/-- And they leave the same everywhere. -/
theorem sameButMade_of_woven {events' others' : List PassEvent}
    {last last' : Tracked InstallationOutcome}
    (woven : Woven (Reliable capabilities) (convergeInstallation profiles kc)
      (convergeInstallation profiles' other) start events result others result' after)
    (woven' : Woven (Reliable capabilities) (convergeInstallation profiles kc)
      (convergeInstallation profiles' other) start events' last others' last' after') :
    Store.SameButMade kc other start after after' := by
  intro kind key
  by_cases here : key.ns = kc.ns
  · have same := agreeIn_withoutMade_of_woven managed internal apart woven woven'
    exact same.withoutMade other start kind key here
  by_cases there : key.ns = other.ns
  · have same :=
      agreeIn_withoutMade_of_woven managed' internal' apart.symm woven.symm woven'.symm
    -- What has been made for the first installation is not in the namespace of the second.
    have hidden : ∀ store : Store, ((store.withoutMade kc start).withoutMade other start).AgreeIn
        other.ns (store.withoutMade other start) := fun store =>
      (Store.agreeIn_withoutMade_of_ne store start apart).symm.withoutMade other start
    exact ((hidden after).trans (same.trans (hidden after').symm)) kind key there
  · have unchanged := agreeIn_of_woven woven (Ne.symm here) (Ne.symm there)
    have unchanged' := agreeIn_of_woven woven' (Ne.symm here) (Ne.symm there)
    have same : after.AgreeIn key.ns after' := unchanged.symm.trans unchanged'
    exact (same.withoutMade kc start).withoutMade other start kind key rfl

/-- Passes over two installations in different namespaces do not interfere, however their requests are
woven. Each of them succeeds, it is answered as in a run of its own, and it plans what it plans alone;
and the store in the end is as if one pass had been made after the other, whichever of them first. Only
passwords that have to be made may be others. -/
theorem passes_in_different_namespaces_are_independent
    (woven : Woven (Reliable capabilities) (convergeInstallation profiles kc)
      (convergeInstallation profiles' other) start events result others result' after) :
    ((∃ outcome, result.2 = .ok outcome) ∧ PlansAsAlone capabilities profiles kc start events ∧
      ∃ alone, Run (Reliable capabilities) (convergeInstallation profiles kc) start events result
        alone) ∧
    ((∃ outcome, result'.2 = .ok outcome) ∧
      PlansAsAlone capabilities profiles' other start others ∧
      ∃ alone, Run (Reliable capabilities) (convergeInstallation profiles' other) start others
        result' alone) ∧
    (∀ first second between last,
      (∃ events, Run (Reliable capabilities) (convergeInstallation profiles kc) start events first
        between) →
      (∃ events, Run (Reliable capabilities) (convergeInstallation profiles' other) between events
        second last) →
      Store.SameButMade kc other start after last) ∧
    ∀ first second between last,
      (∃ events, Run (Reliable capabilities) (convergeInstallation profiles' other) start events
        first between) →
      (∃ events, Run (Reliable capabilities) (convergeInstallation profiles kc) between events second
        last) →
      Store.SameButMade kc other start after last := by
  obtain ⟨alone, run, -⟩ := exists_alone_of_woven woven apart
  obtain ⟨other_alone, other_run, -⟩ := exists_alone_of_woven woven.symm apart.symm
  obtain ⟨-, succeeds, -⟩ := run_convergeInstallation managed internal run
  obtain ⟨-, other_succeeds, -⟩ := run_convergeInstallation managed' internal' other_run
  refine ⟨⟨succeeds, ?_, alone, run⟩, ⟨other_succeeds, ?_, other_alone, other_run⟩, ?_, ?_⟩
  · obtain ⟨tracked, state, plans⟩ := exists_seen internal start
    exact ⟨tracked, state, plans _ _ _ run, plans⟩
  · obtain ⟨tracked, state, plans⟩ := exists_seen internal' start
    exact ⟨tracked, state, plans _ _ _ other_run, plans⟩
  · rintro first second between last ⟨_, first_run⟩ ⟨_, second_run⟩
    exact sameButMade_of_woven managed internal managed' internal' apart woven
      (.of_runs first_run second_run)
  · rintro first second between last ⟨_, first_run⟩ ⟨_, second_run⟩
    exact sameButMade_of_woven managed internal managed' internal' apart woven
      (Woven.of_runs first_run second_run).symm

end Independent

/-- An installation of the same name in any namespace. -/
def installationIn (ns : String) : Keycloak := { metadata := { name := some "sso", ns := some ns } }

/-- Two installations, with one request of each in turn, come to have what they have when the second one
is begun after the first. An empty database secret of the second one is there before, and one of a third
installation, which nobody touches. -/
theorem two_namespaces_side_by_side :
    ∃ (start after last : Store) (events others : List PassEvent)
      (result result' : Tracked InstallationOutcome),
      start.objects.map Object.key =
        [⟨DatabaseSecret.name, "blue"⟩, ⟨DatabaseSecret.name, "green"⟩] ∧
      Woven (Reliable {}) (convergeInstallation {} (installationIn "red"))
        (convergeInstallation {} (installationIn "blue")) start events result others result' after ∧
      PlansAsAlone {} {} (installationIn "blue") start others ∧
      last.objects.length = 19 ∧
      Store.SameButMade (installationIn "red") (installationIn "blue") start after last := by
  let secretIn (ns : String) : Object :=
    ⟨.secret, ({ metadata := { name := some DatabaseSecret.name, ns := some ns } } : Secret)⟩
  let start : Store := ⟨[secretIn "blue", secretIn "green"]⟩
  obtain ⟨events, result, others, result', after, woven⟩ := Program.exists_woven
    (total_reliable {}) (convergeInstallation {} (installationIn "red"))
    (convergeInstallation {} (installationIn "blue")) start
  have first := Program.exists_run_of_serve (reliable_serveReliably {})
    (convergeInstallation {} (installationIn "red")) start
  have second := Program.exists_run_of_serve (reliable_serveReliably {})
    (convergeInstallation {} (installationIn "blue"))
    ((convergeInstallation {} (installationIn "red")).run (serveReliably {}) start).2
  obtain ⟨-, ⟨-, plans, -⟩, in_a_row, -⟩ := passes_in_different_namespaces_are_independent rfl rfl
    rfl rfl (by decide) woven
  exact ⟨start, after, _, events, others, result, result', by decide +kernel, woven, plans,
    by decide +kernel, in_a_row _ _ _ _ first second⟩

end Pass

end IdentityOperator
