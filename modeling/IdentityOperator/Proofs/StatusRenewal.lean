import IdentityOperator.Pass.Wire
import IdentityOperator.Proofs.ConditionHistory
import IdentityOperator.Proofs.Installation.Clients
import IdentityOperator.Proofs.Json.MergePatch
import IdentityOperator.Proofs.Pass.Requests

/-!
Reports of passes that find everything as it was.

A pass that comes to the same outcome as the one before it says the same again. Its conditions stay as
they are, with the times since which they hold (`Condition.afterPass_again`), and so do all fields of
its status but one: the time of the last update is that of the pass, whatever the pass has found. As a
merge patch this status sets that time and nothing else (`Wired.onlyMovesTime_of_isStamped`), so the
object that is watched stays as it is just if the clock still shows the same time. A pass is made again
after a minute or after ten seconds, or once the declaration changes, but what it writes itself is a
change before that (`Pass.repeated_report_moves_time`).
-/

namespace IdentityOperator

/-! ## Conditions -/

namespace Condition

variable {new old : Condition} {conditions : List Condition}

theorem set_eq_self (found : ofType new.conditionType conditions = some old)
    (settled : renew old new = old) : set new conditions = conditions := by
  induction conditions with
  | nil => cases found
  | cons first rest ih =>
    by_cases here : first.conditionType = new.conditionType
    · have first_eq : first = old := by simpa [ofType, here] using found
      rw [set, if_pos here, first_eq, settled]
    · have found : ofType new.conditionType rest = some old := by simpa [ofType, here] using found
      rw [set, if_neg here, ih found]

/-- A condition that is set again later is as it was, and with its time. -/
theorem renew_again (old : Option Condition) (new : Condition) (time : Option String) :
    renew (old.elim new (renew · new)) { new with lastTransitionTime := time } =
      old.elim new (renew · new) := by
  have status_eq : (old.elim new (renew · new)).status = new.status := by
    cases old with
    | none => rfl
    | some old => exact status_renew old new
  rw [renew, if_neg (by simp [status_eq])]
  cases old with
  | none => rfl
  | some old =>
    rw [Option.elim_some, renew]
    split <;> rfl

/-- What a pass reports about an aspect of it is in the conditions already if it has been reported
before. -/
theorem set_condition_again (previous : List Condition) (pass : PassReport) (aspect : PassAspect)
    (now : String) :
    set (PassReport.condition { pass with now } aspect)
        (afterPass previous pass.ready pass.error pass.now) =
      afterPass previous pass.ready pass.error pass.now := by
  have found := ofType_afterPasses_concat previous [] pass aspect
  have late : PassReport.condition { pass with now } aspect =
      { pass.condition aspect with lastTransitionTime := some now } := by
    obtain ⟨ready, error, past⟩ := pass
    cases aspect with
    | outcome => cases error <;> rfl
    | readiness => cases error <;> cases ready <;> rfl
  refine set_eq_self (Eq.trans ?_ found) ?_
  · rw [PassReport.conditionType_condition]
    rfl
  · rw [late]
    exact renew_again _ _ _

/-- A pass that reports the same as the one before it leaves all conditions as they are. -/
theorem afterPass_again (previous : List Condition) (ready : Bool) (error : Option String)
    (past now : String) :
    afterPass (afterPass previous ready error past) ready error now =
      afterPass previous ready error past := by
  have settled := fun aspect => set_condition_again previous ⟨ready, error, past⟩ aspect now
  show set (PassReport.condition ⟨ready, error, now⟩ .readiness)
    (set (PassReport.condition ⟨ready, error, now⟩ .outcome) _) = _
  rw [settled .outcome, settled .readiness]

end Condition

/-! ## Statuses -/

theorem Keycloak.internalUrlOf_congr {kc other : Keycloak}
    (same : kc.declaration = other.declaration) : kc.internalUrlOf = other.internalUrlOf :=
  (congrArg internalUrlOf same :)

/-- The status after a pass that finds an earlier one's, and that comes to the same, is that one but
for the time. -/
theorem Keycloak.statusAfterPass_again {kc earlier : Keycloak} {ready : Bool}
    {error : Option String} {externalUrl past : String}
    (same : kc.declaration = earlier.declaration)
    (generation_eq : kc.metadata.generation = earlier.metadata.generation)
    (stored : kc.statusOrDefault = earlier.statusAfterPass ready error externalUrl past)
    (now : String) :
    kc.statusAfterPass ready error externalUrl now =
      { earlier.statusAfterPass ready error externalUrl past with lastUpdated := some now } := by
  have url_eq : (if externalUrl = "" then
      (if externalUrl = "" then earlier.statusOrDefault.externalUrl else externalUrl)
        else externalUrl) =
      if externalUrl = "" then earlier.statusOrDefault.externalUrl else externalUrl := by
    split <;> rfl
  unfold statusAfterPass
  rw [stored]
  simp only [statusAfterPass, Condition.afterPass_again, url_eq, internalUrlOf_congr same,
    adminSecret_name_congr same, generation_eq]

theorem KeycloakRealm.statusAfterPass_again {realm earlier : KeycloakRealm} {outcome : RealmOutcome}
    {error : Option String} {past : String}
    (generation_eq : realm.metadata.generation = earlier.metadata.generation)
    (stored : realm.status = some (earlier.statusAfterPass outcome error past)) (now : String) :
    realm.statusAfterPass outcome error now =
      { earlier.statusAfterPass outcome error past with lastUpdated := some now } := by
  unfold statusAfterPass
  rw [stored, Option.getD_some]
  cases error with
  | some message =>
    simp only [statusAfterPass, Condition.afterPass_again, generation_eq]
  | none =>
    cases outcome <;> simp only [statusAfterPass, Condition.afterPass_again, generation_eq]

/-! ## Written statuses -/

/-- What is written for each time ends with the time of the last update, and differs in nothing
else. -/
def Json.IsStamped (written : String → Json) : Prop :=
  ∃ fields : List (String × Json), (object fields).HasDistinctNames ∧
    "lastUpdated" ∉ fields.map (·.1) ∧
    ∀ time, written time = object (fields ++ [("lastUpdated", .text time)])

namespace Json.IsStamped

variable {written : String → Json}

theorem ne_null (stamped : IsStamped written) (time : String) : written time ≠ null := by
  obtain ⟨fields, -, -, written_eq⟩ := stamped
  simp [written_eq]

theorem injective (stamped : IsStamped written) : Function.Injective written := by
  obtain ⟨fields, -, -, written_eq⟩ := stamped
  intro past time same
  simpa [written_eq] using same

/-- Where it has been merged for one time, all else in it has been merged for every other one too. -/
theorem mergePatch_again (stamped : IsStamped written) (own : Json) (past time : String) :
    (own.mergePatch (written past)).mergePatch (written time) =
      (own.mergePatch (written past)).mergePatch (object [("lastUpdated", text time)]) := by
  obtain ⟨fields, distinct, fresh, written_eq⟩ := stamped
  have others : ∀ field ∈ fields, field.1 ∉ [("lastUpdated", text past)].map (·.1) := by
    intro field mem same
    have name_eq : field.1 = "lastUpdated" := List.mem_singleton.1 same
    exact fresh (name_eq ▸ List.mem_map_of_mem mem)
  rw [written_eq, written_eq, mergePatch_append _ fields [("lastUpdated", text time)],
    Json.mergePatch_again own distinct others]

theorem mergePatch_eq_self_iff (stamped : IsStamped written) (own : Json) (past time : String) :
    (own.mergePatch (written past)).mergePatch (written time) = own.mergePatch (written past) ↔
      time = past := by
  rw [stamped.mergePatch_again]
  obtain ⟨fields, -, -, written_eq⟩ := stamped
  have filled : ∀ time, text time ≠ null := by simp
  rw [written_eq, mergePatch_append, mergePatch_field (filled past),
    mergePatch_field_eq_self_iff (filled time) (lastField_setField_self _ _ _)]
  simp [mergePatch]

end Json.IsStamped

theorem Form.hasDistinctNames_map {α : Type} {form : Form α}
    (each : ∀ value, (form.write value).HasDistinctNames) (entries : TextMap α) :
    (form.map.write entries).HasDistinctNames := by
  have rising : entries.toList.Pairwise (fun a b => a.1 < b.1) := entries.rising
  refine ⟨?_, Json.fieldsDistinct_iff.2 fun field mem => ?_⟩
  · rw [List.map_map]
    exact List.pairwise_map.2 (rising.imp fun below => String.ne_of_lt below)
  · obtain ⟨entry, -, rfl⟩ := List.mem_map.1 mem
    exact each entry.2

theorem Form.hasDistinctNames_int64 (number : Option Int64) :
    (Form.int64.nullable.write number).HasDistinctNames := by
  cases number <;> trivial

theorem KeycloakStatus.isStamped_write (status : KeycloakStatus) :
    Json.IsStamped fun time => form.write { status with lastUpdated := some time } := by
  refine ⟨[("phase", Phase.form.write status.phase), ("message", .text status.message),
    ("ready", .bool status.ready),
    ("secondaryResources", Form.text.list.map.write status.secondaryResources),
    ("version", .text status.version), ("internalURL", .text status.internalUrl),
    ("externalURL", .text status.externalUrl), ("credentialSecret", .text status.credentialSecret),
    ("conditions", Condition.form.list.write status.conditions),
    ("observedGeneration", Form.int64.nullable.write status.observedGeneration)],
    ⟨by simp, ?_⟩, by simp, fun time => rfl⟩
  have names : ∀ names, (Form.text.list.write names).HasDistinctNames := fun _ => trivial
  have noted := Form.hasDistinctNames_map names status.secondaryResources
  have generation := Form.hasDistinctNames_int64 status.observedGeneration
  exact ⟨trivial, trivial, trivial, noted, trivial, trivial, trivial, trivial, trivial,
    generation, trivial⟩

theorem KeycloakRealmStatus.isStamped_write (status : KeycloakRealmStatus) :
    Json.IsStamped fun time => form.write { status with lastUpdated := some time } := by
  refine ⟨[("phase", Phase.form.write status.phase), ("message", .text status.message),
    ("ready", .bool status.ready), ("loginURL", .text status.loginUrl),
    ("conditions", (Condition.formNamed "RealmCondition").list.write status.conditions),
    ("observedGeneration", Form.int64.nullable.write status.observedGeneration)],
    ⟨by simp, ?_⟩, by simp, fun time => rfl⟩
  have generation := Form.hasDistinctNames_int64 status.observedGeneration
  exact ⟨trivial, trivial, trivial, trivial, trivial, generation, trivial⟩

namespace Wired

variable {α : Type} {form : Form α}

/-- An object once a status has been merged into it. -/
def withStatus (form : Form α) (status : α) (object : Json) : Json :=
  object.mergePatch (statusPatch (form.write status))

/-- The renewed status differs from the stored one in the time of the last update at most. To an object
with the stored one it does nothing but set that time, and the object stays as it is just if that is the
time it has. -/
structure OnlyMovesTime (form : Form α) (stored renewed : α) (past time : String) : Prop where
  renewed_eq_iff : renewed = stored ↔ time = past
  merged_eq (object : Json) : withStatus form renewed (withStatus form stored object) =
    (withStatus form stored object).mergePatch (statusPatch (.object [("lastUpdated", .text time)]))
  unchanged_iff (object : Json) : withStatus form renewed (withStatus form stored object) =
    withStatus form stored object ↔ time = past

theorem onlyMovesTime_of_isStamped {timed : String → α}
    (stamped : Json.IsStamped fun time => form.write (timed time)) (past time : String) :
    OnlyMovesTime form (timed past) (timed time) past time := by
  -- Both patches are about one field of the object, and the first one leaves `kept` in it.
  have watched : ∀ object, ∃ (kept own : Json) (fields : List (String × Json)),
      kept = own.mergePatch (form.write (timed past)) ∧
      withStatus form (timed past) object = .object fields ∧
      Json.lastField "status" fields = some kept := by
    intro object
    refine ⟨_, (Json.lastField "status" object.fieldsOf).getD .null, _, rfl, ?_,
      Json.lastField_setField_self "status" _ object.fieldsOf⟩
    rw [withStatus, statusPatch, Json.mergePatch_field (stamped.ne_null past)]
  refine ⟨⟨fun same => ?_, congrArg timed⟩, fun object => ?_, fun object => ?_⟩
  · exact stamped.injective (congrArg form.write same)
  · obtain ⟨kept, own, fields, kept_eq, watched_eq, found⟩ := watched object
    have again := stamped.mergePatch_again own past time
    rw [watched_eq, withStatus, statusPatch, statusPatch, Json.mergePatch_field (stamped.ne_null time),
      Json.mergePatch_field (by simp), Json.fieldsOf, found, Option.getD_some, kept_eq, again]
  · obtain ⟨kept, own, fields, kept_eq, watched_eq, found⟩ := watched object
    rw [watched_eq, withStatus, statusPatch,
      Json.mergePatch_field_eq_self_iff (stamped.ne_null time) found, kept_eq]
    exact stamped.mergePatch_eq_self_iff own past time

end Wired

theorem KeycloakStatus.onlyMovesTime {status : KeycloakStatus} {past : String}
    (past_eq : status.lastUpdated = some past) (time : String) :
    Wired.OnlyMovesTime form status { status with lastUpdated := some time } past time := by
  have moves := Wired.onlyMovesTime_of_isStamped status.isStamped_write past time
  rwa [← past_eq] at moves

theorem KeycloakRealmStatus.onlyMovesTime {status : KeycloakRealmStatus} {past : String}
    (past_eq : status.lastUpdated = some past) (time : String) :
    Wired.OnlyMovesTime form status { status with lastUpdated := some time } past time := by
  have moves := Wired.onlyMovesTime_of_isStamped status.isStamped_write past time
  rwa [← past_eq] at moves

/-- What a pass over a declared realm reports when it comes to such a result, and when it is to be made
again. -/
inductive KeycloakRealm.Concludes (declared : KeycloakRealm) : RealmOutcome → Option String →
    (told : Except OperatorError Unit) → Except OperatorError Requeue → Prop
  | unmanaged (told : Except OperatorError Unit) : declared.spec.unmanaged = true →
    Concludes declared (.waiting "realm is unmanaged") none told (told.map fun _ => .onChange)
  | applied (loginUrl : String) (told : Except OperatorError Unit) :
    Concludes declared (.applied loginUrl) none told (told.map fun _ => .after 60)
  | waiting (reason : String) (told : Except OperatorError Unit) :
    Concludes declared (.waiting reason) none told (told.map fun _ => .after 10)
  | failed (e : OperatorError) (told : Except OperatorError Unit) :
    Concludes declared (.waiting "") (some e.message) told (.error e)

namespace Pass

open Program (Run)

variable {σ : Type} {env : PassEnvironment σ} {before after : σ} {events : List PassEvent}
  {profiles : Profiles} {kc earlier : Keycloak} {declared : KeycloakRealm} {past : String}

/-! ## Passes over an installation -/

/-- A pass notes objects that belong to the installation, and of what is reported about it nothing
else. -/
theorem exists_noted_of_run {tracked : Keycloak}
    {outcome : Except OperatorError InstallationOutcome}
    (run : Run env (convergeInstallation profiles kc) before events (tracked, outcome) after) :
    ∃ noted, tracked.statusOrDefault = { kc.statusOrDefault with secondaryResources := noted } := by
  have known := returns_convergeInstallation_of_known
    (fun tracked => ∃ noted, tracked.statusOrDefault =
      { kc.statusOrDefault with secondaryResources := noted }) profiles ⟨_, rfl⟩
  refine (known fun tracked kind name ⟨noted, status_eq⟩ => ?_).of_run run
  obtain ⟨more, tracked_eq⟩ : ∃ more, (tracked.trackSecondary kind name).statusOrDefault =
      { tracked.statusOrDefault with secondaryResources := more } := ⟨_, rfl⟩
  exact ⟨more, by rw [tracked_eq, status_eq]⟩

/-- The status after a pass that finds an earlier one's, and that comes to the same, is that one but
for the time. -/
theorem statusAfter_again {outcome : Except OperatorError InstallationOutcome}
    (same : kc.declaration = earlier.declaration)
    (generation_eq : kc.metadata.generation = earlier.metadata.generation)
    (stored : kc.statusOrDefault = statusAfter earlier outcome past) (now : String) :
    statusAfter kc outcome now = { statusAfter earlier outcome past with lastUpdated := some now } := by
  cases outcome with
  | ok made =>
    have stored : kc.statusOrDefault =
        earlier.statusAfterPass made.ready none made.externalUrl past := stored
    exact Keycloak.statusAfterPass_again same generation_eq stored now
  | error e =>
    have stored : kc.statusOrDefault =
        earlier.statusAfterPass false (some e.message) "" past := stored
    exact Keycloak.statusAfterPass_again same generation_eq stored now

theorem secondaryResources_statusAfter (kc : Keycloak)
    (outcome : Except OperatorError InstallationOutcome) (time : String) :
    (statusAfter kc outcome time).secondaryResources = kc.statusOrDefault.secondaryResources := by
  cases outcome <;> rfl

theorem lastUpdated_statusAfter (kc : Keycloak) (outcome : Except OperatorError InstallationOutcome)
    (time : String) : (statusAfter kc outcome time).lastUpdated = some time := by
  cases outcome <;> rfl

/-- A pass over an installation that someone else runs reports about it and does nothing else. -/
theorem follows_installation_of_external (external : kc.spec.external.enabled = true)
    (profiles : Profiles) (time : String) :
    Program.Follows (installation profiles kc).run
      [⟨.now, time⟩, ⟨.patchKeycloakStatus kc.metadata.key
        (statusAfter kc (.ok ⟨true, kc.spec.external.url.getD ""⟩) time), .ok ()⟩]
      (.ok (.after 60)) := by
  unfold installation convergeInstallation
  rw [if_pos external]
  exact Program.run_ask_iff.2 ⟨time, (), _, rfl, trivial,
    Program.run_ask_iff.2 ⟨.ok (), (), _, rfl, trivial, .done _ _⟩⟩

/-! ## Passes over a declared realm -/

theorem run_reportRealm {outcome : RealmOutcome} {error : Option String}
    {told : Except OperatorError Unit}
    (run : Run env (reportRealm declared outcome error).run before events told after) :
    ∃ time, events = [⟨.now, time⟩, ⟨.patchRealmStatus declared.metadata.key
      (declared.statusAfterPass outcome error time), told⟩] := by
  obtain ⟨time, later, _, rfl, -, patching⟩ := run_now_bind_iff.1 run
  obtain ⟨rfl, -⟩ := run_ask_iff.1 patching
  exact ⟨time, rfl⟩

/-- A pass over a declared realm reports once and at its end, or not at all. -/
def ReportsAtEnd (declared : KeycloakRealm) (events : List PassEvent)
    (result : Except OperatorError Requeue) : Prop :=
  (∀ event ∈ events, ¬ event.request.Reports) ∨
    ∃ quiet outcome error time told, (∀ event ∈ quiet, ¬ event.request.Reports) ∧
      events = quiet ++ [⟨.now, time⟩, ⟨.patchRealmStatus declared.metadata.key
        (declared.statusAfterPass outcome error time), told⟩] ∧
      declared.Concludes outcome error told result

variable {result : Except OperatorError Requeue}

theorem ReportsAtEnd.after_quiet {first : List PassEvent}
    (quiet : ∀ event ∈ first, ¬ event.request.Reports)
    (reports : ReportsAtEnd declared events result) :
    ReportsAtEnd declared (first ++ events) result := by
  rcases reports with silent | ⟨rest, outcome, error, time, told, quiet_too, rfl, concludes⟩
  · exact .inl (List.forall_mem_append.2 ⟨quiet, silent⟩)
  · exact .inr ⟨first ++ rest, outcome, error, time, told,
      List.forall_mem_append.2 ⟨quiet, quiet_too⟩, (List.append_assoc _ _ _).symm, concludes⟩

/-- A pass that takes the finalizer off leaves it at that. -/
theorem reportsAtEnd_of_release {requeue : Requeue}
    (run : Run env (removeFinalizer declared >>= fun _ => pure requeue).run before events result
      after) : ReportsAtEnd declared events result := by
  have only : Program.Only (¬ ·.Reports)
      (removeFinalizer declared >>= fun _ => pure requeue : Pass Requeue).run :=
    only_bind (only_ask id) fun _ => trivial
  exact .inl (only.of_run run)

/-- A pass may end with its report. -/
theorem reportsAtEnd_of_report {outcome : RealmOutcome} {requeue : Requeue}
    (concludes : ∀ told : Except OperatorError Unit,
      declared.Concludes outcome none told (told.map fun _ => requeue))
    (run : Run env (reportRealm declared outcome none >>= fun _ => pure requeue).run before events
      result after) : ReportsAtEnd declared events result := by
  rcases run_bind_iff.1 run with ⟨e, rfl, failed⟩ | ⟨_, told, _, _, rfl, reported, ending⟩
  · obtain ⟨time, rfl⟩ := run_reportRealm failed
    exact .inr ⟨[], outcome, none, time, .error e, by simp, rfl, concludes (.error e)⟩
  · obtain ⟨time, rfl⟩ := run_reportRealm reported
    obtain ⟨rfl, rfl, -⟩ := run_pure_iff.1 ending
    exact .inr ⟨[], outcome, none, time, .ok told, by simp, rfl, concludes (.ok told)⟩

theorem reportsAtEnd_settleRealm {outcome : RealmOutcome}
    (run : Run env (settleRealm declared outcome).run before events result after) :
    ReportsAtEnd declared events result := by
  cases outcome with
  | waiting reason => exact reportsAtEnd_of_report (.waiting reason) run
  | applied loginUrl =>
    unfold settleRealm at run
    dsimp only at run
    split at run
    · exact reportsAtEnd_of_release run
    · exact reportsAtEnd_of_report (.applied loginUrl) run

theorem reportsAtEnd_keepRealm
    (run : Run env (keepRealm declared).run before events result after) :
    ReportsAtEnd declared events result := by
  rcases run_bind_iff.1 run with ⟨e, -, failed⟩ | ⟨first, outcome, _, _, rfl, attempted, rest⟩
  · obtain ⟨_, -, impossible⟩ := run_attempt_iff.1 failed
    cases impossible
  obtain ⟨_, converge, outcome_eq⟩ := run_attempt_iff.1 attempted
  cases outcome_eq
  have quiet : ∀ event ∈ first, ¬ event.request.Reports := fun event mem =>
    ((only_convergeRealm declared).of_run converge event mem).not_reports
  refine .after_quiet quiet ?_
  cases outcome with
  | ok outcome => exact reportsAtEnd_settleRealm rest
  | error e =>
    rcases run_bind_iff.1 rest with ⟨_, -, failed⟩ | ⟨_, _, _, _, rfl, attempted, ending⟩
    · obtain ⟨_, -, impossible⟩ := run_attempt_iff.1 failed
      cases impossible
    obtain ⟨told, reported, -⟩ := run_attempt_iff.1 attempted
    obtain ⟨time, rfl⟩ := run_reportRealm reported
    obtain ⟨rfl, rfl, -⟩ := run_throw_iff.1 ending
    exact .inr ⟨[], .waiting "", some e.message, time, told, by simp, rfl, .failed e told⟩

theorem reportsAtEnd_realm (run : Run env (realm declared).run before events result after) :
    ReportsAtEnd declared events result := by
  unfold realm at run
  split at run
  · next unmanaged =>
    unfold unmanagedRealm at run
    split at run
    · split at run
      · exact reportsAtEnd_of_release run
      · obtain ⟨rfl, -, -⟩ := run_pure_iff.1 run
        exact .inl (by simp)
    · exact reportsAtEnd_of_report (.unmanaged · unmanaged) run
  · split at run
    · exact reportsAtEnd_keepRealm run
    · have quiet : Program.Only (¬ ·.Reports) (ensureFinalizer declared).run :=
        only_ensureFinalizer fun _ turns reports => reports.not_isFinalizers turns.isFinalizers
      rcases run_bind_iff.1 run with ⟨e, -, failed⟩ | ⟨_, _, _, _, rfl, ensured, keeping⟩
      · exact .inl (quiet.of_run failed)
      · exact (reportsAtEnd_keepRealm keeping).after_quiet (quiet.of_run ensured)

/-! ## The next report -/

/-- A pass that finds the status of an earlier one, and that comes to the same about the same declaration
with the same objects, writes that status again but for the time: every field and both conditions are as
they were. The status is the stored one, and the watched object stays as it is when the status is merged
into it, just if the clock says what it said then. Otherwise the pass has changed the object that it is
watched by, before the time after which it is to be made again. So it is with installations, and with
declared realms as far as a pass over one reports. -/
theorem repeated_report_moves_time (env : PassEnvironment σ) (profiles : Profiles) (kc : Keycloak)
    (declared : KeycloakRealm) :
    (∀ before events result after,
      Run env (installation profiles kc).run before events result after →
      ∃ converging tracked outcome middle time told,
        Run env (convergeInstallation profiles kc) before converging (tracked, outcome) middle ∧
        events = converging ++ [⟨.now, time⟩,
          ⟨.patchKeycloakStatus kc.metadata.key (statusAfter tracked outcome time), told⟩] ∧
        result = outcome.bind (fun made =>
          told.map fun _ => .after (if made.ready then 60 else 10)) ∧
        ∀ (earlier : Keycloak) (past : String), kc.declaration = earlier.declaration →
          kc.metadata.generation = earlier.metadata.generation →
          let stored := statusAfter earlier outcome past
          let renewed := statusAfter tracked outcome time
          kc.status = some stored → renewed.secondaryResources = stored.secondaryResources →
          renewed = { stored with lastUpdated := some time } ∧
          Wired.OnlyMovesTime KeycloakStatus.form stored renewed past time) ∧
    ∀ before events result after, Run env (realm declared).run before events result after →
      (∀ event ∈ events, ¬ event.request.Reports) ∨
      ∃ quiet outcome error time told, (∀ event ∈ quiet, ¬ event.request.Reports) ∧
        events = quiet ++ [⟨.now, time⟩, ⟨.patchRealmStatus declared.metadata.key
          (declared.statusAfterPass outcome error time), told⟩] ∧
        declared.Concludes outcome error told result ∧
        ∀ (earlier : KeycloakRealm) (past : String),
          declared.metadata.generation = earlier.metadata.generation →
          let stored := earlier.statusAfterPass outcome error past
          let renewed := declared.statusAfterPass outcome error time
          declared.status = some stored →
          renewed = { stored with lastUpdated := some time } ∧
          Wired.OnlyMovesTime KeycloakRealmStatus.form stored renewed past time := by
  refine ⟨fun before events result after run => ?_, fun before events result after run => ?_⟩
  · obtain ⟨converging, tracked, outcome, middle, time, later, told, tracks, rfl, result_eq,
      converge_run, -, -⟩ := run_installation run
    refine ⟨converging, tracked, outcome, middle, time, told, converge_run, by rw [tracks.metadata_eq],
      result_eq, ?_⟩
    intro earlier past same generation_eq stored renewed stored_eq noted_eq
    -- What has been noted is what was noted before, so the pass knows the status as it is stored.
    have known : tracked.statusOrDefault = stored := by
      have kc_eq : kc.statusOrDefault = stored := by
        rw [Keycloak.statusOrDefault, stored_eq, Option.getD_some]
      obtain ⟨noted, tracked_eq⟩ := exists_noted_of_run converge_run
      rw [kc_eq] at tracked_eq
      have noted_eq : noted = stored.secondaryResources := calc
        noted = tracked.statusOrDefault.secondaryResources := by rw [tracked_eq]
        _ = renewed.secondaryResources := (secondaryResources_statusAfter tracked outcome time).symm
        _ = stored.secondaryResources := noted_eq
      rw [tracked_eq, noted_eq]
    have renewed_eq : renewed = { stored with lastUpdated := some time } :=
      statusAfter_again (tracks.declaration_eq.trans same)
        (by rw [tracks.metadata_eq, generation_eq]) known time
    have past_eq := lastUpdated_statusAfter earlier outcome past
    rw [renewed_eq]
    exact ⟨rfl, KeycloakStatus.onlyMovesTime past_eq time⟩
  · rcases reportsAtEnd_realm run with
      silent | ⟨quiet, outcome, error, time, told, none_earlier, rfl, concludes⟩
    · exact .inl silent
    refine .inr ⟨quiet, outcome, error, time, told, none_earlier, rfl, concludes, ?_⟩
    intro earlier past generation_eq stored renewed stored_eq
    have renewed_eq : renewed = { stored with lastUpdated := some time } :=
      KeycloakRealm.statusAfterPass_again generation_eq stored_eq time
    rw [renewed_eq]
    exact ⟨rfl, KeycloakRealmStatus.onlyMovesTime rfl time⟩

/-- Reports that are made again a minute later, about an installation that someone else runs and about
a declared realm that is not managed. -/
theorem reports_of_next_minute :
    let kc : Keycloak :=
      { metadata := { name := some "sso", ns := some "ns" }
        spec := { external := { enabled := true, url := some "https://sso.example.org" } } }
    let kept : KeycloakRealm :=
      { metadata := { name := some "basic", ns := some "apps" }
        spec := { unmanaged := true, realm := { realm := "basic" } } }
    let stored := statusAfter kc (.ok ⟨true, "https://sso.example.org"⟩) "09:00"
    let kept_stored := kept.statusAfterPass (.waiting "realm is unmanaged") none "09:00"
    Program.Follows (installation {} { kc with status := some stored }).run
      [⟨.now, "09:01"⟩, ⟨.patchKeycloakStatus kc.metadata.key
        { stored with lastUpdated := some "09:01" }, .ok ()⟩] (.ok (.after 60)) ∧
    Wired.OnlyMovesTime KeycloakStatus.form stored { stored with lastUpdated := some "09:01" } "09:00"
      "09:01" ∧
    Program.Follows (realm { kept with status := some kept_stored }).run
      [⟨.now, "09:01"⟩, ⟨.patchRealmStatus kept.metadata.key
        { kept_stored with lastUpdated := some "09:01" }, .ok ()⟩] (.ok .onChange) ∧
    Wired.OnlyMovesTime KeycloakRealmStatus.form kept_stored
      { kept_stored with lastUpdated := some "09:01" } "09:00" "09:01" := by
  intro kc kept stored kept_stored
  obtain ⟨of_installation, of_realm⟩ := repeated_report_moves_time (fun _ _ _ _ => True) {}
    { kc with status := some stored } { kept with status := some kept_stored }
  have realm_run : Program.Follows (realm { kept with status := some kept_stored }).run
      [⟨.now, "09:01"⟩, ⟨.patchRealmStatus kept.metadata.key
        { kept_stored with lastUpdated := some "09:01" }, .ok ()⟩] (.ok .onChange) :=
    Program.run_ask_iff.2 ⟨"09:01", (), _, rfl, trivial,
      Program.run_ask_iff.2 ⟨.ok (), (), _, rfl, trivial, .done _ _⟩⟩
  have run : Program.Follows (installation {} { kc with status := some stored }).run
      [⟨.now, "09:01"⟩, ⟨.patchKeycloakStatus kc.metadata.key
        { stored with lastUpdated := some "09:01" }, .ok ()⟩] (.ok (.after 60)) :=
    follows_installation_of_external rfl {} "09:01"
  refine ⟨run, ?_, realm_run, ?_⟩
  · obtain ⟨converging, tracked, outcome, _, time, told, converge_run, events_eq, -, again⟩ :=
      of_installation _ _ _ _ run
    obtain ⟨rfl, outcome_eq, -⟩ := Program.run_done_iff.1 converge_run
    cases outcome_eq
    obtain ⟨now_eq, -⟩ := List.cons.inj events_eq
    cases now_eq
    obtain ⟨renewed_eq, moves⟩ := again kc "09:00" rfl rfl rfl rfl
    exact renewed_eq ▸ moves
  · rcases of_realm _ _ _ _ realm_run with
      silent | ⟨quiet, outcome, error, time, told, none_earlier, events_eq, concludes, again⟩
    · exact absurd trivial (silent _ List.mem_cons_self)
    have quiet_eq : quiet = [] := by simpa using congrArg List.length events_eq
    subst quiet_eq
    obtain ⟨now_eq, -⟩ := List.cons.inj events_eq
    cases now_eq
    generalize result_eq : (Except.ok Requeue.onChange : Except OperatorError Requeue) = result
      at concludes
    cases concludes with
    | unmanaged told _ =>
      obtain ⟨renewed_eq, moves⟩ := again kept "09:00" rfl rfl
      exact renewed_eq ▸ moves
    | applied loginUrl told => cases told <;> cases result_eq
    | waiting reason told => cases told <;> cases result_eq
    | failed e told => cases result_eq

/-- Two passes over an installation that someone else runs, one a minute after the other: the second one
finds what the first one has left and is to be made again after a minute, and whatever else the watched
object consists of, the report of the second one changes it. -/
theorem report_a_minute_later_changes_object :
    let kc : Keycloak :=
      { metadata := { name := some "sso", ns := some "ns" }
        spec := { external := { enabled := true, url := some "https://sso.example.org" } } }
    let stored := statusAfter kc (.ok ⟨true, "https://sso.example.org"⟩) "2024-05-01T10:00:00+00:00"
    let renewed := { stored with lastUpdated := some "2024-05-01T10:01:00+00:00" }
    Program.Follows (installation {} kc).run
      [⟨.now, "2024-05-01T10:00:00+00:00"⟩, ⟨.patchKeycloakStatus kc.metadata.key stored, .ok ()⟩]
      (.ok (.after 60)) ∧
    Program.Follows (installation {} { kc with status := some stored }).run
      [⟨.now, "2024-05-01T10:01:00+00:00"⟩, ⟨.patchKeycloakStatus kc.metadata.key renewed, .ok ()⟩]
      (.ok (.after 60)) ∧
    renewed ≠ stored ∧
    ∀ object, Wired.withStatus KeycloakStatus.form renewed
        (Wired.withStatus KeycloakStatus.form stored object) ≠
      Wired.withStatus KeycloakStatus.form stored object := by
  intro kc stored renewed
  have past_eq : stored.lastUpdated = some "2024-05-01T10:00:00+00:00" := rfl
  have moves := KeycloakStatus.onlyMovesTime past_eq "2024-05-01T10:01:00+00:00"
  have later : "2024-05-01T10:01:00+00:00" ≠ "2024-05-01T10:00:00+00:00" := by decide
  exact ⟨follows_installation_of_external rfl {} _, follows_installation_of_external rfl {} _,
    fun same => later (moves.renewed_eq_iff.1 same),
    fun object same => later ((moves.unchanged_iff object).1 same)⟩

end Pass

end IdentityOperator
