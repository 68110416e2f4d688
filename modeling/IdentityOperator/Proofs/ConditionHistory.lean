import IdentityOperator.Condition
import Mathlib.Data.List.Induction
import Mathlib.Data.List.Nodup

/-!
What the conditions of a status tell about the passes so far.

A pass says two things, whether it succeeded and whether everything is ready, and each of them has
a condition of its own. Whatever conditions there were before, a run of passes leaves all other ones
alone, adds what is missing at the end, and lets both conditions speak of the latest pass
(`PassReport.Tells`). The time of either is that of the pass since which all passes agree about it,
or the time that it came with if no pass ever disagreed (`HeldSince`).

One pass carries on what is known about both (`HeldSince.extended`), and a run of passes does so by
induction from its end: `Condition.history_is_exact`.
-/

namespace IdentityOperator

/-- What a pass reports, and when. -/
structure PassReport where
  ready : Bool
  /-- Why the pass failed, if it did. -/
  error : Option String := none
  now : String

/-- What a pass says something about. -/
inductive PassAspect where
  | outcome
  | readiness
  deriving DecidableEq

/-- The type of the condition that speaks of an aspect. -/
def PassAspect.conditionType : PassAspect → String
  | outcome => Condition.reconciledType
  | readiness => Condition.readyType

namespace PassReport

/-- The condition by which a pass speaks of an aspect of it. -/
def condition (pass : PassReport) : PassAspect → Condition
  | .outcome => .ofOutcome pass.error pass.now
  | .readiness => .ofReadiness pass.ready pass.error pass.now

/-- The conditions that speak of a pass, whenever their values came to hold. -/
inductive Tells (pass : PassReport) : Condition → Prop
  | succeeded (time : Option String) : pass.error = none →
    Tells pass ⟨"Reconciled", "True", time, some "ReconcileSucceeded", some "all actions applied"⟩
  | failed (time : Option String) {message : String} : pass.error = some message →
    Tells pass ⟨"Reconciled", "False", time, some "ReconcileFailed", some message⟩
  | unknown (time : Option String) {message : String} : pass.error = some message →
    Tells pass ⟨"Ready", "Unknown", time, some "ReconcileFailed", some "last pass failed"⟩
  | ready (time : Option String) : pass.error = none → pass.ready = true →
    Tells pass ⟨"Ready", "True", time, some "ResourcesReady", some "all resources ready"⟩
  | waiting (time : Option String) : pass.error = none → pass.ready = false →
    Tells pass ⟨"Ready", "False", time, some "ResourcesNotReady",
      some "waiting for resources to become ready"⟩

variable (pass : PassReport) (aspect : PassAspect)

@[simp] theorem conditionType_condition :
    (pass.condition aspect).conditionType = aspect.conditionType := by
  obtain ⟨ready, error, now⟩ := pass
  cases aspect with
  | outcome => cases error <;> rfl
  | readiness => cases error <;> cases ready <;> rfl

@[simp] theorem lastTransitionTime_condition :
    (pass.condition aspect).lastTransitionTime = some pass.now := by
  obtain ⟨ready, error, now⟩ := pass
  cases aspect with
  | outcome => cases error <;> rfl
  | readiness => cases error <;> cases ready <;> rfl

/-- The condition of a pass speaks of it, also with the time of an earlier one. -/
theorem tells_condition (time : Option String) :
    pass.Tells ⟨(pass.condition aspect).conditionType, (pass.condition aspect).status, time,
      (pass.condition aspect).reason, (pass.condition aspect).message⟩ := by
  obtain ⟨ready, error, now⟩ := pass
  cases aspect with
  | outcome =>
    cases error with
    | none => exact .succeeded time rfl
    | some message => exact .failed time rfl
  | readiness =>
    cases error with
    | some message => exact .unknown time rfl
    | none =>
      cases ready with
      | true => exact .ready time rfl rfl
      | false => exact .waiting time rfl rfl

end PassReport

namespace Condition

variable {new : Condition} {conditions initial : List Condition} {passes : List PassReport}
  {aspect : PassAspect}

/-! ## Setting one condition -/

/-- The condition of a type. -/
def ofType (conditionType : String) (conditions : List Condition) : Option Condition :=
  conditions.find? (·.conditionType = conditionType)

@[simp] theorem conditionType_renew (old new : Condition)
    (same : old.conditionType = new.conditionType) :
    (renew old new).conditionType = new.conditionType := by
  unfold renew
  split
  · rfl
  · exact same

@[simp] theorem status_renew (old new : Condition) : (renew old new).status = new.status := by
  unfold renew
  split
  · rfl
  · next same => simpa using same

/-- The types stay in their order, and a new one goes to the end. -/
theorem map_conditionType_set (new : Condition) (conditions : List Condition) :
    (set new conditions).map (·.conditionType) =
      if new.conditionType ∈ conditions.map (·.conditionType) then
        conditions.map (·.conditionType)
      else conditions.map (·.conditionType) ++ [new.conditionType] := by
  induction conditions with
  | nil => rfl
  | cons old rest ih =>
    by_cases here : old.conditionType = new.conditionType
    · simp [set, here]
    · simp only [set, if_neg here, List.map_cons, ih, List.mem_cons, Ne.symm here, false_or]
      split <;> rfl

theorem nodup_set (new : Condition) (distinct : (conditions.map (·.conditionType)).Nodup) :
    ((set new conditions).map (·.conditionType)).Nodup := by
  rw [map_conditionType_set]
  split
  · exact distinct
  · next absent =>
    rw [← List.concat_eq_append]
    exact distinct.concat absent

theorem isPrefix_set (new : Condition) (conditions : List Condition) :
    conditions.map (·.conditionType) <+: (set new conditions).map (·.conditionType) := by
  rw [map_conditionType_set]
  split
  · exact List.prefix_rfl
  · exact List.prefix_append _ _

/-- Conditions that are told from the new one by their type are left alone. -/
theorem filter_set (isWanted : String → Bool) (differs : isWanted new.conditionType = false)
    (conditions : List Condition) :
    (set new conditions).filter (isWanted ·.conditionType) =
      conditions.filter (isWanted ·.conditionType) := by
  induction conditions with
  | nil => simp [set, differs]
  | cons old rest ih =>
    by_cases here : old.conditionType = new.conditionType
    · simp [set, here, differs]
    · simp only [set, if_neg here, List.filter_cons, ih]

theorem ofType_set_self (new : Condition) (conditions : List Condition) :
    ofType new.conditionType (set new conditions) =
      some ((ofType new.conditionType conditions).elim new (renew · new)) := by
  induction conditions with
  | nil => simp [set, ofType]
  | cons old rest ih =>
    by_cases here : old.conditionType = new.conditionType
    · simp [set, ofType, here]
    · unfold ofType at ih ⊢
      simp [set, here, ih]

theorem ofType_set_of_ne {conditionType : String} (differs : new.conditionType ≠ conditionType)
    (conditions : List Condition) :
    ofType conditionType (set new conditions) = ofType conditionType conditions := by
  have kept := filter_set (· = conditionType) (decide_eq_false differs) conditions
  simp only [ofType, ← List.head?_filter, kept]

/-- Where no type is repeated, the condition of a type is the only one. -/
theorem filter_of_ofType {conditionType : String} {found : Condition}
    (distinct : (conditions.map (·.conditionType)).Nodup)
    (is_found : ofType conditionType conditions = some found) :
    conditions.filter (·.conditionType = conditionType) = [found] := by
  induction conditions with
  | nil => cases is_found
  | cons first rest ih =>
    rw [List.map_cons, List.nodup_cons] at distinct
    by_cases here : first.conditionType = conditionType
    · have first_eq : first = found := by simpa [ofType, here] using is_found
      have others : rest.filter (·.conditionType = conditionType) = [] := by
        rw [List.filter_eq_nil_iff]
        intro other mem same
        have same : other.conditionType = conditionType := by simpa using same
        exact distinct.1 (List.mem_map.2 ⟨other, mem, same.trans here.symm⟩)
      rw [List.filter_cons, if_pos (by simpa using here), others, first_eq]
    · have is_found : ofType conditionType rest = some found := by
        simpa [ofType, here] using is_found
      simp [here, ih distinct.2 is_found]

/-! ## One pass after the other -/

/-- The conditions after passes, each of which starts from those of the one before it. -/
def afterPasses (initial : List Condition) (passes : List PassReport) : List Condition :=
  passes.foldl (fun conditions pass => afterPass conditions pass.ready pass.error pass.now) initial

theorem afterPasses_concat (initial : List Condition) (earlier : List PassReport)
    (latest : PassReport) :
    afterPasses initial (earlier ++ [latest]) =
      set (latest.condition .readiness)
        (set (latest.condition .outcome) (afterPasses initial earlier)) := by
  rw [afterPasses, List.foldl_append]
  rfl

theorem nodup_afterPasses (distinct : (initial.map (·.conditionType)).Nodup)
    (passes : List PassReport) :
    ((afterPasses initial passes).map (·.conditionType)).Nodup := by
  induction passes using List.reverseRecOn with
  | nil => exact distinct
  | append_singleton earlier latest ih =>
    rw [afterPasses_concat]
    exact nodup_set _ (nodup_set _ ih)

theorem isPrefix_afterPasses (initial : List Condition) (passes : List PassReport) :
    initial.map (·.conditionType) <+: (afterPasses initial passes).map (·.conditionType) := by
  induction passes using List.reverseRecOn with
  | nil => exact List.prefix_rfl
  | append_singleton earlier latest ih =>
    rw [afterPasses_concat]
    exact (ih.trans (isPrefix_set _ _)).trans (isPrefix_set _ _)

/-- Conditions of other types are left alone. -/
theorem filter_afterPasses (isOther : String → Bool)
    (others : ∀ aspect : PassAspect, isOther aspect.conditionType = false)
    (initial : List Condition) (passes : List PassReport) :
    (afterPasses initial passes).filter (isOther ·.conditionType) =
      initial.filter (isOther ·.conditionType) := by
  induction passes using List.reverseRecOn with
  | nil => rfl
  | append_singleton earlier latest ih =>
    rw [afterPasses_concat, filter_set _ (by simp [others]), filter_set _ (by simp [others]), ih]

/-- The condition of an aspect comes from the one that there was and from the latest pass. -/
theorem ofType_afterPasses_concat (initial : List Condition) (earlier : List PassReport)
    (latest : PassReport) (aspect : PassAspect) :
    ofType aspect.conditionType (afterPasses initial (earlier ++ [latest])) =
      some ((ofType aspect.conditionType (afterPasses initial earlier)).elim
        (latest.condition aspect) (renew · (latest.condition aspect))) := by
  rw [afterPasses_concat]
  cases aspect with
  | outcome =>
    rw [ofType_set_of_ne (by rw [PassReport.conditionType_condition]; decide),
      ← latest.conditionType_condition .outcome, ofType_set_self]
  | readiness =>
    have kept : ofType PassAspect.readiness.conditionType
        (set (latest.condition .outcome) (afterPasses initial earlier)) =
          ofType PassAspect.readiness.conditionType (afterPasses initial earlier) :=
      ofType_set_of_ne (by rw [PassReport.conditionType_condition]; decide) _
    rw [← latest.conditionType_condition .readiness] at kept ⊢
    rw [ofType_set_self, kept]

/-! ## Since when a value holds -/

/-- What was said about an aspect before the next pass, by the latest pass or to begin with. -/
def statusSoFar (initial : List Condition) (aspect : PassAspect) (passes : List PassReport) :
    Option String :=
  (passes.getLast?.map (·.condition aspect)).or (ofType aspect.conditionType initial)
    |>.map (·.status)

/-- Since when the status of an aspect has been what it is after passes: since the first of the
latest passes that agree about it, if something else was said before that one or nothing at all, or
for as long as the condition said to begin with if every pass agreed with that. -/
inductive HeldSince (initial : List Condition) (aspect : PassAspect) :
    List PassReport → (status : String) → (time : Option String) → Prop
  | pass {earlier : List PassReport} {first : PassReport} {later : List PassReport}
    {status : String} :
    statusSoFar initial aspect earlier ≠ some status →
    (∀ pass ∈ first :: later, (pass.condition aspect).status = status) →
    HeldSince initial aspect (earlier ++ first :: later) status (some first.now)
  | beginning {passes : List PassReport} {old : Condition} :
    ofType aspect.conditionType initial = some old →
    (∀ pass ∈ passes, (pass.condition aspect).status = old.status) →
    HeldSince initial aspect passes old.status old.lastTransitionTime

/-- A pass that says the same again changes nothing about that. -/
theorem HeldSince.extended {status : String} {time : Option String} {latest : PassReport}
    (held : HeldSince initial aspect passes status time)
    (same : (latest.condition aspect).status = status) :
    HeldSince initial aspect (passes ++ [latest]) status time := by
  cases held with
  | pass differs agree =>
    rw [List.append_assoc, List.cons_append]
    refine .pass differs fun pass mem => ?_
    rw [← List.cons_append, List.mem_append, List.mem_singleton] at mem
    rcases mem with mem | rfl
    · exact agree pass mem
    · exact same
  | beginning found agree =>
    refine .beginning found fun pass mem => ?_
    rw [List.mem_append, List.mem_singleton] at mem
    rcases mem with mem | rfl
    · exact agree pass mem
    · exact same

/-- The status of the condition of an aspect is what was said last. -/
theorem status_afterPasses (initial : List Condition) (passes : List PassReport)
    (aspect : PassAspect) :
    (ofType aspect.conditionType (afterPasses initial passes)).map (·.status) =
      statusSoFar initial aspect passes := by
  cases passes using List.reverseRecOn with
  | nil => rfl
  | append_singleton earlier latest =>
    rw [ofType_afterPasses_concat, statusSoFar, List.getLast?_concat]
    cases ofType aspect.conditionType (afterPasses initial earlier) <;> simp

theorem heldSince_afterPasses {found : Condition}
    (is_found : ofType aspect.conditionType (afterPasses initial passes) = some found) :
    HeldSince initial aspect passes found.status found.lastTransitionTime := by
  induction passes using List.reverseRecOn generalizing found with
  | nil => exact .beginning is_found (by simp)
  | append_singleton earlier latest ih =>
    have so_far := status_afterPasses initial earlier aspect
    -- A pass that says something new about the aspect is the first of those that say so.
    have begins : statusSoFar initial aspect earlier ≠ some (latest.condition aspect).status →
        HeldSince initial aspect (earlier ++ [latest]) (latest.condition aspect).status
          (latest.condition aspect).lastTransitionTime := by
      intro differs
      rw [latest.lastTransitionTime_condition]
      exact .pass differs (by simp)
    rw [ofType_afterPasses_concat] at is_found
    cases before : ofType aspect.conditionType (afterPasses initial earlier) with
    | none =>
      rw [before] at is_found so_far
      cases is_found
      exact begins (by simp [← so_far])
    | some old =>
      rw [before] at is_found so_far
      cases is_found
      rw [Option.elim_some, status_renew]
      unfold renew
      split
      · next differs => exact begins (by simpa [← so_far] using differs)
      · next same =>
        have same : old.status = (latest.condition aspect).status := by simpa using same
        rw [← same]
        exact (ih before).extended same.symm

/-- The condition of an aspect speaks of the latest pass. -/
theorem tells_afterPasses {earlier : List PassReport} {latest : PassReport} {found : Condition}
    (is_found : ofType aspect.conditionType (afterPasses initial (earlier ++ [latest])) =
      some found) : latest.Tells found := by
  have own := latest.tells_condition aspect (latest.condition aspect).lastTransitionTime
  rw [ofType_afterPasses_concat] at is_found
  cases before : ofType aspect.conditionType (afterPasses initial earlier) with
  | none =>
    rw [before] at is_found
    cases is_found
    exact own
  | some old =>
    rw [before] at is_found
    cases is_found
    have old_type : old.conditionType = aspect.conditionType := by
      simpa using List.find?_some before
    rw [Option.elim_some, renew]
    split
    · exact own
    · next same =>
      have same : old.status = (latest.condition aspect).status := by simpa using same
      have renewed := latest.tells_condition aspect old.lastTransitionTime
      rw [← same, latest.conditionType_condition, ← old_type] at renewed
      exact renewed

/-! ## The history that conditions tell -/

/-- After every pass no type is repeated, what was there before is there in its order, conditions of
other types are untouched, and there is exactly one condition for the outcome and one for readiness.
Each of the two speaks of the latest pass, since the time since which all passes agree about it. -/
theorem history_is_exact (initial : List Condition)
    (distinct : (initial.map (·.conditionType)).Nodup) (earlier : List PassReport)
    (latest : PassReport) :
    let passes := earlier ++ [latest]
    let conditions := afterPasses initial passes
    (conditions.map (·.conditionType)).Nodup ∧
    initial.map (·.conditionType) <+: conditions.map (·.conditionType) ∧
    conditions.filter (fun c => c.conditionType ≠ "Ready" ∧ c.conditionType ≠ "Reconciled") =
      initial.filter (fun c => c.conditionType ≠ "Ready" ∧ c.conditionType ≠ "Reconciled") ∧
    ∀ aspect : PassAspect, ∃ condition,
      conditions.filter (·.conditionType = aspect.conditionType) = [condition] ∧
      latest.Tells condition ∧
      HeldSince initial aspect passes condition.status condition.lastTransitionTime := by
  intro passes conditions
  have distinct_after := nodup_afterPasses distinct passes
  have others_kept := filter_afterPasses
    (fun conditionType => conditionType ≠ "Ready" ∧ conditionType ≠ "Reconciled")
    (fun aspect => by cases aspect <;> decide) initial passes
  refine ⟨distinct_after, isPrefix_afterPasses initial passes, others_kept, fun aspect => ?_⟩
  have found := ofType_afterPasses_concat initial earlier latest aspect
  exact ⟨_, filter_of_ofType distinct_after found, tells_afterPasses found,
    heldSince_afterPasses found⟩

/-- A status that has said for long that something is not ready, with a condition of a third party,
and then a pass that fails between passes that succeed. -/
theorem history_of_interrupted_readiness :
    let initial : List Condition :=
      [⟨"Ready", "False", some "08:00", none, none⟩, ⟨"Backup", "True", none, none, none⟩]
    let earlier : List PassReport :=
      [⟨false, none, "09:00"⟩, ⟨true, none, "09:01"⟩, ⟨true, some "no route", "09:02"⟩,
        ⟨true, none, "09:03"⟩]
    let latest : PassReport := ⟨true, none, "09:04"⟩
    (initial.map (·.conditionType)).Nodup ∧
    (afterPasses initial (earlier ++ [latest])).map (·.conditionType) =
      ["Ready", "Backup", "Reconciled"] ∧
    HeldSince initial .readiness (earlier ++ [latest]) "True" (some "09:03") ∧
    HeldSince initial .outcome (earlier ++ [latest]) "True" (some "09:03") := by
  intro initial earlier latest
  have distinct : (initial.map (·.conditionType)).Nodup := by decide
  obtain ⟨-, -, -, each⟩ := history_is_exact initial distinct earlier latest
  obtain ⟨ready, only_ready, -, ready_held⟩ := each .readiness
  obtain ⟨reconciled, only_reconciled, -, reconciled_held⟩ := each .outcome
  cases only_ready
  cases only_reconciled
  exact ⟨distinct, rfl, ready_held, reconciled_held⟩

end Condition

end IdentityOperator
