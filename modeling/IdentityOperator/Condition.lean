import IdentityOperator.Resource.Keycloak

/-!
The conditions of a status: one statement per type, each with the time since which its value holds.

A condition whose value stays keeps its time; reason and message always speak of the latest pass.
-/

namespace IdentityOperator

namespace Condition

/-- The type of the condition that says whether the last pass succeeded. -/
def reconciledType : String := "Reconciled"

/-- The type of the condition that says whether everything is ready. -/
def readyType : String := "Ready"

def build (conditionType status reason message now : String) : Condition :=
  ⟨conditionType, status, some now, some reason, some message⟩

/-- What becomes of a condition when a newer one of its type is set. -/
def renew (old new : Condition) : Condition :=
  if old.status ≠ new.status then new else { old with reason := new.reason, message := new.message }

/-- Set a condition, in the place of the first one of its type or at the end. -/
def set (new : Condition) : List Condition → List Condition
  | [] => [new]
  | old :: rest =>
    if old.conditionType = new.conditionType then renew old new :: rest else old :: set new rest

/-- What a pass says about itself: that all actions were applied, or why not. -/
def ofOutcome (error : Option String) (now : String) : Condition :=
  match error with
  | some message => build reconciledType "False" "ReconcileFailed" message now
  | none => build reconciledType "True" "ReconcileSucceeded" "all actions applied" now

/-- What a pass says about readiness; a failed pass does not know. -/
def ofReadiness (ready : Bool) (error : Option String) (now : String) : Condition :=
  if error.isSome then build readyType "Unknown" "ReconcileFailed" "last pass failed" now
  else if ready then build readyType "True" "ResourcesReady" "all resources ready" now
  else build readyType "False" "ResourcesNotReady" "waiting for resources to become ready" now

def afterPass (previous : List Condition) (ready : Bool) (error : Option String) (now : String) :
    List Condition :=
  set (ofReadiness ready error now) (set (ofOutcome error now) previous)

end Condition

end IdentityOperator
