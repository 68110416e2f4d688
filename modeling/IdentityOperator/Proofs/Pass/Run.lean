import IdentityOperator.Pass.Execution
import IdentityOperator.Proofs.Program.Run

/-!
Runs of passes and of their parts.

A part that may fail runs to `.ok` or to `.error`. `run_bind_iff` takes a run of two parts in a row
apart: to succeed, both have to; to fail, the first one fails, and then the second one is not begun,
or the second one does. The other lemmas say what the single requests of a
pass look like in a run.
-/

namespace IdentityOperator

/-- A request of a pass with its answer. -/
abbrev PassEvent : Type := Event PassRequest PassRequest.Answer

/-- What a pass runs against. -/
abbrev PassEnvironment (σ : Type) : Type := Environment PassRequest PassRequest.Answer σ

namespace Pass

open Program (Run Reaches Always)

variable {σ α β : Type} {env : PassEnvironment σ} {before after : σ} {events : List PassEvent}

/-! ## Parts in a row -/

/-- The first part fails and the second one is not begun, or both run. -/
theorem run_bind_iff {part : Pass α} {next : α → Pass β} {result : Except OperatorError β} :
    Run env (part >>= next).run before events result after ↔
      (∃ e, result = .error e ∧ Run env part.run before events (.error e) after) ∨
        ∃ first value middle second, events = first ++ second ∧
          Run env part.run before first (.ok value) middle ∧
          Run env (next value).run middle second result after :=
  Program.run_exceptT_bind_iff

theorem run_bind_ok_iff {part : Pass α} {next : α → Pass β} {result : β} :
    Run env (part >>= next).run before events (.ok result) after ↔
      ∃ first value middle second, events = first ++ second ∧
        Run env part.run before first (.ok value) middle ∧
        Run env (next value).run middle second (.ok result) after :=
  Program.run_exceptT_bind_ok_iff

theorem run_pure_iff {value : α} {result : Except OperatorError α} :
    Run env (pure value : Pass α).run before events result after ↔
      events = [] ∧ result = .ok value ∧ after = before :=
  Program.run_done_iff

theorem run_throw_iff {e : OperatorError} {result : Except OperatorError α} :
    Run env (throw e : Pass α).run before events result after ↔
      events = [] ∧ result = .error e ∧ after = before :=
  Program.run_done_iff

/-- What a part asks does not depend on what is made of its end. -/
theorem exists_run_of_bind_pure {part : Pass α} {value : β} {result : Except OperatorError β}
    (run : Run env (part >>= fun _ => pure value).run before events result after) :
    ∃ told, Run env part.run before events told after := by
  rcases run_bind_iff.1 run with ⟨e, -, failed⟩ | ⟨_, told, _, _, rfl, done, last⟩
  · exact ⟨_, failed⟩
  · obtain ⟨rfl, -, rfl⟩ := run_pure_iff.1 last
    rw [List.append_nil]
    exact ⟨_, done⟩

/-- A part that does not fail runs as it would by itself. -/
theorem run_lift_iff {part : Asking α} {result : Except OperatorError α} :
    Run env (ExceptT.lift part : Pass α).run before events result after ↔
      ∃ value, Run env part before events value after ∧ result = .ok value := by
  rw [ExceptT.run_lift]
  exact Program.run_map_iff

theorem run_attempt_iff {part : Pass α} {result : Except OperatorError (Except OperatorError α)} :
    Run env (attempt part).run before events result after ↔
      ∃ outcome, Run env part.run before events outcome after ∧ result = .ok outcome :=
  run_lift_iff

/-! ## Single requests -/

theorem run_ask_iff {request : PassRequest} {answer : request.Answer} :
    Run env (ask request) before events answer after ↔
      events = [⟨request, answer⟩] ∧ env request before answer after :=
  Program.run_send_iff

/-- A request, and then what is done with its answer. -/
theorem run_ask_bind_iff {request : PassRequest} {next : request.Answer → Asking α} {result : α} :
    Run env (ask request >>= next) before events result after ↔
      ∃ answer middle rest, events = ⟨request, answer⟩ :: rest ∧
        env request before answer middle ∧ Run env (next answer) middle rest result after :=
  Program.run_ask_iff

theorem run_clusterCall_iff {call : ClusterCall} {result : call.Answer} :
    Run env (clusterCall call).run before events result after ↔
      events = [⟨.cluster call, result⟩] ∧ env (.cluster call) before result after :=
  Program.run_send_iff

theorem run_adminCall_iff {session : Session} {call : AdminCall} {result : call.Answer} :
    Run env (adminCall session call).run before events result after ↔
      events = [⟨.admin session call, result⟩] ∧ env (.admin session call) before result after :=
  Program.run_send_iff

theorem run_login_iff {kc : Keycloak} {result : Except OperatorError Session} :
    Run env (login kc).run before events result after ↔
      events = [⟨.login kc, result⟩] ∧ env (.login kc) before result after :=
  Program.run_send_iff

theorem run_patchFinalizers_iff {key : ObjectKey} {finalizers : List String}
    {result : Except OperatorError Unit} :
    Run env (patchFinalizers key finalizers).run before events result after ↔
      events = [⟨.patchFinalizers key finalizers, result⟩] ∧
        env (.patchFinalizers key finalizers) before result after :=
  Program.run_send_iff

/-- The clock is read, and then what follows is done. -/
theorem run_now_bind_iff {next : String → Pass α} {result : Except OperatorError α} :
    Run env (now >>= next).run before events result after ↔
      ∃ time middle rest, events = ⟨.now, time⟩ :: rest ∧ env .now before time middle ∧
        Run env (next time).run middle rest result after :=
  Program.run_ask_iff

/-! ## Plans in a row -/

theorem applyPlan_append (session : Option Session) (first second : Plan) :
    applyPlan session (first ++ second) =
      (applyPlan session first >>= fun _ => applyPlan session second) := by
  induction first with
  | nil => rfl
  | cons action first ih =>
    simp only [List.cons_append, applyPlan, ih, bind_assoc]

/-! ## Passes that are cut off -/

/-- A pass is cut off in its first part, or in the rest after the first part has succeeded. -/
theorem reaches_bind_iff {part : Pass α} {next : α → Pass β} :
    Reaches env (part >>= next).run before after ↔
      Reaches env part.run before after ∨
        ∃ events value middle, Run env part.run before events (.ok value) middle ∧
          Reaches env (next value).run middle after := by
  rw [ExceptT.run_bind, Program.reaches_bind_iff]
  constructor
  · rintro (reached | ⟨events, value, middle, run, rest⟩)
    · exact .inl reached
    · cases value with
      | ok value => exact .inr ⟨events, value, middle, run, rest⟩
      | error e =>
        cases Program.reaches_done_iff.1 rest
        exact .inl run.reaches
  · rintro (reached | ⟨events, value, middle, run, rest⟩)
    · exact .inl reached
    · exact .inr ⟨events, .ok value, middle, run, rest⟩

variable {allowed : PassRequest → σ → Prop}

theorem always_bind_iff {part : Pass α} {next : α → Pass β} :
    Always env allowed (part >>= next).run before ↔
      Always env allowed part.run before ∧
        ∀ events value after, Run env part.run before events (.ok value) after →
          Always env allowed (next value).run after := by
  rw [ExceptT.run_bind, Program.always_bind_iff]
  constructor
  · rintro ⟨always, rest⟩
    exact ⟨always, fun events value after run => rest events (.ok value) after run⟩
  · rintro ⟨always, rest⟩
    refine ⟨always, fun events value after run => ?_⟩
    cases value with
    | ok value => exact rest events value after run
    | error e => trivial

end Pass

end IdentityOperator
