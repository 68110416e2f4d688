import IdentityOperator.Proofs.Program.Run

/-!
Two programs that run side by side.

The requests of the two are answered one at a time, each in the state that the last one has left, in
any order that keeps the order of each program (`Program.Woven`). To run one program to its end and
then the other is one of these orders (`Program.Woven.of_runs`), so that what holds of all of them
compares any order with the two in a row.

* `Program.Woven.exists_run_left` follows one of the two programs through another environment, and so
  through a run of its own where the requests of the other one make no difference to it.
* `Program.exists_woven` says that there are such runs where every request has some answer.
-/

namespace IdentityOperator.Program

variable {Request : Type} {Answer : Request → Type} {σ τ α β : Type}
  {env : Environment Request Answer σ}

/-- A run of two programs side by side: the state before, what each has asked with its result, and the
state after. -/
inductive Woven (env : Environment Request Answer σ) :
    Program Request Answer α → Program Request Answer β → σ →
    List (Event Request Answer) → α → List (Event Request Answer) → β → σ → Prop
  | done (a : α) (b : β) (state : σ) : Woven env (.done a) (.done b) state [] a [] b state
  | left {request : Request} {next : Answer request → Program Request Answer α}
    {program : Program Request Answer β} {before middle after : σ} {answer : Answer request}
    {events others : List (Event Request Answer)} {a : α} {b : β} :
    env request before answer middle →
    Woven env (next answer) program middle events a others b after →
    Woven env (.ask request next) program before (⟨request, answer⟩ :: events) a others b after
  | right {request : Request} {next : Answer request → Program Request Answer β}
    {program : Program Request Answer α} {before middle after : σ} {answer : Answer request}
    {events others : List (Event Request Answer)} {a : α} {b : β} :
    env request before answer middle →
    Woven env program (next answer) middle events a others b after →
    Woven env program (.ask request next) before events a (⟨request, answer⟩ :: others) b after

variable {program : Program Request Answer α} {other : Program Request Answer β}
  {before middle after : σ} {events others : List (Event Request Answer)} {a : α} {b : β}

theorem Woven.symm (woven : Woven env program other before events a others b after) :
    Woven env other program before others b events a after := by
  induction woven with
  | done a b state => exact .done b a state
  | left served woven ih => exact .right served ih
  | right served woven ih => exact .left served ih

/-! ## One after the other -/

theorem Woven.of_run_right (a : α) (run : Run env other before others b after) :
    Woven env (.done a) other before [] a others b after := by
  induction run with
  | done b state => exact .done a b state
  | ask served run ih => exact .right served ih

theorem Woven.of_runs (run : Run env program before events a middle)
    (run' : Run env other middle others b after) :
    Woven env program other before events a others b after := by
  induction run with
  | done a state => exact .of_run_right a run'
  | ask served run ih => exact .left served (ih run')

/-- Where every request has some answer, two programs can be run side by side, with one request of
each in turn. -/
theorem exists_woven (total : env.Total) (program : Program Request Answer α)
    (other : Program Request Answer β) (before : σ) :
    ∃ events a others b after, Woven env program other before events a others b after := by
  induction program generalizing other before with
  | done a =>
    obtain ⟨others, b, after, run⟩ := exists_run total other before
    exact ⟨[], a, others, b, after, .of_run_right a run⟩
  | ask request next ih =>
    obtain ⟨answer, middle, served⟩ := total request before
    cases other with
    | done b =>
      obtain ⟨events, a, others, b, after, woven⟩ := ih answer (.done b) middle
      exact ⟨_, a, others, b, after, .left served woven⟩
    | ask request' next' =>
      obtain ⟨answer', later, served'⟩ := total request' middle
      obtain ⟨events, a, others, b, after, woven⟩ := ih answer (next' answer') later
      exact ⟨_, a, _, b, after, .left served (.right served' woven)⟩

/-! ## One of the two -/

variable {mine theirs : Event Request Answer → Prop}

/-- What the answers to both programs preserve holds in the end. -/
theorem Woven.preserves {P : σ → Prop}
    (woven : Woven env program other before events a others b after)
    (all_mine : ∀ event ∈ events, mine event) (all_theirs : ∀ event ∈ others, theirs event)
    (step : ∀ request before answer after, mine ⟨request, answer⟩ ∨ theirs ⟨request, answer⟩ →
      env request before answer after → P before → P after)
    (holds : P before) : P after := by
  induction woven with
  | done a b state => exact holds
  | left served woven ih =>
    obtain ⟨here, later⟩ := List.forall_mem_cons.1 all_mine
    exact ih later all_theirs (step _ _ _ _ (.inl here) served holds)
  | right served woven ih =>
    obtain ⟨here, later⟩ := List.forall_mem_cons.1 all_theirs
    exact ih all_mine later (step _ _ _ _ (.inr here) served holds)

/-- What the first program has been answered makes a run of it where no state is kept. -/
theorem Woven.run_left_stateless {stateless : Environment Request Answer Unit}
    (woven : Woven env program other before events a others b after)
    (answers : ∀ request before answer after, env request before answer after →
      stateless request () answer ()) : Run stateless program () events a () := by
  induction woven with
  | done a b state => exact .done a ()
  | left served woven ih => exact .ask (answers _ _ _ _ served) ih
  | right served woven ih => exact ih

/-- The first program has been answered as in a run of its own, if its answers might have been given
where it is alone, and what the second one is answered is not seen there. -/
theorem Woven.exists_run_left {alone : Environment Request Answer τ} {R : σ → τ → Prop} {seen : τ}
    (woven : Woven env program other before events a others b after)
    (all_mine : ∀ event ∈ events, mine event) (all_theirs : ∀ event ∈ others, theirs event)
    (step : ∀ request before answer after seen, mine ⟨request, answer⟩ →
      env request before answer after → R before seen →
      ∃ later, alone request seen answer later ∧ R after later)
    (skip : ∀ request before answer after seen, theirs ⟨request, answer⟩ →
      env request before answer after → R before seen → R after seen)
    (related : R before seen) :
    ∃ later, Run alone program seen events a later ∧ R after later := by
  induction woven generalizing seen with
  | done a b state => exact ⟨seen, .done a seen, related⟩
  | left served woven ih =>
    obtain ⟨here, later⟩ := List.forall_mem_cons.1 all_mine
    obtain ⟨between, answered, related⟩ := step _ _ _ _ _ here served related
    obtain ⟨last, run, related⟩ := ih later all_theirs related
    exact ⟨last, .ask answered run, related⟩
  | right served woven ih =>
    obtain ⟨here, later⟩ := List.forall_mem_cons.1 all_theirs
    exact ih all_mine later (skip _ _ _ _ _ here served related)

end IdentityOperator.Program
