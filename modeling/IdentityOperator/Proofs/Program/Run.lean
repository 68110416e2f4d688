import IdentityOperator.Program

/-!
Runs of programs in an environment.

An environment says how a request may be answered in a state and which state that leads to. It is a
relation, so that failures, lost answers and random bytes are all among the ways to go on, and a
statement about every run speaks of every one of them. `Program.Run` relates a program to the
requests that it asked with their answers, to its result and to the states before and after.

* `Program.run_bind_iff` takes a run of a composed program apart at the seam.
* `Program.exists_run` says that a program always comes to an end where every request has some answer.
* `Program.Follows` relates a program to answers and the result that they decide, whatever has answered.
* `Program.Reaches` relates a program to the states at which a run of it may be cut off, and
  `Program.reaches_bind_iff` says in which part of a composed program that was.
* `Program.Always` speaks of runs that are cut off as well: it bounds what may be asked in which state,
  at every point of every run.
* `Program.Only` bounds what may be asked at all, whatever the environment.
-/

namespace IdentityOperator

/-- A request with the answer that it got. -/
structure Event (Request : Type) (Answer : Request → Type) where
  request : Request
  answer : Answer request

/-- How requests may be answered in a state, and the state after the answer. -/
abbrev Environment (Request : Type) (Answer : Request → Type) (σ : Type) : Type :=
  (request : Request) → σ → Answer request → σ → Prop

/-- Every request can be answered in every state. -/
def Environment.Total {Request : Type} {Answer : Request → Type} {σ : Type}
    (env : Environment Request Answer σ) : Prop :=
  ∀ request state, ∃ answer after, env request state answer after

namespace Program

variable {Request : Type} {Answer : Request → Type} {σ α β : Type}
  {env : Environment Request Answer σ}

/-! ## Programs in a row -/

theorem bind_done (program : Program Request Answer α) : program.bind done = program := by
  induction program with
  | done result => rfl
  | ask request next ih => exact congrArg (ask request) (funext ih)

theorem bind_assoc {γ : Type} (program : Program Request Answer α)
    (next : α → Program Request Answer β) (last : β → Program Request Answer γ) :
    (program.bind next).bind last = program.bind fun value => (next value).bind last := by
  induction program with
  | done result => rfl
  | ask request answered ih => exact congrArg (ask request) (funext ih)

instance : LawfulMonad (Program Request Answer) :=
  LawfulMonad.mk' _ (fun program => bind_done program) (fun _ _ => rfl) bind_assoc

theorem run_bind (serve : (request : Request) → σ → Answer request × σ)
    (program : Program Request Answer α) (next : α → Program Request Answer β) (state : σ) :
    (program.bind next).run serve state =
      (next (program.run serve state).1).run serve (program.run serve state).2 := by
  induction program generalizing state with
  | done result => rfl
  | ask request answered ih => exact ih _ _

/-! ## Runs -/

/-- A run to the end: what was asked and answered, the result, and the state before and after. -/
inductive Run (env : Environment Request Answer σ) :
    Program Request Answer α → σ → List (Event Request Answer) → α → σ → Prop
  | done (result : α) (state : σ) : Run env (.done result) state [] result state
  | ask {request : Request} {next : Answer request → Program Request Answer α}
    {before middle after : σ} {answer : Answer request} {events : List (Event Request Answer)}
    {result : α} :
    env request before answer middle → Run env (next answer) middle events result after →
    Run env (.ask request next) before (⟨request, answer⟩ :: events) result after

/-! ## Taking runs apart -/

theorem run_done_iff {value result : α} {before after : σ} {events : List (Event Request Answer)} :
    Run env (.done value) before events result after ↔
      events = [] ∧ result = value ∧ after = before := by
  constructor
  · intro run
    cases run
    exact ⟨rfl, rfl, rfl⟩
  · rintro ⟨rfl, rfl, rfl⟩
    exact .done _ _

theorem run_ask_iff {request : Request} {next : Answer request → Program Request Answer α}
    {result : α} {before after : σ} {events : List (Event Request Answer)} :
    Run env (.ask request next) before events result after ↔
      ∃ answer middle rest, events = ⟨request, answer⟩ :: rest ∧
        env request before answer middle ∧ Run env (next answer) middle rest result after := by
  constructor
  · intro run
    cases run with
    | ask answered rest => exact ⟨_, _, _, rfl, answered, rest⟩
  · rintro ⟨answer, middle, rest, rfl, answered, run⟩
    exact .ask answered run

/-- A run of a composed program is a run of its first part and then one of the rest. -/
theorem run_bind_iff {program : Program Request Answer α} {next : α → Program Request Answer β}
    {result : β} {before after : σ} {events : List (Event Request Answer)} :
    Run env (program >>= next) before events result after ↔
      ∃ first value middle second, events = first ++ second ∧
        Run env program before first value middle ∧
        Run env (next value) middle second result after := by
  induction program generalizing before events with
  | done value =>
    constructor
    · intro run
      exact ⟨[], value, before, events, rfl, .done _ _, run⟩
    · rintro ⟨first, value', middle, second, rfl, run, rest⟩
      obtain ⟨rfl, rfl, rfl⟩ := run_done_iff.1 run
      exact rest
  | ask request answered ih =>
    constructor
    · intro run
      obtain ⟨answer, middle, events, rfl, step, run⟩ := run_ask_iff.1 run
      obtain ⟨first, value, between, second, rfl, run, rest⟩ := (ih answer).1 run
      exact ⟨_, value, between, second, rfl, .ask step run, rest⟩
    · rintro ⟨first, value, between, second, rfl, run, rest⟩
      obtain ⟨answer, middle, events, rfl, step, run⟩ := run_ask_iff.1 run
      exact .ask step ((ih answer).2 ⟨events, value, between, second, rfl, run, rest⟩)

theorem run_send_iff {request : Request} {answer : Answer request} {before after : σ}
    {events : List (Event Request Answer)} :
    Run env (send request) before events answer after ↔
      events = [⟨request, answer⟩] ∧ env request before answer after := by
  constructor
  · intro run
    obtain ⟨given, middle, rest, rfl, step, run⟩ := run_ask_iff.1 run
    obtain ⟨rfl, rfl, rfl⟩ := run_done_iff.1 run
    exact ⟨rfl, step⟩
  · rintro ⟨rfl, step⟩
    exact .ask step (.done _ _)

theorem run_map_iff {program : Program Request Answer α} {f : α → β} {result : β}
    {before after : σ} {events : List (Event Request Answer)} :
    Run env (f <$> program) before events result after ↔
      ∃ value, Run env program before events value after ∧ result = f value := by
  show Run env (program >>= fun value => .done (f value)) before events result after ↔ _
  rw [run_bind_iff]
  constructor
  · rintro ⟨first, value, middle, second, rfl, run, rest⟩
    obtain ⟨rfl, rfl, rfl⟩ := run_done_iff.1 rest
    exact ⟨value, by simpa using run, rfl⟩
  · rintro ⟨value, run, rfl⟩
    exact ⟨events, value, after, [], by simp, run, .done _ _⟩

/-! ## Programs that may fail -/

/-- The first part fails and the second one is not begun, or both run. -/
theorem run_exceptT_bind_iff {ε : Type} {part : ExceptT ε (Program Request Answer) α}
    {next : α → ExceptT ε (Program Request Answer) β} {result : Except ε β} {before after : σ}
    {events : List (Event Request Answer)} :
    Run env (part >>= next).run before events result after ↔
      (∃ e, result = .error e ∧ Run env part.run before events (.error e) after) ∨
        ∃ first value middle second, events = first ++ second ∧
          Run env part.run before first (.ok value) middle ∧
          Run env (next value).run middle second result after := by
  rw [ExceptT.run_bind, run_bind_iff]
  constructor
  · rintro ⟨first, value, middle, second, rfl, run, rest⟩
    cases value with
    | ok value => exact .inr ⟨first, value, middle, second, rfl, run, rest⟩
    | error e =>
      obtain ⟨rfl, rfl, rfl⟩ := run_done_iff.1 rest
      exact .inl ⟨e, rfl, by simpa using run⟩
  · rintro (⟨e, rfl, run⟩ | ⟨first, value, middle, second, rfl, run, rest⟩)
    · exact ⟨events, .error e, after, [], by simp, run, .done _ _⟩
    · exact ⟨first, .ok value, middle, second, rfl, run, rest⟩

/-- To succeed, both parts have to. -/
theorem run_exceptT_bind_ok_iff {ε : Type} {part : ExceptT ε (Program Request Answer) α}
    {next : α → ExceptT ε (Program Request Answer) β} {result : β} {before after : σ}
    {events : List (Event Request Answer)} :
    Run env (part >>= next).run before events (.ok result) after ↔
      ∃ first value middle second, events = first ++ second ∧
        Run env part.run before first (.ok value) middle ∧
        Run env (next value).run middle second (.ok result) after := by
  rw [run_exceptT_bind_iff]
  simp only [reduceCtorEq, false_and, exists_false, false_or]

/-- What fails is the first part, or the second one after it. -/
theorem run_exceptT_bind_error_iff {ε : Type} {part : ExceptT ε (Program Request Answer) α}
    {next : α → ExceptT ε (Program Request Answer) β} {e : ε} {before after : σ}
    {events : List (Event Request Answer)} :
    Run env (part >>= next).run before events (.error e) after ↔
      Run env part.run before events (.error e) after ∨
        ∃ first value middle second, events = first ++ second ∧
          Run env part.run before first (.ok value) middle ∧
          Run env (next value).run middle second (.error e) after := by
  rw [run_exceptT_bind_iff]
  refine or_congr_left ⟨?_, fun run => ⟨e, rfl, run⟩⟩
  rintro ⟨_, same, run⟩
  cases same
  exact run

/-- Runs of two parts that succeed make one of both. -/
theorem exists_run_exceptT_bind {ε : Type} {part : ExceptT ε (Program Request Answer) α}
    {next : α → ExceptT ε (Program Request Answer) β} {value : α} {result : Except ε β}
    {before middle after : σ} (first : ∃ events, Run env part.run before events (.ok value) middle)
    (second : ∃ events, Run env (next value).run middle events result after) :
    ∃ events, Run env (part >>= next).run before events result after := by
  obtain ⟨events, run⟩ := first
  obtain ⟨rest, run'⟩ := second
  exact ⟨events ++ rest, run_exceptT_bind_iff.2 (.inr ⟨events, value, middle, rest, rfl, run, run'⟩)⟩

/-! ## Ends of runs -/

/-- Where every request has some answer, a program has a run to its end. -/
theorem exists_run (total : env.Total) (program : Program Request Answer α) (before : σ) :
    ∃ events result after, Run env program before events result after := by
  induction program generalizing before with
  | done value => exact ⟨[], value, before, .done _ _⟩
  | ask request next ih =>
    obtain ⟨answer, middle, step⟩ := total request before
    obtain ⟨events, result, after, run⟩ := ih answer middle
    exact ⟨_, result, after, .ask step run⟩

/-- What a program asks where it is served so, with the answers. -/
def transcript (serve : (request : Request) → σ → Answer request × σ) :
    Program Request Answer α → σ → List (Event Request Answer)
  | .done _, _ => []
  | .ask request next, state =>
    ⟨request, (serve request state).1⟩ ::
      (next (serve request state).1).transcript serve (serve request state).2

theorem run_transcript {serve : (request : Request) → σ → Answer request × σ}
    (answers : ∀ request state, env request state (serve request state).1 (serve request state).2)
    (program : Program Request Answer α) (before : σ) :
    Run env program before (program.transcript serve before) (program.run serve before).1
      (program.run serve before).2 := by
  induction program generalizing before with
  | done value => exact .done value before
  | ask request next ih => exact .ask (answers request before) (ih _ _)

/-- What a program comes to where it is served as the environment allows is the end of a run. -/
theorem exists_run_of_serve {serve : (request : Request) → σ → Answer request × σ}
    (answers : ∀ request state, env request state (serve request state).1 (serve request state).2)
    (program : Program Request Answer α) (before : σ) :
    ∃ events, Run env program before events (program.run serve before).1
      (program.run serve before).2 :=
  ⟨_, run_transcript answers program before⟩

/-- A run is one in every environment that allows the same answers. -/
theorem Run.mono {other : Environment Request Answer σ} {program : Program Request Answer α}
    {result : α} {before after : σ} {events : List (Event Request Answer)}
    (run : Run env program before events result after)
    (wider : ∀ request before answer after, env request before answer after →
      other request before answer after) : Run other program before events result after := by
  induction run with
  | done result state => exact .done result state
  | ask step run ih => exact .ask (wider _ _ _ _ step) ih

/-- A run is one in another environment too if this one might have answered the same. -/
theorem Run.of_answers {other : Environment Request Answer σ}
    {good : Event Request Answer → Prop} {program : Program Request Answer α} {result : α}
    {before after : σ} {events : List (Event Request Answer)}
    (run : Run env program before events result after) (all_good : ∀ event ∈ events, good event)
    (answers : ∀ request before answer after, good ⟨request, answer⟩ →
      env request before answer after → other request before answer after) :
    Run other program before events result after := by
  induction run with
  | done result state => exact .done result state
  | ask step run ih =>
    obtain ⟨here, later⟩ := List.forall_mem_cons.1 all_good
    exact .ask (answers _ _ _ _ here step) (ih later)

/-- Whatever has been answered in a run might have been answered in some state. -/
theorem Run.exists_answered {program : Program Request Answer α} {result : α} {before after : σ}
    {events : List (Event Request Answer)} (run : Run env program before events result after) :
    ∀ event ∈ events, ∃ middle later, env event.request middle event.answer later := by
  induction run with
  | done result state => simp
  | ask step run ih => exact List.forall_mem_cons.2 ⟨⟨_, _, step⟩, ih⟩

/-- What is seen of the states of a run makes a run of its own where it is answered for. -/
theorem Run.simulated {τ : Type} {other : Environment Request Answer τ} {seen : σ → τ}
    {program : Program Request Answer α} {result : α} {before after : σ}
    {events : List (Event Request Answer)} (run : Run env program before events result after)
    (answers : ∀ request before answer after, env request before answer after →
      other request (seen before) answer (seen after)) :
    Run other program (seen before) events result (seen after) := by
  induction run with
  | done result state => exact .done result (seen state)
  | ask step run ih => exact .ask (answers _ _ _ _ step) ih

/-! ## What the answers decide -/

/-- A program that is answered so comes to such a result, whatever has answered. -/
def Follows (program : Program Request Answer α) (events : List (Event Request Answer))
    (result : α) : Prop :=
  Run (fun _ _ _ _ => True) program () events result ()

theorem Run.follows {program : Program Request Answer α} {result : α} {before after : σ}
    {events : List (Event Request Answer)} (run : Run env program before events result after) :
    Follows program events result := by
  let seen : σ → Unit := fun _ => ()
  have simulated : Run (fun _ _ _ _ => True) program (seen before) events result (seen after) :=
    run.simulated fun _ _ _ _ _ => trivial
  exact simulated

/-- The answers decide what is asked and how often, and the result. -/
theorem Follows.unique {program : Program Request Answer α} {result result' : α}
    {events events' rest rest' : List (Event Request Answer)}
    (follows : Follows program events result) (follows_too : Follows program events' result')
    (same : events ++ rest = events' ++ rest') : events = events' ∧ result = result' := by
  induction program generalizing events events' with
  | done value =>
    obtain ⟨rfl, rfl, -⟩ := run_done_iff.1 follows
    obtain ⟨rfl, rfl, -⟩ := run_done_iff.1 follows_too
    exact ⟨rfl, rfl⟩
  | ask request next ih =>
    obtain ⟨answer, _, later, rfl, -, run⟩ := run_ask_iff.1 follows
    obtain ⟨answer', _, later', rfl, -, run'⟩ := run_ask_iff.1 follows_too
    obtain ⟨event_eq, later_eq⟩ := List.cons.inj same
    cases event_eq
    obtain ⟨rfl, rfl⟩ := ih answer run run' later_eq
    exact ⟨rfl, rfl⟩

/-! ## Runs that are cut off -/

/-- A run that is cut off somewhere, at the latest when it has come to its end: the states before and
after. -/
inductive Reaches (env : Environment Request Answer σ) :
    Program Request Answer α → σ → σ → Prop
  | stop (program : Program Request Answer α) (state : σ) : Reaches env program state state
  | ask {request : Request} {next : Answer request → Program Request Answer α}
    {before middle after : σ} {answer : Answer request} :
    env request before answer middle → Reaches env (next answer) middle after →
    Reaches env (.ask request next) before after

theorem Run.reaches {program : Program Request Answer α} {result : α} {before after : σ}
    {events : List (Event Request Answer)} (run : Run env program before events result after) :
    Reaches env program before after := by
  induction run with
  | done result state => exact .stop _ _
  | ask step run ih => exact .ask step ih

theorem reaches_done_iff {value : α} {before after : σ} :
    Reaches env (.done value) before after ↔ after = before := by
  constructor
  · intro reached
    cases reached
    rfl
  · rintro rfl
    exact .stop _ _

theorem reaches_ask_iff {request : Request} {next : Answer request → Program Request Answer α}
    {before after : σ} :
    Reaches env (.ask request next) before after ↔
      after = before ∨
        ∃ answer middle, env request before answer middle ∧ Reaches env (next answer) middle after := by
  constructor
  · intro reached
    cases reached with
    | stop => exact .inl rfl
    | ask step rest => exact .inr ⟨_, _, step, rest⟩
  · rintro (rfl | ⟨answer, middle, step, rest⟩)
    · exact .stop _ _
    · exact .ask step rest

/-- Where a program is run up to some request, a run is cut off. -/
theorem reaches_runUntil {serve : (request : Request) → σ → Answer request × σ}
    (answers : ∀ request state, env request state (serve request state).1 (serve request state).2)
    (isLast : Request → Bool) (program : Program Request Answer α) (before : σ) :
    Reaches env program before (program.runUntil isLast serve before).2 := by
  induction program generalizing before with
  | done value => exact .stop _ _
  | ask request next ih =>
    refine .ask (answers request before) ?_
    show Reaches env _ _ (if isLast request then _ else _ : Option α × σ).2
    split
    · exact .stop _ _
    · exact ih _ _

/-- A run of a composed program is cut off in its first part, or in the rest after the first part has
come to its end. -/
theorem reaches_bind_iff {program : Program Request Answer α}
    {next : α → Program Request Answer β} {before after : σ} :
    Reaches env (program >>= next) before after ↔
      Reaches env program before after ∨
        ∃ events value middle, Run env program before events value middle ∧
          Reaches env (next value) middle after := by
  induction program generalizing before with
  | done value =>
    constructor
    · intro reached
      exact .inr ⟨[], value, before, .done _ _, reached⟩
    · rintro (reached | ⟨events, value', middle, run, rest⟩)
      · cases reaches_done_iff.1 reached
        exact .stop _ _
      · obtain ⟨-, rfl, rfl⟩ := run_done_iff.1 run
        exact rest
  | ask request answered ih =>
    constructor
    · intro reached
      rcases reaches_ask_iff.1 reached with rfl | ⟨answer, middle, step, reached⟩
      · exact .inl (.stop _ _)
      · rcases (ih answer).1 reached with reached | ⟨events, value, between, run, rest⟩
        · exact .inl (.ask step reached)
        · exact .inr ⟨_, value, between, .ask step run, rest⟩
    · rintro (reached | ⟨events, value, between, run, rest⟩)
      · rcases reaches_ask_iff.1 reached with rfl | ⟨answer, middle, step, reached⟩
        · exact .stop _ _
        · exact .ask step ((ih answer).2 (.inl reached))
      · obtain ⟨answer, middle, events, rfl, step, run⟩ := run_ask_iff.1 run
        exact .ask step ((ih answer).2 (.inr ⟨events, value, between, run, rest⟩))

/-- Whenever a request is asked, however the earlier ones were answered, it is allowed in the state
of that moment. -/
def Always (env : Environment Request Answer σ) (allowed : Request → σ → Prop) :
    Program Request Answer α → σ → Prop
  | .done _, _ => True
  | .ask request next, state =>
    allowed request state ∧
      ∀ answer after, env request state answer after → Always env allowed (next answer) after

variable {allowed : Request → σ → Prop}

theorem always_bind_iff {program : Program Request Answer α}
    {next : α → Program Request Answer β} {before : σ} :
    Always env allowed (program >>= next) before ↔
      Always env allowed program before ∧
        ∀ events value after, Run env program before events value after →
          Always env allowed (next value) after := by
  induction program generalizing before with
  | done value =>
    constructor
    · intro always
      refine ⟨trivial, fun events value' after run => ?_⟩
      obtain ⟨-, rfl, rfl⟩ := run_done_iff.1 run
      exact always
    · rintro ⟨-, rest⟩
      exact rest _ _ _ (.done _ _)
  | ask request answered ih =>
    constructor
    · rintro ⟨permitted, always⟩
      refine ⟨⟨permitted, fun answer after step => ((ih answer).1 (always answer after step)).1⟩, ?_⟩
      intro events value after run
      obtain ⟨answer, middle, rest, -, step, run⟩ := run_ask_iff.1 run
      exact ((ih answer).1 (always answer middle step)).2 rest value after run
    · rintro ⟨⟨permitted, always⟩, rest⟩
      refine ⟨permitted, fun answer middle step => (ih answer).2 ⟨always answer middle step, ?_⟩⟩
      intro events value after run
      exact rest _ value after (.ask step run)

/-- What every allowed request preserves is preserved by a run, wherever it is cut off. -/
theorem Always.relates_of_reaches {R : σ → σ → Prop} (refl : ∀ state, R state state)
    (trans : ∀ {a b c}, R a b → R b c → R a c) {program : Program Request Answer α}
    {before after : σ}
    (step : ∀ request before answer after, allowed request before →
      env request before answer after → R before after)
    (always : Always env allowed program before) (reached : Reaches env program before after) :
    R before after := by
  induction reached with
  | stop program state => exact refl state
  | ask served reached ih =>
    exact trans (step _ _ _ _ always.1 served) (ih (always.2 _ _ served))

/-! ## What a program may ask at all -/

/-- Whatever the answers are, only such requests are asked. -/
def Only (allowed : Request → Prop) : Program Request Answer α → Prop
  | .done _ => True
  | .ask request next => allowed request ∧ ∀ answer, Only allowed (next answer)

/-- Whatever the answers are, the result is of such a sort. -/
def Returns (post : α → Prop) : Program Request Answer α → Prop
  | .done result => post result
  | .ask _ next => ∀ answer, Returns post (next answer)

variable {sort wider : Request → Prop} {program : Program Request Answer α}

theorem returns_bind {next : α → Program Request Answer β} {post : β → Prop}
    (second : ∀ value, Returns post (next value)) : Returns post (program >>= next) := by
  induction program with
  | done value => exact second value
  | ask request answered ih => exact fun answer => ih answer

theorem returns_bind_of_returns {next : α → Program Request Answer β} {pre : α → Prop}
    {post : β → Prop} (first : Returns pre program)
    (second : ∀ value, pre value → Returns post (next value)) : Returns post (program >>= next) := by
  induction program with
  | done value => exact second value first
  | ask request answered ih => exact fun answer => ih answer (first answer)

theorem Returns.of_run {post : α → Prop} {result : α} {before after : σ}
    {events : List (Event Request Answer)} (returns : Returns post program)
    (run : Run env program before events result after) : post result := by
  induction run with
  | done result state => exact returns
  | ask served run ih => exact ih (returns _)

theorem only_bind_of_returns {next : α → Program Request Answer β} {post : α → Prop}
    (first : Only sort program) (returns : Returns post program)
    (second : ∀ value, post value → Only sort (next value)) : Only sort (program >>= next) := by
  induction program with
  | done value => exact second value returns
  | ask request answered ih =>
    exact ⟨first.1, fun answer => ih answer (first.2 answer) (returns answer)⟩

theorem only_bind {next : α → Program Request Answer β} (first : Only sort program)
    (second : ∀ value, Only sort (next value)) : Only sort (program >>= next) := by
  induction program with
  | done value => exact second value
  | ask request answered ih => exact ⟨first.1, fun answer => ih answer (first.2 answer)⟩

/-- What comes after a failure is not asked. -/
theorem only_exceptT_bind {ε : Type} {part : ExceptT ε (Program Request Answer) α}
    {next : α → ExceptT ε (Program Request Answer) β} (first : Only sort part.run)
    (second : ∀ value, Only sort (next value).run) : Only sort (part >>= next).run := by
  rw [ExceptT.run_bind]
  refine only_bind first fun result => ?_
  cases result with
  | ok value => exact second value
  | error e => trivial

theorem Only.mono (only : Only sort program) (covers : ∀ request, sort request → wider request) :
    Only wider program := by
  induction program with
  | done value => trivial
  | ask request answered ih => exact ⟨covers _ only.1, fun answer => ih answer (only.2 answer)⟩

/-- Requests that are allowed in every state are allowed when they are asked. -/
theorem Only.always (only : Only sort program)
    (harmless : ∀ request state, sort request → allowed request state) (before : σ) :
    Always env allowed program before := by
  induction program generalizing before with
  | done value => trivial
  | ask request answered ih =>
    exact ⟨harmless _ _ only.1, fun answer after _ => ih answer (only.2 answer) after⟩

/-- Where such a request has only one answer, there is only one run. -/
theorem Only.unique {result result' : α} {before after after' : σ}
    {events events' : List (Event Request Answer)} (only : Only sort program)
    (decided : ∀ request before answer after answer' after', sort request →
      env request before answer after → env request before answer' after' →
      answer = answer' ∧ after = after')
    (run : Run env program before events result after)
    (run' : Run env program before events' result' after') :
    events = events' ∧ result = result' ∧ after = after' := by
  induction program generalizing before events events' with
  | done value =>
    obtain ⟨rfl, rfl, rfl⟩ := run_done_iff.1 run
    obtain ⟨rfl, rfl, rfl⟩ := run_done_iff.1 run'
    exact ⟨rfl, rfl, rfl⟩
  | ask request next ih =>
    obtain ⟨answer, middle, later, rfl, served, run⟩ := run_ask_iff.1 run
    obtain ⟨answer', middle', later', rfl, served', run'⟩ := run_ask_iff.1 run'
    obtain ⟨rfl, rfl⟩ := decided _ _ _ _ _ _ only.1 served served'
    obtain ⟨rfl, rfl, rfl⟩ := ih answer (only.2 answer) run run'
    exact ⟨rfl, rfl, rfl⟩

theorem Only.of_run {result : α} {before after : σ} {events : List (Event Request Answer)}
    (only : Only sort program) (run : Run env program before events result after) :
    ∀ event ∈ events, sort event.request := by
  induction run with
  | done result state => simp
  | ask step run ih => exact List.forall_mem_cons.2 ⟨only.1, ih (only.2 _)⟩

/-- What every such request preserves is preserved by a run, wherever it is cut off. -/
theorem Only.relates_of_reaches {R : σ → σ → Prop} (refl : ∀ state, R state state)
    (trans : ∀ {a b c}, R a b → R b c → R a c) {before after : σ}
    (step : ∀ request before answer after, sort request → env request before answer after →
      R before after)
    (only : Only sort program) (reached : Reaches env program before after) : R before after := by
  have always : Always env (fun request _ => sort request) program before :=
    only.always (fun _ _ allowed => allowed) before
  exact always.relates_of_reaches refl trans step reached

/-- What every such request preserves is preserved by a run. -/
theorem Only.relates {R : σ → σ → Prop} (refl : ∀ state, R state state)
    (trans : ∀ {a b c}, R a b → R b c → R a c) {result : α} {before after : σ}
    {events : List (Event Request Answer)}
    (step : ∀ request before answer after, sort request → env request before answer after →
      R before after)
    (only : Only sort program) (run : Run env program before events result after) :
    R before after :=
  only.relates_of_reaches refl trans step run.reaches

end Program

end IdentityOperator
