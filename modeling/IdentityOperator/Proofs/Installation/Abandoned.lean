import IdentityOperator.Proofs.Installation.Pass
import IdentityOperator.Proofs.Pass.FailFast

/-!
Passes over one installation that are given up.

A call may fail for good, with or without having had its effect, and a pass may be cut off before any
request (`Pass.Breakable`). Nothing is written before the plan is complete, and the plan has then been
made from the store as it is. So wherever a pass is given up, it has put the first few objects into the
store that the whole pass would have put there, in the same order
(`Pass.reaches_convergeInstallation`).
-/

namespace IdentityOperator.Pass

open Program (Run Reaches Only)

/-- A request is answered as by a reliable cluster, or the call fails in a way that ends the pass; then
it may have had its effect all the same. -/
def Breakable (capabilities : Capabilities) : PassEnvironment Store :=
  fun request before answer after =>
    Reliable capabilities request before answer after ∨
      request.FailsWith answer ∧
        (after = before ∨ ∃ lost, Reliable capabilities request before lost after)

variable {capabilities : Capabilities} {before after : Store} {events : List PassEvent}
  {kc : Keycloak} {profiles : Profiles}

theorem Breakable.reliable {request : PassRequest} {answer : request.Answer}
    (answered : Breakable capabilities request before answer after)
    (passed : ¬ request.FailsWith answer) : Reliable capabilities request before answer after :=
  answered.resolve_right fun failed => passed failed.1

/-- Where no call has failed, the cluster might have been reliable. -/
theorem run_reliable {α : Type} {part : Asking α} {result : α}
    (run : Run (Breakable capabilities) part before events result after)
    (clean : ∀ event ∈ events, ¬ PassEvent.Fails event) :
    Run (Reliable capabilities) part before events result after :=
  run.of_answers clean fun _ _ _ _ passed answered => answered.reliable passed

/-! ## Requests that write nothing -/

theorem Reliable.eq_of_not_writes {request : PassRequest} {answer : request.Answer}
    (reads : ¬ request.Writes) (answered : Reliable capabilities request before answer after) :
    after = before := by
  cases request with
  | cluster call =>
    cases call with
    | get kind key =>
      have performed : before.perform (.get kind key) = (answer, after) := answered
      cases live : before.find? kind key with
      | none =>
        cases (Store.perform_get_of_none live).symm.trans performed
        rfl
      | some object =>
        cases (Store.perform_get_of_some live).symm.trans performed
        rfl
    | list kind ns selector =>
      have performed : before.perform (.list kind ns selector) = (answer, after) := answered
      cases performed
      rfl
    | create | update | delete => exact absurd trivial reads
  | flag | password => exact answered.2
  | patchKeycloakStatus | patchRealmStatus | patchFinalizers | login | admin | now => exact answered

theorem Breakable.eq_of_not_writes {request : PassRequest} {answer : request.Answer}
    (reads : ¬ request.Writes) (answered : Breakable capabilities request before answer after) :
    after = before := by
  rcases answered with answered | ⟨-, same | ⟨lost, answered⟩⟩
  · exact answered.eq_of_not_writes reads
  · exact same
  · exact answered.eq_of_not_writes reads

theorem eq_of_reaches {α : Type} {part : Asking α} (only : Only (¬ ·.Writes) part)
    (reached : Reaches (Breakable capabilities) part before after) : after = before :=
  (only.relates_of_reaches (R := Eq) Eq.refl Eq.trans
    (fun _ _ _ _ reads answered => (answered.eq_of_not_writes reads).symm) reached).symm

/-! ## Reading and planning -/

/-- Where reading has succeeded no call has failed. -/
theorem clean_of_run_readParts {σ : Type} {env : PassEnvironment σ} {first last : σ}
    {state found : Snapshot} {parts : List Part} {result : Tracked Snapshot}
    (run : Run env (readParts kc state parts) first events result last)
    (result_eq : result.2 = .ok found) : ∀ event ∈ events, ¬ PassEvent.Fails event := by
  induction parts generalizing kc state first events with
  | nil =>
    obtain ⟨rfl, -, -⟩ := Program.run_done_iff.1 run
    simp
  | cons part parts ih =>
    obtain ⟨answer, middle, later, rfl, -, rest⟩ := run_ask_bind_iff.1 run
    cases answer with
    | ok object =>
      refine List.forall_mem_cons.2 ⟨?_, ih rest⟩
      rintro ⟨e, ⟨⟩, -⟩
    | error e =>
      dsimp only at rest
      split at rest
      · next absent =>
        refine List.forall_mem_cons.2 ⟨?_, ih rest⟩
        rintro ⟨_, ⟨⟩, present⟩
        exact Bool.false_ne_true (present.symm.trans absent)
      · obtain ⟨-, rfl, -⟩ := Program.run_done_iff.1 rest
        cases result_eq

theorem clean_of_run_readAndPlan {σ : Type} {env : PassEnvironment σ} {first last : σ}
    {result : Tracked (Snapshot × Plan)} {planned : Snapshot × Plan}
    (run : Run env (readAndPlan profiles kc) first events result last)
    (result_eq : result.2 = .ok planned) : ∀ event ∈ events, ¬ PassEvent.Fails event := by
  have only_flags : Only (fun request => ∀ answer, ¬ request.FailsWith answer) installationFlags :=
    only_installationFlags fun _ _ => id
  obtain ⟨reading, ⟨tracked, found⟩, middle, planning, rfl, read_run, rest⟩ :=
    Program.run_bind_iff.1 run
  cases found with
  | error e =>
    obtain ⟨-, rfl, -⟩ := Program.run_done_iff.1 rest
    cases result_eq
  | ok state =>
    obtain ⟨asked, _, _, looked, rfl, flags_run, parts_run⟩ := Program.run_bind_iff.1 read_run
    obtain ⟨planned_events, plan, _, _, rfl, plan_run, rest⟩ := Program.run_bind_iff.1 rest
    obtain ⟨rfl, -, -⟩ := Program.run_done_iff.1 rest
    have only_plan : Only (fun request => ∀ answer, ¬ request.FailsWith answer)
        (planInstallation profiles tracked state) :=
      only_planInstallation (fun _ _ => id) (fun _ _ => id) profiles tracked state
    rw [List.append_nil]
    refine List.forall_mem_append.2 ⟨List.forall_mem_append.2 ⟨?_, ?_⟩, ?_⟩
    · exact fun event mem => only_flags.of_run flags_run event mem event.answer
    · exact clean_of_run_readParts parts_run rfl
    · exact fun event mem => only_plan.of_run plan_run event mem event.answer

theorem only_readAndPlan (profiles : Profiles) (kc : Keycloak) :
    Only (¬ ·.Writes) (readAndPlan profiles kc) := by
  refine Program.only_bind (only_readSnapshot (fun _ => id) (fun _ _ => id) kc) fun ⟨tracked, found⟩ => ?_
  cases found with
  | error e => trivial
  | ok state =>
    exact Program.only_bind (only_planInstallation (fun _ => id) (fun _ => id) _ _ _) fun _ => trivial

/-! ## Applying -/

/-- An action that is under way has been applied or not. -/
theorem reaches_applyAction {session : Option Session} {action : Action} {o : Object}
    (fits : Fits before action) (written : action.written? = some o)
    (reached : Reaches (Breakable capabilities) (applyAction session action).run before after) :
    after = before ∨ after = before.put o := by
  -- Whatever is answered, a call that has had an effect has written the object.
  have effect : ∀ {call : ClusterCall} {answer : call.Answer} {middle : Store},
      (∀ {answer : call.Answer} {middle : Store}, before.perform call = (answer, middle) →
        middle = before.put o) →
      Breakable capabilities (.cluster call) before answer middle →
      middle = before ∨ middle = before.put o := by
    rintro call answer middle performs (answered | ⟨-, rfl | ⟨lost, answered⟩⟩)
    · exact .inr (performs answered)
    · exact .inl rfl
    · exact .inr (performs answered)
  cases action with
  | create o' msg =>
    cases written
    rcases Program.reaches_ask_iff.1 reached with rfl | ⟨answer, middle, answered, rest⟩
    · exact .inl rfl
    · cases Program.reaches_done_iff.1 rest
      refine effect (fun performed => ?_) answered
      cases (Store.perform_create_of_missing fits).symm.trans performed
      rfl
  | update o' previous msg =>
    cases written
    rcases Program.reaches_ask_iff.1 reached with rfl | ⟨answer, middle, answered, rest⟩
    · exact .inl rfl
    · cases Program.reaches_done_iff.1 rest
      refine effect (fun performed => ?_) answered
      cases (Store.perform_update_of_contains fits).symm.trans performed
      rfl
  | _ => cases written

/-- An action that has succeeded has been applied. -/
theorem run_applyAction_breakable {session : Option Session} {action : Action}
    (fits : Fits before action)
    (run : Run (Breakable capabilities) (applyAction session action).run before events (.ok ())
      after) :
    ∃ o, action.written? = some o ∧ after = before.put o := by
  have clean : ∀ event ∈ events, ¬ PassEvent.Fails event := by
    cases action with
    | create o msg | update o previous msg =>
      obtain ⟨rfl, -⟩ := run_clusterCall_iff.1 run
      rintro event mem fails
      cases List.mem_singleton.1 mem
      obtain ⟨e, ⟨⟩, -⟩ := fails
    | _ => exact fits.elim
  have reliable := run_reliable run clean
  rw [← serving_all] at reliable
  obtain ⟨o, written, -, after_eq, -⟩ := run_applyAction fits (fun _ _ => rfl) reliable
  exact ⟨o, written, after_eq⟩

/-- A plan that is given up has put its first few objects into the store. -/
theorem reaches_applyPlan {session : Option Session} {plan : Plan}
    (fits : ∀ action ∈ plan, Fits before action)
    (distinct : Store.DistinctPlaces (plan.filterMap Action.written?))
    (reached : Reaches (Breakable capabilities) (applyPlan session plan).run before after) :
    ∃ n, after = before.putAll ((plan.filterMap Action.written?).take n) := by
  induction plan generalizing before with
  | nil =>
    cases Program.reaches_done_iff.1 reached
    exact ⟨0, rfl⟩
  | cons action plan ih =>
    have here := fits action List.mem_cons_self
    obtain ⟨o, written⟩ : ∃ o, action.written? = some o := by
      cases action <;> first | exact ⟨_, rfl⟩ | exact here.elim
    rw [List.filterMap_cons_some written] at distinct ⊢
    rcases reaches_bind_iff.1 reached with reached | ⟨_, _, middle, run, rest⟩
    · rcases reaches_applyAction here written reached with rfl | rfl
      · exact ⟨0, rfl⟩
      · exact ⟨1, rfl⟩
    · obtain ⟨o', written', rfl⟩ := run_applyAction_breakable here run
      cases written.symm.trans written'
      obtain ⟨apart, distinct⟩ := List.pairwise_cons.1 distinct
      have fits_later : ∀ action ∈ plan, Fits (before.put o) action := by
        intro later mem
        refine (fits later (List.mem_cons_of_mem _ mem)).put fun other other_written => ?_
        have differs := apart other (List.mem_filterMap.2 ⟨later, mem, other_written⟩)
        exact (Store.isAt_comm other o).trans differs
      obtain ⟨n, after_eq⟩ := ih fits_later distinct rest
      exact ⟨n + 1, after_eq⟩

/-! ## The pass -/

/-- After the plan has been applied nothing is written. -/
theorem reaches_carryOut {state : Snapshot} {plan : Plan}
    (reached : Reaches (Breakable capabilities) (carryOut kc state plan) before after) :
    Reaches (Breakable capabilities) (applyInstallation kc plan).run before after := by
  rcases Program.reaches_bind_iff.1 reached with reached | ⟨_, outcome, last, run, rest⟩
  · exact reached
  · have same : after = last := by
      cases outcome with
      | error e => exact Program.reaches_done_iff.1 rest
      | ok applied =>
        refine eq_of_reaches ?_ rest
        exact Program.only_bind (only_ask id) fun _ => trivial
    exact same ▸ run.reaches

/-- A pass that is given up leaves the store as it was, or it has put the first few objects of a whole
pass there. -/
theorem reaches_convergeInstallation (managed : kc.spec.unmanaged = false)
    (internal : kc.spec.external.enabled = false)
    (reached : Reaches (Breakable capabilities) (convergeInstallation profiles kc) before after) :
    after = before ∨
      ∃ b whole n,
        Effect kc.declaration profiles capabilities.installationFlags b before whole ∧
        after = before.putAll ((b.objects capabilities.installationFlags
          (Snapshot.ofStore kc.declaration before)).take n) := by
  rw [convergeInstallation_eq internal] at reached
  rcases Program.reaches_bind_iff.1 reached with
    reached | ⟨_, ⟨tracked, planned⟩, middle, run, reached_plan⟩
  · exact .inl (eq_of_reaches (only_readAndPlan profiles kc) reached)
  cases eq_of_reaches (only_readAndPlan profiles kc) run.reaches
  cases planned with
  | error e => exact .inl (Program.reaches_done_iff.1 reached_plan)
  | ok planned =>
    have reliable := run_reliable run (clean_of_run_readAndPlan run rfl)
    rw [← serving_all] at reliable
    obtain ⟨b, state, planned, result_eq, -, -⟩ := run_readAndPlan reliable
    cases result_eq
    have spec_eq : b.kc.spec = kc.spec := (congrArg Keycloak.spec planned.declared :)
    obtain ⟨fits, written_eq, distinct⟩ :=
      fits_actions (Part.nodup_wanted _ _) (planned.agrees fun _ _ => rfl)
    have ofStore_eq := Snapshot.ofStore_congr
      (planned.declared.trans kc.declaration_declaration.symm) before
    have applied := reaches_carryOut reached_plan
    rw [applyInstallation, if_neg (by simp [spec_eq, managed])] at applied
    obtain ⟨n, rfl⟩ : ∃ n, after = before.putAll ((b.objects capabilities.installationFlags
        (Snapshot.ofStore b.kc before)).take n) := by
      rw [Blueprint.objects, ← written_eq]
      rcases reaches_bind_iff.1 applied with reached | ⟨_, _, _, run, rest⟩
      · exact reaches_applyPlan fits distinct reached
      · cases Program.reaches_done_iff.1 rest
        exact reaches_applyPlan fits distinct run.reaches
    refine .inr ⟨_, _, n, planned.effect fun _ _ => rfl, ?_⟩
    rw [Blueprint.objects_declaration, ofStore_eq]

/-- After the objects have been brought in line nothing is written. -/
theorem reaches_installation
    (reached : Reaches (Breakable capabilities) (installation profiles kc).run before after) :
    Reaches (Breakable capabilities) (convergeInstallation profiles kc) before after := by
  have only_reports : ∀ (kc : Keycloak) (ready : Bool) (error : Option String) (url : String),
      Program.Only (¬ ·.Writes) (reportInstallation kc ready error url).run :=
    fun kc ready error url =>
      (only_reportInstallation kc ready error url).mono fun request reports => by
        cases request <;> first | exact id | exact reports.elim
  rcases Program.reaches_bind_iff.1 reached with reached | ⟨_, ⟨tracked, result⟩, last, run, rest⟩
  · exact reached
  · have same : after = last := by
      refine eq_of_reaches ?_ rest
      cases result with
      | error e => exact Program.only_bind (only_reports _ _ _ _) fun _ => trivial
      | ok outcome =>
        refine Program.only_bind (only_reports _ _ _ _) fun told => ?_
        cases told <;> trivial
    exact same ▸ run.reaches

end IdentityOperator.Pass
