import IdentityOperator.Proofs.GroupSync.Convergence

/-!
What can keep a run that brings groups in line from coming to its end.

A server that has groups answers every call of such a run in a way that the run goes on. So a run fails
only if a request cannot be sent or is not answered (`Session.updateGroups_interrupted`).
-/

namespace IdentityOperator

open Admin (Group Place)
open GroupServer
open Program (Run)

/-- A call about declared groups cannot be sent, or some call has not been answered. -/
def GroupServer.Interrupted (session : Session) (realm : String) (desired : List Group)
    (events : List HttpEvent) : Prop :=
  (∃ call, GroupCall.IsDeclared desired call ∧
    (call.request session realm).outgoing?.isOk = false) ∨ ∃ event ∈ events, event.answer = none

namespace Session

variable {session : Session} {base : List String} {realm : String}
  {desired before after : List Group} {env : HttpEnvironment (List Group)} {events : List HttpEvent}
  {e : OperatorError}

theorem interrupted_append {first second : List HttpEvent}
    (interrupted : Interrupted session realm desired second) :
    Interrupted session realm desired (first ++ second) := by
  rcases interrupted with unsendable | ⟨event, mem, unanswered⟩
  · exact .inl unsendable
  · exact .inr ⟨event, List.mem_append_right first mem, unanswered⟩

theorem created_ne_error {kind : String} {response : Http.Response}
    (status : response.status = 409 ∨ response.status = 201) : created kind response ≠ .error e := by
  have accepted : response.status = 201 ∨ response.status = 204 ∨ response.status = 409 := by omega
  rw [created, if_pos accepted]
  exact nofun

section

variable (server : IsGroupServer session base realm desired env) (below : session.IsBelow base)
include server below

/-- A call fails for want of an answer, or for what the answer is. -/
theorem run_call_error {α : Type} {purpose : String}
    {conclusion : Http.Response → Except OperatorError α} (call : GroupCall)
    (declared : call.IsDeclared desired) (plain : (call.place realm).IsPlain)
    (run : Run env (exchange purpose (call.request session realm) >>= fun response =>
      conclude (conclusion response) : Rest α).run before events (.error e) after) :
    Interrupted session realm desired events ∨
      ∃ response, call.Answered realm before response after ∧ conclusion response = .error e := by
  rcases Program.run_exceptT_bind_error_iff.1 run with
    failed | ⟨_, response, middle, _, rfl, sent, concluded⟩
  · rcases run_exchange_error failed with unsendable | unanswered
    · exact .inl (.inl ⟨call, declared, unsendable⟩)
    · exact .inl (.inr unanswered)
  · obtain ⟨rfl, result_eq, rfl⟩ := Program.run_done_iff.1 concluded
    obtain ⟨request, sendable, -, answered⟩ := run_exchange_iff.1 sent
    have arrives := GroupCall.arrivesBy_of_sent below plain sendable
    exact .inr ⟨response, server call declared request arrives _ _ _ answered, result_eq.symm⟩

section

variable (plain : (Place.groups realm).IsPlain)
include plain

theorem run_listGroups_error
    (run : Run env (session.listAt (.groups realm) Group.form).run before events (.error e) after) :
    Interrupted session realm desired events := by
  rcases run_call_error server below .list trivial plain run with
    interrupted | ⟨response, answered, failed⟩
  · exact interrupted
  · obtain ⟨-, success, bytes, listing, body, decoded, -⟩ := answered
    simp [listed, success, bodyOf, body, decoded, bind, Except.bind] at failed

theorem run_createGroup_error {group : Group} (declared : group ∈ desired)
    (run : Run env (session.createAt (.groups realm) Group.form group).run before events (.error e)
      after) :
    Interrupted session realm desired events := by
  rcases run_call_error server below (.create group) declared plain run with
    interrupted | ⟨response, ⟨taken, free⟩, failed⟩
  · exact interrupted
  · by_cases named : Named before group.name
    · exact (created_ne_error (.inl (taken named).1) failed).elim
    · exact (created_ne_error (.inr (free named).1) failed).elim

end

variable {declared group : Group} (addressable : Addressable realm desired before)
  (declared_mem : declared ∈ desired) (mem : group ∈ before) (name_eq : group.name = declared.name)
include addressable declared_mem mem name_eq

theorem run_updateGroup_error {id : String} (id_eq : group.id = some id)
    (run : Run env (session.updateAt (.group realm id) Group.form { declared with id := some id }).run
      before events (.error e) after) :
    Interrupted session realm desired events := by
  have id_plain := addressable.plain group mem ⟨declared, declared_mem, name_eq.symm⟩ id id_eq
  rcases run_call_error server below (.update id { declared with id := some id })
    ⟨declared, declared_mem, rfl⟩ id_plain run with interrupted | ⟨response, answered, failed⟩
  · exact interrupted
  · obtain ⟨success, -⟩ := answered ⟨group, mem, id_eq⟩
    rw [updated, if_pos success] at failed
    cases failed

theorem run_createChild_error {child : Group} {parent : String} (id_eq : group.id = some parent)
    (child_mem : child ∈ declared.subGroups)
    (run : Run env (session.createAt (.subgroups realm parent) Group.form child).run before events
      (.error e) after) :
    Interrupted session realm desired events := by
  have id_plain := addressable.plain group mem ⟨declared, declared_mem, name_eq.symm⟩ parent id_eq
  rcases run_call_error server below (.createChild parent child) ⟨declared, declared_mem, child_mem⟩
    id_plain.subgroups run with interrupted | ⟨response, answered, failed⟩
  · exact interrupted
  · obtain ⟨front, rest, rfl⟩ := List.append_of_mem mem
    obtain ⟨there, missing⟩ := answered front group rest rfl id_eq
    by_cases has : group.HasChild child.name
    · exact (created_ne_error (.inl (there has).1) failed).elim
    · exact (created_ne_error (.inr (missing has).1) failed).elim

theorem run_createSubgroups_error {parent : String} {children : List Group}
    (id_eq : group.id = some parent) (children_mem : ∀ child ∈ children, child ∈ declared.subGroups)
    (run : Run env (session.createSubgroups realm parent children).run before events (.error e)
      after) :
    Interrupted session realm desired events := by
  induction children generalizing before events group with
  | nil =>
    obtain ⟨-, impossible, -⟩ := Program.run_done_iff.1 run
    cases impossible
  | cons child children ih =>
    obtain ⟨here, later⟩ := List.forall_mem_cons.1 children_mem
    rcases Program.run_exceptT_bind_error_iff.1 run with
      failed | ⟨first, id, middle, second, rfl, created, run⟩
    · exact run_createChild_error server below addressable declared_mem mem name_eq id_eq here failed
    · obtain ⟨progress, deepened, -⟩ :=
        run_createChild server below addressable declared_mem mem name_eq id_eq here created
      obtain ⟨group', mem', deepens⟩ := deepened.keeps group mem
      exact interrupted_append (ih progress.addressable mem' (deepens.name_eq.trans name_eq)
        (deepens.id_eq.trans id_eq) later run)

end

section

variable (server : IsGroupServer session base realm desired env) (below : session.IsBelow base)
  (plain : (Place.groups realm).IsPlain) (addressable : Addressable realm desired before)
include server below plain addressable

theorem run_applyGroupStep_error {step : GroupStep} (apt : step.IsApt desired before)
    (run : Run env (session.applyGroupStep realm step).run before events (.error e) after) :
    Interrupted session realm desired events := by
  cases step with
  | create group =>
    rcases Program.run_exceptT_bind_error_iff.1 run with
      failed | ⟨first, id, middle, second, rfl, created, run⟩
    · exact run_createGroup_error server below plain apt failed
    · obtain ⟨progress, -, told⟩ := run_createGroup server below addressable plain apt created
      split at run
      · obtain ⟨-, impossible, -⟩ := Program.run_done_iff.1 run
        cases impossible
      · next filled =>
        obtain ⟨new, new_mem, id_eq, name_eq⟩ := told filled
        exact interrupted_append (run_createSubgroups_error server below progress.addressable apt
          new_mem name_eq id_eq (fun child mem => mem) run)
  | update id group =>
    obtain ⟨declared, mem, rfl, current, current_mem, id_eq, name_eq⟩ := apt
    exact run_updateGroup_error server below addressable mem current_mem name_eq id_eq run
  | createChild parent child =>
    obtain ⟨declared, mem, child_mem, current, current_mem, id_eq, name_eq⟩ := apt
    exact run_createSubgroups_error server below addressable mem current_mem name_eq id_eq
      (List.forall_mem_singleton.2 child_mem) run

theorem run_applyGroupSteps_error {steps : List GroupStep}
    (apt : ∀ step ∈ steps, step.IsApt desired before)
    (run : Run env (session.applyGroupSteps realm steps).run before events (.error e) after) :
    Interrupted session realm desired events := by
  induction steps generalizing before events with
  | nil =>
    obtain ⟨-, impossible, -⟩ := Program.run_done_iff.1 run
    cases impossible
  | cons step steps ih =>
    obtain ⟨here, later⟩ := List.forall_mem_cons.1 apt
    rcases Program.run_exceptT_bind_error_iff.1 run with
      failed | ⟨first, ⟨⟩, middle, second, rfl, applied, run⟩
    · exact run_applyGroupStep_error server below plain addressable here failed
    · obtain ⟨progress, -⟩ := run_applyGroupStep server below plain addressable here applied
      have apt_later := fun step mem => (later step mem).kept progress.keeps
      exact interrupted_append (ih progress.addressable apt_later run)

end

/-- A run that fails has been interrupted. -/
theorem updateGroups_interrupted {realm : Admin.Realm}
    (server : IsGroupServer session base realm.realm (declaredGroups realm) env)
    (below : session.IsBelow base) (plain : (Place.groups realm.realm).IsPlain)
    (addressable : Addressable realm.realm (declaredGroups realm) before)
    (run : Run env (session.updateGroups realm).run before events (.error e) after) :
    Interrupted session realm.realm (declaredGroups realm) events := by
  rcases Program.run_exceptT_bind_error_iff.1 run with
    failed | ⟨first, listing, middle, second, rfl, listed, applied⟩
  · exact run_listGroups_error server below plain failed
  · obtain ⟨-, rfl, resembles⟩ := run_listGroups server below addressable plain listed
    rw [GroupStep.plan_of_resembles resembles] at applied
    exact interrupted_append (run_applyGroupSteps_error server below plain addressable
      (fun step => GroupStep.isApt_of_mem_plan addressable.toIdentified) applied)

end Session

end IdentityOperator
