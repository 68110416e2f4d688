import IdentityOperator.Cluster.ApiServer
import IdentityOperator.Proofs.Cluster.Addressing
import IdentityOperator.Proofs.Program.Run
import IdentityOperator.Proofs.Split
import IdentityOperator.Proofs.Store

/-!
Servers of the cluster's API, and what a call makes of their answers.

`IsApiServer` says what is documented of a server: which requests it answers in which way, and which
objects it holds afterwards. The server may hold them in any way, and answer by any JSON that reads
as it should. One call to such a server gives the result that the contract of calls gives, and
leaves the server with the objects that the contract leaves (`IsApiServer.agrees`).
-/

namespace IdentityOperator

/-! ## Answers -/

theorem ApiContent.read_eq_ok {α : Type} {form : Form α} {content : ApiContent} {value : α}
    (found : content.json?.bind form.ofJson? = some value) : content.read form = .ok value := by
  rw [ApiContent.read, found]

namespace ApiResponse

/-- An answer that brings an object. -/
structure Brings (response : ApiResponse) (kind : Kind) (x : kind.Object) : Prop where
  success : Http.isFailure response.status = false
  content : response.content.json?.bind kind.form.ofJson? = some x

/-- An answer that reports a failure. -/
structure Reports (response : ApiResponse) (code : UInt16) (reason message : String) : Prop where
  failure : Http.isFailure response.status = true
  content : ∃ status, response.content.json?.bind ErrorReport.form.ofJson? =
    some { status, message, reason, code }

/-- An answer that an object has been deleted: the object, or a word about the deletion. -/
structure Confirms (response : ApiResponse) (kind : Kind) : Prop where
  success : Http.isFailure response.status = false
  content : ∃ json, response.content.json? = some json ∧ Form.json.ofJson? json = some json ∧
    (json.field? "kind" = some (.text "Status") ∧ (statusForm.ofJson? json).isSome ∨
      json.field? "kind" = some (.text kind.name) ∧ (kind.form.ofJson? json).isSome)

variable {response : ApiResponse} {kind : Kind} {x : kind.Object} {code : UInt16}
  {reason message : String}

theorem Brings.read (brings : response.Brings kind x) :
    (response.outcome.bind fun content => content.read kind.form) = .ok x := by
  rw [outcome, if_neg (by simp [brings.success])]
  exact ApiContent.read_eq_ok brings.content

theorem Reports.outcome_eq (reports : response.Reports code reason message) :
    ∃ status, response.outcome = .error (.refused { status, message, reason, code }) := by
  obtain ⟨status, content⟩ := reports.content
  refine ⟨status, ?_⟩
  rw [outcome, if_pos reports.failure, ErrorReport.ofResponse, content]

theorem Confirms.read (confirms : response.Confirms kind) :
    ∃ content, response.outcome = .ok content ∧ readDeletion kind content = .ok () := by
  refine ⟨response.content, by rw [outcome, if_neg (by simp [confirms.success])], ?_⟩
  obtain ⟨json, json_eq, readable, as_told⟩ := confirms.content
  have json_read : response.content.read Form.json = .ok json :=
    ApiContent.read_eq_ok (by rw [json_eq, Option.bind_some, readable])
  rcases as_told with ⟨kind_eq, reads⟩ | ⟨kind_eq, reads⟩ <;>
    obtain ⟨value, reads⟩ := Option.isSome_iff_exists.1 reads
  · have status_read : response.content.read statusForm = .ok value :=
      ApiContent.read_eq_ok (by rw [json_eq, Option.bind_some, reads])
    rw [readDeletion, json_read]
    simp only [bind, Except.bind, kind_eq, status_read]
    rfl
  · have object_read : response.content.read kind.form = .ok value :=
      ApiContent.read_eq_ok (by rw [json_eq, Option.bind_some, reads])
    rw [readDeletion, json_read]
    simp only [bind, Except.bind, kind_eq, object_read]
    cases kind <;> rfl

end ApiResponse

/-! ## What a server says -/

/-- The words by which a server says that it does not have an object. -/
def Kind.missingText (kind : Kind) (name : String) : String :=
  kind.plural ++ " \"" ++ name ++ "\" not found"

/-- The words by which a server says that it does not serve a kind. -/
def unservedText : String := "the server could not find the requested resource"

namespace ApiFailure

/-- A name with no blank in it does not make a missing object look like a kind that is not served:
there are too few blanks for that. -/
theorem mentions_missingText {kind : Kind} {name : String}
    (segment : Http.Target.isSegment name = true) :
    mentions (kind.missingText name) unknownKindMark = false := by
  rw [← Bool.not_eq_true]
  intro mentioned
  have fewer := (Split.isInfix_of_hasPart mentioned).sublist.count_le ' '
  have in_mark : unknownKindMark.toList.count ' ' = 5 := by decide
  have in_plural : kind.plural.toList.count ' ' = 0 := by cases kind <;> decide
  have in_name : name.toList.count ' ' = 0 := by
    refine List.count_eq_zero.2 fun mem => ?_
    exact absurd (Http.Target.inPath_of_isSegment segment ' ' mem) (by decide)
  have in_text : (kind.missingText name).toList.count ' ' = 3 := by
    simp only [Kind.missingText, String.toList_append, List.count_append, in_plural, in_name]
    decide
  rw [in_mark, in_text] at fewer
  omega

/-- A missing object is told as such. -/
theorem aboutObject_missing {kind : Kind} {key : ObjectKey}
    (segment : Http.Target.isSegment key.name = true) (status : String) :
    (refused ⟨status, kind.missingText key.name, "NotFound", 404⟩).aboutObject kind key =
      ClusterCall.missing kind key := by
  have missing : isMissingObject ⟨status, kind.missingText key.name, "NotFound", 404⟩ = true := by
    simp [isMissingObject, mentions_missingText segment]
  rw [aboutObject, if_pos missing]
  rfl

/-- A kind that is not served is told as such. -/
theorem aboutObject_unserved (kind : Kind) (key : ObjectKey) (status : String) :
    (refused ⟨status, unservedText, "NotFound", 404⟩).aboutObject kind key =
      .kindNotRegistered kind.name := by
  have mentioned : mentions unservedText unknownKindMark = true := by decide
  have served : ¬ isMissingObject ⟨status, unservedText, "NotFound", 404⟩ = true := by
    simp [isMissingObject, mentioned]
  rw [aboutObject, if_neg served, if_pos rfl]

end ApiFailure

/-! ## Servers -/

/-- An object that calls can be about: it has a name of its own, requests for it reach it, and it is
read back from its JSON. -/
structure Object.IsPlain (o : Object) : Prop where
  named : o.metadata.name = some o.key.name
  addressed : o.kind.addresses o.key = true
  legible : o.kind.form.ofJson? o.toJson = some o.content

/-- An answer of some sort, and a state in which some objects are held. -/
def Gives {σ : Type} (holds : σ → Store → Prop) (answered : ApiResponse × σ)
    (sort : ApiResponse → Prop) (store : Store) : Prop :=
  sort answered.1 ∧ holds answered.2 store

/-- A server that holds the objects of a store and serves some kinds. It answers 404 about an object
that it does not have, with the object's name, 409 to the creation of an object that it has, and 404
about a kind that it does not serve, in other words. -/
structure IsApiServer {σ : Type} (serve : ApiRequest → σ → ApiResponse × σ)
    (holds : σ → Store → Prop) (served : Kind → Bool) : Prop where
  get_found : ∀ {state store} {kind : Kind} {key} {x : kind.Object}, holds state store →
    served kind = true → kind.addresses key = true → store.find? kind key = some x →
    Gives holds (serve (.to .get (kind.objectPath key)) state) (·.Brings kind x) store
  get_missing : ∀ {state store} {kind : Kind} {key}, holds state store → served kind = true →
    kind.addresses key = true → store.contains kind key = false →
    Gives holds (serve (.to .get (kind.objectPath key)) state)
      (·.Reports 404 "NotFound" (kind.missingText key.name)) store
  post_found : ∀ {state store} {o : Object}, holds state store → served o.kind = true → o.IsPlain →
    store.contains o.kind o.key = true →
    Gives holds (serve (.to .post (o.kind.collectionPath o.key.ns) (some o.toJson)) state)
      (fun response => ∃ reason message, response.Reports 409 reason message) store
  post_missing : ∀ {state store} {o : Object}, holds state store → served o.kind = true →
    o.IsPlain → store.contains o.kind o.key = false →
    Gives holds (serve (.to .post (o.kind.collectionPath o.key.ns) (some o.toJson)) state)
      (fun response => ∃ x, response.Brings o.kind x) (store.put o)
  put_found : ∀ {state store} {o : Object}, holds state store → served o.kind = true → o.IsPlain →
    store.contains o.kind o.key = true →
    Gives holds (serve (.to .put (o.kind.objectPath o.key) (some o.toJson)) state)
      (fun response => ∃ x, response.Brings o.kind x) (store.put o)
  put_missing : ∀ {state store} {o : Object}, holds state store → served o.kind = true → o.IsPlain →
    store.contains o.kind o.key = false →
    Gives holds (serve (.to .put (o.kind.objectPath o.key) (some o.toJson)) state)
      (·.Reports 404 "NotFound" (o.kind.missingText o.key.name)) store
  delete_found : ∀ {state store} {kind : Kind} {key}, holds state store → served kind = true →
    kind.addresses key = true → store.contains kind key = true →
    Gives holds (serve (.to .delete (kind.objectPath key) (some (.object []))) state)
      (·.Confirms kind) (store.remove kind key)
  delete_missing : ∀ {state store} {kind : Kind} {key}, holds state store → served kind = true →
    kind.addresses key = true → store.contains kind key = false →
    Gives holds (serve (.to .delete (kind.objectPath key) (some (.object []))) state)
      (·.Reports 404 "NotFound" (kind.missingText key.name)) store
  unserved : ∀ {state store} {kind : Kind} {key} {request : ApiRequest}, holds state store →
    served kind = false → kind.addresses key = true →
    request.target.path = kind.objectPath key ∨
      request.target.path = kind.collectionPath key.ns →
    Gives holds (serve request state) (·.Reports 404 "NotFound" unservedText) store

/-! ## Calls -/

/-- The contract of calls where only some kinds are served. -/
def Store.performServed (served : Kind → Bool) (call : ClusterCall) (store : Store) :
    call.Answer × Store :=
  if served call.kind then store.perform call
  else (.error (.kindNotRegistered call.kind.name), store)

/-- A call about one object which can be about it. -/
def ClusterCall.IsPlain : ClusterCall → Prop
  | .get kind key => kind.addresses key = true
  | .create o | .update o => o.IsPlain
  | .delete o => o.kind.addresses o.key = true
  | .list .. => False

/-- The request of such a call goes to a place of the kind that the call is about. -/
theorem ClusterCall.IsPlain.exists_request {call : ClusterCall} (plain : call.IsPlain) :
    ∃ request key, call.request = .ok request ∧ call.kind.addresses key = true ∧
      (request.target.path = call.kind.objectPath key ∨
        request.target.path = call.kind.collectionPath key.ns) := by
  cases call with
  | get kind key => exact ⟨_, key, request_get plain, plain, .inl rfl⟩
  | create o => exact ⟨_, o.key, request_create plain.addressed, plain.addressed, .inr rfl⟩
  | update o => exact ⟨_, o.key, request_update plain.addressed, plain.addressed, .inl rfl⟩
  | delete o => exact ⟨_, o.key, request_delete plain, plain, .inl rfl⟩
  | list => cases plain

namespace IsApiServer

variable {σ : Type} {serve : ApiRequest → σ → ApiResponse × σ} {holds : σ → Store → Prop}
  {served : Kind → Bool} {state : σ} {store : Store}

theorem run_viaApi {call : ClusterCall} {request : ApiRequest}
    (request_eq : call.request = .ok request) (state : σ) :
    call.viaApi.run serve state =
      (call.conclude (serve request state).1.outcome, (serve request state).2) := by
  rw [ClusterCall.viaApi, request_eq]
  rfl

/-- What one call comes to: its result, and what the server holds afterwards. -/
def Agrees (serve : ApiRequest → σ → ApiResponse × σ) (holds : σ → Store → Prop)
    (call : ClusterCall) (state : σ) (contract : call.Answer × Store) : Prop :=
  (call.viaApi.run serve state).1 = contract.1 ∧ holds (call.viaApi.run serve state).2 contract.2

theorem agrees_of_gives {call : ClusterCall} {request : ApiRequest} {sort : ApiResponse → Prop}
    {answer : call.Answer} (request_eq : call.request = .ok request)
    (gives : Gives holds (serve request state) sort store)
    (concludes : ∀ response, sort response → call.conclude response.outcome = answer) :
    Agrees serve holds call state (answer, store) := by
  rw [Agrees, run_viaApi request_eq]
  exact ⟨concludes _ gives.1, gives.2⟩

/-- A call about a kind that is not served fails for this reason. -/
theorem conclude_unserved {call : ClusterCall} (plain : call.IsPlain) {response : ApiResponse}
    (reports : response.Reports 404 "NotFound" unservedText) :
    call.conclude response.outcome = .error (.kindNotRegistered call.kind.name) := by
  obtain ⟨status, outcome_eq⟩ := reports.outcome_eq
  rw [outcome_eq]
  have cause := fun kind key => ApiFailure.aboutObject_unserved kind key status
  cases call with
  | get kind key => exact congrArg Except.error (cause kind key)
  | create o => exact congrArg Except.error (cause o.kind o.key)
  | update o => exact congrArg Except.error (cause o.kind o.key)
  | delete o =>
    simp only [ClusterCall.conclude, cause]
    rfl
  | list => cases plain

variable (server : IsApiServer serve holds served)

include server

theorem agrees_get {kind : Kind} {key : ObjectKey} (held : holds state store)
    (is_served : served kind = true) (addressed : kind.addresses key = true) :
    Agrees serve holds (.get kind key) state (store.perform (.get kind key)) := by
  have request_eq := ClusterCall.request_get addressed
  have segment := (Kind.addresses_iff.1 addressed).1
  cases found : store.find? kind key with
  | some x =>
    rw [Store.perform_get_of_some found]
    refine agrees_of_gives request_eq (server.get_found held is_served addressed found) ?_
    intro response brings
    rw [ClusterCall.conclude, brings.read]
    rfl
  | none =>
    rw [Store.perform_get_of_none found]
    have missing := Store.find?_eq_none_iff.1 found
    refine agrees_of_gives request_eq (server.get_missing held is_served addressed missing) ?_
    intro response reports
    obtain ⟨status, outcome_eq⟩ := reports.outcome_eq
    rw [outcome_eq]
    exact congrArg Except.error (ApiFailure.aboutObject_missing segment status)

theorem agrees_create {o : Object} (held : holds state store) (is_served : served o.kind = true)
    (plain : o.IsPlain) : Agrees serve holds (.create o) state (store.perform (.create o)) := by
  have request_eq := ClusterCall.request_create plain.addressed
  cases present : store.contains o.kind o.key with
  | true =>
    rw [Store.perform_create_of_contains present]
    refine agrees_of_gives request_eq (server.post_found held is_served plain present) ?_
    rintro response ⟨reason, message, reports⟩
    obtain ⟨status, outcome_eq⟩ := reports.outcome_eq
    rw [outcome_eq]
    rfl
  | false =>
    rw [Store.perform_create_of_missing present]
    refine agrees_of_gives request_eq (server.post_missing held is_served plain present) ?_
    rintro response ⟨x, brings⟩
    simp only [ClusterCall.conclude, brings.read]

theorem agrees_update {o : Object} (held : holds state store) (is_served : served o.kind = true)
    (plain : o.IsPlain) : Agrees serve holds (.update o) state (store.perform (.update o)) := by
  have request_eq := ClusterCall.request_update plain.addressed
  have segment := (Kind.addresses_iff.1 plain.addressed).1
  cases present : store.contains o.kind o.key with
  | true =>
    rw [Store.perform_update_of_contains present]
    refine agrees_of_gives request_eq (server.put_found held is_served plain present) ?_
    rintro response ⟨x, brings⟩
    simp only [ClusterCall.conclude, brings.read]
  | false =>
    rw [Store.perform_update_of_missing present]
    refine agrees_of_gives request_eq (server.put_missing held is_served plain present) ?_
    intro response reports
    obtain ⟨status, outcome_eq⟩ := reports.outcome_eq
    rw [outcome_eq]
    exact congrArg Except.error (ApiFailure.aboutObject_missing segment status)

theorem agrees_delete {o : Object} (held : holds state store) (is_served : served o.kind = true)
    (addressed : o.kind.addresses o.key = true) :
    Agrees serve holds (.delete o) state (store.perform (.delete o)) := by
  have request_eq := ClusterCall.request_delete addressed
  have segment := (Kind.addresses_iff.1 addressed).1
  cases present : store.contains o.kind o.key with
  | true =>
    refine agrees_of_gives request_eq (server.delete_found held is_served addressed present) ?_
    intro response confirms
    obtain ⟨content, outcome_eq, deletion_read⟩ := confirms.read
    simp only [ClusterCall.conclude, outcome_eq, deletion_read]
    rfl
  | false =>
    have nothing_removed : store.remove o.kind o.key = store := Store.remove_of_missing present
    rw [Store.perform, nothing_removed]
    refine agrees_of_gives request_eq (server.delete_missing held is_served addressed present) ?_
    intro response reports
    obtain ⟨status, outcome_eq⟩ := reports.outcome_eq
    simp only [ClusterCall.conclude, outcome_eq, ApiFailure.aboutObject_missing segment]
    rfl

/-- A call comes to what the contract says. -/
theorem agrees (call : ClusterCall) (held : holds state store) (plain : call.IsPlain) :
    Agrees serve holds call state (store.performServed served call) := by
  unfold Store.performServed
  split
  · next is_served =>
    cases call with
    | get kind key => exact server.agrees_get held is_served plain
    | create o => exact server.agrees_create held is_served plain
    | update o => exact server.agrees_update held is_served plain
    | delete o => exact server.agrees_delete held is_served plain
    | list => cases plain
  · next not_served =>
    have is_unserved : served call.kind = false := Bool.eq_false_iff.2 not_served
    obtain ⟨request, key, request_eq, addressed, place⟩ := plain.exists_request
    exact agrees_of_gives request_eq (server.unserved held is_unserved addressed place)
      fun response reports => conclude_unserved plain reports

end IsApiServer

end IdentityOperator
