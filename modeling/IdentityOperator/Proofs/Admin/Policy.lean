import IdentityOperator.Proofs.Admin.Place

/-!
Which answers of the admin API are taken for success, and what comes of them.

There are six kinds of requests, and a policy for each of them says which statuses it accepts and what an
accepted answer brings back (`Policy`). A primitive sends a single request and decides by the policy of
its kind (`Policy.isKeptBy_of_governs`). An operation that is made of one primitive keeps the policy of
this one, also if it picks something out of what has been found (`Policy.IsKeptBy.map`), and if it is
about something that lacks its id, it sends nothing. So much holds of every operation but the two that
take several requests (`Session.every_request_keeps_its_policy`).
-/

namespace IdentityOperator

open Admin

/-! ## Kinds of requests -/

/-- The statuses that a kind of request takes for success. What is there already counts as created, and
what is gone as deleted. -/
def Verb.Accepts : Verb → Nat → Prop
  | create => fun status => status = 201 ∨ status = 204 ∨ status = 409
  | update | list => fun status => 200 ≤ status ∧ status ≤ 299
  | get => fun status => status = 404 ∨ status = 200
  | delete => fun status => status = 404 ∨ (200 ≤ status ∧ status ≤ 299)
  | ping => fun status => status = 200

def Verb.method : Verb → Http.Method
  | create => .post
  | update => .put
  | get | list | ping => .get
  | delete => .delete

theorem Http.isSuccess_iff {status : Nat} :
    isSuccess status = true ↔ 200 ≤ status ∧ status ≤ 299 := by
  rw [isSuccess, Bool.and_eq_true, decide_eq_true_eq, decide_eq_true_eq]
  omega

namespace Session

/-- The request of a kind to a path of the admin API, with the token of the session. -/
def adminRequest (session : Session) (verb : Verb) (path : String) (content : Http.Content) :
    Http.Request where
  method := verb.method
  url := session.adminUrl path
  bearer := some (session.token.getD "")
  content := content

/-- Whether a request can be sent depends on its path, and neither on its kind nor on what it carries. -/
theorem isOk_outgoing?_adminRequest (session : Session) (verb : Verb) (path : String)
    (content : Http.Content) :
    (session.adminRequest verb path content).outgoing?.isOk =
      (session.adminRequest .get path .nothing).outgoing?.isOk := by
  simp only [adminRequest, Http.Request.outgoing?]
  cases Url.ofText? (session.adminUrl path) with
  | none => rfl
  | some given =>
    dsimp only
    repeat' split
    all_goals rfl

/-- The request that asks whether the installation is up; no token goes with it. -/
def pingRequest (session : Session) : Http.Request where
  method := .get
  url := session.pingUrl

end Session

/-! ## Policies -/

/-- What a kind of request about a kind of thing makes of an answer. -/
structure Policy (α : Type) where
  verb : Verb
  kind : String
  /-- What an answer with an accepted status brings back. -/
  yields : Http.Response → α → Prop
  /-- In which case an answer is no good though its status is accepted. -/
  fails : Http.Response → OperatorError → Prop

namespace Policy

variable {α β : Type}

/-- What has been created has an id, as far as the answer tells it; its body does not matter. -/
def create (kind : String) : Policy String where
  verb := .create
  kind := kind
  yields := Session.TellsId
  fails _ _ := False

/-- Nothing is looked for in an answer but its status. -/
def done (verb : Verb) (kind : String) : Policy Unit where
  verb := verb
  kind := kind
  yields _ _ := True
  fails _ _ := False

def update (kind : String) : Policy Unit := done .update kind

def delete (kind : String) : Policy Unit := done .delete kind

def ping : Policy Unit := done .ping "keycloak"

/-- What is found is what the body is read as. -/
def getWith (kind : String) (reads : List UInt8 → α → Prop)
    (complains : List UInt8 → OperatorError → Prop) : Policy (Option α) where
  verb := .get
  kind := kind
  yields response found :=
    (response.status = 404 ∧ found = none) ∨
      (response.status = 200 ∧ ∃ bytes value,
        response.body = some bytes ∧ reads bytes value ∧ found = some value)
  fails response e := response.status = 200 ∧
    ((response.body = none ∧ e = .http "error decoding response body") ∨
      ∃ bytes, response.body = some bytes ∧ complains bytes e)

/-- The body of what is found is JSON of a form. -/
def get (kind : String) (form : Form α) : Policy (Option α) :=
  getWith kind (fun bytes value => Session.decode? form bytes = some value)
    (fun bytes e => Session.decode? form bytes = none ∧
      e = .serialization (Session.complaint form bytes))

/-- A list that cannot be read counts as empty. -/
def list (kind : String) (form : Form α) : Policy (List α) where
  verb := .list
  kind := kind
  yields response values := ∃ bytes, response.body = some bytes ∧
    (Session.decode? form.list bytes = some values ∨
      (Session.decode? form.list bytes = none ∧ values = []))
  fails response e := response.body = none ∧ e = .http "error decoding response body"

/-- Something is made of what an answer brings back. -/
def map (f : α → β) (policy : Policy α) : Policy β where
  verb := policy.verb
  kind := policy.kind
  yields response picked := ∃ value, policy.yields response value ∧ picked = f value
  fails := policy.fails

/-- What a policy makes of an answer. -/
inductive Decides (policy : Policy α) (response : Http.Response) : Except OperatorError α → Prop
  | accepted {value : α} :
    policy.verb.Accepts response.status → policy.yields response value →
    Decides policy response (.ok value)
  | unreadable {e : OperatorError} :
    policy.verb.Accepts response.status → policy.fails response e →
    Decides policy response (.error e)
  | rejected :
    ¬ policy.verb.Accepts response.status →
    Decides policy response (.error (.status policy.verb policy.kind
      (UInt16.ofNat response.status) (Http.reasonPhrase response.status)))

/-- A conclusion from answers is what a policy makes of them. -/
def Governs (policy : Policy α) (conclusion : Http.Response → Except OperatorError α) : Prop :=
  ∀ response result, policy.Decides response result ↔ conclusion response = result

/-- It is enough to look at accepted statuses apart from the others. -/
theorem governs_of_cases {policy : Policy α} {conclusion : Http.Response → Except OperatorError α}
    (accepts : ∀ response, policy.verb.Accepts response.status → ∀ result,
      conclusion response = result ↔
        (∃ value, policy.yields response value ∧ result = .ok value) ∨
          ∃ e, policy.fails response e ∧ result = .error e)
    (rejects : ∀ response, ¬ policy.verb.Accepts response.status →
      conclusion response = .error (Session.unexpected policy.verb policy.kind response)) :
    policy.Governs conclusion := by
  intro response result
  constructor
  · intro decides
    cases decides with
    | accepted accepted yields => exact (accepts response accepted _).2 (.inl ⟨_, yields, rfl⟩)
    | unreadable accepted fails => exact (accepts response accepted _).2 (.inr ⟨_, fails, rfl⟩)
    | rejected rejected => exact rejects response rejected
  · rintro concluded
    by_cases accepted : policy.verb.Accepts response.status
    · rcases (accepts response accepted result).1 concluded with ⟨_, yields, rfl⟩ | ⟨_, fails, rfl⟩
      · exact .accepted accepted yields
      · exact .unreadable accepted fails
    · rw [← concluded, rejects response accepted]
      exact .rejected accepted

theorem governs_of_done {verb : Verb} {kind : String}
    {conclusion : Http.Response → Except OperatorError Unit}
    (accepts : ∀ response, verb.Accepts response.status → conclusion response = .ok ())
    (rejects : ∀ response, ¬ verb.Accepts response.status →
      conclusion response = .error (Session.unexpected verb kind response)) :
    (done verb kind).Governs conclusion := by
  refine governs_of_cases (fun response accepted result => ?_) rejects
  rw [accepts response accepted]
  constructor
  · rintro rfl
    exact .inl ⟨(), trivial, rfl⟩
  · rintro (⟨_, -, rfl⟩ | ⟨_, impossible, -⟩)
    · rfl
    · exact impossible.elim

theorem governs_updated (kind : String) : (update kind).Governs (Session.updated kind) :=
  governs_of_done (fun _ accepted => if_pos (Http.isSuccess_iff.2 accepted))
    fun _ rejected => if_neg fun success => rejected (Http.isSuccess_iff.1 success)

theorem governs_deleted (kind : String) : (delete kind).Governs (Session.deleted kind) :=
  governs_of_done (fun _ accepted => if_pos (accepted.imp_right Http.isSuccess_iff.2))
    fun _ rejected => if_neg fun success => rejected (success.imp_right Http.isSuccess_iff.1)

theorem governs_alive : ping.Governs Session.alive :=
  governs_of_done (fun _ accepted => if_pos accepted) fun _ rejected => if_neg rejected

theorem governs_created (kind : String) : (create kind).Governs (Session.created kind) := by
  refine governs_of_cases (fun response accepted result => ?_) fun response rejected => if_neg rejected
  have created_eq : Session.created kind response = .ok (Session.locationId response) :=
    if_pos accepted
  rw [created_eq]
  simp [create, Session.tellsId_iff, eq_comm]

theorem governs_found {kind : String} {read : List UInt8 → Except OperatorError α}
    {reads : List UInt8 → α → Prop} {complains : List UInt8 → OperatorError → Prop}
    (reads_iff : ∀ bytes value, reads bytes value ↔ read bytes = .ok value)
    (complains_iff : ∀ bytes e, complains bytes e ↔ read bytes = .error e) :
    (getWith kind reads complains).Governs (Session.found kind read) := by
  refine governs_of_cases (fun response accepted result => ?_) fun response rejected => ?_
  · rcases accepted with missing | there
    · have found_eq : Session.found kind read response = .ok none := if_pos missing
      rw [found_eq]
      simp [getWith, missing, eq_comm]
    · have found_eq : Session.found kind read response =
          (Session.bodyOf response >>= fun bytes => read bytes >>= fun value => .ok (some value)) := by
        rw [Session.found, if_neg (by omega), if_pos there]
      rw [found_eq, Session.bodyOf]
      cases body_eq : response.body with
      | none => simp [getWith, there, body_eq, bind, Except.bind, eq_comm]
      | some bytes =>
        cases read_eq : read bytes <;>
          simp [getWith, there, body_eq, bind, Except.bind, reads_iff, complains_iff, read_eq, eq_comm]
  · have rejected := not_or.1 rejected
    rw [Session.found, if_neg rejected.1, if_neg rejected.2]
    rfl

theorem governs_listed (kind : String) (form : Form α) :
    (list kind form).Governs (Session.listed kind form) := by
  refine governs_of_cases (fun response accepted result => ?_) fun response rejected => ?_
  · have listed_eq : Session.listed kind form response =
        (Session.bodyOf response >>= fun bytes =>
          .ok ((Session.decode? form.list bytes).getD [])) := if_pos (Http.isSuccess_iff.2 accepted)
    rw [listed_eq, Session.bodyOf]
    cases body_eq : response.body with
    | none => simp [list, body_eq, bind, Except.bind, eq_comm]
    | some bytes =>
      cases decode_eq : Session.decode? form.list bytes <;>
        simp [list, body_eq, bind, Except.bind, decode_eq, eq_comm]
  · exact if_neg fun success => rejected (Http.isSuccess_iff.1 success)

/-! ## Single requests -/

open Program (Follows)

/-- What a request is made for, as it is said when nothing comes back. -/
def purpose (policy : Policy α) : String :=
  if policy.verb = .ping then "ping" else policy.verb.name ++ " " ++ policy.kind

/-- How a single request goes by a policy. Unless it cannot be sent it goes out once, and if it is answered,
what comes of it is up to the policy. -/
inductive Course (policy : Policy α) (request : Http.Request) :
    List HttpEvent → Except OperatorError α → Prop
  | answered {outgoing : Http.Outgoing} {response : Http.Response} {result : Except OperatorError α} :
    request.outgoing? = .ok outgoing → policy.Decides response result →
    Course policy request [⟨outgoing, some response⟩] result
  | unanswered {outgoing : Http.Outgoing} :
    request.outgoing? = .ok outgoing →
    Course policy request [⟨outgoing, none⟩]
      (.error (Session.lost policy.purpose (.unanswered outgoing.url)))
  | unsent {e : Http.SendError} :
    request.outgoing? = .error e →
    Course policy request [] (.error (Session.lost policy.purpose e))

/-- What succeeds has been answered. -/
theorem course_ok_iff {policy : Policy α} {request : Http.Request} {events : List HttpEvent}
    {value : α} :
    policy.Course request events (.ok value) ↔
      ∃ outgoing response, request.outgoing? = .ok outgoing ∧
        events = [⟨outgoing, some response⟩] ∧ policy.Decides response (.ok value) := by
  constructor
  · intro course
    cases course with
    | answered sent decides => exact ⟨_, _, sent, rfl, decides⟩
  · rintro ⟨outgoing, response, sent, rfl, decides⟩
    exact .answered sent decides

/-- A part sends one request and goes by the policy, whoever answers it. -/
def IsKeptBy (policy : Policy α) (request : Http.Request) (part : Rest α) : Prop :=
  ∀ events result, Follows part.run events result ↔ policy.Course request events result

theorem isKeptBy_of_governs {policy : Policy α} {conclusion : Http.Response → Except OperatorError α}
    (governs : policy.Governs conclusion) (request : Http.Request) :
    policy.IsKeptBy request (Session.exchange policy.purpose request >>= fun response =>
      Session.conclude (conclusion response)) := by
  intro events result
  constructor
  · intro follows
    rcases Program.run_exceptT_bind_iff.1 follows with
      ⟨_, rfl, failed⟩ | ⟨_, response, _, _, rfl, asked, concluded⟩
    · rcases Session.run_exchange_cases_iff.1 failed with
        ⟨_, unsent, rfl, -, error_eq⟩ | ⟨_, answer, sent, rfl, -, error_eq⟩
      · cases error_eq
        exact .unsent unsent
      · cases answer with
        | some response => cases error_eq
        | none =>
          cases error_eq
          exact .unanswered sent
    · obtain ⟨_, sent, rfl, -⟩ := Session.run_exchange_iff.1 asked
      obtain ⟨rfl, rfl, -⟩ := Program.run_done_iff.1 concluded
      exact .answered sent ((governs response _).2 rfl)
  · intro course
    rw [Follows, Program.run_exceptT_bind_iff]
    cases course with
    | @answered _ response _ sent decides =>
      have concluded := ((governs response result).1 decides).symm
      exact .inr ⟨_, response, (), [], rfl, Session.run_exchange_iff.2 ⟨_, sent, rfl, trivial⟩,
        Program.run_done_iff.2 ⟨rfl, concluded, rfl⟩⟩
    | unanswered sent =>
      exact .inl ⟨_, rfl, Session.run_exchange_cases_iff.2 (.inr ⟨_, none, sent, rfl, trivial, rfl⟩)⟩
    | unsent unsent =>
      exact .inl ⟨_, rfl, Session.run_exchange_cases_iff.2 (.inl ⟨_, unsent, rfl, rfl, rfl⟩)⟩

theorem decides_map_iff {policy : Policy α} {f : α → β} {response : Http.Response}
    {picked : Except OperatorError β} :
    (policy.map f).Decides response picked ↔
      ∃ result, policy.Decides response result ∧ picked = f <$> result := by
  constructor
  · intro decides
    cases decides with
    | accepted accepted yields =>
      obtain ⟨value, yields, rfl⟩ := yields
      exact ⟨_, .accepted accepted yields, rfl⟩
    | unreadable accepted fails => exact ⟨_, .unreadable accepted fails, rfl⟩
    | rejected rejected => exact ⟨_, .rejected rejected, rfl⟩
  · rintro ⟨result, decides, rfl⟩
    cases decides with
    | accepted accepted yields => exact .accepted accepted ⟨_, yields, rfl⟩
    | unreadable accepted fails => exact .unreadable accepted fails
    | rejected rejected => exact .rejected rejected

theorem course_map_iff {policy : Policy α} {request : Http.Request} {f : α → β}
    {events : List HttpEvent} {picked : Except OperatorError β} :
    (policy.map f).Course request events picked ↔
      ∃ result, policy.Course request events result ∧ picked = f <$> result := by
  constructor
  · intro course
    cases course with
    | answered sent decides =>
      obtain ⟨result, decided, rfl⟩ := decides_map_iff.1 decides
      exact ⟨result, .answered sent decided, rfl⟩
    | unanswered sent => exact ⟨_, .unanswered sent, rfl⟩
    | unsent unsent => exact ⟨_, .unsent unsent, rfl⟩
  · rintro ⟨result, course, rfl⟩
    cases course with
    | answered sent decides => exact .answered sent (decides_map_iff.2 ⟨result, decides, rfl⟩)
    | unanswered sent => exact .unanswered sent
    | unsent unsent => exact .unsent unsent

/-- Something may be picked out of what an answer brings back. -/
theorem IsKeptBy.map {policy : Policy α} {request : Http.Request} {part : Rest α}
    (kept : policy.IsKeptBy request part) (f : α → β) :
    (policy.map f).IsKeptBy request (part >>= fun value => pure (f value)) := by
  intro events picked
  rw [course_map_iff, bind_pure_comp, ExceptT.run_map]
  refine Program.run_map_iff.trans (exists_congr fun result => ?_)
  rw [← kept events result]
  rfl

end Policy

/-! ## Primitives -/

namespace Session

variable {α : Type} (session : Session) (kind path : String)

theorem create_keeps (body : Json) : (Policy.create kind).IsKeptBy
    (session.adminRequest .create path (.json body)) (session.create kind path body) :=
  Policy.isKeptBy_of_governs (Policy.governs_created kind) _

theorem update_keeps (body : Json) : (Policy.update kind).IsKeptBy
    (session.adminRequest .update path (.json body)) (session.update kind path body) :=
  Policy.isKeptBy_of_governs (Policy.governs_updated kind) _

theorem getWith_keeps {read : List UInt8 → Except OperatorError α}
    {reads : List UInt8 → α → Prop} {complains : List UInt8 → OperatorError → Prop}
    (reads_iff : ∀ bytes value, reads bytes value ↔ read bytes = .ok value)
    (complains_iff : ∀ bytes e, complains bytes e ↔ read bytes = .error e) :
    (Policy.getWith kind reads complains).IsKeptBy (session.adminRequest .get path .nothing)
      (session.getWith kind path read) :=
  Policy.isKeptBy_of_governs (Policy.governs_found reads_iff complains_iff) _

theorem get_keeps (form : Form α) : (Policy.get kind form).IsKeptBy
    (session.adminRequest .get path .nothing) (session.get kind path form) := by
  refine getWith_keeps session kind path (fun bytes value => ?_) fun bytes e => ?_
  · unfold readJson
    cases decode? form bytes <;> simp
  · unfold readJson
    cases decode? form bytes <;> simp [eq_comm]

theorem list_keeps (form : Form α) : (Policy.list kind form).IsKeptBy
    (session.adminRequest .list path .nothing) (session.list kind path form) :=
  Policy.isKeptBy_of_governs (Policy.governs_listed kind form) _

theorem delete_keeps (content : Http.Content) : (Policy.delete kind).IsKeptBy
    (session.adminRequest .delete path content) (session.delete kind path content) :=
  Policy.isKeptBy_of_governs (Policy.governs_deleted kind) _

theorem ping_keeps : Policy.ping.IsKeptBy session.pingRequest session.ping :=
  Policy.isKeptBy_of_governs Policy.governs_alive _

end Session

/-! ## Operations -/

/-- The policy of an operation that takes one request. -/
def Operation.policy? : (operation : Operation) → Option (Policy operation.Result)
  | createRealm _ => some (.create "realm")
  | getRealm _ => some (.get "realm" Realm.form)
  | updateRealm _ => some (.update "realm")
  | deleteRealm _ => some (.delete "realm")
  | listRealms => some (.list "realms" Realm.form)
  | listGroups _ => some (.list "groups" Group.form)
  | updateGroups _ => none
  | createClient .. => some (.create "client")
  | getClient .. => some (.get "client" Client.form)
  | getClientSecret .. =>
    some ((Policy.get "client-secret" ClientSecret.form).map fun found => found.map (·.value))
  | getClientInstallation .. =>
    some (.getWith "client-installation" (fun bytes value => bytes = value) fun _ _ => False)
  | updateClient .. => some (.update "client")
  | deleteClient .. => some (.delete "client")
  | listClients _ => some (.list "clients" Client.form)
  | createUser .. => some (.create "user")
  | getUser .. => some (.get "user" User.form)
  | findUserByEmail .. =>
    some ((Policy.get "user" User.form.list).map fun found => found.bind (·.head?))
  | findUserByName _ username =>
    some ((Policy.get "user" User.form.list).map fun found =>
      found.bind (·.find? (·.username = username)))
  | updateUser .. => some (.update "user")
  | updatePassword .. => some (.update "password reset")
  | deleteUser .. => some (.delete "user")
  | listUsers _ => some (.list "users" User.form)
  | createFederatedIdentity .. => some (.create "federated-identity")
  | removeFederatedIdentity .. => some (.delete "federated-identity")
  | listFederatedIdentities .. =>
    some ((Policy.get "federated-identity" FederatedIdentity.form.list).map (·.getD []))
  | createClientRole .. => some (.create "user client role")
  | listClientRoles .. => some (.list "user client roles" Role.form)
  | listAvailableClientRoles .. => some (.list "user client roles" Role.form)
  | deleteClientRole .. => some (.delete "user client role")
  | createRealmRole .. => some (.create "user realm role")
  | listRealmRoles .. => some (.list "user realm roles" Role.form)
  | listAvailableRealmRoles .. => some (.list "user realm roles" Role.form)
  | deleteRealmRole .. => some (.delete "user realm role")
  | createIdentityProvider .. => some (.create "identity provider")
  | getIdentityProvider .. => some (.get "identity provider" IdentityProvider.form)
  | updateIdentityProvider .. => some (.update "identity provider")
  | deleteIdentityProvider .. => some (.delete "identity provider")
  | listIdentityProviders _ => some (.list "identity providers" IdentityProvider.form)
  | listExecutions .. => some (.list "authentication executions" Execution.form)
  | createAuthenticatorConfig .. => some (.create "authenticator config")
  | getAuthenticatorConfig .. => some (.get "authenticator config" AuthenticatorConfig.form)
  | updateAuthenticatorConfig .. => some (.update "authenticator config")
  | deleteAuthenticatorConfig .. => some (.delete "authenticator config")
  | configureRedirector .. => none

/-- What an operation is about, if it lacks the id that it has to have. -/
def Operation.lacking? : Operation → Option String
  | updateClient _ client =>
    if client.id.isNone then some ("client " ++ client.clientId) else none
  | updateUser _ user | updatePassword _ user _ =>
    if user.id.isNone then some ("user " ++ user.username) else none
  | updateAuthenticatorConfig _ config =>
    if config.id.isNone then some ("authenticator config " ++ config.aliasName) else none
  | _ => none

namespace Session

open Program (Follows)

variable {session : Session}

theorem exists_id_of_not_lacking {given : Option String} {what : String}
    (able : (if given.isNone then some what else none) = none) : ∃ id, given = some id := by
  cases given with
  | none => cases able
  | some id => exact ⟨id, rfl⟩

theorem isKeptBy_needId_bind {α : Type} {policy : Policy α} {request : Http.Request}
    {what id : String} {given : Option String} {next : String → Rest α} (given_eq : given = some id)
    (kept : policy.IsKeptBy request (next id)) :
    policy.IsKeptBy request (needId what given >>= next) := by
  subst given_eq
  exact kept

/-- An operation on something without the id that it has to have sends nothing. -/
theorem follows_perform_lacking_iff {operation : Operation} {what : String}
    (lacking : operation.lacking? = some what) {events : List HttpEvent}
    {result : Except OperatorError operation.Result} :
    Follows (session.perform operation).run events result ↔
      events = [] ∧ result = .error (.invalidState (what ++ " has no id")) := by
  have without_id : ∀ {α : Type} {given : Option String} {needed : String} {next : String → Rest α}
      {events : List HttpEvent} {result : Except OperatorError α},
      (if given.isNone then some needed else none) = some what →
      (Follows (needId needed given >>= next).run events result ↔
        events = [] ∧ result = .error (.invalidState (what ++ " has no id"))) := by
    intro α given needed next events result lacking
    cases given with
    | some id => cases lacking
    | none =>
      obtain rfl := Option.some.inj lacking
      exact Program.run_done_iff.trans (and_congr_right' (and_iff_left rfl))
  cases operation with
  | updateClient | updateUser | updatePassword | updateAuthenticatorConfig =>
    exact without_id lacking
  | _ => cases lacking

/-- An operation that has what it needs keeps its policy at a place that it is about. -/
theorem perform_keeps {operation : Operation} {policy : Policy operation.Result}
    (listed : operation.policy? = some policy) (able : operation.lacking? = none) :
    ∃ place content, operation.Concerns place ∧
      policy.IsKeptBy (session.adminRequest policy.verb place.path content)
        (session.perform operation) := by
  cases operation with
  | updateGroups | configureRedirector => cases listed
  | createRealm | createClient | createUser | createFederatedIdentity | createClientRole
  | createRealmRole | createIdentityProvider | createAuthenticatorConfig =>
    obtain rfl := Option.some.inj listed
    exact ⟨_, _, rfl, session.create_keeps _ _ _⟩
  | updateRealm | updateIdentityProvider =>
    obtain rfl := Option.some.inj listed
    exact ⟨_, _, rfl, session.update_keeps _ _ _⟩
  | getRealm | getClient | getUser | getIdentityProvider | getAuthenticatorConfig =>
    obtain rfl := Option.some.inj listed
    exact ⟨_, _, rfl, session.get_keeps _ _ _⟩
  | listRealms | listGroups | listClients | listUsers | listClientRoles | listAvailableClientRoles
  | listRealmRoles | listAvailableRealmRoles | listIdentityProviders | listExecutions =>
    obtain rfl := Option.some.inj listed
    exact ⟨_, _, rfl, session.list_keeps _ _ _⟩
  | deleteRealm | deleteClient | deleteUser | deleteIdentityProvider | deleteAuthenticatorConfig
  | removeFederatedIdentity | deleteClientRole | deleteRealmRole =>
    obtain rfl := Option.some.inj listed
    exact ⟨_, _, rfl, session.delete_keeps _ _ _⟩
  | getClientSecret | findUserByEmail | findUserByName | listFederatedIdentities =>
    obtain rfl := Option.some.inj listed
    exact ⟨_, _, rfl, (session.get_keeps _ _ _).map _⟩
  | getClientInstallation =>
    obtain rfl := Option.some.inj listed
    exact ⟨_, _, rfl, session.getWith_keeps _ _ (fun _ _ => by simp) (fun _ _ => by simp)⟩
  | updateClient | updateUser | updatePassword | updateAuthenticatorConfig =>
    -- These look at the id before they send anything.
    obtain rfl := Option.some.inj listed
    obtain ⟨id, id_eq⟩ := exists_id_of_not_lacking able
    exact ⟨_, _, ⟨id, id_eq, rfl⟩, isKeptBy_needId_bind id_eq (session.update_keeps _ _ _)⟩

/-- There is one policy for each kind of request, and all that a session does goes by it. -/
structure KeepsPolicies (session : Session) : Prop where
  create : ∀ kind path body, (Policy.create kind).IsKeptBy
    (session.adminRequest .create path (.json body)) (session.create kind path body)
  update : ∀ kind path body, (Policy.update kind).IsKeptBy
    (session.adminRequest .update path (.json body)) (session.update kind path body)
  getWith : ∀ {α : Type} kind path (read : List UInt8 → Except OperatorError α),
    (Policy.getWith kind (fun bytes value => read bytes = .ok value) fun bytes e =>
      read bytes = .error e).IsKeptBy
        (session.adminRequest .get path .nothing) (session.getWith kind path read)
  get : ∀ {α : Type} kind path (form : Form α), (Policy.get kind form).IsKeptBy
    (session.adminRequest .get path .nothing) (session.get kind path form)
  list : ∀ {α : Type} kind path (form : Form α), (Policy.list kind form).IsKeptBy
    (session.adminRequest .list path .nothing) (session.list kind path form)
  delete : ∀ kind path content, (Policy.delete kind).IsKeptBy
    (session.adminRequest .delete path content) (session.delete kind path content)
  ping : Policy.ping.IsKeptBy session.pingRequest session.ping
  /-- An operation keeps the policy of the primitive that it is made of. -/
  operation : ∀ (operation : Operation) (policy : Policy operation.Result),
    operation.policy? = some policy → operation.lacking? = none →
      ∃ place content, operation.Concerns place ∧
        policy.IsKeptBy (session.adminRequest policy.verb place.path content)
          (session.perform operation)
  /-- Nothing is sent for something that lacks its id. -/
  lacking : ∀ (operation : Operation) (what : String), operation.lacking? = some what →
    ∀ events result, Follows (session.perform operation).run events result ↔
      events = [] ∧ result = .error (.invalidState (what ++ " has no id"))
  /-- A request of one kind can be sent if one of any other kind to the same path can. -/
  sendable : ∀ verb path content,
    (session.adminRequest verb path content).outgoing?.isOk =
      (session.adminRequest .get path .nothing).outgoing?.isOk
  /-- Only two operations take several requests. -/
  several : ∀ operation : Operation, operation.policy? = none ↔
    (∃ realm, operation = .updateGroups realm) ∨
      ∃ realm redirect, operation = .configureRedirector realm redirect

/-- Every primitive sends one request and decides by the policy of its kind, whatever the answer, and so
does every operation that is made of one. -/
theorem every_request_keeps_its_policy (session : Session) : session.KeepsPolicies where
  create := session.create_keeps
  update := session.update_keeps
  getWith kind path _ := session.getWith_keeps kind path (fun _ _ => Iff.rfl) fun _ _ => Iff.rfl
  get := session.get_keeps
  list := session.list_keeps
  delete := session.delete_keeps
  ping := session.ping_keeps
  operation _ _ := perform_keeps
  lacking _ _ lacking _ _ := follows_perform_lacking_iff lacking
  sendable := isOk_outgoing?_adminRequest session
  several operation := by cases operation <;> simp [Operation.policy?]

/-- To delete a user who is gone succeeds, and to update one without an id sends nothing. -/
theorem missing_user_is_deleted :
    let session : Session := { endpoint := "http://keycloak.test" }
    ∃ outgoing : Http.Outgoing, outgoing.method = .delete ∧
      Follows (session.perform (.deleteUser "basic" "7")).run
        [⟨outgoing, some { status := 404 }⟩] (.ok ()) ∧
      Follows (session.perform (.updateUser "basic" { username := "alice" })).run []
        (.error (.invalidState "user alice has no id")) := by
  intro session
  have policies := every_request_keeps_its_policy session
  obtain ⟨_, content, rfl, kept⟩ := policies.operation (.deleteUser "basic" "7") _ rfl rfl
  have sendable :
      (session.adminRequest .delete (Place.user "basic" "7").path content).outgoing?.isOk = true := by
    rw [isOk_outgoing?_adminRequest]
    decide +kernel
  obtain ⟨outgoing, sent⟩ := Http.Request.exists_outgoing sendable
  refine ⟨outgoing, (Http.Request.of_outgoing? sent).1, ?_, ?_⟩
  · exact (kept _ _).2 (.answered sent (.accepted (.inl rfl) trivial))
  · exact (policies.lacking (.updateUser "basic" { username := "alice" }) _ rfl _ _).2 ⟨rfl, rfl⟩

end Session

end IdentityOperator
