import IdentityOperator.Pass.Wire
import IdentityOperator.Proofs.Admin.Session
import IdentityOperator.Proofs.Cluster.Server
import IdentityOperator.Proofs.Representation
import IdentityOperator.Proofs.Secret
import IdentityOperator.Proofs.Text

/-!
Logging in.

To log in to an installation, a client looks up the administrator's credentials in a secret and sends
them to the installation, which answers with a token. `LoginCourse` is how that goes well, from the
declared URL to the token, and `Wired.login_succeeds_iff` says that a login succeeds by nothing else.

Whether the login was accepted is told by the content of the answer and by nothing else: an answer is
good unless it names an error. Its status does not count, and a token or credentials that are not there
count as empty (`LoginCourse.IsFor.with_answer`).
-/

namespace IdentityOperator

/-- A request of a pass that is spelled out, with its answer. -/
abbrev WireEvent : Type := Event WireRequest WireRequest.Answer

/-- What passes run against when they are spelled out. -/
abbrev WireEnvironment (σ : Type) : Type := Environment WireRequest WireRequest.Answer σ

/-! ## Tokens -/

namespace Session

open Program (Run)

/-- The request for a token. -/
def tokenRequest (session : Session) (username password : String) : Http.Request :=
  { method := .post, url := session.tokenUrl, content := .form (loginForm username password) }

theorem decode?_encode {α : Type} (form : Form α) (text : String) :
    decode? form (Utf8.encode text) = form.ofText? text := by
  rw [decode?, Json.ofBytes?_of_decode? (Utf8.decode?_encode text), Form.ofText?]

/-- An answer with a token and nothing else is read as such. -/
theorem decode?_render_token (token : String) :
    decode? Admin.TokenAnswer.form
        (Utf8.encode (Admin.TokenAnswer.form.render { accessToken := token })) =
      some { accessToken := token } := by
  have depth_eq : (Admin.TokenAnswer.form.write { accessToken := token }).depth = 1 := rfl
  have keeps : Admin.TokenAnswer.form.Keeps { accessToken := token } :=
    Form.Lossless.keeps _ (depth_eq.trans_le (by decide : 1 ≤ Form.maxDepth))
  rw [decode?_encode]
  exact keeps.ofText?_render (depth_eq.trans_le (by decide))

/-- Bytes that are no characters do no harm in a field that nobody asks for. -/
example :
    decode? Admin.TokenAnswer.form (Utf8.encode "\x7b\"access_token\":\"t\",\"x\":\"" ++
      0xFF :: Utf8.encode "\"\x7d") = some { accessToken := "t" } := by
  have read : Json.ofBytes? (Utf8.encode "\x7b\"access_token\":\"t\",\"x\":\"" ++
      0xFF :: Utf8.encode "\"\x7d") =
        some (.object [("access_token", .text "t"), ("x", .unreadable)]) := by cbv
  rw [decode?, read]
  rfl

/-- A token is granted by an answer that can be read and names no error, whatever its status. -/
theorem granted_eq_ok_iff {response : Http.Response} {token : String} :
    granted response = .ok token ↔ ∃ answer : Admin.TokenAnswer,
      response.body.bind (decode? Admin.TokenAnswer.form) = some answer ∧ answer.error = "" ∧
        answer.accessToken = token := by
  unfold granted bodyOf
  cases response.body with
  | none => simp [bind, Except.bind]
  | some bytes =>
    simp only [bind, Except.bind, Option.bind_some]
    cases decode? Admin.TokenAnswer.form bytes with
    | none => simp
    | some answer =>
      by_cases refused : answer.error = ""
      · simp [refused]
      · simp [refused]

variable {σ : Type} {env : HttpEnvironment σ} {before after : σ} {events : List HttpEvent}
  {session next : Session} {username password : String}

theorem login_eq (session : Session) (username password : String) :
    session.login username password =
      (exchange "token" (session.tokenRequest username password) >>= fun response =>
        conclude (granted response)) >>= fun token => pure { session with token := some token } := by
  rw [bind_assoc]
  rfl

/-- A login that succeeds has been answered with a token, and nothing else about the session has
changed. -/
theorem run_login_iff :
    Run env (session.login username password).run before events (.ok next) after ↔
      ∃ outgoing response token,
        (session.tokenRequest username password).outgoing? = .ok outgoing ∧
        events = [⟨outgoing, some response⟩] ∧ env outgoing before (some response) after ∧
        granted response = .ok token ∧ next = { session with token := some token } := by
  rw [login_eq, Program.run_exceptT_bind_ok_iff]
  constructor
  · rintro ⟨_, token, _, _, rfl, asked, kept⟩
    obtain ⟨outgoing, response, sent, rfl, answered, granted_eq⟩ :=
      run_exchange_conclude_iff.1 asked
    obtain ⟨rfl, next_eq, rfl⟩ := Program.run_done_iff.1 kept
    exact ⟨outgoing, response, token, sent, rfl, answered, granted_eq, Except.ok.inj next_eq⟩
  · rintro ⟨outgoing, response, token, sent, rfl, answered, granted_eq, rfl⟩
    exact ⟨_, token, after, [], rfl,
      run_exchange_conclude_iff.2 ⟨outgoing, response, sent, rfl, answered, granted_eq⟩,
      Program.run_done_iff.2 ⟨rfl, rfl, rfl⟩⟩

end Session

/-! ## Requests to installations in a pass -/

/-- A request to an installation, as it is seen in a pass. -/
def HttpEvent.wired (event : HttpEvent) : WireEvent := ⟨.http event.request, event.answer⟩

namespace Wired

open Program (Run Follows)

variable {σ α : Type} {env : WireEnvironment σ} {before after : σ} {events : List WireEvent}

theorem run_ofExchange_iff {program : Http.Exchange α} {result : α} :
    Run env (ofExchange program) before events result after ↔
      ∃ asked : List HttpEvent, events = asked.map HttpEvent.wired ∧
        Run (fun request => env (.http request)) program before asked result after := by
  induction program generalizing before events with
  | done value =>
    constructor
    · intro run
      obtain ⟨rfl, rfl, rfl⟩ := Program.run_done_iff.1 run
      exact ⟨[], rfl, .done _ _⟩
    · rintro ⟨asked, rfl, run⟩
      obtain ⟨rfl, rfl, rfl⟩ := Program.run_done_iff.1 run
      exact .done _ _
  | ask request next ih =>
    constructor
    · intro run
      obtain ⟨answer, middle, rest, rfl, answered, run⟩ := Program.run_ask_iff.1 run
      obtain ⟨asked, rfl, asked_run⟩ := (ih answer).1 run
      exact ⟨⟨request, answer⟩ :: asked, rfl, .ask answered asked_run⟩
    · rintro ⟨asked, rfl, run⟩
      obtain ⟨answer, middle, rest, rfl, answered, run⟩ := Program.run_ask_iff.1 run
      exact .ask answered ((ih answer).2 ⟨rest, rfl, run⟩)

/-- A lookup that is answered by an object has found it. -/
theorem follows_get {kind : Kind} {key : ObjectKey} {x : kind.Object} {response : ApiResponse}
    (addressed : kind.addresses key = true) (brings : response.Brings kind x) :
    ∃ reading, Follows (ofApi (ClusterCall.get kind key).viaApi) reading (.ok x) := by
  have concluded : (ClusterCall.get kind key).conclude response.outcome = .ok x := by
    rw [ClusterCall.conclude, brings.read]
    rfl
  rw [ClusterCall.viaApi, ClusterCall.request_get addressed, ← concluded]
  exact ⟨[⟨.api _, response⟩], .ask trivial (.done _ _)⟩

end Wired

/-! ## The course of a login -/

/-- How a login goes well: where the client finds the installation and the name of the secret, what is
asked to look it up, what is sent with its credentials, and what comes back. -/
structure LoginCourse where
  url : String
  name : String
  reading : List WireEvent
  secret : Secret
  sent : Http.Outgoing
  response : Http.Response
  answer : Admin.TokenAnswer

namespace LoginCourse

open Program (Run Follows)

/-- The administrator's name; one that is missing counts as empty. -/
def username (course : LoginCourse) : String :=
  (course.secret.value? AdminSecret.usernameKey).getD ""

def password (course : LoginCourse) : String :=
  (course.secret.value? AdminSecret.passwordKey).getD ""

/-- All that is asked, with the answers. -/
def events (course : LoginCourse) : List WireEvent :=
  course.reading ++ [⟨.http course.sent, some course.response⟩]

/-- The session that one is logged in with at the end. -/
def session (course : LoginCourse) : Session :=
  { Session.connect course.url with token := some course.answer.accessToken }

/-- A login to an installation may go so. -/
structure IsFor (course : LoginCourse) (kc : Keycloak) : Prop where
  target_eq : kc.target = .ok (course.url, course.name)
  secret_read : Follows
    (Wired.ofApi (ClusterCall.get .secret (kc.keyOf course.name)).viaApi) course.reading
      (.ok course.secret)
  sent_eq : ((Session.connect course.url).tokenRequest course.username course.password).outgoing? =
    .ok course.sent
  answer_read : course.response.body.bind (Session.decode? Admin.TokenAnswer.form) =
    some course.answer
  no_error : course.answer.error = ""

variable {course : LoginCourse} {kc : Keycloak}

/-- The credentials go out as they stand in the secret. -/
theorem IsFor.body_sent (fits : course.IsFor kc) : course.sent.method = .post ∧
    course.sent.body =
      some (FormText.render (Session.loginForm course.username course.password)) :=
  Http.Request.of_outgoing? fits.sent_eq

/-- Neither the status of the answer nor the token in it is looked at: an installation that may be
logged in to may be so with any. -/
theorem IsFor.with_answer (fits : course.IsFor kc) (status : Nat) (token : String) :
    ∃ other : LoginCourse, other.IsFor kc ∧ other.sent = course.sent ∧
      other.response.status = status ∧ other.session.token = some token := by
  let answer : Admin.TokenAnswer := { accessToken := token }
  let body := Utf8.encode (Admin.TokenAnswer.form.render answer)
  exact ⟨{ course with response := { status, body := some body }, answer },
    ⟨fits.target_eq, fits.secret_read, fits.sent_eq, Session.decode?_render_token token, rfl⟩,
    rfl, rfl, rfl⟩

end LoginCourse

namespace Wired

open Program (Run Follows)

/-- What decides about a login. -/
theorem follows_login_iff {kc : Keycloak} {events : List WireEvent} {session : Session} :
    Follows (login kc) events (.ok session) ↔
      ∃ course : LoginCourse, course.IsFor kc ∧ events = course.events ∧
        session = course.session := by
  constructor
  · intro follows
    unfold login at follows
    cases target_eq : kc.target with
    | error e =>
      rw [target_eq] at follows
      cases (Program.run_done_iff.1 follows).2.1
    | ok found =>
      obtain ⟨url, name⟩ := found
      rw [target_eq] at follows
      obtain ⟨reading, looked_up, _, _, rfl, secret_read, rest⟩ := Program.run_bind_iff.1 follows
      cases looked_up with
      | error e => cases (Program.run_done_iff.1 rest).2.1
      | ok secret =>
        obtain ⟨asked, rfl, login_run⟩ := run_ofExchange_iff.1 rest
        obtain ⟨sent, response, token, sent_eq, rfl, -, granted_eq, rfl⟩ :=
          Session.run_login_iff.1 login_run
        obtain ⟨answer, answer_read, no_error, rfl⟩ := Session.granted_eq_ok_iff.1 granted_eq
        exact ⟨{ url, name, reading, secret, sent, response, answer },
          ⟨target_eq, secret_read, sent_eq, answer_read, no_error⟩, rfl, rfl⟩
  · rintro ⟨course, fits, rfl, rfl⟩
    unfold login
    rw [fits.target_eq]
    refine Program.run_bind_iff.2 ⟨course.reading, .ok course.secret, (), _, rfl, fits.secret_read,
      run_ofExchange_iff.2 ⟨[⟨course.sent, some course.response⟩], rfl, ?_⟩⟩
    exact Session.run_login_iff.2 ⟨course.sent, course.response, _, fits.sent_eq, rfl, trivial,
      Session.granted_eq_ok_iff.2 ⟨course.answer, fits.answer_read, fits.no_error, rfl⟩, rfl⟩

/-- A login succeeds just if it goes well, and then the session has the token of the answer; in every
other case it fails. The credentials go out as they stand in the secret, and an installation that may be
logged in to may be so by an answer with any status and any token. -/
theorem login_succeeds_iff {σ : Type} {env : WireEnvironment σ} {kc : Keycloak} {before after : σ}
    {events : List WireEvent} {result : Except OperatorError Session}
    (run : Run env (login kc) before events result after) :
    (∀ session, result = .ok session ↔ ∃ course : LoginCourse, course.IsFor kc ∧
      events = course.events ∧ session = course.session) ∧
    ((∃ e, result = .error e) ↔ ∀ course : LoginCourse, course.IsFor kc →
      events ≠ course.events) ∧
    ∀ course : LoginCourse, course.IsFor kc →
      course.sent.method = .post ∧
      course.sent.body =
        some (FormText.render (Session.loginForm course.username course.password)) ∧
      (course.username = "" ↔ course.secret.value? AdminSecret.usernameKey = none) ∧
      (course.password = "" ↔ course.secret.value? AdminSecret.passwordKey = none) ∧
      ∀ status token, ∃ other : LoginCourse, other.IsFor kc ∧ other.sent = course.sent ∧
        other.response.status = status ∧ other.session.token = some token := by
  have succeeds : ∀ session, result = .ok session ↔ ∃ course : LoginCourse, course.IsFor kc ∧
      events = course.events ∧ session = course.session := by
    intro session
    rw [← follows_login_iff]
    constructor
    · rintro rfl
      exact run.follows
    · intro follows
      exact (run.follows.unique follows (rfl : events ++ [] = events ++ [])).2
  refine ⟨succeeds, ?_, fun course fits => ?_⟩
  · constructor
    · rintro ⟨e, rfl⟩ course fits same
      cases (succeeds course.session).2 ⟨course, fits, same, rfl⟩
    · intro nowhere
      cases result with
      | error e => exact ⟨e, rfl⟩
      | ok session =>
        obtain ⟨course, fits, same, -⟩ := (succeeds session).1 rfl
        exact (nowhere course fits same).elim
  · obtain ⟨method_eq, body_eq⟩ := fits.body_sent
    exact ⟨method_eq, body_eq, Secret.value?_getD_eq_empty_iff, Secret.value?_getD_eq_empty_iff,
      fun status token => fits.with_answer status token⟩

/-! ## A login -/

/-- An installation that has been reported to be somewhere. -/
def reachableInstallation : Keycloak :=
  { metadata := { name := some "sso" }
    status := some { internalUrl := "http://keycloak.test" } }

/-- A secret with these data, where a client of that installation looks for the credentials. -/
def credentialSecret (data : Option ByteMap) : Secret :=
  { metadata := { name := some "credential-sso", ns := some "default" }, data }

def adminData : ByteMap :=
  .ofList [("ADMIN_USERNAME", Utf8.encode "admin"), ("ADMIN_PASSWORD", Utf8.encode "secret")]

/-- The request that a login to that installation sends with the credentials in a secret. -/
def credentialRequest (secret : Secret) : Http.Request :=
  (Session.connect "http://keycloak.test").tokenRequest
    ((secret.value? AdminSecret.usernameKey).getD "")
    ((secret.value? AdminSecret.passwordKey).getD "")

/-- A login to that installation goes well with any answer that can be read and names no error. -/
theorem exists_course_of_answer {json : Json} {secret : Secret} (status : Nat) {body : List UInt8}
    {answer : Admin.TokenAnswer} (legible : (Kind.form .secret).ofJson? json = some secret)
    (sendable : (credentialRequest secret).outgoing?.isOk = true)
    (read : Session.decode? Admin.TokenAnswer.form body = some answer)
    (no_error : answer.error = "") :
    ∃ course : LoginCourse, course.IsFor reachableInstallation ∧
      course.secret = secret ∧ course.response.status = status ∧
      course.session = { endpoint := "http://keycloak.test", token := some answer.accessToken } := by
  let found : ApiResponse := { status := 200, content := .json json }
  have brings : found.Brings .secret secret := ⟨rfl, legible⟩
  have addressed : Kind.addresses .secret ⟨"credential-sso", "default"⟩ = true := by decide
  obtain ⟨reading, secret_read⟩ := follows_get addressed brings
  obtain ⟨sent, sent_eq⟩ := Http.Request.exists_outgoing sendable
  have target_eq : reachableInstallation.target = .ok ("http://keycloak.test", "credential-sso") := by
    decide +kernel
  have session_eq : Session.connect "http://keycloak.test" = { endpoint := "http://keycloak.test" } :=
    by decide +kernel
  have answer_read : (some body).bind (Session.decode? Admin.TokenAnswer.form) = some answer := by
    rw [Option.bind_some, read]
  refine ⟨⟨"http://keycloak.test", "credential-sso", reading, secret, sent,
    { status, body := some body }, answer⟩,
    ⟨target_eq, secret_read, sent_eq, answer_read, no_error⟩, rfl, rfl, ?_⟩
  rw [LoginCourse.session, session_eq]

/-- With credentials and an answer that has a token, the session has this token. -/
theorem login_with_credentials :
    ∃ course : LoginCourse, course.IsFor reachableInstallation ∧
      Follows (login reachableInstallation) course.events
        (.ok { endpoint := "http://keycloak.test", token := some "tok" }) ∧
      course.response.status = 200 ∧ course.username ≠ "" ∧ course.password ≠ "" := by
  have stored : ((Kind.form .secret).ofJson?
      ((Kind.form .secret).write (credentialSecret (some adminData)))).any (fun secret =>
        (credentialRequest secret).outgoing?.isOk && (secret.value? AdminSecret.usernameKey).isSome &&
          (secret.value? AdminSecret.passwordKey).isSome) = true := by decide +kernel
  obtain ⟨secret, legible, known⟩ := (Option.any_eq_true _ _).1 stored
  simp only [Bool.and_eq_true] at known
  obtain ⟨⟨sendable, username⟩, password⟩ := known
  obtain ⟨course, fits, rfl, status_eq, session_eq⟩ := exists_course_of_answer 200 legible sendable
    (Session.decode?_render_token "tok") rfl
  have run : Follows (login reachableInstallation) course.events (.ok course.session) :=
    follows_login_iff.2 ⟨course, fits, rfl, rfl⟩
  obtain ⟨-, -, told⟩ := login_succeeds_iff run
  obtain ⟨-, -, no_username, no_password, -⟩ := told course fits
  rw [session_eq] at run
  refine ⟨course, fits, run, status_eq, fun empty => ?_, fun empty => ?_⟩
  · rw [no_username.1 empty] at username
    cases username
  · rw [no_password.1 empty] at password
    cases password

/-- An installation that is not available, asked without credentials, lets a client in with an empty
token. -/
theorem login_without_credentials_to_unavailable_installation :
    ∃ course : LoginCourse, course.IsFor reachableInstallation ∧
      Follows (login reachableInstallation) course.events
        (.ok { endpoint := "http://keycloak.test", token := some "" }) ∧
      course.response.status = 503 ∧ Http.isSuccess course.response.status = false ∧
      course.username = "" ∧ course.password = "" := by
  have read : Session.decode? Admin.TokenAnswer.form (Utf8.encode (Json.object []).render) =
      some {} := by
    rw [Session.decode?_encode, Form.ofText?, Json.ofText?_render rfl]
    rfl
  have legible : (Kind.form .secret).ofJson? ((Kind.form .secret).write (credentialSecret none)) =
      some (credentialSecret none) := rfl
  obtain ⟨course, fits, secret_eq, status_eq, session_eq⟩ :=
    exists_course_of_answer 503 legible (by decide +kernel) read rfl
  have run : Follows (login reachableInstallation) course.events (.ok course.session) :=
    follows_login_iff.2 ⟨course, fits, rfl, rfl⟩
  rw [session_eq] at run
  refine ⟨course, fits, run, status_eq, ?_, ?_, ?_⟩
  · rw [status_eq]
    rfl
  · rw [LoginCourse.username, secret_eq]
    rfl
  · rw [LoginCourse.password, secret_eq]
    rfl

end Wired

end IdentityOperator
