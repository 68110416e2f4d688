import IdentityOperator.Proofs.Admin.Policy
import IdentityOperator.Proofs.Http.FormText
import IdentityOperator.Proofs.Http.Query

/-!
Looking for a user.

A search is a query behind the path of a realm's users. The query is written as a form, so the server
reads the very pairs that are searched for, whatever characters the name or the address of the user has
(`Admin.Place.asksFor_of_search?`). What the server finds may only have the name as a part of its own;
the search brings back the first user who has it as a whole (`Session.follows_findUserByName_iff`).
-/

namespace IdentityOperator

open Admin

/-- The query of a URL says these pairs, and there is no fragment. -/
def Url.AsksFor (url : Url) (pairs : List (String × String)) : Prop :=
  ∃ query, url.HasQuery query ∧ FormText.parse query = pairs

namespace Admin.Place

variable {place : Place} {pairs : List (String × String)}

/-- In the path of a place a query that says these pairs begins at the first mark. -/
def AsksFor (place : Place) (pairs : List (String × String)) : Prop :=
  ∃ front query, place.path = front ++ "?" ++ query ∧ Url.IsUnmarked front ∧
    '#' ∉ query.toList ∧ FormText.parse query = pairs

theorem path_of_search? (search : place.search? = some pairs) :
    place.path = joined place.names ++ String.ofList ('?' :: (FormText.render pairs).toList) := by
  rw [path_eq, queryText, search]

theorem isUnmarked_joined {names : List String} (unmarked : ∀ name ∈ names, Url.IsUnmarked name) :
    Url.IsUnmarked (joined names) := by
  have absent : ∀ mark, mark ≠ '/' → (∀ name ∈ names, mark ∉ name.toList) →
      mark ∉ (joined names).toList := by
    intro mark no_slash not_in_names mem
    rcases FormText.mem_intercalate mem with slash | ⟨name, name_mem, mem⟩
    · exact no_slash (List.mem_singleton.1 slash)
    · exact not_in_names name name_mem mem
  exact ⟨absent '?' (by decide) fun name mem => (unmarked name mem).no_query,
    absent '#' (by decide) fun name mem => (unmarked name mem).no_fragment⟩

theorem asksFor_of_search? (search : place.search? = some pairs)
    (unmarked : ∀ name ∈ place.names, Url.IsUnmarked name) : place.AsksFor pairs := by
  refine ⟨joined place.names, FormText.render pairs, ?_, isUnmarked_joined unmarked, fun mem => ?_,
    FormText.parse_render pairs⟩
  · rw [path_of_search? search, String.append_assoc]
    simp
  · exact absurd (FormText.inQuery_of_mem_render mem) (by decide)

end Admin.Place

namespace Session

open Program (Follows)

variable {session : Session} {place : Place} {pairs : List (String × String)}

/-- What is asked for by the path of a place is asked for by its requests. -/
theorem RequestsAt.asksFor {outgoing : Http.Outgoing} (requested : session.RequestsAt place outgoing)
    (search : place.search? = some pairs) (endpoint_unmarked : Url.IsUnmarked session.endpoint)
    (unmarked : ∀ name ∈ place.names, Url.IsUnmarked name) : outgoing.url.AsksFor pairs := by
  obtain ⟨url, parsed, same⟩ := requested
  have names_unmarked := Place.isUnmarked_joined unmarked
  have front_unmarked : Url.IsUnmarked
      (session.endpoint ++ "/auth/admin/" ++ Place.joined place.names) := by
    constructor
    · simp [endpoint_unmarked.no_query, names_unmarked.no_query]
    · simp [endpoint_unmarked.no_fragment, names_unmarked.no_fragment]
  rw [adminUrl, Place.path_of_search? search, ← String.append_assoc] at parsed
  have has_query :=
    Url.hasQuery_of_ofText? (fun c => FormText.inQuery_of_mem_render) front_unmarked parsed
  rw [String.ofList_toList] at has_query
  refine ⟨_, ?_, FormText.parse_render pairs⟩
  rcases same with same | same <;> rw [same] <;> exact has_query

/-- An operation that only searches at a place asks for just that. -/
theorem onlySends_asksFor {operation : Operation} (concerns : operation.Concerns = (· = place))
    (search : place.search? = some pairs) (endpoint_unmarked : Url.IsUnmarked session.endpoint)
    (unmarked : ∀ name ∈ place.names, Url.IsUnmarked name) :
    OnlySends (fun outgoing => outgoing.url.AsksFor pairs) (session.perform operation) := by
  refine ⟨(staysWithin_perform operation).only.mono ?_⟩
  rintro outgoing ⟨other, concerned, requested⟩
  rw [concerns] at concerned
  subst concerned
  exact requested.asksFor search endpoint_unmarked unmarked

/-! ## What is found -/

/-- A user is the first one of a list with such a name. -/
def IsFirstNamed (users : List User) (username : String) (user : User) : Prop :=
  ∃ front back, users = front ++ user :: back ∧ user.username = username ∧
    ∀ other ∈ front, other.username ≠ username

theorem isFirstNamed_iff {users : List User} {username : String} {user : User} :
    IsFirstNamed users username user ↔ users.find? (·.username = username) = some user := by
  simp only [IsFirstNamed, List.find?_eq_some_iff_append, decide_eq_true_eq, Bool.not_eq_true',
    decide_eq_false_iff_not]
  constructor
  · rintro ⟨front, back, rfl, named, others⟩
    exact ⟨named, front, back, rfl, others⟩
  · rintro ⟨named, front, back, rfl, others⟩
    exact ⟨front, back, rfl, named, others⟩

/-- An answer that is a list of users. -/
def ListsUsers (response : Http.Response) (users : List User) : Prop :=
  response.status = 200 ∧ ∃ bytes, response.body = some bytes ∧
    decode? User.form.list bytes = some users

theorem decides_users_iff {kind : String} {response : Http.Response} {users : List User} :
    (Policy.get kind User.form.list).Decides response (.ok (some users)) ↔
      ListsUsers response users := by
  constructor
  · rintro (⟨-, ⟨-, none_found⟩ | ⟨status_eq, bytes, _, body_eq, decoded, found_eq⟩⟩ | _ | _)
    · cases none_found
    · cases found_eq
      exact ⟨status_eq, bytes, body_eq, decoded⟩
  · rintro ⟨status_eq, bytes, body_eq, decoded⟩
    exact .accepted (.inr status_eq) (.inr ⟨status_eq, bytes, users, body_eq, decoded, rfl⟩)

/-- A search by a name brings back a user just if this is the first one of that very name in the list
that the one answer is. -/
theorem follows_findUserByName_iff {realm username : String} {events : List HttpEvent} {user : User} :
    Follows (session.perform (.findUserByName realm username)).run events (.ok (some user)) ↔
      ∃ outgoing response users,
        (session.adminRequest .get (Place.usersByName realm username).path .nothing).outgoing? =
          .ok outgoing ∧
        events = [⟨outgoing, some response⟩] ∧ ListsUsers response users ∧
        IsFirstNamed users username user := by
  have kept := (session.get_keeps "user" (Place.usersByName realm username).path User.form.list).map
    (fun found => found.bind (·.find? (·.username = username)))
  refine (kept events (.ok (some user))).trans (Policy.course_map_iff.trans ?_)
  constructor
  · rintro ⟨result, course, picked⟩
    cases result with
    | error e => cases picked
    | ok found =>
      obtain ⟨users, rfl, first⟩ := Option.bind_eq_some_iff.1 (Except.ok.inj picked).symm
      obtain ⟨outgoing, response, sent, events_eq, decides⟩ := Policy.course_ok_iff.1 course
      exact ⟨outgoing, response, users, sent, events_eq, decides_users_iff.1 decides,
        isFirstNamed_iff.2 first⟩
  · rintro ⟨outgoing, response, users, sent, events_eq, lists, first⟩
    refine ⟨.ok (some users), Policy.course_ok_iff.2
      ⟨outgoing, response, sent, events_eq, decides_users_iff.2 lists⟩, ?_⟩
    exact congrArg Except.ok (isFirstNamed_iff.1 first).symm

/-- Whatever characters a name or an address has, the query of a search for it says just this; and a
search by a name brings back the first user of that very name in the list that is answered, or none. -/
theorem search_is_for_the_named_user (session : Session) (realm username email : String) :
    let by_name := [("username", username), ("max", "-1")]
    let by_email := [("first", "0"), ("max", "1"), ("search", email)]
    (Url.IsUnmarked realm →
      (Place.usersByName realm username).AsksFor by_name ∧
      (Place.usersByEmail realm email).AsksFor by_email ∧
      (Url.IsUnmarked session.endpoint →
        OnlySends (fun outgoing => outgoing.url.AsksFor by_name)
          (session.perform (.findUserByName realm username)) ∧
        OnlySends (fun outgoing => outgoing.url.AsksFor by_email)
          (session.perform (.findUserByEmail realm email)))) ∧
    ∀ events user,
      Follows (session.perform (.findUserByName realm username)).run events (.ok (some user)) ↔
        ∃ outgoing response users,
          (session.adminRequest .get (Place.usersByName realm username).path .nothing).outgoing? =
            .ok outgoing ∧
          events = [⟨outgoing, some response⟩] ∧ ListsUsers response users ∧
          IsFirstNamed users username user := by
  refine ⟨fun realm_unmarked => ?_, fun events user => follows_findUserByName_iff⟩
  have names_unmarked : ∀ name ∈ ["realms", realm, "users"], Url.IsUnmarked name := by
    have words : ∀ word ∈ ["realms", "users"], Url.IsUnmarked word := by decide
    simp only [List.forall_mem_cons] at words ⊢
    exact ⟨words.1, realm_unmarked, words.2⟩
  exact ⟨Place.asksFor_of_search? rfl names_unmarked, Place.asksFor_of_search? rfl names_unmarked,
    fun endpoint_unmarked => ⟨onlySends_asksFor rfl rfl endpoint_unmarked names_unmarked,
    onlySends_asksFor rfl rfl endpoint_unmarked names_unmarked⟩⟩

/-- A name with a blank, the marks of a form and a letter of two bytes is asked for as it is, and of two
users who have it in their names the one is found who is called so. -/
theorem odd_name_is_found :
    let session : Session := { endpoint := "http://keycloak.test" }
    let username := "a&b=c +%20ü"
    let listing := [{ id := some "u1", username := "a&b=c +%20ü2" }, { id := some "u2", username }]
    (Place.usersByName "basic" username).path =
      "realms/basic/users?username=a%26b%3Dc+%2B%2520%C3%BC&max=-1" ∧
    (Place.usersByName "basic" username).AsksFor [("username", username), ("max", "-1")] ∧
    OnlySends (fun outgoing => outgoing.url.AsksFor [("username", username), ("max", "-1")])
      (session.perform (.findUserByName "basic" username)) ∧
    ∃ outgoing user, user.id = some "u2" ∧
      Follows (session.perform (.findUserByName "basic" username)).run
        [⟨outgoing, some { status := 200, body := some (Utf8.encode
          (User.form.list.write listing).render) }⟩] (.ok (some user)) := by
  intro session username listing
  obtain ⟨asks, found_iff⟩ := search_is_for_the_named_user session "basic" username ""
  obtain ⟨asks_by_name, -, requests_ask⟩ := asks (by decide)
  have sendable : (session.adminRequest .get (Place.usersByName "basic" username).path
      .nothing).outgoing?.isOk = true := by decide +kernel
  obtain ⟨outgoing, sent⟩ := Http.Request.exists_outgoing sendable
  have read : (decode? User.form.list (Utf8.encode (User.form.list.write listing).render)).map
      (·.map fun user => (user.id, user.username)) =
        some [(some "u1", "a&b=c +%20ü2"), (some "u2", username)] := by decide +kernel
  generalize Utf8.encode (User.form.list.write listing).render = body at read ⊢
  obtain ⟨_, decoded, users_eq⟩ := Option.map_eq_some_iff.1 read
  obtain ⟨other, _, rfl, other_eq, rest_eq⟩ := List.map_eq_cons_iff.1 users_eq
  obtain ⟨user, _, rfl, user_eq, nobody⟩ := List.map_eq_cons_iff.1 rest_eq
  obtain rfl := List.map_eq_nil_iff.1 nobody
  have other_named : other.username ≠ username := by
    rw [(Prod.mk.inj other_eq).2]
    decide
  have lists : ListsUsers { status := 200, body := some body } [other, user] :=
    ⟨rfl, body, rfl, decoded⟩
  have first : IsFirstNamed [other, user] username user :=
    ⟨[other], [], rfl, (Prod.mk.inj user_eq).2, List.forall_mem_singleton.2 other_named⟩
  exact ⟨by decide +kernel, asks_by_name, (requests_ask (by decide)).1, outgoing, user,
    (Prod.mk.inj user_eq).1, (found_iff _ user).2 ⟨outgoing, _, _, sent, rfl, lists, first⟩⟩

end Session

end IdentityOperator
