import IdentityOperator.Admin.Operation
import IdentityOperator.Proofs.Admin.Session
import IdentityOperator.Proofs.Http.PlainName

/-!
What the requests of operations address.

A place in the admin API is documented by names: those of the API itself, the name of a realm, and
ids. A request addresses a place if these are the segments of its path, and if its query is that of
the place and nothing else (`Url.Addresses`).

Names and ids are written into a path as they are given, so a request addresses its place just if
all of them are plain (`Session.requests_address_places_iff`). What is not plain leads elsewhere,
and be it to another realm (`Session.deletion_leads_to_another_realm`).
-/

namespace IdentityOperator

open Admin

namespace Admin.Place

/-! ## Places by their names -/

/-- The names by which a place is documented. -/
def names : Place → List String
  | realms => ["realms"]
  | realm name => ["realms", name]
  | groups r => ["realms", r, "groups"]
  | group r id => ["realms", r, "groups", id]
  | subgroups r parent => ["realms", r, "groups", parent, "children"]
  | clients r => ["realms", r, "clients"]
  | client r id => ["realms", r, "clients", id]
  | clientSecret r id => ["realms", r, "clients", id, "client-secret"]
  | clientInstallation r id =>
    ["realms", r, "clients", id, "installation", "providers", "keycloak-oidc-keycloak-json"]
  | users r | usersByEmail r _ | usersByName r _ => ["realms", r, "users"]
  | user r id => ["realms", r, "users", id]
  | password r u => ["realms", r, "users", u, "reset-password"]
  | federatedIdentities r u => ["realms", r, "users", u, "federated-identity"]
  | federatedIdentity r u provider => ["realms", r, "users", u, "federated-identity", provider]
  | clientRoles r u c => ["realms", r, "users", u, "role-mappings", "clients", c]
  | availableClientRoles r u c =>
    ["realms", r, "users", u, "role-mappings", "clients", c, "available"]
  | realmRoles r u => ["realms", r, "users", u, "role-mappings", "realm"]
  | availableRealmRoles r u => ["realms", r, "users", u, "role-mappings", "realm", "available"]
  | identityProviders r => ["realms", r, "identity-provider", "instances"]
  | identityProvider r aliasName => ["realms", r, "identity-provider", "instances", aliasName]
  | executions r flow => ["realms", r, "authentication", "flows", flow, "executions"]
  | executionConfig r execution =>
    ["realms", r, "authentication", "executions", execution, "config"]
  | authenticatorConfig r id => ["realms", r, "authentication", "config", id]

/-- What a search at a place asks for. -/
def search? : Place → Option (List (String × String))
  | usersByEmail _ email => some [("first", "0"), ("max", "1"), ("search", email)]
  | usersByName _ username => some [("username", username), ("max", "-1")]
  | _ => none

/-- The realm that a place is in. -/
def realm? (place : Place) : Option String := place.names[1]?

/-- The query of a search with its mark. -/
def queryText (place : Place) : List Char :=
  match place.search? with
  | some pairs => '?' :: (FormText.render pairs).toList
  | none => []

theorem names_ne_nil (place : Place) : place.names ≠ [] := by
  cases place <;> exact List.cons_ne_nil _ _

theorem isQueryText_queryText (place : Place) : Url.IsQueryText place.queryText := by
  unfold queryText
  cases place.search? with
  | none => exact .inl rfl
  | some pairs => exact .inr ⟨_, rfl, fun c => FormText.inQuery_of_mem_render⟩

theorem queryText_eq_nil_iff (place : Place) : place.queryText = [] ↔ place.search? = none := by
  unfold queryText
  cases place.search? <;> simp

theorem slash_joined {names : List String} (nonempty : names ≠ []) :
    "/" ++ joined names = String.ofList (Url.pathText names) := by
  obtain ⟨first, others, rfl⟩ := List.exists_cons_of_ne_nil nonempty
  induction others generalizing first with
  | nil =>
    rw [joined, String.intercalate_singleton]
    simp [Url.pathText, Url.joined]
  | cons second others ih =>
    have text_eq : Url.pathText (first :: second :: others) =
        '/' :: first.toList ++ Url.pathText (second :: others) := rfl
    rw [text_eq, String.ofList_append, ← ih second (List.cons_ne_nil _ _), joined,
      String.intercalate_cons_cons, ← joined]
    simp [String.append_assoc]

/-- The path of a place consists of its names and its query. -/
theorem path_eq (place : Place) :
    place.path = joined place.names ++ String.ofList place.queryText := by
  have queried : ∀ text : String, String.ofList ('?' :: text.toList) = "?" ++ text := by simp
  have words : ∀ word ∈ ["first", "0", "max", "1", "search", "username", "-1"],
      FormText.encode word = word := by decide
  cases place with
  | usersByEmail realm email =>
    show joined _ ++ _ ++ _ = joined _ ++ String.ofList ('?' :: (FormText.render _).toList)
    rw [queried, ← String.toList_inj]
    simp [FormText.render, words, names]
  | usersByName realm username =>
    show joined _ ++ _ ++ _ ++ _ = joined _ ++ String.ofList ('?' :: (FormText.render _).toList)
    rw [queried, ← String.toList_inj]
    simp [FormText.render, words, names]
  | realms => rfl
  | _ => exact String.append_empty.symm

theorem slash_path (place : Place) :
    "/" ++ place.path = String.ofList (Url.pathText place.names ++ place.queryText) := by
  rw [path_eq, ← String.append_assoc, slash_joined place.names_ne_nil, String.ofList_append]

end Admin.Place

/-! ## Addressing -/

/-- A URL leads to a place: its path has the names of the place as its segments, and no query or
fragment stands behind it other than the query of the place. -/
structure Url.Addresses (url : Url) (place : Place) : Prop where
  segments : url.pathSegments = "auth" :: "admin" :: place.names
  query : url.query = place.search?.map FormText.render
  fragment : url.fragment = none

/-- All names of a place are plain, so that they stand in its path as they are. -/
structure Admin.Place.IsPlain (place : Place) : Prop where
  names : ∀ name ∈ place.names, Url.IsPlainName name
  /-- Nothing is lost at the end of a path that no query follows. -/
  visible : place.search? = none → Url.EndVisibly place.names

namespace Admin.Place

variable {place other : Place}

instance (place : Place) : Decidable place.IsPlain :=
  decidable_of_iff
    ((∀ name ∈ place.names, Url.IsPlainName name) ∧
      (place.search? = none → Url.EndVisibly place.names))
    ⟨fun plain => ⟨plain.1, plain.2⟩, fun plain => ⟨plain.names, plain.visible⟩⟩

theorem isPlain_iff : place.IsPlain ↔
    (∀ name ∈ "auth" :: "admin" :: place.names, Url.IsPlainName name) ∧
      (place.queryText = [] → Url.EndVisibly ("auth" :: "admin" :: place.names)) := by
  have auth_plain : Url.IsPlainName "auth" := by decide +kernel
  have admin_plain : Url.IsPlainName "admin" := by decide +kernel
  rw [List.forall_mem_cons, List.forall_mem_cons, queryText_eq_nil_iff,
    Url.EndVisibly.cons_iff _ (List.cons_ne_nil _ _), Url.EndVisibly.cons_iff _ place.names_ne_nil]
  exact ⟨fun plain => ⟨⟨auth_plain, admin_plain, plain.names⟩, plain.visible⟩,
    fun plain => ⟨plain.1.2.2, plain.2⟩⟩

theorem tailOf_queryText (place : Place) :
    Url.tailOf true place.queryText = (place.search?.map FormText.render, none) := by
  unfold queryText
  cases place.search? with
  | none => rfl
  | some pairs =>
    dsimp only
    rw [Url.tailOf_query fun c => FormText.inQuery_of_mem_render, String.ofList_toList]
    rfl

end Admin.Place

namespace Url.Addresses

variable {url url' : Url} {place other : Place}

theorem withoutUser_iff : url.withoutUser.Addresses place ↔ url.Addresses place :=
  ⟨fun leads => ⟨leads.segments, leads.query, leads.fragment⟩,
    fun leads => ⟨leads.segments, leads.query, leads.fragment⟩⟩

/-- A URL leads to one realm only. -/
theorem realm?_eq (leads : url.Addresses place) (leads' : url'.Addresses other)
    (same : url.pathSegments = url'.pathSegments) : place.realm? = other.realm? := by
  have names_eq := leads.segments.symm.trans (same.trans leads'.segments)
  simp only [List.cons.injEq, true_and] at names_eq
  rw [Place.realm?, names_eq, Place.realm?]

end Url.Addresses

/-- A URL leads to a place of an installation whose own path has these names. -/
structure Url.AddressesBelow (url : Url) (base : List String) (place : Place) : Prop where
  segments : url.pathSegments = base ++ "auth" :: "admin" :: place.names
  query : url.query = place.search?.map FormText.render
  fragment : url.fragment = none

namespace Session

/-- The installation is at an origin, below a path of plain names; mostly there are none. -/
structure IsBelow (session : Session) (base : List String) : Prop where
  endpoint : ∃ origin, Url.IsOrigin origin ∧
    session.endpoint = origin ++ String.ofList (Url.pathText base)
  plain : ∀ name ∈ base, Url.IsPlainName name

variable {session : Session}

/-- The URL of a place consists of the endpoint, the names and the query. -/
theorem adminUrl_eq (place : Place) :
    session.adminUrl place.path = session.endpoint ++
      String.ofList (Url.pathText ("auth" :: "admin" :: place.names) ++ place.queryText) := by
  have front_eq : "/auth/admin/" ++ place.path = "/auth/admin" ++ ("/" ++ place.path) := by
    rw [← String.append_assoc]
    rfl
  have names_eq : Url.pathText ("auth" :: "admin" :: place.names) =
      "/auth/admin".toList ++ Url.pathText place.names := rfl
  rw [adminUrl, String.append_assoc, front_eq, place.slash_path, names_eq, List.append_assoc,
    @String.ofList_append "/auth/admin".toList, String.ofList_toList]

/-- The URL of a place leads there just if the names of the place are plain. -/
theorem adminUrl_addresses_iff (at_origin : Url.IsOrigin session.endpoint) (place : Place) :
    ∃ url, Url.ofText? (session.adminUrl place.path) = some url ∧
      (url.Addresses place ↔ place.IsPlain) := by
  have is_query := place.isQueryText_queryText
  obtain ⟨server, parsed⟩ := Url.ofText?_behind at_origin
    ("auth".toList ++ Url.pathText ("admin" :: place.names) ++ place.queryText)
  refine ⟨_, (adminUrl_eq place) ▸ parsed, ?_⟩
  rw [Place.isPlain_iff, ← Url.pathSegments_eq_iff (List.cons_ne_nil _ _) is_query server]
  refine ⟨fun leads => leads.segments, fun segments_eq => ?_⟩
  obtain ⟨plain, visible⟩ :=
    (Url.pathSegments_eq_iff (List.cons_ne_nil _ _) is_query server).1 segments_eq
  have tail_eq := Url.tail_of_plain is_query server plain visible
  rw [place.tailOf_queryText, Prod.mk.injEq] at tail_eq
  exact ⟨segments_eq, tail_eq.1, tail_eq.2⟩

end Session

/-! ## Operations -/

/-- The places that an operation is about, with the names that it is given. Which groups it is
about, and which execution, the operation learns from the answers. -/
def Operation.Concerns : Operation → Place → Prop
  | createRealm _ | listRealms => fun place => place = .realms
  | getRealm r | deleteRealm r => fun place => place = .realm r
  | updateRealm realm => fun place => place = .realm realm.realm
  | listGroups r => fun place => place = .groups r
  | updateGroups realm => fun place =>
    place = .groups realm.realm ∨
      ∃ id, place = .group realm.realm id ∨ place = .subgroups realm.realm id
  | createClient r _ | listClients r => fun place => place = .clients r
  | getClient r id | deleteClient r id => fun place => place = .client r id
  | getClientSecret r id => fun place => place = .clientSecret r id
  | getClientInstallation r id => fun place => place = .clientInstallation r id
  | updateClient r client => fun place => ∃ id, client.id = some id ∧ place = .client r id
  | createUser r _ | listUsers r => fun place => place = .users r
  | getUser r id | deleteUser r id => fun place => place = .user r id
  | findUserByEmail r email => fun place => place = .usersByEmail r email
  | findUserByName r username => fun place => place = .usersByName r username
  | updateUser r user => fun place => ∃ id, user.id = some id ∧ place = .user r id
  | updatePassword r user _ => fun place => ∃ id, user.id = some id ∧ place = .password r id
  | createFederatedIdentity r u identity | removeFederatedIdentity r u identity =>
    fun place => place = .federatedIdentity r u identity.identityProvider
  | listFederatedIdentities r u => fun place => place = .federatedIdentities r u
  | createClientRole r u c _ | listClientRoles r u c | deleteClientRole r u c _ =>
    fun place => place = .clientRoles r u c
  | listAvailableClientRoles r u c => fun place => place = .availableClientRoles r u c
  | createRealmRole r u _ | listRealmRoles r u | deleteRealmRole r u _ =>
    fun place => place = .realmRoles r u
  | listAvailableRealmRoles r u => fun place => place = .availableRealmRoles r u
  | createIdentityProvider r _ | listIdentityProviders r => fun place =>
    place = .identityProviders r
  | getIdentityProvider r aliasName | deleteIdentityProvider r aliasName => fun place =>
    place = .identityProvider r aliasName
  | updateIdentityProvider r provider => fun place =>
    place = .identityProvider r provider.aliasName
  | listExecutions r flow => fun place => place = .executions r flow
  | createAuthenticatorConfig r execution _ => fun place => place = .executionConfig r execution
  | getAuthenticatorConfig r id | deleteAuthenticatorConfig r id => fun place =>
    place = .authenticatorConfig r id
  | updateAuthenticatorConfig r config => fun place =>
    ∃ id, config.id = some id ∧ place = .authenticatorConfig r id
  | configureRedirector r redirect => fun place =>
    place = .executions r redirect.forFlow ∨ ∃ execution, place = .executionConfig r execution

namespace Session

open Program (Only)

variable {session : Session} {α β : Type} {places : Place → Prop} {place : Place}

/-- A request goes out by the URL of a place, if need be without a user name in it. -/
def RequestsAt (session : Session) (place : Place) (outgoing : Http.Outgoing) : Prop :=
  ∃ url, Url.ofText? (session.adminUrl place.path) = some url ∧
    (outgoing.url = url ∨ outgoing.url = url.withoutUser)

theorem RequestsAt.of_sent {request : Http.Request} {outgoing : Http.Outgoing}
    (url_eq : request.url = session.adminUrl place.path)
    (sent : request.outgoing? = .ok outgoing) : session.RequestsAt place outgoing := by
  unfold RequestsAt
  rw [← url_eq]
  unfold Http.Request.outgoing? at sent
  cases given_eq : Url.ofText? request.url with
  | none =>
    rw [given_eq] at sent
    cases sent
  | some given =>
    rw [given_eq] at sent
    refine ⟨given, rfl, ?_⟩
    dsimp only at sent
    repeat' split at sent
    all_goals first
      | cases sent; exact .inl rfl
      | cases sent; exact .inr rfl
      | cases sent

/-- All requests of a part go to such places. -/
structure StaysWithin (session : Session) (places : Place → Prop) (part : Rest α) : Prop where
  only : Only (fun outgoing => ∃ place, places place ∧ session.RequestsAt place outgoing) part.run

/-- A request goes out to a path of the admin API with the token of the session. -/
def Sends (session : Session) (path : String) (outgoing : Http.Outgoing) : Prop :=
  ∃ method content, Http.Request.outgoing? {
    method, url := session.adminUrl path, bearer := some (session.token.getD ""), content } =
      .ok outgoing

theorem Sends.requestsAt {outgoing : Http.Outgoing} (sends : session.Sends place.path outgoing) :
    session.RequestsAt place outgoing := by
  obtain ⟨method, content, sent⟩ := sends
  exact .of_sent rfl sent

/-- Every primitive of the admin API sends such a request, whatever it makes of the answer. -/
theorem onlySends_authorized {verb : Verb} {method : Http.Method} {kind path : String}
    {content : Http.Content} {conclusion : Http.Response → Except OperatorError α} :
    OnlySends (session.Sends path) (session.authorized verb method kind path content >>=
      fun response => conclude (conclusion response)) := by
  refine onlySends_bind ?_ fun response => onlySends_conclude _
  exact onlySends_exchange (fun outgoing sent => ⟨method, content, sent⟩) _

/-- A request goes out to such a place with the token of the session. -/
def SendsAt (session : Session) (places : Place → Prop) (outgoing : Http.Outgoing) : Prop :=
  ∃ place, places place ∧ session.Sends place.path outgoing

section AtPlace

variable (within : places place)
include within

theorem onlySends_authorizedAt {verb : Verb} {method : Http.Method} {kind : String}
    {content : Http.Content} {conclusion : Http.Response → Except OperatorError α} :
    OnlySends (session.SendsAt places) (session.authorized verb method kind place.path content >>=
      fun response => conclude (conclusion response)) :=
  onlySends_authorized.mono fun _ sends => ⟨place, within, sends⟩

theorem onlySends_createAt (form : Form α) (value : α) :
    OnlySends (session.SendsAt places) (session.createAt place form value) :=
  onlySends_authorizedAt within

theorem onlySends_updateAt (form : Form α) (value : α) :
    OnlySends (session.SendsAt places) (session.updateAt place form value) :=
  onlySends_authorizedAt within

theorem onlySends_getAt (form : Form α) :
    OnlySends (session.SendsAt places) (session.getAt place form) :=
  onlySends_authorizedAt within

theorem onlySends_listAt (form : Form α) :
    OnlySends (session.SendsAt places) (session.listAt place form) :=
  onlySends_authorizedAt within

theorem onlySends_deleteAt : OnlySends (session.SendsAt places) (session.deleteAt place) :=
  onlySends_authorizedAt within

theorem onlySends_removeAt (form : Form α) (value : α) :
    OnlySends (session.SendsAt places) (session.removeAt place form value) :=
  onlySends_authorizedAt within

end AtPlace

theorem onlySends_createSubgroups {realm parent : String}
    (within : places (.subgroups realm parent)) (groups : List Group) :
    OnlySends (session.SendsAt places) (session.createSubgroups realm parent groups) := by
  induction groups with
  | nil => exact onlySends_pure ()
  | cons group rest ih =>
    exact onlySends_bind (onlySends_createAt within _ _) fun _ => ih

theorem onlySends_applyGroupSteps {realm : String} (within : places (.groups realm))
    (within_groups : ∀ id, places (.group realm id) ∧ places (.subgroups realm id))
    (steps : List GroupStep) :
    OnlySends (session.SendsAt places) (session.applyGroupSteps realm steps) := by
  induction steps with
  | nil => exact onlySends_pure ()
  | cons step rest ih =>
    refine onlySends_bind ?_ fun _ => ih
    cases step with
    | create group =>
      refine onlySends_bind (onlySends_createAt within _ _) fun id => ?_
      split
      · exact onlySends_pure ()
      · exact onlySends_createSubgroups (within_groups id).2 _
    | update id group => exact onlySends_updateAt (within_groups id).1 _ _
    | createChild parent group => exact onlySends_createSubgroups (within_groups parent).2 _

theorem onlySends_updateGroups (realm : Realm) :
    OnlySends (session.SendsAt (Operation.updateGroups realm).Concerns)
      (session.updateGroups realm) :=
  onlySends_bind (onlySends_listAt (.inl rfl) _) fun _ =>
    onlySends_applyGroupSteps (.inl rfl)
      (fun id => ⟨.inr ⟨id, .inl rfl⟩, .inr ⟨id, .inr rfl⟩⟩) _

theorem onlySends_configureRedirector (realm : String) (redirect : RedirectorOverride) :
    OnlySends (session.SendsAt (Operation.configureRedirector realm redirect).Concerns)
      (session.configureRedirector realm redirect) := by
  refine onlySends_bind (onlySends_listAt (.inl rfl) _) fun executions => ?_
  cases executions.find? (·.providerId = some redirectorKind) with
  | none => exact onlySends_throw _
  | some execution =>
    exact onlySends_bind (onlySends_createAt (.inr ⟨execution.id, rfl⟩) _ _) fun _ =>
      onlySends_pure ()

theorem onlySends_needId_bind {what : String} {given : Option String} {next : String → Rest α}
    (next_within : ∀ id, given = some id → OnlySends (session.SendsAt places) (next id)) :
    OnlySends (session.SendsAt places) (needId what given >>= next) := by
  cases given with
  | none => exact ⟨trivial⟩
  | some id => exact next_within id rfl

/-- Every request of an operation goes to a place that the operation is about, with the token of the
session. -/
theorem onlySends_perform (operation : Operation) :
    OnlySends (session.SendsAt operation.Concerns) (session.perform operation) := by
  cases operation with
  | updateGroups realm => exact onlySends_updateGroups realm
  | configureRedirector realm redirect => exact onlySends_configureRedirector realm redirect
  | createRealm | createClient | createUser | createFederatedIdentity | createClientRole
  | createRealmRole | createIdentityProvider | createAuthenticatorConfig =>
    exact onlySends_createAt (by rfl) _ _
  | updateRealm | updateIdentityProvider => exact onlySends_updateAt (by rfl) _ _
  | getRealm | getClient | getUser | getIdentityProvider | getAuthenticatorConfig =>
    exact onlySends_getAt (by rfl) _
  | listRealms | listGroups | listClients | listUsers | listClientRoles | listAvailableClientRoles
  | listRealmRoles | listAvailableRealmRoles | listIdentityProviders | listExecutions =>
    exact onlySends_listAt (by rfl) _
  | deleteRealm | deleteClient | deleteUser | deleteIdentityProvider | deleteAuthenticatorConfig =>
    exact onlySends_deleteAt (by rfl)
  | removeFederatedIdentity | deleteClientRole | deleteRealmRole =>
    exact onlySends_removeAt (by rfl) _ _
  | getClientSecret | findUserByEmail | findUserByName | listFederatedIdentities =>
    exact onlySends_bind (onlySends_getAt (by rfl) _) fun _ => onlySends_pure _
  | getClientInstallation => exact onlySends_authorizedAt (by rfl)
  | updateClient | updateUser | updatePassword | updateAuthenticatorConfig =>
    exact onlySends_needId_bind fun id given => onlySends_updateAt ⟨id, given, rfl⟩ _ _

theorem staysWithin_perform (operation : Operation) :
    session.StaysWithin operation.Concerns (session.perform operation) :=
  ⟨(onlySends_perform operation).only.mono fun _ ⟨place, concerns, sends⟩ =>
    ⟨place, concerns, sends.requestsAt⟩⟩

theorem RequestsAt.addresses_iff {outgoing : Http.Outgoing}
    (requested : session.RequestsAt place outgoing) (at_origin : Url.IsOrigin session.endpoint) :
    outgoing.url.Addresses place ↔ place.IsPlain := by
  obtain ⟨url, parsed, same⟩ := requested
  obtain ⟨_, parsed', leads_iff⟩ := adminUrl_addresses_iff at_origin place
  cases parsed.symm.trans parsed'
  rcases same with same | same
  · rw [same, leads_iff]
  · rw [same, Url.Addresses.withoutUser_iff, leads_iff]

/-- A request to a place with plain names addresses it, also where the installation is below a path. -/
theorem RequestsAt.addressesBelow {outgoing : Http.Outgoing} {base : List String}
    (requested : session.RequestsAt place outgoing) (below : session.IsBelow base)
    (plain : place.IsPlain) : outgoing.url.AddressesBelow base place := by
  obtain ⟨url, parsed, same⟩ := requested
  obtain ⟨⟨origin, is_origin, endpoint_eq⟩, base_plain⟩ := below
  let names := base ++ "auth" :: "admin" :: place.names
  have nonempty : names ≠ [] := by simp [names]
  have is_query := place.isQueryText_queryText
  obtain ⟨plain_names, visible⟩ := Place.isPlain_iff.1 plain
  have all_plain : ∀ name ∈ names, Url.IsPlainName name :=
    List.forall_mem_append.2 ⟨base_plain, plain_names⟩
  have ends_visibly : place.queryText = [] → Url.EndVisibly names := fun no_query =>
    (Url.EndVisibly.append_iff base (List.cons_ne_nil _ _)).2 (visible no_query)
  obtain ⟨behind, path_eq⟩ : ∃ behind, Url.pathText names = '/' :: behind :=
    Url.exists_pathText nonempty
  have text_eq : session.adminUrl place.path =
      origin ++ String.ofList ('/' :: (behind ++ place.queryText)) := by
    rw [adminUrl_eq, endpoint_eq, String.append_assoc, ← String.ofList_append, ← List.append_assoc,
      ← Url.pathText_append, path_eq, List.cons_append]
  obtain ⟨server, parsed'⟩ := Url.ofText?_behind is_origin (behind ++ place.queryText)
  have url_eq : url = Url.readBehind server (Url.cleanedEnd (Url.pathText names ++ place.queryText)) := by
    rw [path_eq, List.cons_append]
    exact Option.some.inj (parsed.symm.trans (text_eq ▸ parsed'))
  have leads : url.AddressesBelow base place := by
    have segments_eq := Url.pathSegments_of_plain nonempty is_query server all_plain ends_visibly
    have tail_eq := Url.tail_of_plain is_query server all_plain ends_visibly
    rw [place.tailOf_queryText, Prod.mk.injEq] at tail_eq
    rw [url_eq]
    exact ⟨segments_eq, tail_eq.1, tail_eq.2⟩
  rcases same with same | same
  · rwa [same]
  · rw [same]
    exact ⟨leads.segments, leads.query, leads.fragment⟩

/-- Every place that an operation is about has a URL, and every request of the operation goes to
such a place. A URL, and so a request, addresses its place just if the names of the place are plain;
and where they are, requests to different realms never reach the same resource. -/
theorem requests_address_places_iff (at_origin : Url.IsOrigin session.endpoint)
    (operation other : Operation) :
    (∀ place, operation.Concerns place →
      ∃ url, Url.ofText? (session.adminUrl place.path) = some url ∧
        (url.Addresses place ↔ place.IsPlain)) ∧
    Only (fun outgoing => ∃ place, operation.Concerns place ∧
        (outgoing.url.Addresses place ↔ place.IsPlain) ∧
        Only (fun outgoing' => ∃ place', other.Concerns place' ∧
            (outgoing'.url.Addresses place' ↔ place'.IsPlain) ∧
            (place.IsPlain → place'.IsPlain → place.realm? ≠ place'.realm? →
              outgoing.url.pathSegments ≠ outgoing'.url.pathSegments))
          (session.perform other).run)
      (session.perform operation).run := by
  refine ⟨fun place _ => adminUrl_addresses_iff at_origin place, ?_⟩
  refine (staysWithin_perform operation).only.mono ?_
  rintro outgoing ⟨place, concerns, requested⟩
  have leads_iff := requested.addresses_iff at_origin
  refine ⟨place, concerns, leads_iff, (staysWithin_perform other).only.mono ?_⟩
  rintro outgoing' ⟨place', concerns', requested'⟩
  have leads_iff' := requested'.addresses_iff at_origin
  refine ⟨place', concerns', leads_iff', fun plain plain' differ same => differ ?_⟩
  exact (leads_iff.2 plain).realm?_eq (leads_iff'.2 plain') same

theorem isOrigin_keycloak : Url.IsOrigin "http://keycloak.test" := by
  have plain : "keycloak.test".toList.all
      (fun c => ' ' < c ∧ c ∉ ['/', '\\', '?', '#']) = true := by decide
  refine ⟨by decide +kernel, "http", by simp, "keycloak.test".toList, by decide, fun c mem => ?_⟩
  exact of_decide_eq_true (List.all_eq_true.1 plain c mem)

/-- Names with blanks, marks and letters of any script in them are addressed. -/
theorem odd_names_are_addressed :
    let session : Session := { endpoint := "http://keycloak.test" }
    let place : Place := .user "R & D" "50%-Küche"
    Url.IsOrigin session.endpoint ∧ place.IsPlain ∧
    (∃ url, Url.ofText? (session.adminUrl place.path) = some url ∧ url.Addresses place) ∧
    Only (fun outgoing => outgoing.url.Addresses place)
      (session.perform (.getUser "R & D" "50%-Küche")).run := by
  intro session place
  have plain : place.IsPlain := by decide +kernel
  have at_any_origin : ∀ session : Session, Url.IsOrigin session.endpoint →
      (∃ url, Url.ofText? (session.adminUrl place.path) = some url ∧ url.Addresses place) ∧
      Only (fun outgoing => outgoing.url.Addresses place)
        (session.perform (.getUser "R & D" "50%-Küche")).run := by
    intro session at_origin
    obtain ⟨parsed, requested⟩ :=
      requests_address_places_iff at_origin (.getUser "R & D" "50%-Küche") .listRealms
    refine ⟨?_, requested.mono ?_⟩
    · obtain ⟨url, parsed, leads_iff⟩ := parsed place rfl
      exact ⟨url, parsed, leads_iff.2 plain⟩
    · rintro outgoing ⟨_, rfl, leads_iff, -⟩
      exact leads_iff.2 plain
  exact ⟨isOrigin_keycloak, plain, at_any_origin session isOrigin_keycloak⟩

/-- Whoever deletes the realm `basic#old` deletes the realm `basic`: what follows the mark is taken
for a fragment, and fragments are not sent. -/
theorem deletion_leads_to_another_realm :
    let session : Session := { endpoint := "http://keycloak.test" }
    let env : HttpEnvironment Unit := fun _ _ _ _ => True
    ∃ outgoing : Http.Outgoing, Url.IsOrigin session.endpoint ∧
      Program.Run env (session.perform (.deleteRealm "basic#old")).run ()
        [⟨outgoing, some { status := 204 }⟩] (.ok ()) () ∧
      outgoing.method = .delete ∧
      outgoing.url.pathSegments = ["auth", "admin", "realms", "basic"] ∧
      outgoing.url.query = none ∧ ¬ outgoing.url.Addresses (.realm "basic#old") := by
  intro session env
  let request : Http.Request := {
    method := .delete, url := session.adminUrl (Place.realm "basic#old").path, bearer := some "" }
  have parsed : Url.ofText? request.url = some {
      scheme := "http", host := some "keycloak.test", path := "/auth/admin/realms/basic",
      fragment := some "old" } := by decide +kernel
  have segments : ∀ url : Url, url.path = "/auth/admin/realms/basic" →
      url.pathSegments = ["auth", "admin", "realms", "basic"] := by
    intro url path_eq
    rw [Url.pathSegments, path_eq]
    decide +kernel
  obtain ⟨outgoing, sent⟩ := Http.Request.exists_outgoing
    (by decide +kernel : request.outgoing?.isOk = true)
  obtain ⟨url, parsed', same⟩ : session.RequestsAt (.realm "basic#old") outgoing :=
    .of_sent rfl sent
  cases parsed.symm.trans parsed'
  have parts : outgoing.url.path = "/auth/admin/realms/basic" ∧ outgoing.url.query = none := by
    rcases same with same | same <;> rw [same] <;> exact ⟨rfl, rfl⟩
  have run : Program.Run env (session.perform (.deleteRealm "basic#old")).run ()
      [⟨outgoing, some { status := 204 }⟩] (.ok ()) () :=
    run_exchange_conclude_iff.2 ⟨outgoing, _, sent, rfl, trivial, rfl⟩
  have method_eq : outgoing.method = .delete := (Http.Request.of_outgoing? sent).1
  refine ⟨outgoing, isOrigin_keycloak, run, method_eq, segments _ parts.1, parts.2, fun leads => ?_⟩
  have named := (segments _ parts.1).symm.trans leads.segments
  exact absurd named (by decide)

end Session

end IdentityOperator
