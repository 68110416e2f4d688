import IdentityOperator.Cluster.ApiServer
import IdentityOperator.Proofs.Cluster.Server
import IdentityOperator.Proofs.Json.Reading
import IdentityOperator.Proofs.TextMap

/-!
The server in memory is a server of the cluster's API.

It finds an object by its path, so the paths of different objects have to differ, and it takes the
place of a new object from the JSON that it is sent, so the JSON has to tell the name of its object.
Both hold of the objects that calls can be about (`Kind.eq_of_objectPath_eq`,
`Object.IsPlain.nameIn_toJson`). With this every answer of the server is as documented
(`ApiServer.isApiServer`).
-/

namespace IdentityOperator

/-! ## Names in JSON -/

theorem ObjectMeta.field_name_of_read {depth : Nat} {json : Json} {m : ObjectMeta} {name : String}
    (read : form.read depth json = some m) (named : m.name = some name) :
    json.field? "name" = some (.text name) := by
  cases json with
  | object given =>
    obtain ⟨values, rfl, from_last⟩ := Form.firstFrom_of_lenient read
    have first_eq : values.1 = some name := named
    rw [first_eq] at from_last
    obtain ⟨json, below, last, read⟩ := from_last nofun
    cases json with
    | text told =>
      cases read
      exact last
    | _ => cases read
  | _ => cases read

namespace Form

/-- The JSON of an object that is read back from it tells the object's name. -/
def TellsName {α : Type} (form : Form α) (metadata : α → ObjectMeta) : Prop :=
  ∀ ⦃x name⦄, form.ofJson? (form.write x) = some x → (metadata x).name = some name →
    ((form.write x).field? "metadata").bind (·.field? "name") = some (.text name)

variable {α ρ : Type} {apiVersion kind : String} {row : Row ρ} {build : ObjectMeta × ρ → α}
  {fields : α → ObjectMeta × ρ} {metadata : α → ObjectMeta}

theorem name_of_firstFrom {member : Member ObjectMeta} {given : List (String × Json)} {x : α}
    {name : String} (first : FirstFrom member given build x)
    (built : ∀ values, metadata (build values) = values.1) (named : (metadata x).name = some name)
    (nameless : ∀ m, member.missing = some m → m.name = none)
    (reads : ∀ {depth json m}, member.read depth json = some m →
      ∃ below, ObjectMeta.form.read below json = some m) :
    (Json.lastField member.name given).bind (·.field? "name") = some (.text name) := by
  obtain ⟨values, rfl, from_last⟩ := first
  rw [built] at named
  have there : member.missing ≠ some values.1 := by
    intro missing
    rw [nameless _ missing] at named
    cases named
  obtain ⟨json, depth, last, read⟩ := from_last there
  obtain ⟨below, read⟩ := reads read
  rw [last, Option.bind_some]
  exact ObjectMeta.field_name_of_read read named

theorem tellsName_resource (built : ∀ values, metadata (build values) = values.1) :
    (resource apiVersion kind (.cons (.defaulted "metadata" ObjectMeta.form {}) row) build
      fields).TellsName metadata := by
  intro x name legible named
  simp only [ofJson?, resource] at legible
  split at legible
  · refine name_of_firstFrom (firstFrom_of_lenient legible) built named ?_ fun read => ⟨_, read⟩
    rintro m ⟨⟩
    rfl
  · cases legible

theorem tellsName_custom (built : ∀ values, metadata (build values) = values.1) :
    (custom apiVersion kind (.cons (.required "metadata" ObjectMeta.form) row) build
      fields).TellsName metadata := by
  intro x name legible named
  simp only [ofJson?, custom] at legible
  refine name_of_firstFrom (firstFrom_of_strict legible) built named ?_ fun read => ⟨_, read⟩
  rintro m ⟨⟩

end Form

theorem Kind.tellsName (kind : Kind) : kind.form.TellsName kind.metadata := by
  cases kind with
  | route | serviceMonitor | prometheusRule | grafanaDashboard | keycloak | keycloakRealm =>
    refine Form.tellsName_custom ?_
    exact fun _ => rfl
  | _ =>
    refine Form.tellsName_resource ?_
    exact fun _ => rfl

theorem Object.IsPlain.nameIn_toJson {o : Object} (plain : o.IsPlain) :
    ApiServer.nameIn o.toJson = o.key.name := by
  have told := o.kind.tellsName plain.legible plain.named
  rw [ApiServer.nameIn, toJson, told]

/-! ## Paths -/

namespace Kind

variable {kind other : Kind} {key place : ObjectKey} {ns : String}

/-- The path of a kind begins with its version, and with its group if it has one. -/
theorem exists_version (kind : Kind) :
    (∃ version, kind.basePath = "/api/" ++ version ∧
      Split.pieces '/' kind.basePath.toList = ["", "api", version].map String.toList) ∨
    ∃ group version, kind.basePath = "/apis/" ++ group ++ "/" ++ version ∧
      Split.pieces '/' kind.basePath.toList = ["", "apis", group, version].map String.toList := by
  cases kind with
  | secret | configMap | service | persistentVolumeClaim => exact .inl ⟨"v1", by decide⟩
  | deployment | statefulSet => exact .inr ⟨"apps", "v1", by decide⟩
  | podDisruptionBudget => exact .inr ⟨"policy", "v1", by decide⟩
  | ingress => exact .inr ⟨"networking.k8s.io", "v1", by decide⟩
  | route => exact .inr ⟨"route.openshift.io", "v1", by decide⟩
  | serviceMonitor | prometheusRule => exact .inr ⟨"monitoring.coreos.com", "v1", by decide⟩
  | grafanaDashboard => exact .inr ⟨"integreatly.org", "v1alpha1", by decide⟩
  | keycloak | keycloakRealm => exact .inr ⟨"keycloak.org", "v1alpha1", by decide⟩

theorem no_slash_plural (kind : Kind) : '/' ∉ kind.plural.toList := by
  cases kind <;> decide

theorem toList_collectionPath (kind : Kind) (ns : String) : (kind.collectionPath ns).toList =
    kind.basePath.toList ++ '/' :: ("namespaces".toList ++ '/' ::
      (ns.toList ++ '/' :: kind.plural.toList)) := by
  have between : "/namespaces/".toList = '/' :: ("namespaces".toList ++ ['/']) := by decide
  have slash : "/".toList = ['/'] := by decide
  simp only [collectionPath, String.toList_append, between, slash, List.append_assoc,
    List.cons_append, List.nil_append]

theorem toList_objectPath (kind : Kind) (key : ObjectKey) : (kind.objectPath key).toList =
    (kind.collectionPath key.ns).toList ++ '/' :: key.name.toList := by
  have slash : "/".toList = ['/'] := by decide
  simp only [objectPath, String.toList_append, slash, List.append_assoc, List.singleton_append]

theorem pieces_collectionPath (segment : Http.Target.isSegment ns = true) :
    Split.pieces '/' (kind.collectionPath ns).toList =
      Split.pieces '/' kind.basePath.toList ++
        ["namespaces", ns, kind.plural].map String.toList := by
  have between : '/' ∉ "namespaces".toList := by decide
  rw [toList_collectionPath, Split.pieces_append, Split.pieces_append_cons between,
    Split.pieces_append_cons (Http.Target.no_slash_of_isSegment segment),
    Split.pieces_of_not_mem kind.no_slash_plural]
  rfl

theorem ofPath_collectionPath (segment : Http.Target.isSegment ns = true) :
    ApiPlace.ofPath (kind.collectionPath ns) = .collection (kind.collectionPath ns) := by
  rw [ApiPlace.ofPath, pieces_collectionPath segment, collectionPath]
  rcases kind.exists_version with ⟨version, path_eq, pieces_eq⟩ |
    ⟨group, version, path_eq, pieces_eq⟩ <;>
  · rw [pieces_eq, path_eq, ← List.map_append, List.map_map]
    simp only [Function.comp_def, String.ofList_toList, List.map_id']
    rfl

theorem ofPath_objectPath (addressed : kind.addresses key = true) :
    ApiPlace.ofPath (kind.objectPath key) = .object (kind.collectionPath key.ns) key.name := by
  obtain ⟨name, ns, -⟩ := addresses_iff.1 addressed
  rw [ApiPlace.ofPath, toList_objectPath, Split.pieces_append, pieces_collectionPath ns,
    Split.pieces_of_not_mem (Http.Target.no_slash_of_isSegment name), collectionPath]
  rcases kind.exists_version with ⟨version, path_eq, pieces_eq⟩ |
    ⟨group, version, path_eq, pieces_eq⟩ <;>
  · rw [pieces_eq, path_eq, ← List.map_append, List.map_append, List.map_map]
    simp only [Function.comp_def, String.ofList_toList, List.map_id', List.map_cons, List.map_nil]
    rfl

/-! ## Kinds at places -/

/-- The kind with a name in request paths. -/
def ofPlural? (plural : String) : Option Kind := all.find? fun kind => kind.plural = plural

@[simp] theorem ofPlural?_plural (kind : Kind) : ofPlural? kind.plural = some kind := by
  cases kind <;> decide

/-- The last segment of the path of a collection. -/
def pluralIn (collection : String) : String :=
  String.ofList (Split.afterLast '/' collection.toList)

@[simp] theorem pluralIn_collectionPath (kind : Kind) (ns : String) :
    pluralIn (kind.collectionPath ns) = kind.plural := by
  have last : (kind.collectionPath ns).toList = (kind.basePath.toList ++ '/' ::
      ("namespaces".toList ++ '/' :: ns.toList)) ++ '/' :: kind.plural.toList := by
    simp [toList_collectionPath]
  rw [pluralIn, last, Split.afterLast_append _ kind.no_slash_plural, String.ofList_toList]

/-- Objects at different places have different paths. -/
theorem eq_of_objectPath_eq (addressed : kind.addresses key = true)
    (addressed_too : other.addresses place = true)
    (same : kind.objectPath key = other.objectPath place) : kind = other ∧ key = place := by
  have places_eq : ApiPlace.object (kind.collectionPath key.ns) key.name =
      .object (other.collectionPath place.ns) place.name := by
    rw [← ofPath_objectPath addressed, same, ofPath_objectPath addressed_too]
  obtain ⟨collection_eq, name_eq⟩ := ApiPlace.object.inj places_eq
  have kind_eq : kind = other := by
    have plural_eq := congrArg (ofPlural? ∘ pluralIn) collection_eq
    simpa using plural_eq
  subst kind_eq
  have ns_eq : key.ns = place.ns := by
    have pieces_eq := congrArg (fun path => Split.pieces '/' path.toList) collection_eq
    rw [pieces_collectionPath (addresses_iff.1 addressed).2.1,
      pieces_collectionPath (addresses_iff.1 addressed_too).2.1] at pieces_eq
    have segments_eq := List.append_cancel_left pieces_eq
    exact String.toList_inj.1 (by simpa using segments_eq)
  cases key
  cases place
  cases ns_eq
  cases name_eq
  exact ⟨rfl, rfl⟩

end Kind

namespace ApiServer

/-! ## Answers -/

theorem reports_failure (code : Nat) (reason message : String) (failing : code = 404 ∨ code = 409) :
    (failure code reason message).Reports (UInt16.ofNat code) reason message := by
  rcases failing with rfl | rfl
  · exact ⟨rfl, _, rfl⟩
  · exact ⟨rfl, _, rfl⟩

theorem reports_missing (kind : Kind) (ns name : String) :
    (missing (kind.collectionPath ns) name).Reports 404 "NotFound" (kind.missingText name) := by
  have text_eq : kind.missingText name =
      Kind.pluralIn (kind.collectionPath ns) ++ " \"" ++ name ++ "\" not found" := by
    rw [Kind.pluralIn_collectionPath, Kind.missingText]
  rw [text_eq]
  exact reports_failure 404 _ _ (.inl rfl)

theorem confirms_gone (kind : Kind) : gone.Confirms kind :=
  ⟨by decide, _, rfl, rfl, .inl ⟨rfl, rfl⟩⟩

/-! ## Requests -/

variable {kind : Kind} {key : ObjectKey} {server : ApiServer} {body json : Json}

theorem pathOf_eq (kind : Kind) (key : ObjectKey) :
    pathOf (kind.collectionPath key.ns) key.name = kind.objectPath key := rfl

theorem perform_get_of_some (addressed : kind.addresses key = true)
    (found : server.objects.get? (kind.objectPath key) = some json) :
    server.perform (.to .get (kind.objectPath key)) = (answer 200 json, server) := by
  simp only [perform, ApiRequest.to, read, Kind.ofPath_objectPath addressed, pathOf_eq, found]

theorem perform_get_of_none (addressed : kind.addresses key = true)
    (absent : server.objects.get? (kind.objectPath key) = none) :
    server.perform (.to .get (kind.objectPath key)) =
      (missing (kind.collectionPath key.ns) key.name, server) := by
  simp only [perform, ApiRequest.to, read, Kind.ofPath_objectPath addressed, pathOf_eq, absent]

theorem perform_post_of_some (segment : Http.Target.isSegment key.ns = true)
    (name_eq : nameIn body = key.name)
    (found : server.objects.get? (kind.objectPath key) = some json) :
    server.perform (.to .post (kind.collectionPath key.ns) (some body)) =
      (taken (kind.collectionPath key.ns) key.name, server) := by
  simp only [perform, ApiRequest.to, Kind.ofPath_collectionPath segment, Option.getD_some, name_eq,
    pathOf_eq, found]

theorem perform_post_of_none (segment : Http.Target.isSegment key.ns = true)
    (name_eq : nameIn body = key.name)
    (absent : server.objects.get? (kind.objectPath key) = none) :
    server.perform (.to .post (kind.collectionPath key.ns) (some body)) =
      (answer 201 body, server.put (kind.objectPath key) body) := by
  simp only [perform, ApiRequest.to, Kind.ofPath_collectionPath segment, Option.getD_some, name_eq,
    pathOf_eq, absent]

theorem perform_put_of_some (addressed : kind.addresses key = true)
    (found : server.objects.get? (kind.objectPath key) = some json) :
    server.perform (.to .put (kind.objectPath key) (some body)) =
      (answer 200 body, server.put (kind.objectPath key) body) := by
  simp only [perform, ApiRequest.to, Kind.ofPath_objectPath addressed, Option.getD_some, pathOf_eq,
    found]

theorem perform_put_of_none (addressed : kind.addresses key = true)
    (absent : server.objects.get? (kind.objectPath key) = none) :
    server.perform (.to .put (kind.objectPath key) (some body)) =
      (missing (kind.collectionPath key.ns) key.name, server) := by
  simp only [perform, ApiRequest.to, Kind.ofPath_objectPath addressed, pathOf_eq, absent]

theorem perform_delete_of_some (addressed : kind.addresses key = true)
    (found : server.objects.get? (kind.objectPath key) = some json) :
    server.perform (.to .delete (kind.objectPath key) (some body)) =
      (gone, { server with objects := server.objects.erase (kind.objectPath key) }) := by
  simp only [perform, ApiRequest.to, Kind.ofPath_objectPath addressed, pathOf_eq, found]

theorem perform_delete_of_none (addressed : kind.addresses key = true)
    (absent : server.objects.get? (kind.objectPath key) = none) :
    server.perform (.to .delete (kind.objectPath key) (some body)) =
      (missing (kind.collectionPath key.ns) key.name, server) := by
  simp only [perform, ApiRequest.to, Kind.ofPath_objectPath addressed, pathOf_eq, absent]

/-! ## Held objects -/

/-- A server without faults that stores JSON under the path of an object if and only if the object
is in a store, and JSON that it is read from. -/
structure Holds (server : ApiServer) (store : Store) : Prop where
  no_faults : server.faults = []
  objects : ∀ {kind : Kind} {key}, kind.addresses key = true →
    Option.Rel (fun json x => kind.form.ofJson? json = some x)
      (server.objects.get? (kind.objectPath key)) (store.find? kind key)

namespace Holds

variable {store after : Store} {o : Object}

theorem get?_of_some {x : kind.Object} (held : server.Holds store)
    (addressed : kind.addresses key = true) (found : store.find? kind key = some x) :
    ∃ json, server.objects.get? (kind.objectPath key) = some json ∧
      kind.form.ofJson? json = some x := by
  have stored := held.objects addressed
  rw [found] at stored
  cases stored_eq : server.objects.get? (kind.objectPath key) with
  | none =>
    rw [stored_eq] at stored
    cases stored
  | some json =>
    rw [stored_eq] at stored
    cases stored with
    | some read => exact ⟨json, rfl, read⟩

theorem get?_of_contains (held : server.Holds store) (addressed : kind.addresses key = true)
    (present : store.contains kind key = true) :
    ∃ json, server.objects.get? (kind.objectPath key) = some json := by
  obtain ⟨x, found⟩ := Option.isSome_iff_exists.1 (Store.isSome_find?_iff.2 present)
  obtain ⟨json, stored, -⟩ := held.get?_of_some addressed found
  exact ⟨json, stored⟩

theorem get?_of_missing (held : server.Holds store) (addressed : kind.addresses key = true)
    (missing : store.contains kind key = false) :
    server.objects.get? (kind.objectPath key) = none := by
  have stored := held.objects addressed
  rw [Store.find?_eq_none_iff.2 missing] at stored
  cases stored_eq : server.objects.get? (kind.objectPath key) with
  | none => rfl
  | some json =>
    rw [stored_eq] at stored
    cases stored

theorem log (held : server.Holds store) (log : List (ApiRequest × Nat)) :
    { server with log }.Holds store :=
  ⟨held.no_faults, held.objects⟩

/-- A change under the path of an object goes with a change at its place. -/
theorem of_change {objects : TextMap Json} (held : server.Holds store)
    (addressed : kind.addresses key = true)
    (here : Option.Rel (fun json x => kind.form.ofJson? json = some x)
      (objects.get? (kind.objectPath key)) (after.find? kind key))
    (same : ∀ {path}, path ≠ kind.objectPath key → objects.get? path = server.objects.get? path)
    (same_store : ∀ {other : Kind} {place}, kind ≠ other ∨ key ≠ place →
      after.find? other place = store.find? other place) :
    { server with objects }.Holds after where
  no_faults := held.no_faults
  objects {other place} addressed_too := by
    by_cases one : kind = other ∧ key = place
    · obtain ⟨rfl, rfl⟩ := one
      exact here
    · have paths_differ : other.objectPath place ≠ kind.objectPath key := fun path_eq =>
        one (Kind.eq_of_objectPath_eq addressed addressed_too path_eq.symm)
      rw [same paths_differ, same_store (not_and_or.1 one)]
      exact held.objects addressed_too

theorem put (held : server.Holds store) (plain : o.IsPlain) :
    (server.put (o.kind.objectPath o.key) o.toJson).Holds (store.put o) := by
  refine held.of_change plain.addressed ?_ (fun differs => TextMap.get?_insert_of_ne _ _ differs) ?_
  · rw [TextMap.get?_insert_self, Store.find?_put_self]
    exact .some plain.legible
  · intro other place differs
    refine Store.find?_put_of_ne store ?_
    rw [← Bool.not_eq_true, Store.isAt_iff]
    exact fun here => differs.elim (· here.1) (· here.2)

theorem erase (held : server.Holds store) (addressed : kind.addresses key = true) :
    { server with objects := server.objects.erase (kind.objectPath key) }.Holds
      (store.remove kind key) := by
  refine held.of_change addressed ?_ (fun differs => TextMap.get?_erase_of_ne _ differs)
    fun differs => Store.find?_remove_of_ne store differs
  rw [TextMap.get?_erase_self, Store.find?_remove_self]
  exact .none

end Holds

/-! ## Kinds that are served -/

/-- The kind of the objects at a path. -/
def kindAt? (path : String) : Option Kind :=
  match ApiPlace.ofPath path with
  | .object collection _ | .collection collection => Kind.ofPlural? (Kind.pluralIn collection)
  | _ => none

/-- The server as one that serves only some kinds. -/
def serveKinds (served : Kind → Bool) (request : ApiRequest) (server : ApiServer) :
    ApiResponse × ApiServer :=
  if (kindAt? request.target.path).all served then server.serve request else (unknownPath, server)

theorem kindAt?_objectPath (addressed : kind.addresses key = true) :
    kindAt? (kind.objectPath key) = some kind := by
  simp [kindAt?, Kind.ofPath_objectPath addressed]

theorem kindAt?_collectionPath (addressed : kind.addresses key = true) :
    kindAt? (kind.collectionPath key.ns) = some kind := by
  simp [kindAt?, Kind.ofPath_collectionPath (Kind.addresses_iff.1 addressed).2.1]

variable {served : Kind → Bool} {store after : Store}

theorem gives_of_perform {request : ApiRequest} {response : ApiResponse} {next : ApiServer}
    {sort : ApiResponse → Prop} (held : server.Holds store) (is_served : served kind = true)
    (place : kindAt? request.target.path = some kind)
    (performed : server.perform request = (response, next)) (sorted : sort response)
    (held_after : next.Holds after) :
    Gives Holds (serveKinds served request server) sort after := by
  have serve_eq : server.serve request =
      (response, { next with log := next.log ++ [(request, response.status)] }) := by
    rw [ApiServer.serve, held.no_faults, meet, performed]
  rw [serveKinds, place, Option.all_some, if_pos is_served, serve_eq]
  exact ⟨sorted, held_after.log _⟩

/-- The server in memory serves some kinds as a server of the cluster's API does. -/
theorem isApiServer (served : Kind → Bool) : IsApiServer (serveKinds served) Holds served where
  get_found held is_served addressed found := by
    obtain ⟨json, stored, read⟩ := held.get?_of_some addressed found
    exact gives_of_perform held is_served (kindAt?_objectPath addressed)
      (perform_get_of_some addressed stored) ⟨rfl, read⟩ held
  get_missing held is_served addressed missing :=
    gives_of_perform held is_served (kindAt?_objectPath addressed)
      (perform_get_of_none addressed (held.get?_of_missing addressed missing))
      (reports_missing _ _ _) held
  post_found held is_served plain present := by
    obtain ⟨json, stored⟩ := held.get?_of_contains plain.addressed present
    have segment := (Kind.addresses_iff.1 plain.addressed).2.1
    exact gives_of_perform held is_served (kindAt?_collectionPath plain.addressed)
      (perform_post_of_some segment plain.nameIn_toJson stored)
      ⟨_, _, reports_failure 409 _ _ (.inr rfl)⟩ held
  post_missing held is_served plain missing := by
    have segment := (Kind.addresses_iff.1 plain.addressed).2.1
    exact gives_of_perform held is_served (kindAt?_collectionPath plain.addressed)
      (perform_post_of_none segment plain.nameIn_toJson
        (held.get?_of_missing plain.addressed missing))
      ⟨_, rfl, plain.legible⟩ (held.put plain)
  put_found held is_served plain present := by
    obtain ⟨json, stored⟩ := held.get?_of_contains plain.addressed present
    exact gives_of_perform held is_served (kindAt?_objectPath plain.addressed)
      (perform_put_of_some plain.addressed stored) ⟨_, rfl, plain.legible⟩ (held.put plain)
  put_missing held is_served plain missing :=
    gives_of_perform held is_served (kindAt?_objectPath plain.addressed)
      (perform_put_of_none plain.addressed (held.get?_of_missing plain.addressed missing))
      (reports_missing _ _ _) held
  delete_found held is_served addressed present := by
    obtain ⟨json, stored⟩ := held.get?_of_contains addressed present
    exact gives_of_perform held is_served (kindAt?_objectPath addressed)
      (perform_delete_of_some addressed stored) (confirms_gone _) (held.erase addressed)
  delete_missing held is_served addressed missing :=
    gives_of_perform held is_served (kindAt?_objectPath addressed)
      (perform_delete_of_none addressed (held.get?_of_missing addressed missing))
      (reports_missing _ _ _) held
  unserved {state store kind key request} held not_served addressed place := by
    have kind_eq : kindAt? request.target.path = some kind := by
      rcases place with path_eq | path_eq <;> rw [path_eq]
      · exact kindAt?_objectPath addressed
      · exact kindAt?_collectionPath addressed
    rw [serveKinds, kind_eq, Option.all_some, if_neg (by simp [not_served])]
    exact ⟨reports_failure 404 _ _ (.inl rfl), held⟩

end ApiServer

end IdentityOperator
