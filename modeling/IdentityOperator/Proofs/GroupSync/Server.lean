import IdentityOperator.Proofs.Admin.Token
import Mathlib.Data.List.Forall2
import Mathlib.Data.List.Nodup

/-!
A server that has the groups of a realm.

What such a server does is said call by call (`GroupCall.Answered`): groups are listed with their
direct subgroups, a new group gets an id of its own unless its name is taken, and an update leaves the
name and the subgroups of a group alone. Nothing is said about calls that nobody makes. A server
knows a call by what arrives: the method, the path and the body (`GroupCall.ArrivesBy`). So a call
about a group is one only if the id of the group stands in a path as it is
(`GroupServer.Addressable`).

Whatever call is answered, no group goes away, nor does one lose its id, its name or a subgroup, and
no path that is asked for is that of a group of an undeclared name (`GroupServer.Progress`).
-/

namespace IdentityOperator

open Admin (Group Place)

/-! ## Groups -/

namespace Admin.Group

def HasChild (group : Group) (name : String) : Prop := ∃ child ∈ group.subGroups, child.name = name

theorem any_subGroups_iff (group : Group) (name : String) :
    group.subGroups.any (·.name = name) = true ↔ group.HasChild name := by
  simp [HasChild]

/-- A group that is the same but for subgroups that it may have got, and for what else is said about
it. -/
structure Deepens (group later : Group) : Prop where
  id_eq : later.id = group.id
  name_eq : later.name = group.name
  children : ∀ name, group.HasChild name → later.HasChild name

/-- A group with the same id and name, and subgroups of the same names. -/
structure Resembles (group other : Group) : Prop where
  id_eq : other.id = group.id
  name_eq : other.name = group.name
  children : ∀ name, other.HasChild name ↔ group.HasChild name

theorem Resembles.deepens {group other : Group} (resembles : group.Resembles other) :
    group.Deepens other :=
  ⟨resembles.id_eq, resembles.name_eq, fun name => (resembles.children name).2⟩

theorem Deepens.refl (group : Group) : group.Deepens group := ⟨rfl, rfl, fun _ has => has⟩

theorem Deepens.trans {first second third : Group} (before : first.Deepens second)
    (after : second.Deepens third) : first.Deepens third :=
  ⟨after.id_eq.trans before.id_eq, after.name_eq.trans before.name_eq,
    fun name has => after.children name (before.children name has)⟩

/-- The names that a group is known and addressed by. -/
def outline (group : Group) : Option String × String × List String :=
  (group.id, group.name, group.subGroups.map (·.name))

theorem resembles_of_outline {group other : Group} (same : group.outline = other.outline) :
    group.Resembles other := by
  obtain ⟨id_eq, name_eq, children_eq⟩ : group.id = other.id ∧ group.name = other.name ∧
      group.subGroups.map (·.name) = other.subGroups.map (·.name) := by
    simpa [outline] using same
  refine ⟨id_eq.symm, name_eq.symm, fun name => ?_⟩
  unfold HasChild
  rw [← List.mem_map, ← List.mem_map, children_eq]

end Admin.Group

namespace GroupServer

variable {before middle after content : List Group}

/-- There is a group of that name. -/
def Named (content : List Group) (name : String) : Prop := ∃ group ∈ content, group.name = name

/-- The group with that id has a subgroup of that name. -/
def HasSubgroup (content : List Group) (parent name : String) : Prop :=
  ∃ group ∈ content, group.id = some parent ∧ group.HasChild name

/-- Every group has an id of its own, which is not empty and has no slash in it. -/
structure Identified (content : List Group) : Prop where
  ids : ∀ group ∈ content, ∃ id, group.id = some id ∧ id ≠ "" ∧ '/' ∉ id.toList
  distinct : (content.map (·.id)).Nodup

/-- The groups of declared names have ids that stand in a path as they are. -/
structure Addressable (realm : String) (desired content : List Group) : Prop
    extends Identified content where
  plain : ∀ group ∈ content, Named desired group.name → ∀ id ∈ group.id,
    (Place.group realm id).IsPlain

/-- The id is that of a group, and of none but groups of declared names. -/
def IsDeclaredId (desired content : List Group) (id : String) : Prop :=
  (∃ group ∈ content, group.id = some id) ∧
    ∀ group ∈ content, group.id = some id → Named desired group.name

/-- No group goes away or loses anything. -/
def Keeps (before after : List Group) : Prop := ∀ group ∈ before, ∃ later ∈ after, group.Deepens later

/-- No group comes or goes, and none loses anything. -/
def Deepened (before after : List Group) : Prop := List.Forall₂ Group.Deepens before after

theorem Identified.eq_of_id {group other : Group} (identified : Identified content)
    (mem : group ∈ content) (other_mem : other ∈ content) (id_eq : group.id = other.id) :
    group = other :=
  List.inj_on_of_nodup_map identified.distinct mem other_mem id_eq

theorem Keeps.refl (content : List Group) : Keeps content content :=
  fun group mem => ⟨group, mem, .refl group⟩

theorem Keeps.trans (first : Keeps before middle) (second : Keeps middle after) :
    Keeps before after := by
  intro group mem
  obtain ⟨later, later_mem, deepens⟩ := first group mem
  obtain ⟨last, last_mem, deepens_further⟩ := second later later_mem
  exact ⟨last, last_mem, deepens.trans deepens_further⟩

theorem Named.kept {name : String} (named : Named before name) (keeps : Keeps before after) :
    Named after name := by
  obtain ⟨group, mem, rfl⟩ := named
  obtain ⟨later, later_mem, deepens⟩ := keeps group mem
  exact ⟨later, later_mem, deepens.name_eq⟩

theorem HasSubgroup.kept {parent name : String} (has : HasSubgroup before parent name)
    (keeps : Keeps before after) : HasSubgroup after parent name := by
  obtain ⟨group, mem, id_eq, has⟩ := has
  obtain ⟨later, later_mem, deepens⟩ := keeps group mem
  exact ⟨later, later_mem, deepens.id_eq.trans id_eq, deepens.children name has⟩

theorem Deepened.refl (content : List Group) : Deepened content content :=
  List.forall₂_same.2 fun group _ => .refl group

theorem Deepened.trans (first : Deepened before middle) (second : Deepened middle after) :
    Deepened before after := by
  induction first generalizing after with
  | nil => exact second
  | cons deepens _ ih =>
    cases second with
    | cons deepens_further rest => exact .cons (deepens.trans deepens_further) (ih rest)

theorem Deepened.keeps (deepened : Deepened before after) : Keeps before after := by
  induction deepened with
  | nil => simp [Keeps]
  | cons deepens _ ih =>
    refine List.forall_mem_cons.2 ⟨⟨_, List.mem_cons_self, deepens⟩, fun group mem => ?_⟩
    obtain ⟨later, later_mem, deepens⟩ := ih group mem
    exact ⟨later, List.mem_cons_of_mem _ later_mem, deepens⟩

theorem Deepened.exists_before {later : Group} (deepened : Deepened before after)
    (mem : later ∈ after) : ∃ group ∈ before, group.Deepens later := by
  induction deepened with
  | nil => cases mem
  | cons deepens _ ih =>
    rcases List.mem_cons.1 mem with rfl | mem
    · exact ⟨_, List.mem_cons_self, deepens⟩
    · obtain ⟨group, group_mem, deepens⟩ := ih mem
      exact ⟨group, List.mem_cons_of_mem _ group_mem, deepens⟩

theorem Deepened.identified (deepened : Deepened before after) (identified : Identified before) :
    Identified after := by
  have ids_eq : after.map (·.id) = before.map (·.id) := by
    clear identified
    induction deepened with
    | nil => rfl
    | cons deepens _ ih => rw [List.map_cons, List.map_cons, deepens.id_eq, ih]
  refine ⟨fun later mem => ?_, ids_eq ▸ identified.distinct⟩
  obtain ⟨group, group_mem, deepens⟩ := deepened.exists_before mem
  rw [deepens.id_eq]
  exact identified.ids group group_mem

end GroupServer

namespace Admin.Place.IsPlain

variable {realm id : String}

theorem subgroups (plain : (Place.group realm id).IsPlain) : (Place.subgroups realm id).IsPlain := by
  have children_plain : Url.IsPlainName "children" := by decide +kernel
  have names_eq : (Place.subgroups realm id).names = (Place.group realm id).names ++ ["children"] :=
    rfl
  refine ⟨?_, fun _ => ?_⟩
  · rw [names_eq]
    exact List.forall_mem_append.2 ⟨plain.names, List.forall_mem_singleton.2 children_plain⟩
  · rw [names_eq, Url.EndVisibly.append_iff _ (List.cons_ne_nil _ _)]
    decide

theorem no_slash (plain : (Place.group realm id).IsPlain) : '/' ∉ id.toList := by
  have id_mem : id ∈ (Place.group realm id).names := by simp [Place.names]
  exact fun mem => (plain.names id id_mem).in_segment '/' mem List.mem_cons_self

end Admin.Place.IsPlain

/-! ## Calls -/

/-- A call about the groups of a realm. -/
inductive GroupCall where
  | list
  | create (group : Group)
  | update (id : String) (group : Group)
  | createChild (parent : String) (child : Group)

namespace GroupCall

open GroupServer

def method : GroupCall → Http.Method
  | list => .get
  | create _ | createChild .. => .post
  | update .. => .put

def place (realm : String) : GroupCall → Place
  | list | create _ => .groups realm
  | update id _ => .group realm id
  | createChild parent _ => .subgroups realm parent

def content : GroupCall → Http.Content
  | list => .nothing
  | create group | update _ group | createChild _ group => .json (Group.form.write group)

/-- The request by which a session makes a call. -/
def request (session : Session) (realm : String) (call : GroupCall) : Http.Request where
  method := call.method
  url := session.adminUrl (call.place realm).path
  bearer := some (session.token.getD "")
  content := call.content

/-- What arrives at an installation below some path is a call of a session: it is for the place of
the call by its path, and it carries the token of the session. -/
structure ArrivesBy (session : Session) (base : List String) (realm : String) (call : GroupCall)
    (request : Http.Outgoing) : Prop where
  method_eq : request.method = call.method
  leads : request.url.AddressesBelow base (call.place realm)
  body_eq : request.body = call.content.body?
  authorized : "Bearer " ++ session.token.getD "" ∈ request.authorization

/-- What a call is about is declared. -/
def IsDeclared (desired : List Group) : GroupCall → Prop
  | list => True
  | create group => group ∈ desired
  | update id group => ∃ declared ∈ desired, group = { declared with id := some id }
  | createChild _ child => ∃ declared ∈ desired, child ∈ declared.subGroups

/-- What a server answers to a call, and what it has then. A group is put anywhere among the others,
and the answer to its creation may keep its id back. -/
def Answered (realm : String) (before : List Group) (response : Http.Response)
    (after : List Group) : GroupCall → Prop
  | list =>
    after = before ∧ Http.isSuccess response.status = true ∧
      ∃ bytes listing, response.body = some bytes ∧
        Session.decode? Group.form.list bytes = some listing ∧
        List.Forall₂ Group.Resembles before listing
  | create group =>
    (Named before group.name →
      response.status = 409 ∧ response.header? "Location" = none ∧ after = before) ∧
    (¬ Named before group.name →
      response.status = 201 ∧ ∃ front rest new id, before = front ++ rest ∧
        after = front ++ new :: rest ∧ new.id = some id ∧ id ≠ "" ∧
        (Place.group realm id).IsPlain ∧ (∀ other ∈ before, other.id ≠ some id) ∧
        new.name = group.name ∧ new.subGroups = [] ∧
        (response.header? "Location" = none ∨
          ∃ place, response.header? "Location" = some place ∧ Session.EndsInId place id))
  | update id _ =>
    (∃ group ∈ before, group.id = some id) →
      Http.isSuccess response.status = true ∧ List.Forall₂ Group.Resembles before after
  | createChild parent child =>
    ∀ front group rest, before = front ++ group :: rest → group.id = some parent →
      (group.HasChild child.name → response.status = 409 ∧ after = before) ∧
      (¬ group.HasChild child.name →
        response.status = 201 ∧ ∃ later, after = front ++ later :: rest ∧ later.id = group.id ∧
          later.name = group.name ∧
          ∀ name, later.HasChild name ↔ group.HasChild name ∨ name = child.name)

/-- Where the names of its place are plain, a call arrives as it is meant. -/
theorem arrivesBy_of_sent {session : Session} {base : List String} {realm : String}
    {call : GroupCall} {request : Http.Outgoing} (below : session.IsBelow base)
    (plain : (call.place realm).IsPlain)
    (sent : (call.request session realm).outgoing? = .ok request) :
    call.ArrivesBy session base realm request where
  method_eq := (Http.Request.of_outgoing? sent).1
  leads := (Session.RequestsAt.of_sent rfl sent).addressesBelow below plain
  body_eq := (Http.Request.of_outgoing? sent).2
  authorized := by
    rw [Http.Request.authorization_of_outgoing? sent]
    exact List.mem_append_right _ List.mem_cons_self

/-- No group is addressed but one of a declared name. -/
def StaysWithin (desired content : List Group) : GroupCall → Prop
  | list => True
  | create group => Named desired group.name
  | update id _ | createChild id _ => IsDeclaredId desired content id

end GroupCall

/-- Whatever is asked about declared groups is answered as by a server that has groups; it may also not
be answered at all. -/
def IsGroupServer (session : Session) (base : List String) (realm : String) (desired : List Group)
    (env : HttpEnvironment (List Group)) : Prop :=
  ∀ call, GroupCall.IsDeclared desired call → ∀ request, call.ArrivesBy session base realm request →
    ∀ before response after, env request before (some response) after →
      call.Answered realm before response after

/-! ## Progress -/

namespace GroupServer

open Program (Run)

variable {session : Session} {base : List String} {realm : String}
  {desired before middle after content : List Group} {events later : List HttpEvent}
  {env : HttpEnvironment (List Group)}

theorem Identified.isDeclaredId {group : Group} {id : String} (identified : Identified content)
    (mem : group ∈ content) (id_eq : group.id = some id) (named : Named desired group.name) :
    IsDeclaredId desired content id := by
  refine ⟨⟨group, mem, id_eq⟩, fun other other_mem other_id => ?_⟩
  obtain rfl := identified.eq_of_id mem other_mem (id_eq.trans other_id.symm)
  exact named

theorem IsDeclaredId.kept {id : String} (declared : IsDeclaredId desired before id)
    (keeps : Keeps before after) (identified : Identified after) : IsDeclaredId desired after id := by
  obtain ⟨⟨group, mem, id_eq⟩, named⟩ := declared
  obtain ⟨later, later_mem, deepens⟩ := keeps group mem
  have later_named : Named desired later.name := deepens.name_eq ▸ named group mem id_eq
  exact identified.isDeclaredId later_mem (deepens.id_eq.trans id_eq) later_named

theorem staysWithin_kept {call : GroupCall} (within : call.StaysWithin desired before)
    (keeps : Keeps before after) (identified : Identified after) :
    call.StaysWithin desired after := by
  cases call with
  | list => exact within
  | create group => exact within
  | update id group => exact IsDeclaredId.kept within keeps identified
  | createChild parent child => exact IsDeclaredId.kept within keeps identified

theorem Deepened.addressable (deepened : Deepened before after)
    (addressable : Addressable realm desired before) : Addressable realm desired after := by
  refine ⟨deepened.identified addressable.toIdentified, fun later mem named id id_eq => ?_⟩
  obtain ⟨group, group_mem, deepens⟩ := deepened.exists_before mem
  exact addressable.plain group group_mem (deepens.name_eq ▸ named) id (deepens.id_eq ▸ id_eq)

/-- What has been asked concerned declared groups only, and the groups are kept. -/
structure Progress (session : Session) (base : List String) (realm : String)
    (desired before after : List Group) (events : List HttpEvent) : Prop where
  addressable : Addressable realm desired after
  keeps : Keeps before after
  within : ∀ event ∈ events, ∃ call : GroupCall,
    call.ArrivesBy session base realm event.request ∧ call.StaysWithin desired after

namespace Progress

theorem refl (addressable : Addressable realm desired before) :
    Progress session base realm desired before before [] :=
  ⟨addressable, .refl before, by simp⟩

theorem trans (first : Progress session base realm desired before middle events)
    (second : Progress session base realm desired middle after later) :
    Progress session base realm desired before after (events ++ later) := by
  refine ⟨second.addressable, first.keeps.trans second.keeps, ?_⟩
  refine List.forall_mem_append.2 ⟨fun event mem => ?_, second.within⟩
  obtain ⟨call, arrives, within⟩ := first.within event mem
  exact ⟨call, arrives, staysWithin_kept within second.keeps second.addressable.toIdentified⟩

theorem of_call {call : GroupCall} (addressable : Addressable realm desired after)
    (keeps : Keeps before after)
    (arrive : ∀ event ∈ events, call.ArrivesBy session base realm event.request)
    (within : call.StaysWithin desired after) :
    Progress session base realm desired before after events :=
  ⟨addressable, keeps, fun event mem => ⟨call, arrive event mem, within⟩⟩

theorem of_deepened {call : GroupCall} (addressable : Addressable realm desired before)
    (deepened : Deepened before after)
    (arrive : ∀ event ∈ events, call.ArrivesBy session base realm event.request)
    (within : call.StaysWithin desired before) :
    Progress session base realm desired before after events := by
  have addressable_after := deepened.addressable addressable
  exact .of_call addressable_after deepened.keeps arrive
    (staysWithin_kept within deepened.keeps addressable_after.toIdentified)

/-- Nothing is deleted. -/
theorem method_ne_delete (progress : Progress session base realm desired before after events) :
    ∀ event ∈ events, event.request.method ≠ .delete := by
  intro event mem
  obtain ⟨call, arrives, -⟩ := progress.within event mem
  rw [arrives.method_eq]
  cases call <;> exact Http.Method.noConfusion

/-- A path that goes through a group goes through one of a declared name. -/
theorem isDeclaredId_of_path (progress : Progress session base realm desired before after events)
    {event : HttpEvent} (mem : event ∈ events) {id : String}
    (through : base ++ "auth" :: "admin" :: (Place.group realm id).names <+:
      event.request.url.pathSegments) : IsDeclaredId desired after id := by
  obtain ⟨call, arrives, within⟩ := progress.within event mem
  rw [arrives.leads.segments, List.prefix_append_right_inj] at through
  cases call with
  | list | create =>
    have too_short := through.length_le
    simp [GroupCall.place, Place.names] at too_short
  | update own group | createChild own child =>
    obtain rfl : id = own := by simpa [GroupCall.place, Place.names] using through
    exact within

end Progress

/-! ## Calls that are answered -/

/-- A new group is put among the others. -/
theorem addressable_insert {front rest : List Group} {new : Group} {id : String}
    (addressable : Addressable realm desired (front ++ rest)) (new_id : new.id = some id)
    (filled : id ≠ "") (plain : (Place.group realm id).IsPlain)
    (fresh : ∀ other ∈ front ++ rest, other.id ≠ some id) :
    Addressable realm desired (front ++ new :: rest) := by
  have cases_new : ∀ group ∈ front ++ new :: rest, group = new ∨ group ∈ front ++ rest :=
    fun group mem => List.mem_cons.1 (List.perm_middle.mem_iff.1 mem)
  refine ⟨⟨fun group mem => ?_, ?_⟩, fun group mem named own own_eq => ?_⟩
  · rcases cases_new group mem with rfl | mem
    · exact ⟨id, new_id, filled, plain.no_slash⟩
    · exact addressable.ids group mem
  · rw [List.map_append, List.map_cons, List.nodup_middle, ← List.map_append, List.nodup_cons]
    refine ⟨fun mem => ?_, addressable.distinct⟩
    obtain ⟨other, other_mem, id_eq⟩ := List.mem_map.1 mem
    exact fresh other other_mem (id_eq.trans new_id)
  · rcases cases_new group mem with rfl | mem
    · cases new_id.symm.trans own_eq
      exact plain
    · exact addressable.plain group mem named own own_eq

theorem keeps_insert (front rest : List Group) (new : Group) :
    Keeps (front ++ rest) (front ++ new :: rest) :=
  fun group mem => ⟨group, List.perm_middle.mem_iff.2 (List.mem_cons_of_mem _ mem), .refl group⟩

theorem deepened_replace {front rest : List Group} {group later : Group}
    (deepens : group.Deepens later) : Deepened (front ++ group :: rest) (front ++ later :: rest) :=
  List.rel_append (Deepened.refl front) (.cons deepens (Deepened.refl rest))

section

variable (server : IsGroupServer session base realm desired env) (below : session.IsBelow base)
include server below

/-- A call that succeeds has been answered by the server. -/
theorem run_call {α : Type} {purpose : String} {conclusion : Http.Response → Except OperatorError α}
    {value : α} (call : GroupCall) (declared : call.IsDeclared desired)
    (plain : (call.place realm).IsPlain)
    (run : Run env (Session.exchange purpose (call.request session realm) >>= fun response =>
      Session.conclude (conclusion response) : Rest α).run before events (.ok value) after) :
    ∃ response, (∀ event ∈ events, call.ArrivesBy session base realm event.request) ∧
      call.Answered realm before response after ∧ conclusion response = .ok value := by
  obtain ⟨request, response, sent, rfl, answered, value_eq⟩ := Session.run_exchange_conclude_iff.1 run
  have arrives := GroupCall.arrivesBy_of_sent below plain sent
  exact ⟨response, List.forall_mem_singleton.2 arrives,
    server call declared request arrives _ _ _ answered, value_eq⟩

variable (addressable : Addressable realm desired before)
include addressable

section

variable (plain : (Place.groups realm).IsPlain)
include plain

/-- What is listed is what there is. -/
theorem run_listGroups {listing : List Group}
    (run : Run env (session.listAt (.groups realm) Group.form).run before events (.ok listing) after) :
    Progress session base realm desired before after events ∧ after = before ∧
      List.Forall₂ Group.Resembles before listing := by
  obtain ⟨response, arrive, answered, value_eq⟩ := run_call server below .list trivial plain run
  obtain ⟨rfl, success, bytes, given, body, decoded, resembles⟩ := answered
  have listing_eq : given = listing := by
    simpa [Session.listed, success, Session.bodyOf, body, decoded, bind, Except.bind] using value_eq
  subst listing_eq
  exact ⟨.of_deepened addressable (.refl _) arrive trivial, rfl, resembles⟩

/-- Afterwards there is a group of that name, and an id that is told is that of the new one. -/
theorem run_createGroup {group : Group} (declared : group ∈ desired) {id : String}
    (run : Run env (session.createAt (.groups realm) Group.form group).run before events (.ok id)
      after) :
    Progress session base realm desired before after events ∧ Named after group.name ∧
      (id ≠ "" → ∃ new ∈ after, new.id = some id ∧ new.name = group.name) := by
  obtain ⟨response, arrive, ⟨taken, free⟩, value_eq⟩ :=
    run_call server below (.create group) declared plain run
  have told : Session.locationId response = id := by
    unfold Session.created at value_eq
    split at value_eq
    · cases value_eq; rfl
    · cases value_eq
  have within : ∀ content, (GroupCall.create group).StaysWithin desired content :=
    fun _ => ⟨group, declared, rfl⟩
  by_cases named : Named before group.name
  · obtain ⟨-, untold, rfl⟩ := taken named
    have progress := Progress.of_deepened addressable (.refl _) arrive (within _)
    have no_id : id = "" := by rw [← told, Session.locationId, untold]
    exact ⟨progress, named, fun filled => (filled no_id).elim⟩
  · obtain ⟨-, front, rest, new, new_id, rfl, rfl, id_eq, filled, id_plain, fresh, name_eq, -,
      place⟩ := free named
    have progress := Progress.of_call
      (addressable_insert addressable id_eq filled id_plain fresh) (keeps_insert front rest new)
      arrive (within _)
    have new_mem : new ∈ front ++ new :: rest := List.mem_append_right front List.mem_cons_self
    refine ⟨progress, ⟨new, new_mem, name_eq⟩, fun told_filled => ⟨new, new_mem, ?_, name_eq⟩⟩
    rcases place with untold | ⟨place, told_place, ends⟩
    · rw [Session.locationId, untold] at told
      exact (told_filled told.symm).elim
    · rcases Session.locationId_eq told_place ends id_plain.no_slash with same | unread
      · rw [id_eq, ← same, told]
      · exact (told_filled (told.symm.trans unread)).elim

end

variable {declared group : Group} (declared_mem : declared ∈ desired) (mem : group ∈ before)
  (name_eq : group.name = declared.name)
include declared_mem mem name_eq

theorem run_updateGroup {id : String} (id_eq : group.id = some id)
    (run : Run env (session.updateAt (.group realm id) Group.form
      { declared with id := some id }).run before events (.ok ()) after) :
    Progress session base realm desired before after events ∧ Deepened before after := by
  have named : Named desired group.name := ⟨declared, declared_mem, name_eq.symm⟩
  obtain ⟨response, arrive, answered, -⟩ := run_call server below
    (.update id { declared with id := some id }) ⟨declared, declared_mem, rfl⟩
    (addressable.plain group mem named id id_eq) run
  obtain ⟨-, resembles⟩ := answered ⟨group, mem, id_eq⟩
  have deepened : Deepened before after := resembles.imp fun _ _ => Group.Resembles.deepens
  have within : (GroupCall.update id { declared with id := some id }).StaysWithin desired before :=
    addressable.isDeclaredId mem id_eq named
  exact ⟨.of_deepened addressable deepened arrive within, deepened⟩

/-- Afterwards the parent has a subgroup of that name. -/
theorem run_createChild {child : Group} {parent id : String} (id_eq : group.id = some parent)
    (child_mem : child ∈ declared.subGroups)
    (run : Run env (session.createAt (.subgroups realm parent) Group.form child).run before events
      (.ok id) after) :
    Progress session base realm desired before after events ∧ Deepened before after ∧
      HasSubgroup after parent child.name := by
  have named : Named desired group.name := ⟨declared, declared_mem, name_eq.symm⟩
  obtain ⟨response, arrive, answered, -⟩ := run_call server below
    (.createChild parent child) ⟨declared, declared_mem, child_mem⟩
    (addressable.plain group mem named parent id_eq).subgroups run
  obtain ⟨front, rest, rfl⟩ := List.append_of_mem mem
  obtain ⟨there, missing⟩ := answered front group rest rfl id_eq
  have within : (GroupCall.createChild parent child).StaysWithin desired _ :=
    addressable.isDeclaredId mem id_eq named
  by_cases has : group.HasChild child.name
  · obtain ⟨-, rfl⟩ := there has
    have progress := Progress.of_deepened addressable (.refl _) arrive within
    exact ⟨progress, .refl _, group, mem, id_eq, has⟩
  · obtain ⟨-, later, rfl, later_id, later_name, children⟩ := missing has
    have deepens : group.Deepens later :=
      ⟨later_id, later_name, fun name has => (children name).2 (.inl has)⟩
    have deepened : Deepened (front ++ group :: rest) (front ++ later :: rest) :=
      deepened_replace deepens
    have progress := Progress.of_deepened addressable deepened arrive within
    have later_mem : later ∈ front ++ later :: rest := List.mem_append_right front List.mem_cons_self
    exact ⟨progress, deepened, later, later_mem, later_id.trans id_eq,
      (children child.name).2 (.inr rfl)⟩

end

/-! ## A server of which nothing else is known -/

/-- The server that does what is said of it and nothing else. -/
def answering (session : Session) (base : List String) (realm : String) (desired : List Group) :
    HttpEnvironment (List Group) := fun request before answer after =>
  ∃ response, answer = some response ∧ ∀ call, GroupCall.IsDeclared desired call →
    call.ArrivesBy session base realm request → call.Answered realm before response after

theorem isGroupServer_answering (session : Session) (base : List String) (realm : String)
    (desired : List Group) :
    IsGroupServer session base realm desired (answering session base realm desired) := by
  rintro call declared request arrives before response after ⟨_, same, answered⟩
  cases same
  exact answered call declared arrives

/-- A call succeeds if its answer is right for all calls that have the same method and body, and the
same place if that is plain. -/
theorem run_answering (below : session.IsBelow base) {α : Type} (call : GroupCall)
    (response : Http.Response) {purpose : String}
    {conclusion : Http.Response → Except OperatorError α} {value : α}
    (sendable : (call.request session realm).outgoing?.isOk = true)
    (answered : ∀ other, GroupCall.IsDeclared desired other → other.method = call.method →
      other.content.body? = call.content.body? →
      ((call.place realm).IsPlain → (other.place realm).names = (call.place realm).names) →
        other.Answered realm before response after)
    (concluded : conclusion response = .ok value) :
    ∃ events, Run (answering session base realm desired)
      (Session.exchange purpose (call.request session realm) >>= fun response =>
        Session.conclude (conclusion response) : Rest α).run before events (.ok value) after := by
  obtain ⟨outgoing, sent⟩ := Http.Request.exists_outgoing sendable
  obtain ⟨method_eq, body_eq⟩ := Http.Request.of_outgoing? sent
  have right : answering session base realm desired outgoing before (some response) after := by
    refine ⟨response, rfl, fun other declared arrives => answered other declared
      (arrives.method_eq.symm.trans method_eq) (arrives.body_eq.symm.trans body_eq) fun plain => ?_⟩
    have segments_eq := arrives.leads.segments.symm.trans
      (GroupCall.arrivesBy_of_sent below plain sent).leads.segments
    simpa using segments_eq
  exact ⟨_, Session.run_exchange_conclude_iff.2 ⟨outgoing, response, sent, rfl, right, concluded⟩⟩

theorem run_listGroups_answering (below : session.IsBelow base) (desired content : List Group)
    (text : String)
    (sendable : (GroupCall.list.request session realm).outgoing?.isOk = true)
    (read : (Session.decode? Group.form.list (Utf8.encode text)).map (·.map Group.outline) =
      some (content.map Group.outline)) :
    ∃ listing, List.Forall₂ Group.Resembles content listing ∧
      ∃ events, Run (answering session base realm desired)
        (session.listAt (.groups realm) Group.form).run content events (.ok listing) content := by
  obtain ⟨listing, decoded, outlines_eq⟩ := Option.map_eq_some_iff.1 read
  have resembles : List.Forall₂ Group.Resembles content listing := by
    have related : List.Forall₂ Eq (content.map Group.outline) (listing.map Group.outline) :=
      outlines_eq ▸ List.forall₂_refl _
    rw [List.forall₂_map_left_iff, List.forall₂_map_right_iff] at related
    exact related.imp fun _ _ => Group.resembles_of_outline
  let response : Http.Response := { status := 200, body := some (Utf8.encode text) }
  have concluded : Session.listed "groups" Group.form response = .ok listing := by
    simp [response, Session.listed, Http.isSuccess, Session.bodyOf, decoded, bind, Except.bind]
  refine ⟨listing, resembles, run_answering below .list response sendable ?_ concluded⟩
  intro other _ method_eq _ _
  cases other with
  | list => exact ⟨rfl, rfl, _, listing, rfl, decoded, resembles⟩
  | create | update | createChild => cases method_eq

theorem run_updateGroup_answering (below : session.IsBelow base) {id : String} {group : Group}
    (sendable : ((GroupCall.update id group).request session realm).outgoing?.isOk = true) :
    ∃ events, Run (answering session base realm desired)
      (session.updateAt (.group realm id) Group.form group).run content events (.ok ()) content := by
  refine run_answering below (.update id group) { status := 204 } sendable ?_ rfl
  intro other _ method_eq _ _
  cases other with
  | list | create | createChild => cases method_eq
  | update id group =>
    exact fun _ => ⟨rfl, List.forall₂_same.2 fun _ _ => ⟨rfl, rfl, fun _ => .rfl⟩⟩

/-- What is posted if one group with one subgroup is declared. -/
theorem post_cases {group child : Group} (single : group.subGroups = [child]) {call : GroupCall}
    (declared : call.IsDeclared [group]) (post : call.method = .post) :
    call = .create group ∨ ∃ parent, call = .createChild parent child := by
  cases call with
  | list | update => cases post
  | create other => exact .inl (congrArg GroupCall.create (List.mem_singleton.1 declared))
  | createChild parent other =>
    obtain ⟨declared, mem, child_mem⟩ := declared
    obtain rfl := List.mem_singleton.1 mem
    obtain rfl := List.mem_singleton.1 (single ▸ child_mem)
    exact .inr ⟨parent, rfl⟩

end GroupServer

end IdentityOperator
