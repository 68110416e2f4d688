import IdentityOperator.Proofs.GroupSync.Server

/-!
Bringing groups in line twice.

A first run can leave subgroups out: the answer to the creation of a group may keep its id back, and of
two declared groups of a name the second one finds the name taken. But it leaves a group of every
declared name. So a second run creates no group, only subgroups, and these under the groups that every
later plan looks at (`Session.groups_settle`).

Every step of a plan is about the declared groups and the groups that it was planned for, and stays so
while the groups are kept (`GroupStep.IsApt`). Hence the induction over the steps
(`GroupServer.run_applyGroupSteps`).
-/

namespace IdentityOperator

open Admin (Group Place)
open GroupServer

variable {desired before after content listing : List Group}

/-! ## Plans -/

namespace GroupServer

/-- The first group of a name. -/
def first? (content : List Group) (name : String) : Option Group := content.find? (·.name = name)

theorem named_iff_first? {name : String} :
    Named content name ↔ ∃ first, first? content name = some first := by
  rw [← Option.isSome_iff_exists, first?, List.find?_isSome]
  simp [Named]

theorem mem_of_first? {name : String} {first : Group} (first_eq : first? content name = some first) :
    first ∈ content ∧ first.name = name :=
  ⟨List.mem_of_find?_eq_some first_eq, by simpa using List.find?_some first_eq⟩

theorem Deepened.first? {name : String} {first : Group} (deepened : Deepened before after)
    (first_eq : first? before name = some first) :
    ∃ later, GroupServer.first? after name = some later ∧ first.Deepens later := by
  unfold GroupServer.first? at first_eq ⊢
  induction deepened with
  | nil => cases first_eq
  | @cons group later _ _ deepens _ ih =>
    rw [List.find?_cons, deepens.name_eq]
    rw [List.find?_cons] at first_eq
    split at first_eq
    · cases first_eq
      exact ⟨later, rfl, deepens⟩
    · exact ih first_eq

end GroupServer

namespace GroupStep

theorem current?_eq (ids : ∀ group ∈ content, ∃ id, group.id = some id) (name : String) :
    current? name content = (first? content name).bind fun first => first.id.map (·, first) := by
  unfold GroupServer.first?
  induction content with
  | nil => rfl
  | cons group rest ih =>
    obtain ⟨⟨id, id_eq⟩, later⟩ := List.forall_mem_cons.1 ids
    rw [current?, List.find?_cons, id_eq]
    dsimp only
    split
    · next same => simp [same, id_eq]
    · next differs => simpa [differs] using ih later

/-- What a plan looks at is listed. -/
theorem current?_of_resembles (resembles : List.Forall₂ Group.Resembles content listing)
    (name : String) :
    (current? name content = none ∧ current? name listing = none) ∨
      ∃ id group found, current? name content = some (id, group) ∧
        current? name listing = some (id, found) ∧ group.Resembles found := by
  induction resembles with
  | nil => exact .inl ⟨rfl, rfl⟩
  | @cons group found _ _ resembles _ ih =>
    rw [current?, current?, resembles.id_eq, resembles.name_eq]
    cases group.id with
    | none => exact ih
    | some id =>
      dsimp only
      split
      · exact .inr ⟨id, group, found, rfl, rfl, resembles⟩
      · exact ih

theorem plan_of_resembles (resembles : List.Forall₂ Group.Resembles content listing) :
    plan desired listing = plan desired content := by
  refine List.flatMap_congr fun declared _ => ?_
  unfold plan1
  rcases current?_of_resembles resembles declared.name with
    ⟨nothing, nothing'⟩ | ⟨id, group, found, current, current', resembles⟩
  · rw [nothing, nothing']
  · rw [current, current']
    have any_eq : ∀ name,
        found.subGroups.any (·.name = name) = group.subGroups.any (·.name = name) := by
      intro name
      rw [Bool.eq_iff_iff, Group.any_subGroups_iff, Group.any_subGroups_iff]
      exact resembles.children name
    simp only [any_eq]

/-! ## Steps of a plan -/

/-- A step about a declared group, and about a group that there is by the id that it names. -/
def IsApt (desired content : List Group) : GroupStep → Prop
  | create group => group ∈ desired
  | update id group => ∃ declared ∈ desired, group = { declared with id := some id } ∧
      ∃ current ∈ content, current.id = some id ∧ current.name = declared.name
  | createChild parent child => ∃ declared ∈ desired, child ∈ declared.subGroups ∧
      ∃ current ∈ content, current.id = some parent ∧ current.name = declared.name

/-- What a step is to bring about is there. -/
def IsDone (content : List Group) : GroupStep → Prop
  | create group => Named content group.name
  | update .. => True
  | createChild parent child => HasSubgroup content parent child.name

def Creates : GroupStep → Prop
  | create _ => True
  | update .. | createChild .. => False

theorem IsApt.kept {step : GroupStep} (apt : step.IsApt desired before)
    (keeps : Keeps before after) : step.IsApt desired after := by
  have kept : ∀ {id name}, (∃ current ∈ before, current.id = some id ∧ current.name = name) →
      ∃ current ∈ after, current.id = some id ∧ current.name = name := by
    rintro id name ⟨current, mem, id_eq, name_eq⟩
    obtain ⟨later, later_mem, deepens⟩ := keeps current mem
    exact ⟨later, later_mem, deepens.id_eq.trans id_eq, deepens.name_eq.trans name_eq⟩
  cases step with
  | create group => exact apt
  | update id group =>
    obtain ⟨declared, mem, group_eq, current⟩ := apt
    exact ⟨declared, mem, group_eq, kept current⟩
  | createChild parent child =>
    obtain ⟨declared, mem, child_mem, current⟩ := apt
    exact ⟨declared, mem, child_mem, kept current⟩

theorem IsDone.kept {step : GroupStep} (done : step.IsDone before) (keeps : Keeps before after) :
    step.IsDone after := by
  cases step with
  | create group => exact Named.kept done keeps
  | update id group => trivial
  | createChild parent child => exact HasSubgroup.kept done keeps

/-- The steps for a group are its creation, or an update of the first group of its name and the
creation of the subgroups that this one lacks. -/
theorem plan1_cases (identified : Identified content) (declared : Group) :
    (first? content declared.name = none ∧ plan1 content declared = [create declared]) ∨
      ∃ first id, first? content declared.name = some first ∧ first.id = some id ∧
        plan1 content declared = update id { declared with id := some id } ::
          (declared.subGroups.filter fun child =>
            ¬ first.subGroups.any (·.name = child.name)).map (createChild id) := by
  have ids : ∀ group ∈ content, ∃ id, group.id = some id := fun group mem =>
    let ⟨id, id_eq, _⟩ := identified.ids group mem
    ⟨id, id_eq⟩
  have current_eq := current?_eq ids declared.name
  unfold plan1
  rw [current_eq]
  cases first_eq : first? content declared.name with
  | none => exact .inl ⟨rfl, rfl⟩
  | some first =>
    obtain ⟨id, id_eq⟩ := ids first (mem_of_first? first_eq).1
    refine .inr ⟨first, id, rfl, id_eq, ?_⟩
    rw [Option.bind_some, id_eq, Option.map_some]

theorem forall₂_plan {R : Group → GroupStep → Prop}
    (single : ∀ declared ∈ desired, ∃ step, plan1 content declared = [step] ∧ R declared step) :
    List.Forall₂ R desired (plan desired content) := by
  induction desired with
  | nil => exact .nil
  | cons declared rest ih =>
    obtain ⟨⟨step, plan_eq, related⟩, later⟩ := List.forall_mem_cons.1 single
    rw [plan, List.flatMap_cons, plan_eq]
    exact .cons related (ih later)

theorem isApt_of_mem_plan (identified : Identified content) {step : GroupStep}
    (mem : step ∈ plan desired content) : step.IsApt desired content := by
  obtain ⟨declared, declared_mem, step_mem⟩ := List.mem_flatMap.1 mem
  rcases plan1_cases identified declared with ⟨-, plan_eq⟩ | ⟨first, id, first_eq, id_eq, plan_eq⟩
  · rw [plan_eq] at step_mem
    obtain rfl := List.mem_singleton.1 step_mem
    exact declared_mem
  · obtain ⟨first_mem, name_eq⟩ := mem_of_first? first_eq
    rw [plan_eq] at step_mem
    rcases List.mem_cons.1 step_mem with rfl | child_step
    · exact ⟨declared, declared_mem, rfl, first, first_mem, id_eq, name_eq⟩
    · obtain ⟨child, child_mem, rfl⟩ := List.mem_map.1 child_step
      exact ⟨declared, declared_mem, (List.mem_filter.1 child_mem).1, first, first_mem, id_eq, name_eq⟩

/-- Once its plan has been carried out, there is a group of every declared name. -/
theorem named_of_done (identified : Identified before) (keeps : Keeps before after)
    (done : ∀ step ∈ plan desired before, step.IsDone after) {declared : Group}
    (mem : declared ∈ desired) : Named after declared.name := by
  rcases plan1_cases identified declared with ⟨-, plan_eq⟩ | ⟨first, id, first_eq, -, -⟩
  · have created : create declared ∈ plan1 before declared := plan_eq ▸ List.mem_cons_self
    exact done (create declared) (List.mem_flatMap.2 ⟨declared, mem, created⟩)
  · exact (named_iff_first?.2 ⟨first, first_eq⟩).kept keeps

theorem not_creates_of_named (identified : Identified content)
    (named : ∀ declared ∈ desired, Named content declared.name) {step : GroupStep}
    (mem : step ∈ plan desired content) : ¬ step.Creates := by
  obtain ⟨declared, declared_mem, step_mem⟩ := List.mem_flatMap.1 mem
  rcases plan1_cases identified declared with ⟨missing, -⟩ | ⟨first, id, -, -, plan_eq⟩
  · obtain ⟨first, first_eq⟩ := named_iff_first?.1 (named declared declared_mem)
    rw [missing] at first_eq
    cases first_eq
  · rw [plan_eq] at step_mem
    rcases List.mem_cons.1 step_mem with rfl | child_step
    · exact not_false
    · obtain ⟨child, -, rfl⟩ := List.mem_map.1 child_step
      exact not_false

end GroupStep

/-! ## Carrying out a plan -/

namespace GroupServer

open Program (Run)

section

variable {session : Session} {base : List String} {realm : String}
  {env : HttpEnvironment (List Group)} {events : List HttpEvent}
  (server : IsGroupServer session base realm desired env) (below : session.IsBelow base)
include server below

theorem run_createSubgroups {declared group : Group} {parent : String} {children : List Group}
    (addressable : Addressable realm desired before) (declared_mem : declared ∈ desired)
    (mem : group ∈ before) (name_eq : group.name = declared.name) (id_eq : group.id = some parent)
    (children_mem : ∀ child ∈ children, child ∈ declared.subGroups)
    (run : Run env (session.createSubgroups realm parent children).run before events (.ok ()) after) :
    Progress session base realm desired before after events ∧ Deepened before after ∧
      ∀ child ∈ children, HasSubgroup after parent child.name := by
  induction children generalizing before events group with
  | nil =>
    obtain ⟨rfl, -, rfl⟩ := Program.run_done_iff.1 run
    exact ⟨.refl addressable, .refl _, by simp⟩
  | cons child children ih =>
    obtain ⟨here, later⟩ := List.forall_mem_cons.1 children_mem
    obtain ⟨events, id, middle, rest, rfl, created, run⟩ := Program.run_exceptT_bind_ok_iff.1 run
    obtain ⟨progress, deepened, has⟩ :=
      run_createChild server below addressable declared_mem mem name_eq id_eq here created
    obtain ⟨group', mem', deepens⟩ := deepened.keeps group mem
    obtain ⟨progress', deepened', have_all⟩ := ih progress.addressable mem'
      (deepens.name_eq.trans name_eq) (deepens.id_eq.trans id_eq) later run
    exact ⟨progress.trans progress', deepened.trans deepened',
      List.forall_mem_cons.2 ⟨has.kept deepened'.keeps, have_all⟩⟩

variable (plain : (Place.groups realm).IsPlain)
include plain

/-- A step does what it is for, and only a creation adds a group. -/
theorem run_applyGroupStep {step : GroupStep} (addressable : Addressable realm desired before)
    (apt : step.IsApt desired before)
    (run : Run env (session.applyGroupStep realm step).run before events (.ok ()) after) :
    Progress session base realm desired before after events ∧ step.IsDone after ∧
      (¬ step.Creates → Deepened before after) := by
  cases step with
  | create group =>
    obtain ⟨events, id, middle, rest, rfl, created, run⟩ := Program.run_exceptT_bind_ok_iff.1 run
    obtain ⟨progress, named, told⟩ := run_createGroup server below addressable plain apt created
    split at run
    · obtain ⟨rfl, -, rfl⟩ := Program.run_done_iff.1 run
      exact ⟨progress.trans (.refl progress.addressable), named,
        fun not_creates => (not_creates trivial).elim⟩
    · next filled =>
      obtain ⟨new, new_mem, id_eq, name_eq⟩ := told filled
      obtain ⟨progress', deepened, -⟩ := run_createSubgroups server below progress.addressable apt
        new_mem name_eq id_eq (fun child mem => mem) run
      exact ⟨progress.trans progress', named.kept deepened.keeps,
        fun not_creates => (not_creates trivial).elim⟩
  | update id group =>
    obtain ⟨declared, mem, rfl, current, current_mem, id_eq, name_eq⟩ := apt
    obtain ⟨progress, deepened⟩ :=
      run_updateGroup server below addressable mem current_mem name_eq id_eq run
    exact ⟨progress, trivial, fun _ => deepened⟩
  | createChild parent child =>
    obtain ⟨declared, mem, child_mem, current, current_mem, id_eq, name_eq⟩ := apt
    obtain ⟨progress, deepened, have_all⟩ := run_createSubgroups server below addressable mem
      current_mem name_eq id_eq (List.forall_mem_singleton.2 child_mem) run
    exact ⟨progress, have_all child List.mem_cons_self, fun _ => deepened⟩

theorem run_applyGroupSteps {steps : List GroupStep}
    (addressable : Addressable realm desired before)
    (apt : ∀ step ∈ steps, step.IsApt desired before)
    (run : Run env (session.applyGroupSteps realm steps).run before events (.ok ()) after) :
    Progress session base realm desired before after events ∧
      (∀ step ∈ steps, step.IsDone after) ∧
      ((∀ step ∈ steps, ¬ step.Creates) → Deepened before after) := by
  induction steps generalizing before events with
  | nil =>
    obtain ⟨rfl, -, rfl⟩ := Program.run_done_iff.1 run
    exact ⟨.refl addressable, by simp, fun _ => .refl _⟩
  | cons step steps ih =>
    obtain ⟨here, later⟩ := List.forall_mem_cons.1 apt
    obtain ⟨events, ⟨⟩, middle, rest, rfl, applied, run⟩ := Program.run_exceptT_bind_ok_iff.1 run
    obtain ⟨progress, done, deepens⟩ :=
      run_applyGroupStep server below plain addressable here applied
    obtain ⟨progress', all_done, deepens'⟩ := ih progress.addressable
      (fun step mem => (later step mem).kept progress.keeps) run
    refine ⟨progress.trans progress', List.forall_mem_cons.2 ⟨done.kept progress'.keeps, all_done⟩,
      fun no_creation => ?_⟩
    obtain ⟨no_creation, none_later⟩ := List.forall_mem_cons.1 no_creation
    exact (deepens no_creation).trans (deepens' none_later)

end

/-! ## Groups that have settled -/

/-- There is a group of every declared name, and the first one has the subgroups of all declared groups
of its name. -/
def IsSettled (desired content : List Group) : Prop :=
  ∀ declared ∈ desired, ∃ first, first? content declared.name = some first ∧
    ∀ other ∈ desired, other.name = declared.name →
      ∀ child ∈ other.subGroups, first.HasChild child.name

/-- The step updates the first group of the name of a declared one. -/
def IsUpdateOfFirst (content : List Group) (declared : Group) (step : GroupStep) : Prop :=
  ∃ first id, first? content declared.name = some first ∧ first.id = some id ∧
    step = .update id { declared with id := some id }

theorem plan1_of_isSettled {declared : Group} (identified : Identified content)
    (settled : IsSettled desired content) (mem : declared ∈ desired) :
    ∃ step, GroupStep.plan1 content declared = [step] ∧ IsUpdateOfFirst content declared step := by
  obtain ⟨first, first_eq, has⟩ := settled declared mem
  rcases GroupStep.plan1_cases identified declared with
    ⟨missing, -⟩ | ⟨first', id, first_eq', id_eq, plan_eq⟩
  · rw [missing] at first_eq
    cases first_eq
  · obtain rfl : first = first' := Option.some.inj (first_eq.symm.trans first_eq')
    have nothing_missing : (declared.subGroups.filter fun child =>
        ¬ first.subGroups.any (·.name = child.name)) = [] := by
      refine List.filter_eq_nil_iff.2 fun child child_mem => ?_
      have there := (Group.any_subGroups_iff first child.name).2 (has declared mem rfl child child_mem)
      simp [there]
    rw [plan_eq, nothing_missing, List.map_nil]
    exact ⟨_, rfl, first, id, first_eq, id_eq, rfl⟩

theorem plan_of_isSettled (identified : Identified content) (settled : IsSettled desired content) :
    List.Forall₂ (IsUpdateOfFirst content) desired (GroupStep.plan desired content) :=
  GroupStep.forall₂_plan fun _ mem => plan1_of_isSettled identified settled mem

/-- A plan that creates no group settles the groups. -/
theorem isSettled_of_done (identified : Identified before) (deepened : Deepened before after)
    (named : ∀ declared ∈ desired, Named before declared.name)
    (done : ∀ step ∈ GroupStep.plan desired before, step.IsDone after) :
    IsSettled desired after := by
  intro declared mem
  obtain ⟨first, first_eq⟩ := named_iff_first?.1 (named declared mem)
  obtain ⟨later, later_eq, deepens⟩ := deepened.first? first_eq
  refine ⟨later, later_eq, fun other other_mem name_eq child child_mem => ?_⟩
  rcases GroupStep.plan1_cases identified other with
    ⟨missing, -⟩ | ⟨first', id, first_eq', id_eq, plan_eq⟩
  · rw [name_eq, first_eq] at missing
    cases missing
  · obtain rfl : first = first' := Option.some.inj (first_eq.symm.trans (name_eq ▸ first_eq'))
    by_cases has : first.HasChild child.name
    · exact deepens.children child.name has
    · have lacks : ¬ first.subGroups.any (·.name = child.name) = true :=
        fun there => has ((Group.any_subGroups_iff first child.name).1 there)
      have missing : child ∈ other.subGroups.filter fun child =>
          ¬ first.subGroups.any (·.name = child.name) :=
        List.mem_filter.2 ⟨child_mem, decide_eq_true lacks⟩
      have planned : GroupStep.createChild id child ∈ GroupStep.plan1 before other := by
        rw [plan_eq]
        exact List.mem_cons_of_mem _ (List.mem_map_of_mem missing)
      obtain ⟨parent, parent_mem, parent_id, has⟩ :=
        done _ (List.mem_flatMap.2 ⟨other, other_mem, planned⟩)
      have later_mem := (mem_of_first? later_eq).1
      obtain rfl := (deepened.identified identified).eq_of_id parent_mem later_mem
        (parent_id.trans (id_eq ▸ deepens.id_eq).symm)
      exact has

end GroupServer

/-! ## Two runs -/

namespace Session

open Program (Run)

abbrev declaredGroups (realm : Admin.Realm) : List Group := realm.groups.getD []

theorem run_updateGroups {session : Session} {base : List String} {realm : Admin.Realm}
    {env : HttpEnvironment (List Group)} {events : List HttpEvent}
    (server : IsGroupServer session base realm.realm (declaredGroups realm) env)
    (below : session.IsBelow base) (plain : (Place.groups realm.realm).IsPlain)
    (addressable : Addressable realm.realm (declaredGroups realm) before)
    (run : Run env (session.updateGroups realm).run before events (.ok ()) after) :
    Progress session base realm.realm (declaredGroups realm) before after events ∧
      (∀ step ∈ GroupStep.plan (declaredGroups realm) before, step.IsDone after) ∧
      ((∀ step ∈ GroupStep.plan (declaredGroups realm) before, ¬ step.Creates) →
        Deepened before after) := by
  obtain ⟨events, listing, middle, rest, rfl, listed, applied⟩ := Program.run_exceptT_bind_ok_iff.1 run
  obtain ⟨progress, rfl, resembles⟩ := run_listGroups server below addressable plain listed
  rw [GroupStep.plan_of_resembles resembles] at applied
  obtain ⟨progress', done, deepens⟩ := run_applyGroupSteps server below plain addressable
    (fun step => GroupStep.isApt_of_mem_plan addressable.toIdentified) applied
  exact ⟨progress.trans progress', done, deepens⟩

/-- After two runs, a plan for what the server lists only updates the declared groups, each where the
first group of its name is. Nothing has been deleted, and no path that has been asked for goes through
another group, if the name of the realm and the ids of the declared groups stand in a path as they
are. -/
theorem groups_settle {session renewed : Session} {base : List String} {realm : Admin.Realm}
    {env : HttpEnvironment (List Group)} {start middle final : List Group}
    {first second : List HttpEvent}
    (below : session.IsBelow base) (still_below : renewed.IsBelow base)
    (plain : (Place.groups realm.realm).IsPlain)
    (server : IsGroupServer session base realm.realm (declaredGroups realm) env)
    (still : IsGroupServer renewed base realm.realm (declaredGroups realm) env)
    (addressable : Addressable realm.realm (declaredGroups realm) start)
    (run : Run env (session.updateGroups realm).run start first (.ok ()) middle)
    (again : Run env (renewed.updateGroups realm).run middle second (.ok ()) final) :
    (∀ listing, List.Forall₂ Group.Resembles final listing →
      List.Forall₂ (IsUpdateOfFirst final) (declaredGroups realm)
        (GroupStep.plan (declaredGroups realm) listing)) ∧
    IsSettled (declaredGroups realm) final ∧
    Progress session base realm.realm (declaredGroups realm) start middle first ∧
    Progress renewed base realm.realm (declaredGroups realm) middle final second ∧
    ∀ event ∈ first ++ second, event.request.method ≠ .delete ∧
      ∀ id, base ++ "auth" :: "admin" :: (Place.group realm.realm id).names <+:
        event.request.url.pathSegments → IsDeclaredId (declaredGroups realm) final id := by
  obtain ⟨progress, done, -⟩ := run_updateGroups server below plain addressable run
  have identified := addressable.toIdentified
  have named : ∀ declared ∈ declaredGroups realm, Named middle declared.name :=
    fun declared => GroupStep.named_of_done identified progress.keeps done
  obtain ⟨progress', done', deepens⟩ :=
    run_updateGroups still still_below plain progress.addressable again
  have identified_middle := progress.addressable.toIdentified
  have identified_final := progress'.addressable.toIdentified
  have deepened : Deepened middle final :=
    deepens fun step => GroupStep.not_creates_of_named identified_middle named
  have settled := isSettled_of_done identified_middle deepened named done'
  refine ⟨fun listing resembles => ?_, settled, progress, progress',
    List.forall_mem_append.2 ⟨fun event mem => ?_, fun event mem => ?_⟩⟩
  · rw [GroupStep.plan_of_resembles resembles]
    exact plan_of_isSettled identified_final settled
  · exact ⟨progress.method_ne_delete event mem, fun id through =>
      (progress.isDeclaredId_of_path mem through).kept progress'.keeps identified_final⟩
  · exact ⟨progress'.method_ne_delete event mem, fun id => progress'.isDeclaredId_of_path mem⟩

/-- A server that keeps the id of a new group back: only the second run creates its subgroup. The id of
a group that is not declared may be any. -/
theorem night_group_settles :
    ∃ (session : Session) (base : List String) (realm : Admin.Realm)
      (env : HttpEnvironment (List Group)) (first second : List HttpEvent)
      (start middle final : List Group),
      session.IsBelow base ∧ base = ["sso"] ∧ (Place.groups realm.realm).IsPlain ∧
      declaredGroups realm = [{ name := "night", subGroups := [{ name := "early" }] }] ∧
      IsGroupServer session base realm.realm (declaredGroups realm) env ∧
      start = [{ id := some "a#x", name := "old" }] ∧
      Addressable realm.realm (declaredGroups realm) start ∧
      Run env (session.updateGroups realm).run start first (.ok ()) middle ∧
      Run env (session.updateGroups realm).run middle second (.ok ()) final ∧
      middle = start ++ [{ id := some "n1", name := "night" }] ∧
      final = start ++ [{ id := some "n1", name := "night", subGroups := [{ name := "early" }] }] ∧
      (∀ listing, List.Forall₂ Group.Resembles final listing →
        List.Forall₂ (IsUpdateOfFirst final) (declaredGroups realm)
          (GroupStep.plan (declaredGroups realm) listing)) := by
  let session : Session := { endpoint := "http://keycloak.test/sso", token := some "token" }
  let night : Group := { name := "night", subGroups := [{ name := "early" }] }
  let realm : Admin.Realm := { realm := "staff", groups := some [night] }
  let old : Group := { id := some "a#x", name := "old" }
  let created : Group := { id := some "n1", name := "night" }
  let completed : Group := { created with subGroups := [{ name := "early" }] }
  let env := answering session ["sso"] "staff" [night]
  have below : session.IsBelow ["sso"] :=
    ⟨⟨"http://keycloak.test", isOrigin_keycloak, by decide⟩, by decide +kernel⟩
  have plain : (Place.groups "staff").IsPlain := by decide +kernel
  have bodies : (GroupCall.create night).content.body? ≠
      (GroupCall.createChild "n1" { name := "early" }).content.body? := by decide +kernel
  have sendable : (GroupCall.list.request session "staff").outgoing?.isOk = true := by decide +kernel
  obtain ⟨listing, resembles, listed⟩ := run_listGroups_answering below [night] [old]
    "[\x7b\"id\":\"a#x\",\"name\":\"old\"\x7d]" sendable (by decide +kernel)
  obtain ⟨listing', resembles', listed'⟩ :=
    run_listGroups_answering below [night] [old, created]
      "[\x7b\"id\":\"a#x\",\"name\":\"old\"\x7d,\x7b\"id\":\"n1\",\"name\":\"night\"\x7d]"
      sendable (by decide +kernel)
  have updated : ∃ events, Run env (session.updateAt (.group "staff" "n1") Group.form
      { night with id := some "n1" }).run [old, created] events (.ok ()) [old, created] :=
    run_updateGroup_answering below (by decide +kernel)
  have created_night : ∃ events, Run env (session.createAt (.groups "staff") Group.form night).run
      [old] events (.ok "") [old, created] := by
    refine run_answering below (.create night) { status := 201 } (by decide +kernel) ?_ rfl
    intro other declared method_eq body_eq _
    rcases post_cases rfl declared method_eq with rfl | ⟨parent, rfl⟩
    · refine ⟨fun named => ?_, fun _ => ⟨rfl, [old], [], created, "n1", rfl, rfl, rfl, by decide,
        by decide +kernel, by decide, rfl, rfl, .inl rfl⟩⟩
      simp [Named, old, night] at named
    · exact (bodies body_eq.symm).elim
  have created_early : ∃ events, Run env (session.createAt (.subgroups "staff" "n1") Group.form
      { name := "early" }).run [old, created] events (.ok "") [old, completed] := by
    refine run_answering below (.createChild "n1" { name := "early" }) { status := 201 }
      (by decide +kernel) ?_ rfl
    intro other declared method_eq body_eq same_place
    rcases post_cases rfl declared method_eq with rfl | ⟨parent, rfl⟩
    · exact (bodies body_eq).elim
    · have parent_eq : parent = "n1" := by
        simpa [GroupCall.place, Place.names] using same_place (by decide +kernel)
      intro front group rest before_eq id_eq
      rw [parent_eq] at id_eq
      have not_old : group ∉ [old] := by
        intro mem
        obtain rfl := List.mem_singleton.1 mem
        exact absurd id_eq (by decide)
      have split_eq : [old] ++ created :: [] = front ++ group :: rest := before_eq
      obtain ⟨rfl, rfl, rfl⟩ := (List.append_cons_inj_of_notMem not_old List.not_mem_nil).1 split_eq
      refine ⟨fun has => ?_, fun _ => ⟨rfl, completed, rfl, rfl, rfl, fun name => ?_⟩⟩
      · simp [Group.HasChild, created] at has
      · simp [Group.HasChild, created, completed, eq_comm]
  have done : ∀ content, ∃ events, Run env (pure () : Rest Unit).run content events (.ok ()) content :=
    fun content => ⟨[], .done _ _⟩
  obtain ⟨first, run⟩ : ∃ events, Run env (session.updateGroups realm).run [old] events (.ok ())
      [old, created] := by
    refine Program.exists_run_exceptT_bind listed ?_
    rw [GroupStep.plan_of_resembles resembles]
    have step : ∃ events, Run env (session.applyGroupStep "staff" (.create night)).run [old] events
        (.ok ()) [old, created] := Program.exists_run_exceptT_bind created_night (done _)
    exact Program.exists_run_exceptT_bind step (done _)
  obtain ⟨second, again⟩ : ∃ events, Run env (session.updateGroups realm).run [old, created] events
      (.ok ()) [old, completed] := by
    refine Program.exists_run_exceptT_bind listed' ?_
    rw [GroupStep.plan_of_resembles resembles']
    have step : ∃ events, Run env (session.applyGroupStep "staff"
        (.createChild "n1" { name := "early" })).run [old, created] events (.ok ()) [old, completed] :=
      Program.exists_run_exceptT_bind created_early (done _)
    have later := Program.exists_run_exceptT_bind step (done _)
    exact Program.exists_run_exceptT_bind updated later
  have server : IsGroupServer session ["sso"] realm.realm (declaredGroups realm) env :=
    isGroupServer_answering session ["sso"] "staff" [night]
  have addressable : Addressable realm.realm (declaredGroups realm) [old] := by
    refine ⟨⟨?_, by simp⟩, ?_⟩
    · exact List.forall_mem_singleton.2 ⟨"a#x", rfl, by decide, by decide⟩
    · refine List.forall_mem_singleton.2 fun named => ?_
      simp [Named, declaredGroups, realm, night, old] at named
  exact ⟨session, ["sso"], realm, env, first, second, [old], [old, created], [old, completed], below,
    rfl, plain, rfl, server, rfl, addressable, run, again, rfl, rfl,
    (groups_settle below below plain server server addressable run again).1⟩

/-- A group with the id `a#day` that is declared, and one with the id `a` that is not: each run updates
the other one. What follows the mark is taken for a fragment, and fragments are not sent. -/
theorem update_leads_to_undeclared_group :
    ∃ (session : Session) (realm : Admin.Realm) (env : HttpEnvironment (List Group))
      (first second : List HttpEvent) (start middle final : List Group),
      session.IsBelow [] ∧ (Place.groups realm.realm).IsPlain ∧
      IsGroupServer session [] realm.realm (declaredGroups realm) env ∧ Identified start ∧
      Run env (session.updateGroups realm).run start first (.ok ()) middle ∧
      Run env (session.updateGroups realm).run middle second (.ok ()) final ∧
      ∃ event ∈ first, event.request.method = .put ∧
        event.request.url.pathSegments = "auth" :: "admin" :: (Place.group realm.realm "a").names ∧
        ∃ group ∈ final, group.id = some "a" ∧ ¬ Named (declaredGroups realm) group.name := by
  let session : Session := { endpoint := "http://keycloak.test", token := some "token" }
  let day : Group := { name := "day" }
  let realm : Admin.Realm := { realm := "staff", groups := some [day] }
  let start : List Group := [{ id := some "a", name := "other" }, { id := some "a#day", name := "day" }]
  let env := answering session [] "staff" [day]
  have below : session.IsBelow [] := ⟨⟨"http://keycloak.test", isOrigin_keycloak, by decide⟩, by simp⟩
  have plain : (Place.groups "staff").IsPlain := by decide +kernel
  obtain ⟨listing, resembles, listing_events, listed⟩ :=
    run_listGroups_answering below [day] start
      "[\x7b\"id\":\"a\",\"name\":\"other\"\x7d,\x7b\"id\":\"a#day\",\"name\":\"day\"\x7d]"
      (by decide +kernel : (GroupCall.list.request session "staff").outgoing?.isOk = true)
      (by decide +kernel)
  obtain ⟨update_events, updated⟩ : ∃ events, Run env (session.updateAt (.group "staff" "a#day")
      Group.form { day with id := some "a#day" }).run start events (.ok ()) start :=
    run_updateGroup_answering below (by decide +kernel)
  obtain ⟨outgoing, response, sent, rfl, -⟩ := run_exchange_conclude_iff.1 updated
  have method_eq : outgoing.method = .put := (Http.Request.of_outgoing? sent).1
  have path_eq : outgoing.url.path = "/auth/admin/realms/staff/groups/a" := by
    have parsed : Url.ofText? (session.adminUrl (Place.group "staff" "a#day").path) = some {
        scheme := "http", host := some "keycloak.test", path := "/auth/admin/realms/staff/groups/a",
        fragment := some "day" } := by decide +kernel
    obtain ⟨url, parsed', same⟩ : session.RequestsAt (.group "staff" "a#day") outgoing :=
      .of_sent rfl sent
    cases parsed.symm.trans parsed'
    rcases same with same | same
    · rw [same]
    · rw [same]
      rfl
  have run : Run env (session.updateGroups realm).run start
      (listing_events ++ ([⟨outgoing, some response⟩] ++ [])) (.ok ()) start := by
    refine Program.run_exceptT_bind_ok_iff.2 ⟨_, listing, start, _, rfl, listed, ?_⟩
    rw [GroupStep.plan_of_resembles resembles]
    exact Program.run_exceptT_bind_ok_iff.2 ⟨_, (), start, [], rfl, updated, .done _ _⟩
  have server : IsGroupServer session [] realm.realm (declaredGroups realm) env :=
    isGroupServer_answering session [] "staff" [day]
  have identified : Identified start := by
    refine ⟨?_, by decide⟩
    exact List.forall_mem_cons.2 ⟨⟨"a", rfl, by decide, by decide⟩,
      List.forall_mem_singleton.2 ⟨"a#day", rfl, by decide, by decide⟩⟩
  refine ⟨session, realm, env, _, _, start, start, start, below, plain, server, identified, run, run,
    ⟨outgoing, some response⟩, by simp, method_eq, ?_, _, List.mem_cons_self, rfl, ?_⟩
  · rw [Url.pathSegments, path_eq]
    decide +kernel
  · simp [Named, declaredGroups, realm, day]

end Session

end IdentityOperator
