import IdentityOperator.Proofs.Installation.References
import Mathlib.Data.List.Induction

/-!
The variables of the server.

The operator sets each of its variables once, and a variable that a user declares takes the place of
the one with its name. So a variable of the operator's whose name no user takes is set just as the
operator says (`ServerStatefulSet.container_sets`), and a variable that is taken from a secret is one
of the operator's (`mem_managedEnv_of_reference`).

What a user declares more than once is set as he declared it last. A variable that is put among others
takes the place of its namesake or comes after all of them, so the names that are only his follow those
of the operator in the order in which he declared them first (`map_name_foldl_putVariable`), and each
further declaration leaves alone all that was put under another name (`mem_putVariable_iff`).
-/

namespace IdentityOperator

/-! ## Variables of a container -/

/-- Of the variables of a container this one, and no other, has its name. -/
def Container.Sets (container : Container) (v : EnvVar) : Prop :=
  (container.env.getD []).filter (fun other => other.name = v.name) = [v]

/-- Whatever variable of that name is taken from a secret is taken from there. -/
def Container.TakesFrom (container : Container) (name : String) (reference : KeyReference) : Prop :=
  ∀ v ∈ container.env.getD [], v.name = name →
    ∀ found, v.secretReference? = some found → found = reference

theorem Container.Sets.eq_of_name {container : Container} {v w : EnvVar} (sets : container.Sets v)
    (sets_too : container.Sets w) (same : v.name = w.name) : v = w := by
  unfold Sets at sets sets_too
  rw [same, sets_too] at sets
  exact (List.singleton_inj.1 sets).symm

/-- A container sets a variable to one text only. -/
theorem Container.Sets.plain_iff {container : Container} {name text other : String}
    (sets : container.Sets (.plain name text)) :
    container.Sets (.plain name other) ↔ text = other := by
  constructor
  · intro sets_too
    have same := sets.eq_of_name sets_too rfl
    exact Option.some.inj (congrArg EnvVar.value same)
  · rintro rfl
    exact sets

theorem filter_name_of_mem {env : List EnvVar} {v : EnvVar}
    (distinct : (env.map EnvVar.name).Nodup) (mem : v ∈ env) :
    env.filter (fun other => other.name = v.name) = [v] := by
  induction env with
  | nil => cases mem
  | cons head rest ih =>
    obtain ⟨apart, distinct⟩ := List.nodup_cons.1 distinct
    rcases List.mem_cons.1 mem with rfl | mem
    · have others : ∀ other ∈ rest, ¬ (decide (other.name = v.name)) = true := by
        intro other other_mem same
        exact apart (of_decide_eq_true same ▸ List.mem_map_of_mem other_mem)
      rw [List.filter_cons_of_pos (by simp), List.filter_eq_nil_iff.2 others]
    · have differs : head.name ≠ v.name := fun same => apart (same ▸ List.mem_map_of_mem mem)
      rw [List.filter_cons_of_neg (by simp [differs]), ih distinct mem]

/-! ## Declared variables -/

/-- A user has declared a variable of that name. -/
def Keycloak.Overrides (kc : Keycloak) (name : String) : Prop :=
  ∃ declared ∈ kc.spec.podSettings.env, declared.name = name

theorem mem_putVariable {v extra : EnvVar} {env : List EnvVar} (mem : v ∈ putVariable extra env) :
    v = extra ∨ v ∈ env := by
  induction env with
  | nil => exact .inl (List.mem_singleton.1 mem)
  | cons head rest ih =>
    unfold putVariable at mem
    split at mem
    · rcases List.mem_cons.1 mem with same | mem
      · exact .inl same
      · exact .inr (List.mem_cons_of_mem _ mem)
    · rcases List.mem_cons.1 mem with rfl | mem
      · exact .inr List.mem_cons_self
      · exact (ih mem).imp id (List.mem_cons_of_mem _)

/-- To put a variable makes no difference to those of another name. -/
theorem filter_putVariable {name : String} {extra : EnvVar} (differs : extra.name ≠ name)
    (env : List EnvVar) :
    (putVariable extra env).filter (fun other => other.name = name) =
      env.filter (fun other => other.name = name) := by
  induction env with
  | nil => simp [putVariable, differs]
  | cons head rest ih =>
    unfold putVariable
    split
    · next same =>
      have head_differs : head.name ≠ name := same ▸ differs
      rw [List.filter_cons_of_neg (by simp [differs]),
        List.filter_cons_of_neg (by simp [head_differs])]
    · rw [List.filter_cons, List.filter_cons, ih]

theorem filter_foldl_putVariable {name : String} {declared : List UserVariable}
    (differ : ∀ d ∈ declared, d.name ≠ name) (env : List EnvVar) :
    (declared.foldl (fun env declared =>
      putVariable { name := declared.name, value := declared.value } env) env).filter
        (fun other => other.name = name) = env.filter (fun other => other.name = name) := by
  induction declared generalizing env with
  | nil => rfl
  | cons d rest ih =>
    obtain ⟨here, later⟩ := List.forall_mem_cons.1 differ
    rw [List.foldl_cons, ih later, filter_putVariable here]

theorem mem_of_mem_foldl_putVariable {v : EnvVar} {reference : KeyReference}
    (refers : v.secretReference? = some reference) {declared : List UserVariable}
    {env : List EnvVar}
    (mem : v ∈ declared.foldl (fun env declared =>
      putVariable { name := declared.name, value := declared.value } env) env) : v ∈ env := by
  induction declared generalizing env with
  | nil => exact mem
  | cons d rest ih =>
    rcases mem_putVariable (ih mem) with rfl | mem
    · cases refers
    · exact mem

/-- A variable comes to those that there are only under a new name. -/
theorem map_name_putVariable (extra : EnvVar) (env : List EnvVar) :
    (putVariable extra env).map EnvVar.name =
      if extra.name ∈ env.map EnvVar.name then env.map EnvVar.name
      else env.map EnvVar.name ++ [extra.name] := by
  induction env with
  | nil => rfl
  | cons v rest ih =>
    unfold putVariable
    by_cases same : v.name = extra.name
    · simp [same]
    · by_cases later : extra.name ∈ rest.map EnvVar.name
      · rw [if_pos later] at ih
        rw [if_neg same, List.map_cons, ih, List.map_cons, if_pos (List.mem_cons_of_mem _ later)]
      · rw [if_neg later] at ih
        have absent : extra.name ∉ v.name :: rest.map EnvVar.name :=
          fun mem => (List.mem_cons.1 mem).elim (fun eq => same eq.symm) later
        rw [if_neg same, List.map_cons, ih, List.map_cons, if_neg absent, List.cons_append]

theorem nodup_putVariable {env : List EnvVar} (extra : EnvVar)
    (distinct : (env.map EnvVar.name).Nodup) : ((putVariable extra env).map EnvVar.name).Nodup := by
  rw [map_name_putVariable]
  split
  · exact distinct
  · next absent =>
    rw [← List.concat_eq_append]
    exact distinct.concat absent

theorem nodup_foldl_putVariable (declared : List UserVariable) {env : List EnvVar}
    (distinct : (env.map EnvVar.name).Nodup) :
    ((declared.foldl (fun env declared =>
      putVariable { name := declared.name, value := declared.value } env) env).map
        EnvVar.name).Nodup := by
  induction declared generalizing env with
  | nil => exact distinct
  | cons d rest ih => exact ih (nodup_putVariable _ distinct)

/-! ## Repeated declarations -/

/-- Under distinct names a variable that is put among others drives out its namesake only. -/
theorem mem_putVariable_iff {v extra : EnvVar} {env : List EnvVar}
    (distinct : (env.map EnvVar.name).Nodup) :
    v ∈ putVariable extra env ↔ v = extra ∨ v ∈ env ∧ v.name ≠ extra.name := by
  induction env with
  | nil => simp [putVariable]
  | cons head rest ih =>
    obtain ⟨apart, distinct⟩ := List.nodup_cons.1 distinct
    unfold putVariable
    split
    · next same =>
      have differs : v ∈ rest → v.name ≠ extra.name := fun mem name_eq =>
        apart (same.trans name_eq.symm ▸ List.mem_map_of_mem mem)
      grind
    · grind

/-- The names that are new come after those that were there, in the order of their first
declarations. -/
theorem map_name_foldl_putVariable (declared : List UserVariable) (env : List EnvVar) :
    (declared.foldl (fun env declared =>
      putVariable { name := declared.name, value := declared.value } env) env).map EnvVar.name =
        env.map EnvVar.name ++
          ((declared.map UserVariable.name).filter (· ∉ env.map EnvVar.name)).eraseDups := by
  induction declared generalizing env with
  | nil => simp
  | cons d rest ih =>
    rw [List.foldl_cons, ih, map_name_putVariable, List.map_cons]
    by_cases known : d.name ∈ env.map EnvVar.name
    · rw [if_pos known, List.filter_cons_of_neg (by simpa using known)]
    · -- What comes new here is not new later on.
      have new_later : (rest.map UserVariable.name).filter (· ∉ env.map EnvVar.name ++ [d.name]) =
          (rest.map UserVariable.name).filter fun name =>
            !name == d.name && decide (name ∉ env.map EnvVar.name) :=
        List.filter_congr fun name _ => by grind
      rw [if_neg known, new_later, List.filter_cons_of_pos (by simpa using known),
        List.eraseDups_cons, List.filter_filter, List.append_assoc, List.singleton_append]

/-- The last of the declarations of that name. -/
def lastDeclared? (declared : List UserVariable) (name : String) : Option UserVariable :=
  declared.reverse.find? (·.name = name)

theorem lastDeclared?_concat (declared : List UserVariable) (d : UserVariable) (name : String) :
    lastDeclared? (declared ++ [d]) name =
      if d.name = name then some d else lastDeclared? declared name := by
  unfold lastDeclared?
  rw [List.reverse_concat, List.find?_cons]
  by_cases same : d.name = name <;> simp [same]

/-- A variable is left by the last of its declarations, and one that nobody declares was there. -/
theorem eq_or_mem_of_mem_foldl_putVariable {v : EnvVar} {declared : List UserVariable}
    {env : List EnvVar} (distinct : (env.map EnvVar.name).Nodup)
    (mem : v ∈ declared.foldl (fun env declared =>
      putVariable { name := declared.name, value := declared.value } env) env) :
    (∃ d, lastDeclared? declared v.name = some d ∧ v = { name := d.name, value := d.value }) ∨
      (lastDeclared? declared v.name = none ∧ v ∈ env) := by
  -- From the end, since the last declaration holds against all before it.
  induction declared using List.reverseRecOn with
  | nil => exact .inr ⟨rfl, mem⟩
  | append_singleton earlier d ih =>
    rw [List.foldl_append, List.foldl_cons, List.foldl_nil,
      mem_putVariable_iff (nodup_foldl_putVariable earlier distinct)] at mem
    rw [lastDeclared?_concat]
    rcases mem with rfl | ⟨mem, differs⟩
    · exact .inl ⟨d, if_pos rfl, rfl⟩
    · rw [if_neg (Ne.symm differs)]
      exact ih mem

/-! ## The server -/

/-- The names of the variables that the operator sets. -/
def managedNames : List String := ["DB_VENDOR", "DB_SCHEMA", "DB_ADDR", "DB_PORT", "DB_DATABASE",
  "DB_USER", "DB_PASSWORD", "NAMESPACE", "JGROUPS_DISCOVERY_PROTOCOL",
  "JGROUPS_DISCOVERY_PROPERTIES", "CACHE_OWNERS_COUNT", "CACHE_OWNERS_AUTH_SESSIONS_COUNT",
  "KEYCLOAK_USER", "KEYCLOAK_PASSWORD", "X509_CA_BUNDLE", "PROXY_ADDRESS_FORWARDING"]

theorem map_name_managedEnv (kc : Keycloak) (secret : Option Secret) :
    (managedEnv kc secret).map EnvVar.name = managedNames := rfl

/-- The names of variables that are only the user's, in the order in which he first declares them. -/
def Keycloak.ownNames (kc : Keycloak) : List String :=
  ((kc.spec.podSettings.env.map UserVariable.name).filter (· ∉ managedNames)).eraseDups

theorem nodup_managedEnv (kc : Keycloak) (secret : Option Secret) :
    ((managedEnv kc secret).map EnvVar.name).Nodup := by
  rw [map_name_managedEnv]
  decide

/-- No variable of the server is set twice, whatever the user declares. -/
theorem nodup_serverEnv (kc : Keycloak) (secret : Option Secret) :
    ((serverEnv kc secret).map EnvVar.name).Nodup :=
  nodup_foldl_putVariable _ (nodup_managedEnv kc secret)

/-- The operator's names come first, and those that are only the user's follow. -/
theorem map_name_serverEnv (kc : Keycloak) (secret : Option Secret) :
    (serverEnv kc secret).map EnvVar.name = managedNames ++ kc.ownNames :=
  map_name_foldl_putVariable _ _

/-- A variable that is taken from a secret is one that the operator sets. -/
theorem mem_managedEnv_of_reference {kc : Keycloak} {secret : Option Secret} {v : EnvVar}
    {reference : KeyReference} (mem : v ∈ serverEnv kc secret)
    (refers : v.secretReference? = some reference) : v ∈ managedEnv kc secret :=
  mem_of_mem_foldl_putVariable refers mem

/-- The containers of the pods of a stateful set. -/
def StatefulSet.containers (server : StatefulSet) : List Container :=
  ((server.spec.bind (·.template.spec)).map (·.containers)).getD []

namespace ServerStatefulSet

/-- A variable of the operator's whose name no user takes is set as the operator says. -/
theorem container_sets {kc : Keycloak} {secret : Option Secret} {profiles : Profiles} {v : EnvVar}
    (managed : v ∈ managedEnv kc secret) (free : ¬ kc.Overrides v.name) :
    (container kc secret profiles).Sets v := by
  have differ : ∀ d ∈ kc.spec.podSettings.env, d.name ≠ v.name := fun d mem same =>
    free ⟨d, mem, same⟩
  show (serverEnv kc secret).filter (fun other => other.name = v.name) = [v]
  rw [serverEnv, filter_foldl_putVariable differ]
  exact filter_name_of_mem (nodup_managedEnv kc secret) managed

/-- The variables of the server are those of the operator in their order and then those that are only
the user's, each set once: as the user declared it last, if he did, and else as the operator says. -/
theorem user_variables_are_merged (kc : Keycloak) (secret : Option Secret) (profiles : Profiles) :
    ∃ env, (container kc secret profiles).env = some env ∧
      (env.map EnvVar.name).Nodup ∧
      (env.take 16).map EnvVar.name = managedNames ∧
      (env.drop 16).map EnvVar.name = kc.ownNames ∧
      ∀ v ∈ env,
        (∃ d, lastDeclared? kc.spec.podSettings.env v.name = some d ∧
          v = { name := d.name, value := d.value, valueFrom := none }) ∨
        (lastDeclared? kc.spec.podSettings.env v.name = none ∧ v ∈ managedEnv kc secret) := by
  refine ⟨serverEnv kc secret, rfl, nodup_serverEnv kc secret, ?managed, ?own, fun v mem =>
    eq_or_mem_of_mem_foldl_putVariable (nodup_managedEnv kc secret) mem⟩
  case managed =>
    rw [List.map_take, map_name_serverEnv]
    exact List.take_left' rfl
  case own =>
    rw [List.map_drop, map_name_serverEnv]
    exact List.drop_left' rfl

/-- An installation whose user declares five variables under three names, one of them the operator's. -/
def repeatedVariables : Keycloak where
  spec := { podSettings := { env := [⟨"B", some "1"⟩, ⟨"DB_PASSWORD", some "known"⟩, ⟨"A", some "2"⟩,
    ⟨"B", some "3"⟩, ⟨"DB_PASSWORD", none⟩] } }

/-- There the password of the database comes from no secret, and two variables come at the end. -/
theorem user_variables_are_merged_of_repeated :
    ∃ env, (container repeatedVariables none {}).env = some env ∧
      (env.drop 16).map EnvVar.name = ["B", "A"] ∧
      { name := "B", value := some "3" } ∈ env ∧ { name := "DB_PASSWORD" } ∈ env := by
  obtain ⟨env, env_eq, -, managed, own, entries⟩ :=
    user_variables_are_merged repeatedVariables none {}
  have names_eq : env.map EnvVar.name = managedNames ++ ["B", "A"] := by
    rw [← List.take_append_drop 16 env, List.map_append, managed, own]
    rfl
  have entry {d : UserVariable} (named : d.name ∈ managedNames ++ ["B", "A"])
      (last : lastDeclared? repeatedVariables.spec.podSettings.env d.name = some d) :
      { name := d.name, value := d.value } ∈ env := by
    obtain ⟨v, mem, name_eq⟩ := List.mem_map.1 (names_eq ▸ named)
    rcases entries v mem with ⟨found, found_eq, rfl⟩ | ⟨none_eq, -⟩
    · rw [name_eq, last] at found_eq
      exact Option.some.inj found_eq ▸ mem
    · rw [name_eq, last] at none_eq
      cases none_eq
  exact ⟨env, env_eq, own, entry (d := ⟨"B", some "3"⟩) (by decide) rfl,
    entry (d := ⟨"DB_PASSWORD", none⟩) (by decide) rfl⟩

/-- A stateful set that has been written has one container, built from the declaration. -/
theorem containers_written {b : Blueprint} (live : Option StatefulSet) :
    StatefulSet.containers (Part.written b .statefulSet live) =
      [container b.kc b.databaseSecret b.profiles] := by
  obtain ⟨spec, spec_eq, template_eq⟩ := exists_template_written (b := b) live
  unfold StatefulSet.containers
  rw [spec_eq, Option.bind_some, template_eq]
  rfl

end ServerStatefulSet

end IdentityOperator
