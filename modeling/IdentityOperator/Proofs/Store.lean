import IdentityOperator.Cluster.Call

/-!
What is found in a store after objects have been put into it.

A place is a kind with a key, and `Store.put` writes to the place of its object and to no other. A
store *holds* an object if whatever it has at the object's place is that object; putting such an
object again changes nothing, which is how a pass can leave every object exactly as it was. None of
this asks the listed objects to have different places.
-/

namespace IdentityOperator.Store

variable {store : Store} {kind : Kind} {key : ObjectKey} {o : Object}

/-! ## Places -/

theorem isAt_iff : isAt kind key o = true ↔ o.kind = kind ∧ o.key = key := by
  simp [isAt]

@[simp] theorem isAt_self (o : Object) : isAt o.kind o.key o = true := isAt_iff.2 ⟨rfl, rfl⟩

/-- To be elsewhere is mutual. -/
theorem isAt_comm (o other : Object) :
    isAt o.kind o.key other = isAt other.kind other.key o := by
  simp only [isAt, eq_comm]

theorem as?_eq_some_iff {x : kind.Object} : o.as? kind = some x ↔ o = ⟨kind, x⟩ := by
  obtain ⟨k, content⟩ := o
  constructor
  · intro same
    unfold Object.as? at same
    split at same
    · next kind_eq =>
      cases kind_eq
      cases same
      rfl
    · cases same
  · rintro ⟨⟩
    simp [Object.as?]

/-- What is found is the first object at the place. -/
theorem find?_eq_some_iff {x : kind.Object} :
    store.find? kind key = some x ↔ store.objects.find? (isAt kind key) = some ⟨kind, x⟩ := by
  unfold find?
  constructor
  · intro found
    obtain ⟨o, first, content⟩ := Option.bind_eq_some_iff.1 found
    rw [first, as?_eq_some_iff.1 content]
  · intro first
    rw [first]
    exact as?_eq_some_iff.2 rfl

theorem find?_eq_none_iff : store.find? kind key = none ↔ store.contains kind key = false := by
  constructor
  · intro missing
    cases first : store.objects.find? (isAt kind key) with
    | none => simpa [contains] using first
    | some o =>
      obtain ⟨rfl, -⟩ := isAt_iff.1 (List.find?_some first)
      have found : store.find? o.kind key = some o.content := find?_eq_some_iff.2 first
      rw [missing] at found
      cases found
  · intro missing
    have first : store.objects.find? (isAt kind key) = none := by simpa [contains] using missing
    rw [find?, first]
    rfl

theorem isSome_find?_iff : (store.find? kind key).isSome ↔ store.contains kind key = true := by
  rw [Option.isSome_iff_ne_none, ne_eq, find?_eq_none_iff, Bool.not_eq_false]

/-- What is found under a key has this key. -/
theorem key_of_find? {x : kind.Object} (found : store.find? kind key = some x) :
    (⟨kind, x⟩ : Object).key = key :=
  (isAt_iff.1 (List.find?_some (find?_eq_some_iff.1 found))).2

/-- There is one object at a place. -/
theorem eq_of_find? {other : Kind} {x : kind.Object} {y : other.Object} (kind_eq : kind = other)
    (found : store.find? kind key = some x) (found_too : store.find? other key = some y) :
    (⟨kind, x⟩ : Object) = ⟨other, y⟩ := by
  subst kind_eq
  rw [found] at found_too
  cases found_too
  rfl

theorem contains_iff_exists :
    store.contains kind key = true ↔ ∃ o ∈ store.objects, isAt kind key o = true :=
  List.any_eq_true

/-! ## Putting one object -/

@[simp] theorem find?_put_self (store : Store) (o : Object) :
    (store.put o).find? o.kind o.key = some o.content := by
  rw [find?_eq_some_iff]
  unfold put
  split
  · next present =>
    obtain ⟨old, mem, here⟩ := contains_iff_exists.1 present
    have same : isAt o.kind o.key ∘ (fun old => if isAt o.kind o.key old then o else old) =
        isAt o.kind o.key := by
      funext old
      by_cases here : isAt o.kind o.key old <;> simp [here]
    rw [List.find?_map, same]
    cases first : store.objects.find? (isAt o.kind o.key) with
    | none => exact absurd here (List.find?_eq_none.1 first old mem)
    | some old => simp [List.find?_some first]
  · next missing =>
    have none_here : store.objects.find? (isAt o.kind o.key) = none := by
      simpa [contains] using missing
    simp [List.find?_append, none_here]

/-- Nothing changes at other places. -/
theorem find?_put_of_ne (store : Store) (elsewhere : isAt kind key o = false) :
    (store.put o).find? kind key = store.find? kind key := by
  have differs : ∀ old, isAt kind key old = true → isAt o.kind o.key old = false := by
    intro old here
    rw [isAt_iff] at here
    rw [← Bool.not_eq_true, isAt_iff]
    rintro ⟨kind_eq, key_eq⟩
    rw [← Bool.not_eq_true, isAt_iff] at elsewhere
    exact elsewhere ⟨kind_eq ▸ here.1, key_eq ▸ here.2⟩
  unfold put find?
  split
  -- An object that is replaced stands elsewhere, and so does the one that replaces it.
  · have same : isAt kind key ∘ (fun old => if isAt o.kind o.key old then o else old) =
        isAt kind key := by
      funext old
      by_cases here : isAt o.kind o.key old
      · have not_here : isAt kind key old = false := by
          rw [← Bool.not_eq_true]
          exact fun at_key => by simp [differs old at_key] at here
        simp [here, elsewhere, not_here]
      · simp [here]
    rw [List.find?_map, same]
    cases first : store.objects.find? (isAt kind key) with
    | none => rfl
    | some old => simp [differs old (List.find?_some first)]
  · rw [List.find?_append]
    simp [elsewhere]

theorem contains_put_of_contains (o : Object) (present : store.contains kind key = true) :
    (store.put o).contains kind key = true := by
  cases elsewhere : isAt kind key o with
  | true =>
    obtain ⟨rfl, rfl⟩ := isAt_iff.1 elsewhere
    rw [← isSome_find?_iff, find?_put_self]
    rfl
  | false =>
    rw [← isSome_find?_iff, find?_put_of_ne store elsewhere]
    exact isSome_find?_iff.2 present

theorem contains_put_of_ne (store : Store) (elsewhere : isAt kind key o = false) :
    (store.put o).contains kind key = store.contains kind key := by
  rw [Bool.eq_iff_iff, ← isSome_find?_iff, ← isSome_find?_iff, find?_put_of_ne store elsewhere]

/-- Of two objects for one place the later one counts. -/
theorem put_put_of_isAt (store : Store) {other : Object} (here : isAt o.kind o.key other = true) :
    (store.put other).put o = store.put o := by
  obtain ⟨kind_eq, key_eq⟩ := isAt_iff.1 here
  have present : (store.put other).contains o.kind o.key = true := by
    rw [← kind_eq, ← key_eq, ← isSome_find?_iff, find?_put_self]
    rfl
  rw [put, if_pos present, put, put, kind_eq, key_eq]
  split
  · rw [List.map_map]
    refine congrArg Store.mk (List.map_congr_left fun old _ => ?_)
    by_cases at_place : isAt o.kind o.key old <;> simp [at_place, here]
  · next missing =>
    have elsewhere : ∀ old ∈ store.objects, isAt o.kind o.key old = false := by
      simpa [contains] using missing
    have kept : ∀ old ∈ store.objects, (if isAt o.kind o.key old then o else old) = old :=
      fun old mem => if_neg (by simp [elsewhere old mem])
    rw [List.map_append, List.map_congr_left kept, List.map_id']
    simp [here]

/-- It does not matter whether something that is there is replaced before or after something else is
put elsewhere. -/
theorem put_put_comm {other : Object} (present : store.contains o.kind o.key = true)
    (elsewhere : isAt o.kind o.key other = false) :
    (store.put other).put o = (store.put o).put other := by
  have elsewhere_too : isAt other.kind other.key o = false := (isAt_comm other o).trans elsewhere
  rw [put, if_pos (contains_put_of_contains other present)]
  cases other_present : store.contains other.kind other.key with
  | true =>
    have still_present := contains_put_of_contains o other_present
    rw [put, if_pos other_present, put, if_pos still_present, put, if_pos present, List.map_map,
      List.map_map]
    refine congrArg Store.mk (List.map_congr_left fun old _ => ?_)
    by_cases here : isAt o.kind o.key old
    · have apart : isAt other.kind other.key old = false := by
        rw [← Bool.not_eq_true, isAt_iff]
        rintro ⟨kind_eq, key_eq⟩
        rw [isAt_iff, kind_eq, key_eq, ← isAt_iff, elsewhere] at here
        cases here
      simp [here, apart, elsewhere_too]
    · by_cases there : isAt other.kind other.key old <;> simp [here, there, elsewhere]
  | false =>
    have still_missing : ¬ (store.put o).contains other.kind other.key = true := by
      simp [contains_put_of_ne store elsewhere_too, other_present]
    rw [put, if_neg (by simp [other_present]), put, if_neg still_missing, put, if_pos present,
      List.map_append]
    simp [elsewhere]

/-- A place without which two stores are compared is not seen. -/
theorem remove_put_of_isAt (store : Store) (here : isAt kind key o = true) :
    (store.put o).remove kind key = store.remove kind key := by
  obtain ⟨rfl, rfl⟩ := isAt_iff.1 here
  unfold put remove
  congr 1
  split
  · show List.filter _ (List.map _ store.objects) = List.filter _ store.objects
    induction store.objects with
    | nil => rfl
    | cons old rest ih =>
      rw [List.map_cons, List.filter_cons, List.filter_cons, ih]
      by_cases at_place : isAt o.kind o.key old <;> simp [at_place]
  · simp

/-! ## Taking away -/

theorem remove_of_missing (missing : store.contains kind key = false) :
    store.remove kind key = store := by
  have elsewhere : ∀ o ∈ store.objects, decide ¬ isAt kind key o = true := by
    simpa [contains] using missing
  rw [remove, List.filter_eq_self.2 elsewhere]

@[simp] theorem find?_remove_self (store : Store) (kind : Kind) (key : ObjectKey) :
    (store.remove kind key).find? kind key = none := by
  rw [find?_eq_none_iff, contains, remove, List.any_eq_false]
  intro o mem
  simpa using (List.mem_filter.1 mem).2

theorem find?_remove_of_ne {other : Kind} {place : ObjectKey} (store : Store)
    (differs : kind ≠ other ∨ key ≠ place) :
    (store.remove kind key).find? other place = store.find? other place := by
  have same : (fun o => (!isAt kind key o) && isAt other place o) = isAt other place := by
    funext o
    cases here : isAt other place o with
    | false => simp
    | true =>
      have elsewhere : isAt kind key o = false := by
        rw [← Bool.not_eq_true, isAt_iff]
        obtain ⟨kind_eq, key_eq⟩ := isAt_iff.1 here
        rintro ⟨rfl, rfl⟩
        exact differs.elim (· kind_eq) (· key_eq)
      simp [elsewhere]
  unfold remove find?
  simp [List.find?_filter, same]

/-! ## Calls -/

theorem perform_get_of_some {x : kind.Object} (found : store.find? kind key = some x) :
    store.perform (.get kind key) = (.ok x, store) := by
  simp only [perform, found]

theorem perform_get_of_none (missing : store.find? kind key = none) :
    store.perform (.get kind key) = (.error (ClusterCall.missing kind key), store) := by
  simp only [perform, missing]

/-- What is there is left alone by a creation. -/
theorem perform_create_of_contains (present : store.contains o.kind o.key = true) :
    store.perform (.create o) = (.ok (), store) := by
  simp only [perform, present, if_true]

theorem perform_create_of_missing (missing : store.contains o.kind o.key = false) :
    store.perform (.create o) = (.ok (), store.put o) := by
  simp only [perform, missing, Bool.false_eq_true, if_false]

theorem perform_update_of_contains (present : store.contains o.kind o.key = true) :
    store.perform (.update o) = (.ok (), store.put o) := by
  simp only [perform, present, if_true]

/-- What is not there is not put there by an update. -/
theorem perform_update_of_missing (missing : store.contains o.kind o.key = false) :
    store.perform (.update o) = (.error (ClusterCall.missing o.kind o.key), store) := by
  simp only [perform, missing, Bool.false_eq_true, if_false]

/-! ## Held objects -/

/-- Whatever is at the place of an object is this object, and there is something. -/
structure Holds (store : Store) (o : Object) : Prop where
  present : store.contains o.kind o.key = true
  same : ∀ old ∈ store.objects, isAt o.kind o.key old = true → old = o

theorem Holds.find? (holds : store.Holds o) : store.find? o.kind o.key = some o.content := by
  obtain ⟨old, mem, here⟩ := contains_iff_exists.1 holds.present
  rw [find?_eq_some_iff]
  cases first : store.objects.find? (isAt o.kind o.key) with
  | none => exact absurd here (List.find?_eq_none.1 first old mem)
  | some found => rw [holds.same found (List.mem_of_find?_eq_some first) (List.find?_some first)]

/-- An object that is held is not changed by putting it again, nor is anything else. -/
theorem put_of_holds (holds : store.Holds o) : store.put o = store := by
  have kept : ∀ old ∈ store.objects, (if isAt o.kind o.key old then o else old) = old := by
    intro old mem
    split
    · next here => exact (holds.same old mem here).symm
    · rfl
  rw [put, if_pos holds.present, List.map_congr_left kept, List.map_id']

theorem mem_put {old : Object} (mem : old ∈ (store.put o).objects) :
    old = o ∨ old ∈ store.objects ∧ (store.contains o.kind o.key = true →
      isAt o.kind o.key old = false) := by
  unfold put at mem
  split at mem
  · obtain ⟨before, mem_before, rfl⟩ := List.mem_map.1 mem
    by_cases here : isAt o.kind o.key before
    · simp [here]
    · simp [here, mem_before]
  · next missing =>
    rcases List.mem_append.1 mem with mem | mem
    · exact .inr ⟨mem, fun present => absurd present missing⟩
    · exact .inl (by simpa using mem)

theorem holds_put_self (store : Store) (o : Object) : (store.put o).Holds o := by
  refine ⟨isSome_find?_iff.1 (by simp), fun old mem here => ?_⟩
  rcases mem_put mem with rfl | ⟨mem, replaced⟩
  · rfl
  · have present : store.contains o.kind o.key = true := contains_iff_exists.2 ⟨old, mem, here⟩
    rw [replaced present] at here
    cases here

theorem Holds.put {other : Object} (holds : store.Holds o)
    (elsewhere : isAt o.kind o.key other = false) : (store.put other).Holds o := by
  refine ⟨contains_put_of_contains other holds.present, fun old mem here => ?_⟩
  rcases mem_put mem with rfl | ⟨mem, -⟩
  · rw [elsewhere] at here
    cases here
  · exact holds.same old mem here

/-! ## Putting many objects -/

/-- Put objects one after the other. -/
def putAll (store : Store) (objects : List Object) : Store := objects.foldl put store

@[simp] theorem putAll_cons (store : Store) (o : Object) (rest : List Object) :
    store.putAll (o :: rest) = (store.put o).putAll rest := rfl

theorem putAll_append (store : Store) (first second : List Object) :
    store.putAll (first ++ second) = (store.putAll first).putAll second :=
  List.foldl_append

theorem find?_putAll_of_ne {objects : List Object}
    (elsewhere : ∀ o ∈ objects, isAt kind key o = false) (store : Store) :
    (store.putAll objects).find? kind key = store.find? kind key := by
  induction objects generalizing store with
  | nil => rfl
  | cons o rest ih =>
    rw [putAll_cons, ih (fun other mem => elsewhere other (List.mem_cons_of_mem _ mem)),
      find?_put_of_ne store (elsewhere o List.mem_cons_self)]

/-- What is there may be replaced before objects are put elsewhere instead of afterwards. -/
theorem putAll_put_comm {objects : List Object} (present : store.contains o.kind o.key = true)
    (elsewhere : ∀ other ∈ objects, isAt o.kind o.key other = false) :
    (store.putAll objects).put o = (store.put o).putAll objects := by
  induction objects generalizing store with
  | nil => rfl
  | cons other rest ih =>
    rw [putAll_cons, putAll_cons, ih (contains_put_of_contains other present)
      (fun other mem => elsewhere other (List.mem_cons_of_mem _ mem)),
      put_put_comm present (elsewhere other List.mem_cons_self)]

/-- An object that is put in the place of one of a list might as well have stood in the list. -/
theorem putAll_put_of_isAt {other : Object} {front rest : List Object}
    (here : isAt o.kind o.key other = true)
    (elsewhere : ∀ other ∈ rest, isAt o.kind o.key other = false) (store : Store) :
    (store.putAll (front ++ other :: rest)).put o = store.putAll (front ++ o :: rest) := by
  obtain ⟨kind_eq, key_eq⟩ := isAt_iff.1 here
  have present : ((store.putAll front).put other).contains o.kind o.key = true := by
    rw [← kind_eq, ← key_eq, ← isSome_find?_iff, find?_put_self]
    rfl
  rw [putAll_append, putAll_append, putAll_cons, putAll_cons, putAll_put_comm present elsewhere,
    put_put_of_isAt _ here]

theorem putAll_of_holds {objects : List Object} (holds : ∀ o ∈ objects, store.Holds o) :
    store.putAll objects = store := by
  induction objects with
  | nil => rfl
  | cons o rest ih =>
    rw [putAll_cons, put_of_holds (holds o List.mem_cons_self)]
    exact ih fun o mem => holds o (List.mem_cons_of_mem _ mem)

/-- No two objects have the same place. -/
def DistinctPlaces (objects : List Object) : Prop :=
  objects.Pairwise fun first second => isAt first.kind first.key second = false

theorem Holds.putAll {objects : List Object} (holds : store.Holds o)
    (elsewhere : ∀ other ∈ objects, isAt o.kind o.key other = false) :
    (store.putAll objects).Holds o := by
  induction objects generalizing store with
  | nil => exact holds
  | cons other rest ih =>
    exact ih (holds.put (elsewhere other List.mem_cons_self))
      fun other mem => elsewhere other (List.mem_cons_of_mem _ mem)

/-- Objects at different places are all held in the end. -/
theorem holds_putAll {objects : List Object} (distinct : DistinctPlaces objects)
    (mem : o ∈ objects) (store : Store) : (store.putAll objects).Holds o := by
  induction objects generalizing store with
  | nil => cases mem
  | cons other rest ih =>
    obtain ⟨apart, distinct⟩ := List.pairwise_cons.1 distinct
    rcases List.mem_cons.1 mem with rfl | mem
    · exact (holds_put_self store o).putAll apart
    · exact ih distinct mem _

/-- Putting objects that are held, or that stand at one place, changes at most this place. -/
theorem remove_putAll {objects : List Object}
    (held : ∀ o ∈ objects, isAt kind key o = true ∨ store.Holds o) :
    (store.putAll objects).remove kind key = store.remove kind key := by
  induction objects generalizing store with
  | nil => rfl
  | cons o rest ih =>
    have later := fun o mem => held o (List.mem_cons_of_mem _ mem)
    rcases held o List.mem_cons_self with here | holds
    · rw [putAll_cons, ih, remove_put_of_isAt store here]
      intro other mem
      cases at_place : isAt kind key other with
      | true => exact .inl rfl
      | false =>
        -- It is elsewhere, so the object just put does not stand in its place.
        have holds := (later other mem).resolve_left (by simp [at_place])
        obtain ⟨rfl, rfl⟩ := isAt_iff.1 here
        exact .inr (holds.put ((isAt_comm other o).trans at_place))
    · rw [putAll_cons, put_of_holds holds]
      exact ih later

end IdentityOperator.Store
