import IdentityOperator.TextMap

/-!
Looking up in maps, and setting what is set already.

A map has one entry for a key, and its place is determined. Setting an entry therefore changes what
is found under its own key only, and setting an entry that is there changes nothing at all. A pass
that sets the same entries again leaves the map as it is: `TextMap.union_union`.
-/

namespace IdentityOperator

variable {α : Type}

/-! ## Entries -/

theorem findEntry_insertEntry (key other : String) (value : α) (entries : List (String × α)) :
    findEntry other (insertEntry key value entries) =
      if other = key then some value else findEntry other entries := by
  induction entries with
  | nil => simp [insertEntry, findEntry, eq_comm]
  | cons head rest ih =>
    obtain ⟨k, v⟩ := head
    simp only [insertEntry]
    split
    · simp [findEntry, eq_comm]
    · split
      · next same =>
        subst same
        simp only [findEntry, eq_comm (a := other)]
        split <;> rfl
      · next differs =>
        simp only [findEntry, ih]
        by_cases here : k = other
        · subst here
          simp [differs]
        · simp [here]

theorem findEntry_filter_ne (key other : String) (entries : List (String × α)) :
    findEntry other (entries.filter fun entry => entry.1 ≠ key) =
      if other = key then none else findEntry other entries := by
  induction entries with
  | nil => simp [findEntry]
  | cons head rest ih =>
    obtain ⟨k, v⟩ := head
    rw [List.filter_cons]
    by_cases here : k = key
    · subst here
      simp only [ne_eq, not_true_eq_false, decide_false, Bool.false_eq_true, if_false, ih,
        findEntry]
      by_cases same : other = k
      · simp [same]
      · simp [same, Ne.symm same]
    · simp only [ne_eq, here, not_false_eq_true, decide_true, if_true, findEntry, ih]
      by_cases same : k = other
      · subst same
        simp [here]
      · simp [same]

theorem mem_of_findEntry {key : String} {value : α} {entries : List (String × α)}
    (found : findEntry key entries = some value) : (key, value) ∈ entries := by
  induction entries with
  | nil => cases found
  | cons head rest ih =>
    obtain ⟨k, v⟩ := head
    simp only [findEntry] at found
    split at found
    · next same =>
      subst same
      cases found
      exact List.mem_cons_self
    · exact List.mem_cons_of_mem _ (ih found)

theorem findEntry_of_mem {entries : List (String × α)} (rising : RisingKeys entries)
    {entry : String × α} (mem : entry ∈ entries) :
    findEntry entry.1 entries = some entry.2 := by
  induction entries with
  | nil => cases mem
  | cons head rest ih =>
    have ⟨above, tail⟩ := List.pairwise_cons.1 rising
    rcases List.mem_cons.1 mem with rfl | mem
    · simp [findEntry]
    · have earlier : head.1 ≠ entry.1 := fun same => String.lt_irrefl _ (same ▸ above entry mem)
      simp [findEntry, earlier, ih tail mem]

/-- An entry that is there has its place already. -/
theorem insertEntry_of_findEntry {key : String} {value : α} {entries : List (String × α)}
    (rising : RisingKeys entries) (found : findEntry key entries = some value) :
    insertEntry key value entries = entries := by
  induction entries with
  | nil => cases found
  | cons head rest ih =>
    obtain ⟨k, v⟩ := head
    have ⟨above, tail⟩ := List.pairwise_cons.1 rising
    simp only [findEntry] at found
    split at found
    · next same =>
      subst same
      cases found
      simp [insertEntry]
    · next differs =>
      -- The entry is further on, so that insertion passes this one by.
      have later : k < key := above _ (mem_of_findEntry found)
      simp [insertEntry, String.lt_asymm later, differs, ih tail found]

theorem findEntry_eq_none_of_below {key : String} {entries : List (String × α)}
    (below : ∀ entry ∈ entries, key < entry.1) : findEntry key entries = none := by
  cases found : findEntry key entries with
  | none => rfl
  | some value => exact absurd (below _ (mem_of_findEntry found)) (String.lt_irrefl key)

/-- Lists with rising keys are told apart by what is found in them. -/
theorem eq_of_findEntry {entries others : List (String × α)} (rising : RisingKeys entries)
    (others_rising : RisingKeys others)
    (same : ∀ key, findEntry key entries = findEntry key others) : entries = others := by
  induction entries generalizing others with
  | nil =>
    cases others with
    | nil => rfl
    | cons other _ =>
      have impossible := same other.1
      simp [findEntry] at impossible
  | cons head rest ih =>
    obtain ⟨k, v⟩ := head
    have ⟨above, tail⟩ := List.pairwise_cons.1 rising
    have first := same k
    rw [findEntry, if_pos rfl] at first
    cases others with
    | nil => cases first
    | cons other rest' =>
      obtain ⟨k', v'⟩ := other
      have ⟨above', tail'⟩ := List.pairwise_cons.1 others_rising
      -- The key of either head is found in the other list, so neither is below the other one.
      have keys_eq : k = k' := by
        refine Decidable.byContradiction fun differs => ?_
        rw [findEntry, if_neg (Ne.symm differs)] at first
        have later := above' _ (mem_of_findEntry first.symm)
        have first' := same k'
        rw [findEntry, if_neg differs, findEntry, if_pos rfl] at first'
        have earlier := above _ (mem_of_findEntry first')
        exact String.lt_asymm later earlier
      subst keys_eq
      rw [findEntry, if_pos rfl] at first
      cases first
      congr 1
      refine ih tail tail' fun key => ?_
      by_cases here : k = key
      · subst here
        rw [findEntry_eq_none_of_below above, findEntry_eq_none_of_below above']
      · simpa [findEntry, here] using same key

namespace TextMap

/-- Maps are told apart by what is found in them. -/
theorem ext_get? {m n : TextMap α} (same : ∀ key, m.get? key = n.get? key) : m = n :=
  ext (eq_of_findEntry m.rising n.rising same)

/-! ## Single entries -/

theorem get?_insert (m : TextMap α) (key other : String) (value : α) :
    (m.insert key value).get? other = if other = key then some value else m.get? other :=
  findEntry_insertEntry key other value m.entries

@[simp] theorem get?_insert_self (m : TextMap α) (key : String) (value : α) :
    (m.insert key value).get? key = some value := by
  rw [get?_insert, if_pos rfl]

theorem get?_insert_of_ne (m : TextMap α) {key other : String} (value : α) (differs : other ≠ key) :
    (m.insert key value).get? other = m.get? other := by
  rw [get?_insert, if_neg differs]

/-- To set an entry that is there changes nothing. -/
theorem insert_of_get? {m : TextMap α} {key : String} {value : α}
    (found : m.get? key = some value) : m.insert key value = m :=
  ext (insertEntry_of_findEntry m.rising found)

/-- Of two entries under a key the later one counts. -/
theorem insert_insert (m : TextMap α) (key : String) (first second : α) :
    (m.insert key first).insert key second = m.insert key second := by
  refine ext_get? fun other => ?_
  simp only [get?_insert]
  split <;> rfl

theorem insert_comm (m : TextMap α) {key other : String} (differs : key ≠ other) (value set : α) :
    (m.insert key value).insert other set = (m.insert other set).insert key value := by
  refine ext_get? fun wanted => ?_
  simp only [get?_insert]
  by_cases here : wanted = key
  · subst here
    simp [differs]
  · simp [here]

theorem get?_erase (m : TextMap α) (key other : String) :
    (m.erase key).get? other = if other = key then none else m.get? other :=
  findEntry_filter_ne key other m.entries

@[simp] theorem get?_erase_self (m : TextMap α) (key : String) : (m.erase key).get? key = none := by
  rw [get?_erase, if_pos rfl]

theorem get?_erase_of_ne (m : TextMap α) {key other : String} (differs : other ≠ key) :
    (m.erase key).get? other = m.get? other := by
  rw [get?_erase, if_neg differs]

/-! ## Many entries -/

@[simp] theorem insertMany_nil (m : TextMap α) : m.insertMany [] = m := rfl

@[simp] theorem insertMany_cons (m : TextMap α) (entry : String × α)
    (rest : List (String × α)) :
    m.insertMany (entry :: rest) = (m.insert entry.1 entry.2).insertMany rest := rfl

theorem get?_insertMany_of_not_mem {entries : List (String × α)} {key : String}
    (absent : ∀ entry ∈ entries, entry.1 ≠ key) (m : TextMap α) :
    (m.insertMany entries).get? key = m.get? key := by
  induction entries generalizing m with
  | nil => rfl
  | cons entry rest ih =>
    have here := absent entry List.mem_cons_self
    have later := fun e mem => absent e (List.mem_cons_of_mem _ mem)
    rw [insertMany_cons, ih later, get?_insert_of_ne _ _ here.symm]

/-- Of entries with rising keys none is overwritten by another one. -/
theorem get?_insertMany_of_mem {entries : List (String × α)} (rising : RisingKeys entries)
    {entry : String × α} (mem : entry ∈ entries) (m : TextMap α) :
    (m.insertMany entries).get? entry.1 = some entry.2 := by
  induction entries generalizing m with
  | nil => cases mem
  | cons head rest ih =>
    have ⟨above, tail⟩ := List.pairwise_cons.1 rising
    rcases List.mem_cons.1 mem with rfl | mem
    · have absent : ∀ e ∈ rest, e.1 ≠ entry.1 := fun e later same =>
        String.lt_irrefl _ (same ▸ above e later)
      rw [insertMany_cons, get?_insertMany_of_not_mem absent, get?_insert_self]
    · exact ih tail mem _

/-- To set entries that are there changes nothing. -/
theorem insertMany_of_get? {entries : List (String × α)} {m : TextMap α}
    (found : ∀ entry ∈ entries, m.get? entry.1 = some entry.2) : m.insertMany entries = m := by
  induction entries with
  | nil => rfl
  | cons entry rest ih =>
    rw [insertMany_cons, insert_of_get? (found entry List.mem_cons_self)]
    exact ih fun e mem => found e (List.mem_cons_of_mem _ mem)

theorem get?_union (m other : TextMap α) (key : String) :
    (m.union other).get? key = (other.get? key).or (m.get? key) := by
  cases found : other.get? key with
  | none =>
    have absent : ∀ entry ∈ other.toList, entry.1 ≠ key := by
      rintro entry mem rfl
      rw [get?, findEntry_of_mem other.rising mem] at found
      cases found
    exact get?_insertMany_of_not_mem absent m
  | some value => exact get?_insertMany_of_mem other.rising (mem_of_findEntry found) m

/-- A map is made of its entries. -/
theorem ofList_toList (m : TextMap α) : ofList m.toList = m :=
  ext_get? fun key => (get?_union empty m key).trans Option.or_none

theorem union_self (m : TextMap α) : m.union m = m :=
  insertMany_of_get? fun _ mem => findEntry_of_mem m.rising mem

/-- A map that has been completed by another one is complete. -/
theorem union_union (m other : TextMap α) : (m.union other).union other = m.union other :=
  insertMany_of_get? fun _ mem => get?_insertMany_of_mem other.rising mem m

end TextMap

end IdentityOperator
