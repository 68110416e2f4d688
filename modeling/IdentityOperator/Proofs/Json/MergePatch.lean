import IdentityOperator.Json.MergePatch

/-!
Merge patches that change nothing.

A patch that is merged a second time finds what it says there already, as long as no object in it names
a field twice (`Json.mergePatch_mergePatch`). Nothing changes about that if a patch of other fields has
come between (`Json.mergePatch_again`).
-/

namespace IdentityOperator.Json

variable {name : String} {value : Json} {own fields patch other : List (String × Json)}

/-! ## Fields -/

theorem lastField_eq_none_iff : lastField name fields = none ↔ name ∉ fields.map (·.1) := by
  induction fields with
  | nil => simp [lastField]
  | cons field rest ih =>
    rw [lastField, List.map_cons, List.mem_cons, not_or, ← ih]
    cases lastField name rest with
    | some found => simp
    | none => simp [eq_comm]

theorem setField_eq_self (found : lastField name fields = some value) :
    setField name value fields = fields := by
  induction fields with
  | nil => cases found
  | cons field rest ih =>
    rw [lastField] at found
    rw [setField]
    cases later : lastField name rest with
    | some last =>
      rw [later] at found
      rw [if_neg (by simp), ih (later.trans found)]
    | none =>
      rw [later] at found
      by_cases here : field.1 = name
      · simp only [here, if_true, Option.some.injEq] at found
        rw [if_pos ⟨here, rfl⟩, ← found]
      · simp [here] at found

theorem dropField_eq_self (absent : lastField name fields = none) :
    dropField name fields = fields := by
  refine List.filter_eq_self.2 fun field mem => decide_eq_true ?_
  rintro rfl
  exact lastField_eq_none_iff.1 absent (List.mem_map_of_mem mem)

theorem lastField_dropField_self (name : String) (fields : List (String × Json)) :
    lastField name (dropField name fields) = none := by
  rw [lastField_eq_none_iff, dropField]
  simp

/-! ## Merging fields -/

theorem mergeFields_cons_of_ne_null (filled : value ≠ null) (own rest : List (String × Json)) :
    mergeFields own ((name, value) :: rest) =
      mergeFields (setField name (mergePatch ((lastField name own).getD null) value) own) rest := by
  cases value <;> first | exact absurd rfl filled | rw [mergeFields]; nofun

theorem mergeFields_append (own patch other : List (String × Json)) :
    mergeFields own (patch ++ other) = mergeFields (mergeFields own patch) other := by
  induction patch generalizing own with
  | nil => rw [List.nil_append, mergeFields]
  | cons field rest ih =>
    obtain ⟨name, value⟩ := field
    by_cases filled : value = null
    · rw [filled, List.cons_append, mergeFields, mergeFields, ih]
    · rw [List.cons_append, mergeFields_cons_of_ne_null filled, mergeFields_cons_of_ne_null filled, ih]

/-- Fields that a patch does not name are left alone. -/
theorem lastField_mergeFields_of_not_mem (unnamed : name ∉ patch.map (·.1))
    (own : List (String × Json)) : lastField name (mergeFields own patch) = lastField name own := by
  induction patch generalizing own with
  | nil => rw [mergeFields]
  | cons field rest ih =>
    obtain ⟨given, value⟩ := field
    rw [List.map_cons, List.mem_cons, not_or] at unnamed
    obtain ⟨differs, unnamed⟩ := unnamed
    by_cases filled : value = null
    · rw [filled, mergeFields, ih unnamed, lastField_dropField_of_ne differs]
    · rw [mergeFields_cons_of_ne_null filled, ih unnamed, lastField_setField_of_ne differs]

/-! ## Patches that are there already -/

/-- To merge this field would change nothing. -/
def Fits (own : List (String × Json)) (field : String × Json) : Prop :=
  (field.2 = null ∧ lastField field.1 own = none) ∨
    ∃ kept, field.2 ≠ null ∧ lastField field.1 own = some kept ∧ kept.mergePatch field.2 = kept

theorem Fits.of_lastField_eq {field : String × Json} (fits : Fits own field)
    (same : lastField field.1 other = lastField field.1 own) : Fits other field :=
  fits.imp (.imp_right same.trans)
    fun ⟨kept, filled, found, settled⟩ => ⟨kept, filled, same.trans found, settled⟩

theorem mergeFields_eq_self (fits : ∀ field ∈ patch, Fits own field) : mergeFields own patch = own := by
  induction patch with
  | nil => rw [mergeFields]
  | cons field rest ih =>
    obtain ⟨name, value⟩ := field
    obtain ⟨here, later⟩ := List.forall_mem_cons.1 fits
    rcases here with ⟨rfl, absent⟩ | ⟨kept, filled, found, settled⟩
    · rw [mergeFields, dropField_eq_self absent, ih later]
    · rw [mergeFields_cons_of_ne_null filled, found, Option.getD_some, settled, setField_eq_self found,
        ih later]

mutual

/-- No object outside of lists names a field twice. -/
def HasDistinctNames : Json → Prop
  | object fields => (fields.map (·.1)).Nodup ∧ FieldsDistinct fields
  | _ => True

def FieldsDistinct : List (String × Json) → Prop
  | [] => True
  | (_, value) :: rest => value.HasDistinctNames ∧ FieldsDistinct rest

end

theorem fieldsDistinct_iff :
    FieldsDistinct fields ↔ ∀ field ∈ fields, field.2.HasDistinctNames := by
  induction fields with
  | nil => simp [FieldsDistinct]
  | cons field rest ih => rw [FieldsDistinct, ih, List.forall_mem_cons]

mutual

/-- A patch changes nothing the second time. -/
theorem mergePatch_mergePatch (own : Json) : (patch : Json) → patch.HasDistinctNames →
    (own.mergePatch patch).mergePatch patch = own.mergePatch patch
  | object fields, distinct => by
    rw [HasDistinctNames] at distinct
    rw [mergePatch, mergePatch, fieldsOf,
      mergeFields_eq_self (fits_mergeFields own.fieldsOf fields distinct.1 distinct.2)]
  | null, _ | bool _, _ | int _, _ | decimal _, _ | text _, _ | list _, _ | unreadable, _ => rfl

theorem fits_mergeFields (own : List (String × Json)) : (patch : List (String × Json)) →
    (patch.map (·.1)).Nodup → FieldsDistinct patch →
    ∀ field ∈ patch, Fits (mergeFields own patch) field
  | [], _, _ => by simp
  | (name, value) :: rest, distinct, within => by
    obtain ⟨fresh, later_distinct⟩ := List.nodup_cons.1 distinct
    rw [FieldsDistinct] at within
    have later := fun own => fits_mergeFields own rest later_distinct within.2
    by_cases filled : value = null
    · rw [filled, mergeFields]
      refine List.forall_mem_cons.2 ⟨.inl ⟨rfl, ?_⟩, later _⟩
      rw [lastField_mergeFields_of_not_mem fresh, lastField_dropField_self]
    · rw [mergeFields_cons_of_ne_null filled]
      generalize (lastField name own).getD null = given
      have settled := mergePatch_mergePatch given value within.1
      refine List.forall_mem_cons.2 ⟨.inr ⟨_, filled, ?_, settled⟩, later _⟩
      rw [lastField_mergeFields_of_not_mem fresh, lastField_setField_self]

end

/-! ## Patches of one field -/

theorem mergePatch_field (filled : value ≠ null) (own : Json) (name : String) :
    own.mergePatch (object [(name, value)]) =
      object (setField name (((lastField name own.fieldsOf).getD null).mergePatch value)
        own.fieldsOf) := by
  rw [mergePatch, mergeFields_cons_of_ne_null filled, mergeFields]

/-- Such a patch changes nothing if it changes nothing about the field. -/
theorem mergePatch_field_eq_self_iff {kept : Json} (filled : value ≠ null)
    (found : lastField name fields = some kept) :
    (object fields).mergePatch (object [(name, value)]) = object fields ↔
      kept.mergePatch value = kept := by
  rw [mergePatch_field filled, fieldsOf, found, Option.getD_some, object.injEq]
  constructor
  · intro same
    rw [← same, lastField_setField_self] at found
    exact Option.some.inj found
  · intro settled
    rw [settled, setField_eq_self found]

/-! ## Patches in a row -/

/-- Two parts of a patch may be merged one after the other. -/
theorem mergePatch_append (own : Json) (patch other : List (String × Json)) :
    own.mergePatch (object (patch ++ other)) =
      (own.mergePatch (object patch)).mergePatch (object other) := by
  rw [mergePatch, mergePatch, mergePatch, mergeFields_append, fieldsOf]

/-- A patch changes nothing the second time, also after a patch of other fields. -/
theorem mergePatch_again (own : Json) (distinct : (object patch).HasDistinctNames)
    (others : ∀ field ∈ patch, field.1 ∉ other.map (·.1)) :
    let patched := own.mergePatch (object (patch ++ other))
    patched.mergePatch (object patch) = patched := by
  intro patched
  rw [HasDistinctNames] at distinct
  have patched_eq : patched = object (mergeFields (mergeFields own.fieldsOf patch) other) := by
    rw [← mergeFields_append, ← mergePatch]
  have fits : ∀ field ∈ patch, Fits (mergeFields (mergeFields own.fieldsOf patch) other) field :=
    fun field mem => (fits_mergeFields own.fieldsOf patch distinct.1 distinct.2 field mem).of_lastField_eq
      (lastField_mergeFields_of_not_mem (others field mem) _)
  rw [patched_eq, mergePatch, fieldsOf, mergeFields_eq_self fits]

end IdentityOperator.Json
