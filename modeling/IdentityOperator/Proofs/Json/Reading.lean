import IdentityOperator.Json.Form

/-!
What the value of a member has been read from.

Of the fields with one name the last one counts, in records that are read strictly and in records
that are read leniently. A member that has another value than the one for a missing field has
therefore been read from the last field of its name, which is the one that `Json.lastField` finds.
-/

namespace IdentityOperator

namespace Form

theorem valuesOf_cons (name key : String) (value : Json) (rest : List (String × Json)) :
    valuesOf name ((key, value) :: rest) =
      if key = name then value :: valuesOf name rest else valuesOf name rest := by
  simp only [valuesOf, List.filter_cons, decide_eq_true_eq]
  split <;> rfl

theorem getLast?_valuesOf (name : String) (fields : List (String × Json)) :
    (valuesOf name fields).getLast? = Json.lastField name fields := by
  induction fields with
  | nil => rfl
  | cons field rest ih =>
    rw [valuesOf_cons, Json.lastField, ← ih]
    split
    · rw [List.getLast?_cons]
      cases (valuesOf name rest).getLast? <;> rfl
    · cases (valuesOf name rest).getLast? <;> rfl

/-- The last field counts where fields are read strictly. -/
theorem lastField_of_strict {name : String} {fields : List (String × Json)} {json : Json}
    (last : ((valuesOf name fields).map some).getLast? = some (some json)) :
    Json.lastField name fields = some json := by
  rw [← getLast?_valuesOf]
  simpa [List.getLast?_map] using last

/-- The last field counts where fields are read leniently. -/
theorem lastField_of_lenient {name : String} {fields : List (String × Json)} {json : Json}
    (last : (lenientFields fields name).getLast? = some (some json)) :
    Json.lastField name fields = some json := by
  rw [lenientFields, List.getLast?_map, getLast?_valuesOf, Option.map_eq_some_iff] at last
  obtain ⟨found, found_eq, same⟩ := last
  rw [found_eq]
  split at same
  · cases same
  · exact same

end Form

/-- A value that does not stand for a missing field has been read from the last of the fields. -/
theorem Member.exists_of_readAll {α : Type} {member : Member α} {depth : Nat}
    {found : List (Option Json)} {value : α} (read : member.readAll depth found = some value)
    (there : member.missing ≠ some value) :
    ∃ json, found.getLast? = some (some json) ∧ member.read depth json = some value := by
  rcases List.eq_nil_or_concat found with rfl | ⟨front, last, rfl⟩
  · exact absurd read there
  · simp only [List.concat_eq_append, readAll, List.mapM_append, List.mapM_cons, List.mapM_nil,
      Option.bind_eq_bind, Option.pure_def, Option.bind_eq_some_iff, Option.some.injEq] at read ⊢
    obtain ⟨values, ⟨earlier, -, own, ⟨result, last_read, -, rfl, rfl⟩, rfl⟩, value_eq⟩ := read
    have same : result = value := by simpa using value_eq
    subst same
    rw [List.getLast?_concat]
    cases last with
    | none => exact absurd last_read there
    | some json => exact ⟨json, rfl, last_read⟩

/-! ## First members -/

namespace Form

variable {α β ρ : Type} {title : String} {member : Member β} {row : Row ρ} {build : β × ρ → α}
  {fields : α → β × ρ} {depth : Nat} {given : List (String × Json)} {x : α}

/-- What the first member of a record has been read from. -/
def FirstFrom (member : Member β) (given : List (String × Json)) (build : β × ρ → α) (x : α) :
    Prop :=
  ∃ values, build values = x ∧ (member.missing ≠ some values.1 →
    ∃ json depth, Json.lastField member.name given = some json ∧
      member.read depth json = some values.1)

theorem firstFrom_of_read {found : Found}
    (read : ((Row.cons member row).read depth found).map build = some x)
    (last : ∀ json, (found member.name).getLast? = some (some json) →
      Json.lastField member.name given = some json) : FirstFrom member given build x := by
  obtain ⟨values, values_eq, build_eq⟩ := Option.map_eq_some_iff.1 read
  obtain ⟨first, first_eq, values_eq⟩ := Option.bind_eq_some_iff.1 values_eq
  obtain ⟨rest, -, values_eq⟩ := Option.bind_eq_some_iff.1 values_eq
  cases values_eq
  refine ⟨(first, rest), build_eq, fun there => ?_⟩
  obtain ⟨json, json_last, json_read⟩ := Member.exists_of_readAll first_eq there
  exact ⟨json, depth, last json json_last, json_read⟩

theorem firstFrom_of_strict
    (read : (strict title (Row.cons member row) build fields).read depth (.object given) = some x) :
    FirstFrom member given build x := by
  cases depth with
  | zero => cases read
  | succ depth =>
    obtain ⟨found, found_eq, read⟩ := Option.bind_eq_some_iff.1 read
    simp only [strictFields] at found_eq
    split at found_eq
    · cases found_eq
      exact firstFrom_of_read read fun _ => lastField_of_strict
    · cases found_eq

theorem firstFrom_of_lenient
    (read : (lenient title (Row.cons member row) build fields).read depth (.object given) =
      some x) : FirstFrom member given build x := by
  cases depth with
  | zero => cases read
  | succ depth => exact firstFrom_of_read read fun _ => lastField_of_lenient

end Form

end IdentityOperator
