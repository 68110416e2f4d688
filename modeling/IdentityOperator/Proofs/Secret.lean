import IdentityOperator.Kube.Secret
import IdentityOperator.Proofs.Text
import IdentityOperator.Proofs.TextMap

/-!
What is read from a secret after a value has been set or filled in.

A value counts if its text is not empty, wherever it stands: in `data`, or in `stringData` where
`data` lacks the key. Filling in therefore never changes what is read under a key with a value, and
it leaves a value under its own key, unless the new text is empty.
-/

namespace IdentityOperator

namespace Secret

theorem ne_empty_of_value? {secret : Secret} {key text : String}
    (value_eq : secret.value? key = some text) : text ≠ "" := by
  unfold value? at value_eq
  simpa using (Option.filter_eq_some_iff.1 value_eq).2

/-- An empty text is read just where there is no value. -/
theorem value?_getD_eq_empty_iff {secret : Secret} {key : String} :
    (secret.value? key).getD "" = "" ↔ secret.value? key = none := by
  cases value_eq : secret.value? key with
  | none => simp
  | some text => simp [ne_empty_of_value? value_eq]

/-! ## Setting a value -/

/-- Without data there is nothing under any key. -/
theorem get?_data_getD (secret : Secret) (key : String) :
    (secret.data.getD .empty).get? key = secret.data.bind (·.get? key) := by
  cases secret.data <;> rfl

theorem value?_setValue_self (secret : Secret) (key : String) {value : String}
    (nonempty : value ≠ "") : (secret.setValue key value).value? key = some value := by
  simp [setValue, value?, nonempty]

theorem value?_setValue_of_ne (secret : Secret) {key other : String} (value : String)
    (differs : other ≠ key) : (secret.setValue key value).value? other = secret.value? other := by
  have found : ((secret.data.getD .empty).insert key (Utf8.encode value)).get? other =
      secret.data.bind (·.get? other) := by
    rw [TextMap.get?_insert_of_ne _ _ differs, get?_data_getD]
  simp [setValue, value?, found]

/-- Of two values under a key the later one counts. -/
theorem setValue_setValue (secret : Secret) (key first second : String) :
    (secret.setValue key first).setValue key second = secret.setValue key second := by
  simp [setValue, TextMap.insert_insert]

theorem setValue_comm (secret : Secret) {key other : String} (differs : key ≠ other)
    (value set : String) :
    (secret.setValue key value).setValue other set =
      (secret.setValue other set).setValue key value := by
  simp [setValue, TextMap.insert_comm _ differs]

/-- To set a value that stands in `data` changes nothing. -/
theorem setValue_of_get? {secret : Secret} {data : ByteMap} {key value : String}
    (data_eq : secret.data = some data) (found : data.get? key = some (Utf8.encode value)) :
    secret.setValue key value = secret := by
  cases secret
  cases data_eq
  simp [setValue, TextMap.insert_of_get? found]

/-! ## Filling in a value -/

theorem fillValue_of_isSome {secret : Secret} {key value : String}
    (present : (secret.value? key).isSome) : secret.fillValue key value = secret := by
  rw [fillValue, if_pos present]

theorem value?_fillValue_of_ne (secret : Secret) {key other : String} (value : String)
    (differs : other ≠ key) : (secret.fillValue key value).value? other = secret.value? other := by
  unfold fillValue
  split
  · rfl
  · exact value?_setValue_of_ne _ _ differs

/-- What is filled in does not depend on what is set elsewhere. -/
theorem fillValue_setValue_comm (secret : Secret) {key other : String} (differs : key ≠ other)
    (value filled : String) :
    (secret.setValue key value).fillValue other filled =
      (secret.fillValue other filled).setValue key value := by
  rw [fillValue, fillValue, value?_setValue_of_ne _ _ differs.symm]
  split
  · rfl
  · rw [setValue_comm _ differs]

/-- What is read under any key stays. -/
theorem value?_fillValue_of_eq_some {secret : Secret} {key other text : String} (value : String)
    (found : secret.value? other = some text) :
    (secret.fillValue key value).value? other = some text := by
  by_cases present : (secret.value? key).isSome
  · rw [fillValue_of_isSome present, found]
  · have differs : other ≠ key := by
      rintro rfl
      simp [found] at present
    rw [fillValue, if_neg present, value?_setValue_of_ne _ _ differs, found]

theorem isSome_value?_fillValue_self (secret : Secret) (key : String) {value : String}
    (nonempty : value ≠ "") : ((secret.fillValue key value).value? key).isSome := by
  by_cases present : (secret.value? key).isSome
  · rwa [fillValue_of_isSome present]
  · rw [fillValue, if_neg present, value?_setValue_self _ _ nonempty]
    rfl

theorem isSome_value?_fillValue {secret : Secret} {key other : String} (value : String)
    (present : (secret.value? other).isSome) :
    ((secret.fillValue key value).value? other).isSome := by
  obtain ⟨text, found⟩ := Option.isSome_iff_exists.1 present
  rw [value?_fillValue_of_eq_some value found]
  rfl

@[simp] theorem metadata_setValue (secret : Secret) (key value : String) :
    (secret.setValue key value).metadata = secret.metadata := rfl

@[simp] theorem metadata_fillValue (secret : Secret) (key value : String) :
    (secret.fillValue key value).metadata = secret.metadata := by
  by_cases present : (secret.value? key).isSome
  · rw [fillValue_of_isSome present]
  · rw [fillValue, if_neg present, metadata_setValue]

end Secret

end IdentityOperator
