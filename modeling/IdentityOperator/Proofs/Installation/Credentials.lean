import IdentityOperator.Installation.Credentials
import IdentityOperator.Proofs.Secret

/-!
The secrets of an installation, brought in line once and then again.

A secret that has every value the operator fills in is left alone, whatever password is at hand. The
database secret of an installation with an external database is left alone once it says what is
declared. New secrets and completed ones are of this sort, provided that a password which had to be
made is not empty: `AdminSecret.complete_fresh`, `AdminSecret.complete_refreshed`,
`DatabaseSecret.settled_fresh` and `DatabaseSecret.settled_refreshed`.
-/

namespace IdentityOperator

/-- The values of a new secret are read back, unless they are empty. -/
theorem value?_opaqueSecret {metadata : ObjectMeta} {values : List (String × String)}
    {key : String} (text : String) (nonempty : text ≠ "")
    (found : (TextMap.ofList (values.map fun entry => (entry.1, Utf8.encode entry.2))).get? key =
      some (Utf8.encode text)) :
    ((opaqueSecret metadata values).value? key).isSome := by
  simp [opaqueSecret, Secret.value?, found, nonempty]

/-! ## The administrator -/

namespace AdminSecret

/-- There is a name and a password. -/
structure Complete (secret : Secret) : Prop where
  username : (secret.value? usernameKey).isSome
  password : (secret.value? passwordKey).isSome

theorem metadata_refreshed (password : String) (current : Secret) :
    (refreshed password current).metadata = current.metadata := by
  simp [refreshed]

theorem refreshed_of_complete {secret : Secret} (complete : Complete secret) (password : String) :
    refreshed password secret = secret := by
  rw [refreshed, Secret.fillValue_of_isSome complete.username,
    Secret.fillValue_of_isSome complete.password]

theorem complete_fresh (kc : Keycloak) {password : String} (nonempty : password ≠ "") :
    Complete (fresh kc password) where
  username := value?_opaqueSecret username (by decide) (by
    simp [TextMap.ofList, TextMap.get?_insert, usernameKey, passwordKey])
  password := value?_opaqueSecret password nonempty (by simp [TextMap.ofList])

/-- A secret is completed as soon as there is a password for one that has none. -/
theorem complete_refreshed {password : String} {current : Secret}
    (made : needsPassword (some current) = true → password ≠ "") :
    Complete (refreshed password current) where
  username :=
    Secret.isSome_value?_fillValue password
      (Secret.isSome_value?_fillValue_self current usernameKey (by decide))
  password := by
    cases found : current.value? passwordKey with
    | none =>
      have nonempty := made (by simp [needsPassword, found])
      exact Secret.isSome_value?_fillValue_self _ _ nonempty
    | some text =>
      refine Secret.isSome_value?_fillValue password (Secret.isSome_value?_fillValue username ?_)
      simp [found]

theorem fresh_eq_setValue (kc : Keycloak) (password : String) :
    fresh kc password =
      (opaqueSecret (kc.ownedMeta (name kc) appLabels) [(usernameKey, username)]).setValue
        passwordKey password := rfl

/-- A password that had to be made is just set. -/
theorem refreshed_eq_setValue {current : Secret} (lacks : needsPassword (some current) = true)
    (password : String) :
    refreshed password current =
      (current.fillValue usernameKey username).setValue passwordKey password := by
  have missing : (current.fillValue usernameKey username).value? passwordKey = none := by
    rw [Secret.value?_fillValue_of_ne _ _ (by decide)]
    simpa [needsPassword] using lacks
  rw [refreshed, Secret.fillValue, if_neg (by simp [missing])]

/-- A password is of no use where there is one. -/
theorem refreshed_congr {current : Secret} (has : needsPassword (some current) = false)
    (password other : String) : refreshed password current = refreshed other current := by
  have present : ((current.fillValue usernameKey username).value? passwordKey).isSome := by
    rw [Secret.value?_fillValue_of_ne _ _ (by decide)]
    simpa [needsPassword, Option.isSome_iff_ne_none] using has
  rw [refreshed, refreshed, Secret.fillValue_of_isSome present, Secret.fillValue_of_isSome present]

/-- A secret that has a password takes none. -/
theorem needsPassword_of_complete {secret : Secret} (complete : Complete secret) :
    needsPassword (some secret) = false := by
  obtain ⟨password, found⟩ := Option.isSome_iff_exists.1 complete.password
  simp [needsPassword, found]

end AdminSecret

/-! ## The database -/

namespace DatabaseSecret

theorem metadata_setDeclared (key : String) (value : Option String) (secret : Secret) :
    (setDeclared key value secret).metadata = secret.metadata := by
  cases value <;> rfl

theorem metadata_refreshed (kc : Keycloak) (password : String) (current : Secret) :
    (refreshed kc password current).metadata = current.metadata := by
  unfold refreshed
  dsimp only
  split
  · rw [metadata_setDeclared, metadata_setDeclared, metadata_setDeclared]
  · simp

/-- There are credentials and the name of a database. -/
structure Complete (secret : Secret) : Prop where
  username : (secret.value? usernameKey).isSome
  password : (secret.value? passwordKey).isSome
  database : (secret.value? databaseKey).isSome

/-- What is declared stands in the data of a secret. -/
def Stores (key : String) (value : Option String) (secret : Secret) : Prop :=
  ∀ text, value = some text →
    ∃ data, secret.data = some data ∧ data.get? key = some (Utf8.encode text)

theorem setDeclared_of_stores {key : String} {value : Option String} {secret : Secret}
    (stores : Stores key value secret) : setDeclared key value secret = secret := by
  cases value with
  | none => rfl
  | some text =>
    obtain ⟨data, data_eq, found⟩ := stores text rfl
    exact Secret.setValue_of_get? data_eq found

theorem stores_setDeclared_self (key : String) (value : Option String) (secret : Secret) :
    Stores key value (setDeclared key value secret) := by
  rintro text rfl
  exact ⟨_, rfl, TextMap.get?_insert_self _ _ _⟩

theorem stores_setDeclared_of_ne {key other : String} {value : Option String} {secret : Secret}
    (differs : key ≠ other) (set : Option String) (stores : Stores key value secret) :
    Stores key value (setDeclared other set secret) := by
  intro text value_eq
  obtain ⟨data, data_eq, found⟩ := stores text value_eq
  cases set with
  | none => exact ⟨data, data_eq, found⟩
  | some new =>
    refine ⟨_, rfl, ?_⟩
    rw [TextMap.get?_insert_of_ne _ _ differs, data_eq]
    exact found

theorem isSome_data_setDeclared (key : String) (value : Option String) {secret : Secret}
    (present : secret.data.isSome) : (setDeclared key value secret).data.isSome := by
  cases value with
  | none => exact present
  | some text => rfl

/-- A secret says what is declared about an external database. -/
structure Declares (external : ExternalDatabase) (secret : Secret) : Prop where
  data : secret.data.isSome
  host : Stores hostKey (nonEmpty? external.host) secret
  port : Stores portKey (external.port.map Integer.ofInt32) secret
  database : Stores databaseKey external.database secret

variable {kc : Keycloak} {secret current : Secret} {password : String}

theorem refreshed_of_complete (embedded : kc.spec.externalDatabase.enabled = false)
    (complete : Complete secret) (later : String) : refreshed kc later secret = secret := by
  simp [refreshed, embedded, Secret.fillValue_of_isSome complete.username,
    Secret.fillValue_of_isSome complete.password, Secret.fillValue_of_isSome complete.database]

theorem refreshed_of_declares (external : kc.spec.externalDatabase.enabled = true)
    (declares : Declares kc.spec.externalDatabase secret) (later : String) :
    refreshed kc later secret = secret := by
  obtain ⟨data, data_eq⟩ := Option.isSome_iff_exists.1 declares.data
  have data_kept : { secret with data := some (secret.data.getD .empty) } = secret := by
    cases secret
    cases data_eq
    rfl
  simp only [refreshed, external, if_true, data_kept]
  rw [setDeclared_of_stores declares.host, setDeclared_of_stores declares.port,
    setDeclared_of_stores declares.database]

theorem complete_fresh (embedded : kc.spec.externalDatabase.enabled = false)
    (nonempty : password ≠ "") : Complete (fresh kc password) := by
  have values_eq : freshValues kc.spec.externalDatabase password =
      [(usernameKey, username), (passwordKey, password), (databaseKey, defaultDatabase)] := by
    simp [freshValues, embedded]
  rw [fresh, values_eq]
  constructor
  · exact value?_opaqueSecret username (by decide) (by
      simp [TextMap.ofList, TextMap.get?_insert, usernameKey, passwordKey, databaseKey])
  · exact value?_opaqueSecret password nonempty (by
      simp [TextMap.ofList, TextMap.get?_insert, passwordKey, databaseKey])
  · exact value?_opaqueSecret defaultDatabase (by decide) (by simp [TextMap.ofList])

theorem declares_fresh (external : kc.spec.externalDatabase.enabled = true) :
    Declares kc.spec.externalDatabase (fresh kc password) where
  data := rfl
  host := by
    intro host host_eq
    refine ⟨_, rfl, ?_⟩
    simp [freshValues, external, host_eq, TextMap.ofList, TextMap.get?_insert, hostKey, portKey,
      databaseKey]
  port := by
    intro port port_eq
    obtain ⟨number, number_eq, rfl⟩ := Option.map_eq_some_iff.1 port_eq
    refine ⟨_, rfl, ?_⟩
    cases host_eq : nonEmpty? kc.spec.externalDatabase.host <;>
      simp [freshValues, external, host_eq, number_eq, TextMap.ofList, TextMap.get?_insert, portKey,
        databaseKey]
  database := by
    intro database database_eq
    refine ⟨_, rfl, ?_⟩
    cases host_eq : nonEmpty? kc.spec.externalDatabase.host <;>
      simp [freshValues, external, host_eq, database_eq, TextMap.ofList]

theorem complete_refreshed (embedded : kc.spec.externalDatabase.enabled = false)
    (made : needsPassword kc (some current) = true → password ≠ "") :
    Complete (refreshed kc password current) := by
  simp only [refreshed, embedded, Bool.false_eq_true, if_false]
  constructor
  · exact Secret.isSome_value?_fillValue _ (Secret.isSome_value?_fillValue _
      (Secret.isSome_value?_fillValue_self current usernameKey (by decide)))
  · refine Secret.isSome_value?_fillValue _ ?_
    cases found : current.value? passwordKey with
    | none =>
      have nonempty := made (by simp [needsPassword, embedded, found])
      exact Secret.isSome_value?_fillValue_self _ _ nonempty
    | some text =>
      refine Secret.isSome_value?_fillValue _ (Secret.isSome_value?_fillValue _ ?_)
      simp [found]
  · exact Secret.isSome_value?_fillValue_self _ databaseKey (by decide)

theorem declares_refreshed (external : kc.spec.externalDatabase.enabled = true) :
    Declares kc.spec.externalDatabase (refreshed kc password current) := by
  simp only [refreshed, external, if_true]
  constructor
  · exact isSome_data_setDeclared _ _ (isSome_data_setDeclared _ _ (isSome_data_setDeclared _ _ rfl))
  · exact stores_setDeclared_of_ne (by decide) _ (stores_setDeclared_of_ne (by decide) _
      (stores_setDeclared_self _ _ _))
  · exact stores_setDeclared_of_ne (by decide) _ (stores_setDeclared_self _ _ _)
  · exact stores_setDeclared_self _ _ _

theorem fresh_eq_setValue (embedded : kc.spec.externalDatabase.enabled = false) :
    fresh kc password =
      (opaqueSecret (kc.ownedMeta name appLabels)
        [(usernameKey, username), (databaseKey, defaultDatabase)]).setValue passwordKey password := by
  simp only [fresh, freshValues, embedded, Bool.false_eq_true, if_false, opaqueSecret,
    Secret.setValue, TextMap.ofList, List.map_cons, List.map_nil, TextMap.insertMany_cons,
    TextMap.insertMany_nil, Option.getD_some]
  rw [TextMap.insert_comm _ (by decide : passwordKey ≠ databaseKey)]

theorem refreshed_eq_setValue (lacks : needsPassword kc (some current) = true) :
    refreshed kc password current =
      ((current.fillValue usernameKey username).fillValue databaseKey defaultDatabase).setValue
        passwordKey password := by
  obtain ⟨embedded, none_before⟩ : kc.spec.externalDatabase.enabled = false ∧
      current.value? passwordKey = none := by simpa [needsPassword] using lacks
  have missing : (current.fillValue usernameKey username).value? passwordKey = none := by
    rwa [Secret.value?_fillValue_of_ne _ _ (by decide)]
  have set_eq : (current.fillValue usernameKey username).fillValue passwordKey password =
      (current.fillValue usernameKey username).setValue passwordKey password := by
    rw [Secret.fillValue, if_neg (by simp [missing])]
  simp only [refreshed, embedded, Bool.false_eq_true, if_false]
  rw [set_eq, Secret.fillValue_setValue_comm _ (by decide)]

/-- A password is of no use where there is one, nor for an external database. -/
theorem refreshed_congr (has : needsPassword kc (some current) = false) (other : String) :
    refreshed kc password current = refreshed kc other current := by
  cases enabled : kc.spec.externalDatabase.enabled with
  | true => simp only [refreshed, enabled, if_true]
  | false =>
    have present : ((current.fillValue usernameKey username).value? passwordKey).isSome := by
      rw [Secret.value?_fillValue_of_ne _ _ (by decide)]
      simpa [needsPassword, enabled, Option.isSome_iff_ne_none] using has
    simp only [refreshed, enabled, Bool.false_eq_true, if_false]
    rw [Secret.fillValue_of_isSome present, Secret.fillValue_of_isSome present]

theorem fresh_congr (external : kc.spec.externalDatabase.enabled = true) (other : String) :
    fresh kc password = fresh kc other := by
  simp only [fresh, freshValues, external, if_true]

/-- Nothing is left to do about a secret: it has credentials for the embedded database, or it says
what is declared about the external one. -/
def Settled (kc : Keycloak) (secret : Secret) : Prop :=
  (kc.spec.externalDatabase.enabled = true → Declares kc.spec.externalDatabase secret) ∧
    (kc.spec.externalDatabase.enabled = false → Complete secret)

theorem settled_fresh (made : needsPassword kc none = true → password ≠ "") :
    Settled kc (fresh kc password) :=
  ⟨declares_fresh, fun embedded => complete_fresh embedded (made (by simp [needsPassword, embedded]))⟩

theorem settled_refreshed (made : needsPassword kc (some current) = true → password ≠ "") :
    Settled kc (refreshed kc password current) :=
  ⟨declares_refreshed, fun embedded => complete_refreshed embedded made⟩

theorem refreshed_of_settled (settled : Settled kc secret) (later : String) :
    refreshed kc later secret = secret := by
  cases enabled : kc.spec.externalDatabase.enabled with
  | true => exact refreshed_of_declares enabled (settled.1 enabled) later
  | false => exact refreshed_of_complete enabled (settled.2 enabled) later

theorem needsPassword_congr {other : Keycloak} (spec_eq : kc.spec = other.spec)
    (current : Option Secret) : needsPassword kc current = needsPassword other current := by
  simp only [needsPassword, spec_eq]

/-- A secret about which nothing is left to do takes no password. -/
theorem needsPassword_of_settled (settled : Settled kc secret) :
    needsPassword kc (some secret) = false := by
  cases enabled : kc.spec.externalDatabase.enabled with
  | true => simp [needsPassword, enabled]
  | false =>
    obtain ⟨password, found⟩ := Option.isSome_iff_exists.1 (settled.2 enabled).password
    simp [needsPassword, found]

end DatabaseSecret

end IdentityOperator
