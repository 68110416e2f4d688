import IdentityOperator.Proofs.Installation.Credentials
import IdentityOperator.Proofs.Pass.Requests
import IdentityOperator.Proofs.Store

/-!
What a request can do to the credentials in stored secrets.

The cluster may refuse a call or lose its answer, and may so report a secret as missing that is there.
Creating is harmless even then, because a creation leaves alone what it finds. Only an update can
write over a credential, so it has to carry on every credential of the secret that is stored at that
moment: this is what makes a request *careful* (`Pass.Careful`), and after a careful request every
credential is where it was, whatever the answer (`Pass.Careful.kept`).
-/

namespace IdentityOperator

/-! ## Secrets -/

/-- The keys under which credentials stand in secrets. -/
def credentialKeys : List String := [
  AdminSecret.usernameKey, AdminSecret.passwordKey, DatabaseSecret.usernameKey,
  DatabaseSecret.passwordKey, UserSecret.usernameKey, UserSecret.passwordKey]

/-- Every credential of a secret is read from another one too. -/
def Secret.KeptIn (old new : Secret) : Prop :=
  ∀ key ∈ credentialKeys, ∀ value, old.value? key = some value → new.value? key = some value

theorem Secret.KeptIn.refl (secret : Secret) : secret.KeptIn secret := fun _ _ _ found => found

theorem Secret.KeptIn.trans {old new newest : Secret} (first : old.KeptIn new)
    (second : new.KeptIn newest) : old.KeptIn newest :=
  fun key mem value found => second key mem value (first key mem value found)

theorem Secret.keptIn_fillValue (secret : Secret) (key value : String) :
    secret.KeptIn (secret.fillValue key value) :=
  fun _ _ _ found => Secret.value?_fillValue_of_eq_some value found

theorem AdminSecret.keptIn_refreshed (password : String) (current : Secret) :
    current.KeptIn (refreshed password current) :=
  (current.keptIn_fillValue usernameKey username).trans (Secret.keptIn_fillValue _ _ _)

/-- What is declared about an external database stands under no key of a credential. -/
theorem DatabaseSecret.keptIn_setDeclared {key : String} (other : key ∉ credentialKeys)
    (value : Option String) (secret : Secret) : secret.KeptIn (setDeclared key value secret) := by
  cases value with
  | none => exact .refl secret
  | some text =>
    intro credential mem value found
    have differs : credential ≠ key := fun same => other (same ▸ mem)
    rw [setDeclared, Secret.value?_setValue_of_ne secret text differs, found]

theorem DatabaseSecret.keptIn_refreshed (kc : Keycloak) (password : String) (current : Secret) :
    current.KeptIn (refreshed kc password current) := by
  unfold refreshed
  dsimp only
  split
  · have with_data : current.KeptIn { current with data := some (current.data.getD .empty) } := by
      intro key _ value found
      have same : (some (current.data.getD .empty)).bind (·.get? key) =
          current.data.bind (·.get? key) := current.get?_data_getD key
      rwa [Secret.value?, same]
    refine Secret.KeptIn.trans ?_ (keptIn_setDeclared (by decide) _ _)
    refine Secret.KeptIn.trans ?_ (keptIn_setDeclared (by decide) _ _)
    exact with_data.trans (keptIn_setDeclared (by decide) _ _)
  · exact (current.keptIn_fillValue _ _).trans
      ((Secret.keptIn_fillValue _ _ _).trans (Secret.keptIn_fillValue _ _ _))

/-- Whatever part of an installation a secret is, bringing it in line keeps its credentials. -/
theorem Part.keptIn_refreshed (b : Blueprint) {part : Part} {old new : Secret}
    {live : part.kind.Object} (old_eq : (⟨part.kind, live⟩ : Object) = ⟨.secret, old⟩)
    (new_eq : (⟨part.kind, part.refreshed b live⟩ : Object) = ⟨.secret, new⟩) :
    old.KeptIn new := by
  cases part with
  | adminSecret =>
    cases old_eq
    cases new_eq
    exact AdminSecret.keptIn_refreshed b.passwords.admin old
  | databaseSecret =>
    cases old_eq
    cases new_eq
    exact DatabaseSecret.keptIn_refreshed b.kc b.passwords.database old
  | _ => cases old_eq

/-! ## Stores -/

namespace Store

/-- Every secret of a store is still there in another one, with its credentials. -/
def CredentialsKeptIn (before after : Store) : Prop :=
  ∀ key old, before.find? .secret key = some old →
    ∃ new, after.find? .secret key = some new ∧ old.KeptIn new

/-- Two stores have the same secrets. -/
def SameSecrets (before after : Store) : Prop :=
  ∀ key, after.find? .secret key = before.find? .secret key

variable {before middle after : Store}

theorem SameSecrets.refl (store : Store) : store.SameSecrets store := fun _ => rfl

theorem SameSecrets.symm (same : before.SameSecrets after) : after.SameSecrets before :=
  fun key => (same key).symm

theorem SameSecrets.trans (first : before.SameSecrets middle) (second : middle.SameSecrets after) :
    before.SameSecrets after :=
  fun key => (second key).trans (first key)

theorem SameSecrets.kept (same : before.SameSecrets after) : before.CredentialsKeptIn after :=
  fun key old found => ⟨old, (same key).trans found, .refl old⟩

theorem CredentialsKeptIn.trans (first : before.CredentialsKeptIn middle)
    (second : middle.CredentialsKeptIn after) : before.CredentialsKeptIn after := by
  intro key old found
  obtain ⟨new, found, kept⟩ := first key old found
  obtain ⟨newest, found, kept_too⟩ := second key new found
  exact ⟨newest, found, kept.trans kept_too⟩

/-- An object may be written to a store if no credential is lost by it. -/
def CarefulUpdate (store : Store) (o : Object) : Prop :=
  ∀ old new : Secret, o = ⟨.secret, new⟩ → store.find? .secret o.key = some old → old.KeptIn new

/-- The store after a call that is carried out has every credential, if the call writes nothing but
careful updates and deletes no secret. -/
theorem credentialsKeptIn_perform {store : Store} {call : ClusterCall}
    (update : ∀ o, call = .update o → store.CarefulUpdate o)
    (delete : ∀ o, call = .delete o → o.kind ≠ .secret) :
    store.CredentialsKeptIn (store.perform call).2 := by
  cases call with
  | get kind key =>
    cases found : store.find? kind key with
    | none => rw [perform_get_of_none found]; exact (SameSecrets.refl store).kept
    | some x => rw [perform_get_of_some found]; exact (SameSecrets.refl store).kept
  | list kind ns labels => exact (SameSecrets.refl store).kept
  | delete o =>
    have same : store.SameSecrets (store.remove o.kind o.key) := fun key =>
      find?_remove_of_ne store (.inl (delete o rfl))
    exact same.kept
  | create o =>
    cases present : store.contains o.kind o.key with
    | true => rw [perform_create_of_contains present]; exact (SameSecrets.refl store).kept
    | false =>
      rw [perform_create_of_missing present]
      intro key old found
      refine ⟨old, (store.find?_put_of_ne ?_).trans found, .refl old⟩
      rw [← Bool.not_eq_true, isAt_iff]
      rintro ⟨kind_eq, rfl⟩
      rw [← find?_eq_none_iff, kind_eq, found] at present
      cases present
  | update o =>
    cases present : store.contains o.kind o.key with
    | false => rw [perform_update_of_missing present]; exact (SameSecrets.refl store).kept
    | true =>
      rw [perform_update_of_contains present]
      intro key old found
      cases here : isAt .secret key o with
      | false => exact ⟨old, (store.find?_put_of_ne here).trans found, .refl old⟩
      | true =>
        obtain ⟨kind_eq, rfl⟩ := isAt_iff.1 here
        obtain ⟨kind, new⟩ := o
        cases kind_eq
        exact ⟨new, store.find?_put_self _, update _ rfl old new rfl found⟩

end Store

/-! ## Requests -/

namespace Pass

/-- A cluster on which any call may fail, with or without having been carried out, and with any error.
Everything but the secrets may change at any time. -/
def Unreliable : PassEnvironment Store
  | .cluster call, store, answer, after =>
    ∃ served : Store, served.SameSecrets after ∧
      (store.perform call = (answer, served) ∨
        (∃ e, answer = .error e) ∧ (served = store ∨ served = (store.perform call).2))
  | _, store, _, after => store.SameSecrets after

/-- A request by which no credential is lost, if it is carried out now. -/
def Careful : PassRequest → Store → Prop
  | .cluster (.update o), store => store.CarefulUpdate o
  | .cluster (.delete o), _ => o.kind ≠ .secret
  | _, _ => True

theorem careful_of_not_replaces (request : PassRequest) (store : Store)
    (keeps : ¬ request.Replaces) : Careful request store := by
  cases request with
  | cluster call => cases call <;> simp_all [PassRequest.Replaces, Careful]
  | _ => trivial

theorem careful_of_not_writes (request : PassRequest) (store : Store)
    (reads : ¬ request.Writes) : Careful request store :=
  careful_of_not_replaces request store (PassRequest.not_replaces_of_not_writes reads)

variable {request : PassRequest} {store after : Store} {answer : request.Answer}

/-- A call is carried out or it is not. -/
theorem sameSecrets_or {call : ClusterCall} {answer : call.Answer}
    (answered : Unreliable (.cluster call) store answer after) :
    store.SameSecrets after ∨ (store.perform call).2.SameSecrets after := by
  obtain ⟨served, same, done | ⟨-, rfl | rfl⟩⟩ := answered
  · rw [done]
    exact .inr same
  · exact .inl same
  · exact .inr same

/-- After a careful request every secret is there with every credential that it had, whether the
request was carried out or not. -/
theorem Careful.kept (careful : Careful request store)
    (answered : Unreliable request store answer after) : store.CredentialsKeptIn after := by
  cases request with
  | cluster call =>
    have performed : store.CredentialsKeptIn (store.perform call).2 :=
      Store.credentialsKeptIn_perform (fun o call_eq => by subst call_eq; exact careful)
        (fun o call_eq => by subst call_eq; exact careful)
    rcases sameSecrets_or answered with same | same
    · exact same.kept
    · exact performed.trans same.kept
  | _ => exact Store.SameSecrets.kept answered

/-- A request that writes nothing leaves the secrets alone. -/
theorem sameSecrets_of_not_writes (reads : ¬ request.Writes)
    (answered : Unreliable request store answer after) : store.SameSecrets after := by
  cases request with
  | cluster call =>
    have untouched : (store.perform call).2 = store := by
      cases call with
      | get kind key =>
        cases found : store.find? kind key with
        | none => rw [Store.perform_get_of_none found]
        | some x => rw [Store.perform_get_of_some found]
      | list kind ns labels => rfl
      | _ => exact (reads trivial).elim
    rw [← untouched]
    rcases sameSecrets_or answered with same | same
    · rwa [untouched]
    · exact same
  | _ => exact answered

/-- Writing an object leaves the secrets alone that are elsewhere. -/
theorem find?_of_write {o : Object} {key : ObjectKey} (elsewhere : Store.isAt .secret key o = false)
    {call : ClusterCall} (writes : call = .create o ∨ call = .update o) {answer : call.Answer}
    (answered : Unreliable (.cluster call) store answer after) :
    after.find? .secret key = store.find? .secret key := by
  have performed : (store.perform call).2.find? .secret key = store.find? .secret key := by
    rcases writes with rfl | rfl
    · cases present : store.contains o.kind o.key with
      | true => rw [Store.perform_create_of_contains present]
      | false =>
        rw [Store.perform_create_of_missing present]
        exact store.find?_put_of_ne elsewhere
    · cases present : store.contains o.kind o.key with
      | false => rw [Store.perform_update_of_missing present]
      | true =>
        rw [Store.perform_update_of_contains present]
        exact store.find?_put_of_ne elsewhere
  rcases sameSecrets_or answered with same | same
  · exact same key
  · exact (same key).trans performed

end Pass

end IdentityOperator
