import IdentityOperator.Proofs.Installation.Placement

/-!
Objects that differ in a new password only.

A pass makes a password for a secret that it finds without one. Everything else that it makes of an
object is the same whichever pass it is (`Part.blanked_written`), and the stateful set does not depend
on the password of the database secret that it is built from (`ServerStatefulSet.refreshed_congr`).
`Store.withoutMade` puts a blank in the place of such passwords, so that stores can be compared that
have come about with different ones.
-/

namespace IdentityOperator

/-- An object of a part, with a blank for the password that had to be made if `live` was there
before. -/
def Part.blanked (kc : Keycloak) :
    (part : Part) → Option part.kind.Object → part.kind.Object → part.kind.Object
  | adminSecret, live, secret =>
    if AdminSecret.needsPassword live then Secret.setValue secret AdminSecret.passwordKey "" else secret
  | databaseSecret, live, secret =>
    if DatabaseSecret.needsPassword kc live then
      Secret.setValue secret DatabaseSecret.passwordKey ""
    else secret
  | _, _, object => object

/-- A store, with a blank for the password of a part that had to be made if the installation was in
another store before. -/
def Store.blank (kc : Keycloak) (store start : Store) (part : Part) : Store :=
  match store.find? part.kind (part.key kc) with
  | none => store
  | some object =>
    store.put ⟨part.kind, part.blanked kc (start.find? part.kind (part.key kc)) object⟩

/-- A store without the passwords that had to be made if the installation was in another store
before. -/
def Store.withoutMade (kc : Keycloak) (store start : Store) : Store :=
  (store.blank kc start .adminSecret).blank kc start .databaseSecret

section Blanked

variable {kc : Keycloak} {b later : Blueprint} {start : Store} {part : Part}
  {content : (part : Part) → part.kind.Object}

/-! ## Secrets -/

theorem AdminSecret.blanked_written (kc_eq : later.kc = b.kc) (live : Option Secret) :
    Part.blanked b.kc .adminSecret live (Part.written later .adminSecret live) =
      Part.blanked b.kc .adminSecret live (Part.written b .adminSecret live) := by
  cases live with
  | none =>
    show Secret.setValue (fresh later.kc _) _ _ = Secret.setValue (fresh b.kc _) _ _
    rw [kc_eq, fresh_eq_setValue, fresh_eq_setValue, Secret.setValue_setValue,
      Secret.setValue_setValue]
  | some current =>
    show (if needsPassword (some current) then Secret.setValue (refreshed _ current) _ _
        else refreshed _ current) =
      if needsPassword (some current) then Secret.setValue (refreshed _ current) _ _
        else refreshed _ current
    cases lacks : needsPassword (some current) with
    | true =>
      rw [if_pos rfl, if_pos rfl, refreshed_eq_setValue lacks, refreshed_eq_setValue lacks,
        Secret.setValue_setValue, Secret.setValue_setValue]
    | false => exact refreshed_congr lacks _ _

theorem DatabaseSecret.blanked_written (kc_eq : later.kc = b.kc) (live : Option Secret) :
    Part.blanked b.kc .databaseSecret live (Part.written later .databaseSecret live) =
      Part.blanked b.kc .databaseSecret live (Part.written b .databaseSecret live) := by
  cases live with
  | none =>
    show (if needsPassword b.kc none then Secret.setValue (fresh later.kc _) _ _
        else fresh later.kc _) =
      if needsPassword b.kc none then Secret.setValue (fresh b.kc _) _ _ else fresh b.kc _
    rw [kc_eq]
    cases enabled : b.kc.spec.externalDatabase.enabled with
    | true => rw [fresh_congr enabled]
    | false =>
      rw [fresh_eq_setValue enabled, fresh_eq_setValue enabled, Secret.setValue_setValue,
        Secret.setValue_setValue, if_pos (by simp [needsPassword, enabled]),
        if_pos (by simp [needsPassword, enabled])]
  | some current =>
    show (if needsPassword b.kc (some current) then Secret.setValue (refreshed later.kc _ current) _ _
        else refreshed later.kc _ current) =
      if needsPassword b.kc (some current) then Secret.setValue (refreshed b.kc _ current) _ _
        else refreshed b.kc _ current
    rw [kc_eq]
    cases lacks : needsPassword b.kc (some current) with
    | true =>
      rw [if_pos rfl, if_pos rfl, refreshed_eq_setValue lacks, refreshed_eq_setValue lacks,
        Secret.setValue_setValue, Secret.setValue_setValue]
    | false => exact refreshed_congr lacks _

/-- But for its password, an object does not depend on the pass that has written it; only the stateful
set may have been built from another database secret. -/
theorem Part.blanked_written (kc_eq : later.kc = b.kc) (part_ne : part ≠ .statefulSet)
    (live : Option part.kind.Object) :
    part.blanked b.kc live (part.written later live) = part.blanked b.kc live (part.written b live) := by
  cases part with
  | adminSecret => exact AdminSecret.blanked_written kc_eq live
  | databaseSecret => exact DatabaseSecret.blanked_written kc_eq live
  | statefulSet => exact absurd rfl part_ne
  | _ =>
    obtain ⟨kc, profiles, passwords, secret⟩ := later
    cases kc_eq
    cases live <;> rfl

/-- What else is in the database secret does not depend on it either. -/
theorem DatabaseSecret.value?_congr {live : Option Secret} {secret other : Secret} {key : String}
    (same : Part.blanked kc .databaseSecret live secret = Part.blanked kc .databaseSecret live other)
    (differs : key ≠ passwordKey) : secret.value? key = other.value? key := by
  have same : (if needsPassword kc live then secret.setValue passwordKey "" else secret) =
      if needsPassword kc live then other.setValue passwordKey "" else other := same
  split at same
  · rw [← Secret.value?_setValue_of_ne secret "" differs, same,
      Secret.value?_setValue_of_ne other "" differs]
  · rw [same]

theorem Part.key_blanked (kc : Keycloak) (live : Option part.kind.Object) (x : part.kind.Object) :
    (⟨part.kind, part.blanked kc live x⟩ : Object).key = (⟨part.kind, x⟩ : Object).key := by
  cases part with
  | adminSecret =>
    show (⟨.secret, if AdminSecret.needsPassword live then _ else x⟩ : Object).key = _
    cases AdminSecret.needsPassword live <;> rfl
  | databaseSecret =>
    show (⟨.secret, if DatabaseSecret.needsPassword kc live then _ else x⟩ : Object).key = _
    cases DatabaseSecret.needsPassword kc live <;> rfl
  | _ => rfl

/-- To blank the password of a part that has been put into a store is to put it there without. -/
theorem Part.AtPlaces.blank_putAll {parts : List Part} (at_places : Part.AtPlaces kc content parts)
    (nodup : parts.Nodup) (mem : part ∈ parts) (store : Store) :
    (store.putAll (Part.objects content parts)).blank kc start part =
      store.putAll (Part.objects (Function.update content part
        (part.blanked kc (start.find? part.kind (part.key kc)) (content part))) parts) := by
  rw [Store.blank, at_places.find?_of_mem nodup mem]
  exact at_places.putAll_put nodup mem ((Part.key_blanked kc _ _).trans (at_places part mem)) store

/-- Without the passwords that had to be made, a store has the same parts, but without these
passwords. -/
theorem Part.AtPlaces.withoutMade_putAll {flags : InstallationFlags}
    (at_places : Part.AtPlaces kc content (Part.wanted kc flags)) :
    (start.putAll (Part.objects content (Part.wanted kc flags))).withoutMade kc start =
      start.putAll (Part.objects
        (fun part => part.blanked kc (start.find? part.kind (part.key kc)) (content part))
        (Part.wanted kc flags)) := by
  have nodup := Part.nodup_wanted kc flags
  have admin_wanted : Part.adminSecret ∈ Part.wanted kc flags := Part.mem_wanted rfl
  have secret_wanted : Part.databaseSecret ∈ Part.wanted kc flags := Part.mem_wanted rfl
  have still_at_places := at_places.update ((Part.key_blanked kc
    (start.find? Part.adminSecret.kind (Part.adminSecret.key kc)) _).trans (at_places _ admin_wanted))
    (Part.wanted kc flags) fun _ mem => .inr mem
  rw [Store.withoutMade, at_places.blank_putAll nodup admin_wanted,
    still_at_places.blank_putAll nodup secret_wanted, Function.update_of_ne (by decide)]
  refine congrArg start.putAll (List.map_congr_left fun part _ => ?_)
  cases part <;> rfl

/-! ## Place by place -/

theorem Store.find?_blank_self (store start : Store) (part : Part) :
    (store.blank kc start part).find? part.kind (part.key kc) =
      (store.find? part.kind (part.key kc)).map
        (part.blanked kc (start.find? part.kind (part.key kc))) := by
  unfold Store.blank
  cases found : store.find? part.kind (part.key kc) with
  | none => exact found
  | some x =>
    have key_eq := (Part.key_blanked kc (start.find? part.kind (part.key kc)) x).trans
      (Store.key_of_find? found)
    have found_put := store.find?_put_self
      ⟨part.kind, part.blanked kc (start.find? part.kind (part.key kc)) x⟩
    rw [key_eq] at found_put
    exact found_put

theorem Store.find?_blank_of_ne {kind : Kind} {key : ObjectKey} (store start : Store)
    (elsewhere : ¬ (part.kind = kind ∧ part.key kc = key)) :
    (store.blank kc start part).find? kind key = store.find? kind key := by
  unfold Store.blank
  cases found : store.find? part.kind (part.key kc) with
  | none => rfl
  | some x =>
    refine store.find?_put_of_ne ?_
    rw [← Bool.not_eq_true, Store.isAt_iff, Part.key_blanked, Store.key_of_find? found]
    exact elsewhere

/-- What is at a place with the password of a part blanked depends only on what is there. -/
theorem Store.find?_blank_congr {store other : Store} {kind : Kind} {key : ObjectKey}
    (same : store.find? kind key = other.find? kind key) (start : Store) (part : Part) :
    (store.blank kc start part).find? kind key = (other.blank kc start part).find? kind key := by
  by_cases here : part.kind = kind ∧ part.key kc = key
  · obtain ⟨rfl, rfl⟩ := here
    rw [find?_blank_self, find?_blank_self, same]
  · rw [find?_blank_of_ne store start here, find?_blank_of_ne other start here, same]

theorem Store.find?_withoutMade_congr {store other : Store} {kind : Kind} {key : ObjectKey}
    (same : store.find? kind key = other.find? kind key) (start : Store) :
    (store.withoutMade kc start).find? kind key = (other.withoutMade kc start).find? kind key :=
  find?_blank_congr (find?_blank_congr same start _) start _

end Blanked

/-! ## Stateful sets -/

namespace ServerStatefulSet

variable {b later last : Blueprint}

/-- The pods depend on where the database is and on nothing else in its secret. -/
theorem template_eq_of_location {kc : Keycloak} {profiles : Profiles} {secret other : Option Secret}
    (host : DatabaseSecret.host? secret = DatabaseSecret.host? other)
    (port : DatabaseSecret.port secret = DatabaseSecret.port other)
    (database : DatabaseSecret.database secret = DatabaseSecret.database other) :
    template kc secret profiles = template kc other profiles := by
  simp only [template, container, serverEnv, managedEnv, databaseAddress, host, port, database]

/-- So they do not depend on its password. -/
theorem template_congr {kc : Keycloak} {profiles : Profiles} {secret other : Secret}
    (same : ∀ key, key ≠ DatabaseSecret.passwordKey → secret.value? key = other.value? key) :
    template kc (some secret) profiles = template kc (some other) profiles := by
  have host := same DatabaseSecret.hostKey (by decide)
  have port := same DatabaseSecret.portKey (by decide)
  have database := same DatabaseSecret.databaseKey (by decide)
  apply template_eq_of_location
  · exact host
  · simp only [DatabaseSecret.port, Option.bind_some, port]
  · simp only [DatabaseSecret.database, Option.bind_some, database]

/-- So it does not matter which password stood in the secret that a pass has found. -/
theorem refreshed_congr {secret other : Secret} (kc_eq : later.kc = b.kc)
    (profiles_eq : later.profiles = b.profiles) (secret_eq : b.databaseSecret = some secret)
    (other_eq : later.databaseSecret = some other)
    (same : ∀ key, key ≠ DatabaseSecret.passwordKey → secret.value? key = other.value? key)
    (current : StatefulSet) :
    Part.refreshed later .statefulSet current = Part.refreshed b .statefulSet current := by
  obtain ⟨kc, profiles, passwords, _⟩ := later
  cases kc_eq
  cases profiles_eq
  cases other_eq
  show refreshed b.kc (some other) b.profiles current =
    refreshed b.kc b.databaseSecret b.profiles current
  rw [secret_eq]
  cases present : current.spec <;>
    simp only [refreshed, refreshedSpec, spec, present, template_congr same]

/-- Of a stateful set that a pass has written another pass makes the same, whichever pass it was. -/
theorem refreshed_written (kc_eq : later.kc = b.kc) (live : Option StatefulSet) :
    Part.refreshed last .statefulSet (Part.written later .statefulSet live) =
      Part.refreshed last .statefulSet (Part.written b .statefulSet live) := by
  obtain ⟨kc, profiles, passwords, secret⟩ := later
  cases kc_eq
  cases live with
  | none => rfl
  | some current =>
    obtain ⟨metadata, spec, status⟩ := current
    cases spec <;> rfl

/-- And so it does of one that has been refreshed in between. -/
theorem refreshed_of_refreshed {current : StatefulSet} (present : current.spec.isSome) :
    Part.refreshed last .statefulSet (Part.refreshed later .statefulSet current) =
      Part.refreshed last .statefulSet current := by
  obtain ⟨spec, spec_eq⟩ := Option.isSome_iff_exists.1 present
  obtain ⟨metadata, _, status⟩ := current
  cases spec_eq
  rfl

end ServerStatefulSet

end IdentityOperator
