import IdentityOperator.Proofs.Installation.NewPasswords
import IdentityOperator.Proofs.Installation.Pass
import Mathlib.Data.List.Forall2

/-!
Credentials stay in the secrets.

Two snapshots are *alike* if they differ in nothing but the credentials in the two secrets of an
installation (`Snapshot.Alike`). Plans that are made from such snapshots are alike step by step: the
same is done to the same objects with the same words, and the objects differ inside the two secrets
only, and there in credentials only (`Action.Alike`). This holds whatever passwords are made on the way.
What is reported about the installation does not depend on credentials at all
(`Pass.credentials_stay_in_secrets`).

The one object that is built from a secret without being one is the stateful set of the server. It takes
from the database secret where the database is, and refers to the rest.
-/

namespace IdentityOperator

/-- The keys of the credentials of an installation. -/
def installationCredentialKeys : List String := [
  AdminSecret.usernameKey, AdminSecret.passwordKey, DatabaseSecret.usernameKey,
  DatabaseSecret.passwordKey]

/-! ## Secrets -/

namespace Secret

/-- Two secrets are the same except for what stands under some keys. -/
structure AgreesBut (keys : List String) (secret other : Secret) : Prop where
  metadata : secret.metadata = other.metadata
  secretType : secret.secretType = other.secretType
  immutable : secret.immutable = other.immutable
  data : ∀ key, key ∉ keys → secret.data.bind (·.get? key) = other.data.bind (·.get? key)
  stringData : ∀ key, key ∉ keys →
    secret.stringData.bind (·.get? key) = other.stringData.bind (·.get? key)

/-- Two secrets are the same except for values under some keys, each of which both have or both lack. -/
structure AlikeBut (keys : List String) (secret other : Secret) : Prop where
  agrees : AgreesBut keys secret other
  present : ∀ key ∈ keys, (secret.value? key).isSome = (other.value? key).isSome

variable {keys : List String} {secret other : Secret} {key value set : String}

theorem AgreesBut.refl (keys : List String) (secret : Secret) : AgreesBut keys secret secret :=
  ⟨rfl, rfl, rfl, fun _ _ => rfl, fun _ _ => rfl⟩

theorem AgreesBut.value?_eq (agrees : AgreesBut keys secret other) (elsewhere : key ∉ keys) :
    secret.value? key = other.value? key := by
  unfold value?
  rw [agrees.data key elsewhere, agrees.stringData key elsewhere]

theorem AlikeBut.isSome_value? (alike : AlikeBut keys secret other) (key : String) :
    (secret.value? key).isSome = (other.value? key).isSome := by
  by_cases mem : key ∈ keys
  · exact alike.present key mem
  · rw [alike.agrees.value?_eq mem]

/-- To set a value in both keeps them the same; under one of the keys the values may differ. -/
theorem AgreesBut.setValue (agrees : AgreesBut keys secret other) (same : key ∈ keys ∨ value = set) :
    AgreesBut keys (secret.setValue key value) (other.setValue key set) where
  metadata := agrees.metadata
  secretType := agrees.secretType
  immutable := agrees.immutable
  data := by
    intro wanted elsewhere
    have before : (secret.data.getD .empty).get? wanted = (other.data.getD .empty).get? wanted := by
      rw [Secret.get?_data_getD, Secret.get?_data_getD, agrees.data wanted elsewhere]
    show ((secret.data.getD .empty).insert key _).get? wanted =
      ((other.data.getD .empty).insert key _).get? wanted
    rw [TextMap.get?_insert, TextMap.get?_insert]
    split
    · next here =>
      subst here
      rw [same.resolve_left elsewhere]
    · exact before
  stringData := agrees.stringData

/-- And so does filling in a value that both have or both lack. -/
theorem AgreesBut.fillValue (agrees : AgreesBut keys secret other)
    (present : (secret.value? key).isSome = (other.value? key).isSome)
    (same : key ∈ keys ∨ value = set) :
    AgreesBut keys (secret.fillValue key value) (other.fillValue key set) := by
  unfold Secret.fillValue
  rw [present]
  split
  · exact agrees
  · exact agrees.setValue same

/-- Two values that are not empty make no difference but under their own key. -/
theorem alikeBut_setValue (secret : Secret) (mem : key ∈ keys) (given : value ≠ "")
    (given' : set ≠ "") :
    AlikeBut keys (secret.setValue key value) (secret.setValue key set) where
  agrees := (AgreesBut.refl keys secret).setValue (.inl mem)
  present := by
    intro other _
    by_cases here : other = key
    · subst here
      rw [value?_setValue_self _ _ given, value?_setValue_self _ _ given']
      rfl
    · rw [value?_setValue_of_ne _ _ here, value?_setValue_of_ne _ _ here]

end Secret

section Secrets

variable {secret other current : Secret} {kc : Keycloak} {password set : String}

namespace AdminSecret

theorem agrees_fresh (kc : Keycloak) (password set : String) :
    Secret.AgreesBut installationCredentialKeys (fresh kc password) (fresh kc set) := by
  rw [fresh_eq_setValue, fresh_eq_setValue]
  exact (Secret.AgreesBut.refl _ _).setValue (.inl (by decide))

/-- Secrets that are alike are completed alike, whatever password is at hand. -/
theorem agrees_refreshed (alike : Secret.AlikeBut installationCredentialKeys secret other)
    (password set : String) :
    Secret.AgreesBut installationCredentialKeys (refreshed password secret) (refreshed set other) := by
  have named : Secret.AgreesBut installationCredentialKeys
      (secret.fillValue usernameKey username) (other.fillValue usernameKey username) :=
    alike.agrees.fillValue (alike.isSome_value? usernameKey) (.inr rfl)
  refine named.fillValue ?_ (.inl (by decide))
  rw [Secret.value?_fillValue_of_ne _ _ (by decide), Secret.value?_fillValue_of_ne _ _ (by decide)]
  exact alike.isSome_value? passwordKey

end AdminSecret

namespace DatabaseSecret

theorem agrees_fresh (kc : Keycloak) (password set : String) :
    Secret.AgreesBut installationCredentialKeys (fresh kc password) (fresh kc set) := by
  cases enabled : kc.spec.externalDatabase.enabled with
  | true =>
    rw [fresh_congr enabled]
    exact .refl _ _
  | false =>
    rw [fresh_eq_setValue enabled, fresh_eq_setValue enabled]
    exact (Secret.AgreesBut.refl _ _).setValue (.inl (by decide))

theorem agrees_setDeclared (agrees : Secret.AgreesBut installationCredentialKeys secret other)
    (key : String) (value : Option String) :
    Secret.AgreesBut installationCredentialKeys (setDeclared key value secret)
      (setDeclared key value other) := by
  cases value with
  | none => exact agrees
  | some value => exact agrees.setValue (.inr rfl)

theorem agrees_with_data (agrees : Secret.AgreesBut installationCredentialKeys secret other) :
    Secret.AgreesBut installationCredentialKeys { secret with data := some (secret.data.getD .empty) }
      { other with data := some (other.data.getD .empty) } where
  metadata := agrees.metadata
  secretType := agrees.secretType
  immutable := agrees.immutable
  data := by
    intro key elsewhere
    show (secret.data.getD .empty).get? key = (other.data.getD .empty).get? key
    rw [Secret.get?_data_getD, Secret.get?_data_getD, agrees.data key elsewhere]
  stringData := agrees.stringData

theorem agrees_refreshed (alike : Secret.AlikeBut installationCredentialKeys secret other)
    (kc : Keycloak) (password set : String) :
    Secret.AgreesBut installationCredentialKeys (refreshed kc password secret)
      (refreshed kc set other) := by
  cases enabled : kc.spec.externalDatabase.enabled with
  | true =>
    simp only [refreshed, enabled, if_true]
    exact agrees_setDeclared
      (agrees_setDeclared (agrees_setDeclared (agrees_with_data alike.agrees) _ _) _ _) _ _
  | false =>
    simp only [refreshed, enabled, Bool.false_eq_true, if_false]
    have named : Secret.AgreesBut installationCredentialKeys
        (secret.fillValue usernameKey username) (other.fillValue usernameKey username) :=
      alike.agrees.fillValue (alike.isSome_value? usernameKey) (.inr rfl)
    have guarded : Secret.AgreesBut installationCredentialKeys
        ((secret.fillValue usernameKey username).fillValue passwordKey password)
        ((other.fillValue usernameKey username).fillValue passwordKey set) := by
      refine named.fillValue ?_ (.inl (by decide))
      rw [Secret.value?_fillValue_of_ne _ _ (by decide),
        Secret.value?_fillValue_of_ne _ _ (by decide)]
      exact alike.isSome_value? passwordKey
    -- The name of the database is no credential, so both have it or neither has.
    refine guarded.fillValue ?_ (.inr rfl)
    rw [guarded.value?_eq (by decide)]

end DatabaseSecret

end Secrets

/-! ## Snapshots -/

/-- Whether a part has credentials in it. -/
def Part.holdsCredentials : Part → Bool
  | adminSecret | databaseSecret => true
  | _ => false

/-- Two objects of a part are the same; of a part with credentials, except for their values. -/
def Part.Alike : (part : Part) → part.kind.Object → part.kind.Object → Prop
  | adminSecret => Secret.AlikeBut installationCredentialKeys
  | databaseSecret => Secret.AlikeBut installationCredentialKeys
  | _ => Eq

/-- Two snapshots are the same except for the values of credentials. -/
def Snapshot.Alike (state other : Snapshot) : Prop :=
  ∀ part : Part, Option.Rel part.Alike (state.found part) (other.found part)

/-- Both are missing, or both are there and related. -/
theorem cases_of_rel {α : Type} {r : α → α → Prop} {x y : Option α} (related : Option.Rel r x y) :
    x = none ∧ y = none ∨ ∃ a b, x = some a ∧ y = some b ∧ r a b := by
  cases related with
  | none => exact .inl ⟨rfl, rfl⟩
  | some related => exact .inr ⟨_, _, rfl, rfl, related⟩

namespace Snapshot.Alike

variable {state other : Snapshot} {part : Part}

/-- Of a part without credentials both have the same. -/
theorem found_eq (alike : state.Alike other) (without : part.holdsCredentials = false) :
    state.found part = other.found part := by
  have related := alike part
  cases part with
  | adminSecret | databaseSecret => cases without
  | _ =>
    rcases cases_of_rel related with ⟨missing, missing'⟩ | ⟨_, _, found, found', rfl⟩
    · rw [missing, missing']
    · rw [found, found']

theorem isReady_eq (alike : state.Alike other) (kc : Keycloak) (routeSupported : Bool) :
    state.isReady kc routeSupported = other.isReady kc routeSupported := by
  have servers_eq : state.statefulSet = other.statefulSet := alike.found_eq rfl
  have routes_eq : state.route = other.route := alike.found_eq rfl
  rw [isReady, isReady, servers_eq, routes_eq]

theorem externalUrl_eq (alike : state.Alike other) : state.externalUrl = other.externalUrl := by
  have routes_eq : state.route = other.route := alike.found_eq rfl
  have ingresses_eq : state.ingress = other.ingress := alike.found_eq rfl
  rw [externalUrl, externalUrl, routes_eq, ingresses_eq]

end Snapshot.Alike

/-! ## Stateful sets -/

namespace ServerStatefulSet

variable {secret other : Option Secret}

/-- The pods of the server depend on no credential. -/
theorem template_eq_of_alike (kc : Keycloak) (profiles : Profiles)
    (alike : Option.Rel (Secret.AlikeBut installationCredentialKeys) secret other) :
    template kc secret profiles = template kc other profiles := by
  have same : ∀ key, key ∉ installationCredentialKeys →
      secret.bind (·.value? key) = other.bind (·.value? key) := by
    intro key elsewhere
    rcases cases_of_rel alike with ⟨rfl, rfl⟩ | ⟨_, _, rfl, rfl, related⟩
    · rfl
    · exact related.agrees.value?_eq elsewhere
  apply template_eq_of_location
  · exact same DatabaseSecret.hostKey (by decide)
  · rw [DatabaseSecret.port, DatabaseSecret.port, same DatabaseSecret.portKey (by decide)]
  · rw [DatabaseSecret.database, DatabaseSecret.database, same DatabaseSecret.databaseKey (by decide)]

variable {b later : Blueprint}

theorem fresh_eq_of_alike (kc_eq : later.kc = b.kc) (profiles_eq : later.profiles = b.profiles)
    (alike : Option.Rel (Secret.AlikeBut installationCredentialKeys) b.databaseSecret
      later.databaseSecret) :
    Part.fresh b .statefulSet = Part.fresh later .statefulSet := by
  show fresh b.kc b.databaseSecret b.profiles = fresh later.kc later.databaseSecret later.profiles
  simp only [kc_eq, profiles_eq, fresh, spec, template_eq_of_alike b.kc b.profiles alike]

theorem refreshed_eq_of_alike (kc_eq : later.kc = b.kc) (profiles_eq : later.profiles = b.profiles)
    (alike : Option.Rel (Secret.AlikeBut installationCredentialKeys) b.databaseSecret
      later.databaseSecret) (current : Part.statefulSet.kind.Object) :
    Part.refreshed b .statefulSet current = Part.refreshed later .statefulSet current := by
  show refreshed b.kc b.databaseSecret b.profiles current =
    refreshed later.kc later.databaseSecret later.profiles current
  cases present : StatefulSet.spec current <;>
    simp only [kc_eq, profiles_eq, refreshed, refreshedSpec, spec, present,
      template_eq_of_alike b.kc b.profiles alike]

end ServerStatefulSet

/-! ## Actions -/

/-- Two actions are the same, or they do the same to the secret of a part with credentials and differ
inside this secret only, in what stands under the keys of credentials. -/
inductive Action.Alike : Action → Action → Prop
  | same (action : Action) : Alike action action
  | create {part : Part} {secret other : Secret} :
    part.holdsCredentials = true → secret.AgreesBut installationCredentialKeys other →
    Alike (.create ⟨.secret, secret⟩ ("create " ++ part.title))
      (.create ⟨.secret, other⟩ ("create " ++ part.title))
  | update {part : Part} {secret other live live' : Secret} :
    part.holdsCredentials = true → secret.AgreesBut installationCredentialKeys other →
    live.AgreesBut installationCredentialKeys live' →
    Alike (.update ⟨.secret, secret⟩ (some ⟨.secret, live⟩) ("update " ++ part.title))
      (.update ⟨.secret, other⟩ (some ⟨.secret, live'⟩) ("update " ++ part.title))

namespace Action.Alike

variable {action other : Action}

theorem summary_eq (alike : action.Alike other) : action.summary = other.summary := by
  have same_name : ∀ {secret other : Secret}, secret.AgreesBut installationCredentialKeys other →
      (⟨.secret, secret⟩ : Object).name = (⟨.secret, other⟩ : Object).name :=
    fun agrees => congrArg ObjectMeta.nameAny agrees.metadata
  cases alike with
  | same => rfl
  | @create part secret other _ agrees =>
    show _ ++ (⟨.secret, secret⟩ : Object).name = _ ++ (⟨.secret, other⟩ : Object).name
    rw [same_name agrees]
  | @update part secret other _ _ _ agrees _ =>
    show _ ++ (⟨.secret, secret⟩ : Object).name = _ ++ (⟨.secret, other⟩ : Object).name
    rw [same_name agrees]

theorem msg_eq (alike : action.Alike other) : action.msg = other.msg := by
  cases alike with
  | same => rfl
  | create => simp only [msg]
  | update => simp only [msg]

end Action.Alike

section Plans

variable {b later : Blueprint} {state other : Snapshot}

variable (kc_eq : later.kc = b.kc) (profiles_eq : later.profiles = b.profiles)
  (secrets : Option.Rel (Secret.AlikeBut installationCredentialKeys) b.databaseSecret
    later.databaseSecret)

include kc_eq profiles_eq secrets

theorem Part.alike_create (part : Part) :
    Action.Alike (.create ⟨part.kind, part.fresh b⟩ ("create " ++ part.title))
      (.create ⟨part.kind, part.fresh later⟩ ("create " ++ part.title)) := by
  have servers_eq := ServerStatefulSet.fresh_eq_of_alike kc_eq profiles_eq secrets
  obtain ⟨kc, profiles, passwords, secret⟩ := later
  cases kc_eq
  cases part with
  | adminSecret => exact .create rfl (AdminSecret.agrees_fresh b.kc _ _)
  | databaseSecret => exact .create rfl (DatabaseSecret.agrees_fresh b.kc _ _)
  | statefulSet =>
    rw [servers_eq]
    exact .same _
  | _ => exact .same _

theorem Part.alike_update (part : Part) {live live' : part.kind.Object}
    (alike : part.Alike live live') :
    Action.Alike
      (.update ⟨part.kind, part.refreshed b live⟩ (some ⟨part.kind, live⟩) ("update " ++ part.title))
      (.update ⟨part.kind, part.refreshed later live'⟩ (some ⟨part.kind, live'⟩)
        ("update " ++ part.title)) := by
  have servers_eq := ServerStatefulSet.refreshed_eq_of_alike kc_eq profiles_eq secrets
  obtain ⟨kc, profiles, passwords, secret⟩ := later
  cases kc_eq
  cases part with
  | adminSecret =>
    exact .update rfl (AdminSecret.agrees_refreshed alike _ _) (Secret.AlikeBut.agrees alike)
  | databaseSecret =>
    exact .update rfl (DatabaseSecret.agrees_refreshed alike b.kc _ _) (Secret.AlikeBut.agrees alike)
  | statefulSet =>
    cases alike
    rw [servers_eq]
    exact .same _
  | _ =>
    cases alike
    exact .same _

/-- What is done about a part depends on credentials at most inside its secret, and there it does not
matter which passwords are at hand. -/
theorem Part.alike_action (alike : state.Alike other) (part : Part) :
    (part.action b state).Alike (part.action later other) := by
  rcases cases_of_rel (alike part) with ⟨missing, missing'⟩ | ⟨live, live', found, found', related⟩
  · rw [action_of_none missing, action_of_none missing']
    exact alike_create kc_eq profiles_eq secrets part
  · rw [action_of_some found, action_of_some found']
    exact alike_update kc_eq profiles_eq secrets part related

/-- So plans for snapshots that are alike are alike step by step. -/
theorem Part.forall₂_alike_actions (alike : state.Alike other) (parts : List Part) :
    List.Forall₂ Action.Alike (parts.map (Part.action b state))
      (parts.map (Part.action later other)) := by
  rw [List.forall₂_map_left_iff, List.forall₂_map_right_iff, List.forall₂_same]
  exact fun part _ => alike_action kc_eq profiles_eq secrets alike part

end Plans

theorem map_eq_of_forall₂_alike {α : Type} {plan other : Plan} {shown : Action → α}
    (alike : List.Forall₂ Action.Alike plan other)
    (same : ∀ {action other : Action}, action.Alike other → shown action = shown other) :
    plan.map shown = other.map shown := by
  rw [← List.forall₂_eq_eq_eq, List.forall₂_map_left_iff, List.forall₂_map_right_iff]
  exact alike.imp fun _ _ => same

namespace Pass

open Program (Run)

variable {capabilities : Capabilities} {profiles : Profiles} {kc : Keycloak}
  {state other : Snapshot} {plan plan' : Plan} {before before' after after' : Store}
  {events events' : List PassEvent}

/-- From snapshots that differ in nothing but the values of credentials, plans are made that have the
same summaries and messages and are the same step by step except inside the two secrets, whatever
passwords are made; and readiness, the URL from outside and the status do not differ at all. -/
theorem credentials_stay_in_secrets (alike : state.Alike other)
    (planning : Run (Reliable capabilities) (planInstallation profiles kc state) before events plan
      after)
    (planning' : Run (Reliable capabilities) (planInstallation profiles kc other) before' events' plan'
      after') :
    plan.length = plan'.length ∧ plan.map Action.summary = plan'.map Action.summary ∧
      plan.map Action.msg = plan'.map Action.msg ∧ List.Forall₂ Action.Alike plan plan' ∧
      (∀ routeSupported, state.isReady kc routeSupported = other.isReady kc routeSupported) ∧
      state.externalUrl = other.externalUrl ∧
      ∀ routeSupported error now,
        kc.statusAfterPass (state.isReady kc routeSupported) error state.externalUrl now =
          kc.statusAfterPass (other.isReady kc routeSupported) error other.externalUrl now := by
  rw [← serving_all] at planning planning'
  obtain ⟨b, kc_eq, profiles_eq, secret_eq, -, rfl, -, -⟩ := run_planInstallation planning
  obtain ⟨later, kc_eq', profiles_eq', secret_eq', -, rfl, -, -⟩ := run_planInstallation planning'
  have secrets : Option.Rel (Secret.AlikeBut installationCredentialKeys) b.databaseSecret
      later.databaseSecret := by
    rw [secret_eq, secret_eq']
    exact alike .databaseSecret
  have plans_alike := Part.forall₂_alike_actions (kc_eq'.trans kc_eq.symm)
    (profiles_eq'.trans profiles_eq.symm) secrets alike
    (Part.wanted kc capabilities.installationFlags)
  have ready_eq := alike.isReady_eq kc
  have url_eq := alike.externalUrl_eq
  refine ⟨plans_alike.length_eq, map_eq_of_forall₂_alike plans_alike Action.Alike.summary_eq,
    map_eq_of_forall₂_alike plans_alike Action.Alike.msg_eq, plans_alike, ready_eq, url_eq, ?_⟩
  intro routeSupported error now
  rw [ready_eq, url_eq]

/-- What may be found of an installation: both secrets, the one of the database with a port, and a
stateful set. -/
def foundWith (admin database : String) : Snapshot where
  found
    | .adminSecret => some (({} : Secret).setValue AdminSecret.passwordKey admin)
    | .databaseSecret => some ((({} : Secret).setValue DatabaseSecret.portKey "6432").setValue
        DatabaseSecret.passwordKey database)
    | .statefulSet => some ({} : StatefulSet)
    | _ => none

theorem alike_foundWith {admin admin' database database' : String} (admin_given : admin ≠ "")
    (admin_given' : admin' ≠ "") (database_given : database ≠ "") (database_given' : database' ≠ "") :
    (foundWith admin database).Alike (foundWith admin' database') := by
  intro part
  cases part with
  | adminSecret => exact .some (Secret.alikeBut_setValue _ (by decide) admin_given admin_given')
  | databaseSecret =>
    exact .some (Secret.alikeBut_setValue _ (by decide) database_given database_given')
  | statefulSet => exact .some rfl
  | _ => exact .none

/-- Nothing that is planned or reported tells two pairs of passwords apart. -/
theorem two_pairs_of_passwords_alike :
    ∃ events plan after events' plan' after',
      Run (Reliable {}) (planInstallation {} {} (foundWith "correct" "horse")) {} events plan after ∧
      Run (Reliable {}) (planInstallation {} {} (foundWith "battery" "staple")) {} events' plan'
        after' ∧
      plan.length = plan'.length ∧ plan.map Action.summary = plan'.map Action.summary ∧
      plan.map Action.msg = plan'.map Action.msg ∧ List.Forall₂ Action.Alike plan plan' := by
  obtain ⟨events, plan, after, planning⟩ := Program.exists_run (total_reliable {})
    (planInstallation {} {} (foundWith "correct" "horse")) {}
  obtain ⟨events', plan', after', planning'⟩ := Program.exists_run (total_reliable {})
    (planInstallation {} {} (foundWith "battery" "staple")) {}
  have alike : (foundWith "correct" "horse").Alike (foundWith "battery" "staple") :=
    alike_foundWith (by decide) (by decide) (by decide) (by decide)
  obtain ⟨same_length, same_summaries, same_messages, same_steps, -⟩ :=
    credentials_stay_in_secrets alike planning planning'
  exact ⟨events, plan, after, events', plan', after', planning, planning', same_length,
    same_summaries, same_messages, same_steps⟩

end Pass

end IdentityOperator
