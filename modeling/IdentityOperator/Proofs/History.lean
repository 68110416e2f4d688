import IdentityOperator.Proofs.RealmDeclaration.HandedOut
import Mathlib.Logic.Relation

/-!
Histories of a cluster: passes of both kinds, one after the other, with changes by others between.

Passes are started over whatever is declared at that moment, so that a specification may have been
changed in any way. Any call of a pass may fail, and a pass may be cut off before any request. Whatever
the history, no secret goes away, and a credential that a secret has once had a value for keeps this
value (`Moment.credentials_kept`).
-/

namespace IdentityOperator

open Relation (ReflTransGen)

/-- A moment in the history of a cluster: what is stored, and what is left of the pass under way. -/
structure Moment where
  store : Store
  pass : Option (Asking (Except OperatorError Requeue)) := none

namespace Moment

/-- What can happen next. -/
inductive Step : Moment → Moment → Prop
  | startInstallation (profiles : Profiles) (kc : Keycloak) (store : Store) :
    Step ⟨store, none⟩ ⟨store, some (Pass.installation profiles kc).run⟩
  | startRealm (declared : KeycloakRealm) (store : Store) :
    Step ⟨store, none⟩ ⟨store, some (Pass.realm declared).run⟩
  /-- A request of the pass is answered. -/
  | answer {request : PassRequest} {store after : Store} {answer : request.Answer}
    {next : request.Answer → Asking (Except OperatorError Requeue)} :
    Pass.Unreliable request store answer after →
    Step ⟨store, some (.ask request next)⟩ ⟨after, some (next answer)⟩
  /-- The pass has come to its end, or it is cut off. -/
  | stop (store : Store) (pass : Asking (Except OperatorError Requeue)) :
    Step ⟨store, some pass⟩ ⟨store, none⟩
  /-- Others change anything but the secrets. -/
  | change {store after : Store} : store.SameSecrets after → Step ⟨store, none⟩ ⟨after, none⟩

/-- Whatever the pass under way will still ask is careful with credentials. -/
def IsCareful (moment : Moment) : Prop :=
  ∀ pass, moment.pass = some pass → Program.Always Pass.Unreliable Pass.Careful pass moment.store

variable {before after start now later : Moment}

theorem Step.isCareful (step : Step before after) (careful : before.IsCareful) :
    after.IsCareful := by
  intro pass under_way
  cases step with
  | startInstallation profiles kc store =>
    cases under_way
    exact Pass.always_installation profiles kc store
  | startRealm declared store =>
    cases under_way
    exact Pass.always_realm declared store
  | answer answered =>
    cases under_way
    exact (careful _ rfl).2 _ _ answered
  | stop => cases under_way
  | change => cases under_way

theorem Step.kept (step : Step before after) (careful : before.IsCareful) :
    before.store.CredentialsKeptIn after.store := by
  cases step with
  | startInstallation profiles kc store => exact (Store.SameSecrets.refl store).kept
  | startRealm declared store => exact (Store.SameSecrets.refl store).kept
  | answer answered => exact (careful _ rfl).1.kept answered
  | stop store pass => exact (Store.SameSecrets.refl store).kept
  | change same => exact same.kept

theorem isCareful_of_history (between : start.pass = none) (history : ReflTransGen Step start now) :
    now.IsCareful := by
  induction history with
  | refl =>
    intro pass under_way
    rw [between] at under_way
    cases under_way
  | tail _ step ih => exact step.isCareful ih

/-- From any moment of a history on, every secret that is stored stays, and each of its credentials
keeps the value that it has. -/
theorem credentials_kept (between : start.pass = none) (past : ReflTransGen Step start now)
    (future : ReflTransGen Step now later) {key : ObjectKey} {old : Secret}
    (stored : now.store.find? .secret key = some old) :
    ∃ new, later.store.find? .secret key = some new ∧
      ∀ credential ∈ credentialKeys, ∀ value, old.value? credential = some value →
        new.value? credential = some value := by
  -- The past is needed for what the pass under way may still ask.
  have kept : now.store.CredentialsKeptIn later.store := by
    induction future with
    | refl => exact (Store.SameSecrets.refl now.store).kept
    | tail steps step ih =>
      exact ih.trans (step.kept (isCareful_of_history between (past.trans steps)))
  exact kept key old stored

/-! ## Three passes -/

/-- A pass that is cut off somewhere, at the latest when it has come to its end. -/
theorem history_of_reaches {pass : Asking (Except OperatorError Requeue)} {before after : Store}
    (reached : Program.Reaches Pass.Unreliable pass before after) :
    ReflTransGen Step ⟨before, some pass⟩ ⟨after, none⟩ := by
  induction reached with
  | stop pass store => exact .single (.stop store pass)
  | ask answered _ ih => exact .head (.answer answered) ih

/-- An installation that is ready, and its administrator's secret with a password and no name. -/
def guardedStore : Store := ⟨[
  ⟨.keycloak, ({
    metadata := { name := some "sso" }
    status := some { ready := true } } : Keycloak)⟩,
  ⟨.secret, ({
    metadata := { name := some "credential-sso" }
    stringData := some (.ofList [("ADMIN_PASSWORD", "hidden")]) } : Secret)⟩]⟩

/-- Answers of a cluster that denies to have any secret; the rest goes well. -/
def serveBlindly : (request : PassRequest) → Store → request.Answer × Store
  | .cluster (.get .secret key), store => (.error (.notFound key.display), store)
  | request, store => Pass.serveWell request store

theorem unreliable_serveBlindly (request : PassRequest) (store : Store) :
    Pass.Unreliable request store (serveBlindly request store).1 (serveBlindly request store).2 := by
  unfold serveBlindly
  split
  · exact ⟨store, .refl store, .inr ⟨⟨_, rfl⟩, .inl rfl⟩⟩
  · exact Pass.unreliable_serveWell _ _

/-- Whether a request creates an object. -/
def creates : PassRequest → Bool
  | .cluster (.create _) => true
  | _ => false

/-- A pass that is told that there are no secrets, one that completes the administrator's secret, and a
pass over a realm that is cut off when it has created the secret of the first user: the administrator
keeps his password, and the name that the second pass has given him. -/
theorem credentials_kept_by_three_passes :
    ∃ now later : Moment,
      ReflTransGen Step ⟨guardedStore, none⟩ now ∧ ReflTransGen Step now later ∧
      (guardedStore.find? .secret ⟨"credential-sso", "default"⟩).map
        (fun old : Secret => (old.value? "ADMIN_USERNAME", old.value? "ADMIN_PASSWORD")) =
          some (none, some "hidden") ∧
      now.store.contains .secret ⟨"credential-basic-b-c-default", "default"⟩ = false ∧
      later.store.contains .secret ⟨"credential-basic-b-c-default", "default"⟩ = true ∧
      ∃ new, later.store.find? .secret ⟨"credential-sso", "default"⟩ = some new ∧
        new.value? "ADMIN_USERNAME" = some "admin" ∧ new.value? "ADMIN_PASSWORD" = some "hidden" := by
  let install := (Pass.installation {} { metadata := { name := some "sso" } }).run
  let keep := (Pass.realm Pass.crowdedRealm).run
  let first := (install.run serveBlindly guardedStore).2
  let second := (install.run Pass.serveWell first).2
  let third := (keep.runUntil creates Pass.serveWell second).2
  obtain ⟨_, blind_run⟩ := Program.exists_run_of_serve unreliable_serveBlindly install guardedStore
  obtain ⟨_, good_run⟩ := Program.exists_run_of_serve Pass.unreliable_serveWell install first
  have cut_off : Program.Reaches Pass.Unreliable keep second third :=
    Program.reaches_runUntil Pass.unreliable_serveWell creates keep second
  have past : ReflTransGen Step ⟨guardedStore, none⟩ ⟨second, none⟩ :=
    (ReflTransGen.head (.startInstallation _ _ _) (history_of_reaches blind_run.reaches)).trans
      (.head (.startInstallation _ _ _) (history_of_reaches good_run.reaches))
  have future : ReflTransGen Step ⟨second, none⟩ ⟨third, none⟩ :=
    .head (.startRealm _ _) (history_of_reaches cut_off)
  obtain ⟨old, stored, hidden⟩ : ∃ old, guardedStore.find? .secret ⟨"credential-sso", "default"⟩ =
      some old ∧ old.value? "ADMIN_PASSWORD" = some "hidden" := ⟨_, rfl, rfl⟩
  have given : (second.find? .secret ⟨"credential-sso", "default"⟩).any
      (fun completed : Secret => completed.value? "ADMIN_USERNAME" = some "admin") = true := by
    decide +kernel
  obtain ⟨completed, there, named⟩ := (Option.any_eq_true _ _).1 given
  obtain ⟨new, found, kept⟩ := credentials_kept rfl .refl (past.trans future) stored
  obtain ⟨same, found_too, kept_too⟩ := credentials_kept rfl past future there
  obtain rfl : new = same := Option.some.inj (found.symm.trans found_too)
  exact ⟨⟨second, none⟩, ⟨third, none⟩, past, future, by decide +kernel, by decide +kernel,
    by decide +kernel, new, found, kept_too _ (by decide) _ (of_decide_eq_true named),
    kept _ (by decide) _ hidden⟩

end Moment

end IdentityOperator
