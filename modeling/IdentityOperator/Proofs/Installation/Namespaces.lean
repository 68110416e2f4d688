import IdentityOperator.Proofs.Installation.Requests
import IdentityOperator.Proofs.Program.Interleaving

/-!
A pass over an installation stays in the namespace of the installation.

All parts of an installation are in its namespace, so that this is where a pass looks for them and
where it creates them. What it updates it has been given by the cluster, which answers with what has
been asked for (`Pass.Proper`), and refreshing moves nothing. So whatever properly answers a pass, it
has only requests within the namespace (`Pass.within_of_run_proper`).

Such a request is answered alike by two stores that have the same in the namespace, and they still have
the same in it afterwards (`Pass.Reliable.exists_agreeing`). In every other namespace the store stays as
it is (`Pass.Reliable.agreeIn_of_within`).
-/

namespace IdentityOperator

/-! ## Stores with the same in a namespace -/

namespace Store

/-- Two stores have the same in a namespace. -/
def AgreeIn (ns : String) (store other : Store) : Prop :=
  ∀ (kind : Kind) (key : ObjectKey), key.ns = ns → store.find? kind key = other.find? kind key

variable {store other third : Store} {ns : String} {kind : Kind} {key : ObjectKey} {o : Object}

theorem AgreeIn.refl (ns : String) (store : Store) : store.AgreeIn ns store := fun _ _ _ => rfl

theorem AgreeIn.symm (agree : store.AgreeIn ns other) : other.AgreeIn ns store :=
  fun kind key inside => (agree kind key inside).symm

theorem AgreeIn.trans (agree : store.AgreeIn ns other) (agree_too : other.AgreeIn ns third) :
    store.AgreeIn ns third :=
  fun kind key inside => (agree kind key inside).trans (agree_too kind key inside)

/-- What is found at a place after something has been put depends only on what has been there. -/
theorem find?_put_congr (same : store.find? kind key = other.find? kind key) :
    (store.put o).find? kind key = (other.put o).find? kind key := by
  cases here : isAt kind key o with
  | true =>
    obtain ⟨rfl, rfl⟩ := isAt_iff.1 here
    rw [find?_put_self, find?_put_self]
  | false => rw [find?_put_of_ne store here, find?_put_of_ne other here, same]

theorem contains_congr (same : store.find? kind key = other.find? kind key) :
    store.contains kind key = other.contains kind key := by
  rw [Bool.eq_iff_iff, ← isSome_find?_iff, ← isSome_find?_iff, same]

theorem AgreeIn.put (agree : store.AgreeIn ns other) (o : Object) :
    (store.put o).AgreeIn ns (other.put o) :=
  fun kind key inside => find?_put_congr (agree kind key inside)

/-- Nothing changes in a namespace that an object is not put into. -/
theorem agreeIn_put_of_ne (store : Store) (outside : o.key.ns ≠ ns) :
    store.AgreeIn ns (store.put o) := by
  intro kind key inside
  refine (store.find?_put_of_ne ?_).symm
  rw [← Bool.not_eq_true, isAt_iff]
  rintro ⟨-, rfl⟩
  exact outside inside

end Store

/-! ## Requests in a namespace -/

/-- All parts of an installation are in its namespace. -/
theorem Part.ns_key (kc : Keycloak) (part : Part) : (part.key kc).ns = kc.ns := by
  cases part <;> rfl

/-- A request that looks for objects of a namespace, or writes them, or does not ask the cluster. -/
def PassRequest.Within (ns : String) : PassRequest → Prop
  | .cluster (.get _ key) => key.ns = ns
  | .cluster (.create o) | .cluster (.update o) => o.key.ns = ns
  | .flag _ | .password _ => True
  | _ => False

namespace Pass

open Program (Run)

section Steps

variable {capabilities : Capabilities} {request : PassRequest} {answer : request.Answer}
  {before after seen : Store} {ns : String}

/-- A request within a namespace changes nothing, or it puts an object into the namespace; and a store
that has the same in the namespace answers it alike. -/
theorem Reliable.kept_or_put (within : request.Within ns)
    (answered : Reliable capabilities request before answer after) :
    (after = before ∧ ∀ seen, before.AgreeIn ns seen →
      Reliable capabilities request seen answer seen) ∨
    ∃ o : Object, o.key.ns = ns ∧ after = before.put o ∧ ∀ seen, before.AgreeIn ns seen →
      Reliable capabilities request seen answer (seen.put o) := by
  cases request with
  | cluster call =>
    cases call with
    | get kind key =>
      refine .inl ?_
      cases found : before.find? kind key with
      | none =>
        cases (Store.perform_get_of_none found).symm.trans answered
        exact ⟨rfl, fun seen agree =>
          Store.perform_get_of_none ((agree kind key within).symm.trans found)⟩
      | some x =>
        cases (Store.perform_get_of_some found).symm.trans answered
        exact ⟨rfl, fun seen agree =>
          Store.perform_get_of_some ((agree kind key within).symm.trans found)⟩
    | create o =>
      have same : ∀ seen : Store, before.AgreeIn ns seen →
          seen.contains o.kind o.key = before.contains o.kind o.key := fun seen agree =>
        (Store.contains_congr (agree o.kind o.key within)).symm
      cases present : before.contains o.kind o.key with
      | true =>
        cases (Store.perform_create_of_contains present).symm.trans answered
        exact .inl ⟨rfl, fun seen agree =>
          Store.perform_create_of_contains ((same seen agree).trans present)⟩
      | false =>
        cases (Store.perform_create_of_missing present).symm.trans answered
        exact .inr ⟨o, within, rfl, fun seen agree =>
          Store.perform_create_of_missing ((same seen agree).trans present)⟩
    | update o =>
      have same : ∀ seen : Store, before.AgreeIn ns seen →
          seen.contains o.kind o.key = before.contains o.kind o.key := fun seen agree =>
        (Store.contains_congr (agree o.kind o.key within)).symm
      cases present : before.contains o.kind o.key with
      | true =>
        cases (Store.perform_update_of_contains present).symm.trans answered
        exact .inr ⟨o, within, rfl, fun seen agree =>
          Store.perform_update_of_contains ((same seen agree).trans present)⟩
      | false =>
        cases (Store.perform_update_of_missing present).symm.trans answered
        exact .inl ⟨rfl, fun seen agree =>
          Store.perform_update_of_missing ((same seen agree).trans present)⟩
    | _ => exact within.elim
  | flag key =>
    obtain ⟨rfl, rfl⟩ := answered
    exact .inl ⟨rfl, fun seen _ => ⟨rfl, rfl⟩⟩
  | password bytes =>
    obtain ⟨made, rfl⟩ := answered
    exact .inl ⟨rfl, fun seen _ => ⟨made, rfl⟩⟩
  | _ => exact within.elim

/-- Where a store has the same in the namespace, a request within it is answered alike, and then there
is still the same in it. -/
theorem Reliable.exists_agreeing (within : request.Within ns)
    (answered : Reliable capabilities request before answer after) (agree : before.AgreeIn ns seen) :
    ∃ later, Reliable capabilities request seen answer later ∧ after.AgreeIn ns later := by
  rcases answered.kept_or_put within with ⟨rfl, alike⟩ | ⟨o, -, rfl, alike⟩
  · exact ⟨seen, alike seen agree, agree⟩
  · exact ⟨seen.put o, alike seen agree, agree.put o⟩

/-- A request within another namespace changes nothing in this one. -/
theorem Reliable.agreeIn_of_within {other : String} (within : request.Within other)
    (apart : other ≠ ns) (answered : Reliable capabilities request before answer after) :
    before.AgreeIn ns after := by
  rcases answered.kept_or_put within with ⟨rfl, -⟩ | ⟨o, inside, rfl, -⟩
  · exact .refl ns _
  · exact Store.agreeIn_put_of_ne before fun here => apart (inside.symm.trans here)

end Steps

/-! ## Passes in a namespace -/

/-- Whatever the cluster hands out has the key that has been asked for. -/
def Proper : PassEnvironment Unit
  | .cluster (.get kind key), _, .ok x, _ => (⟨kind, x⟩ : Object).key = key
  | _, _, _, _ => True

theorem Reliable.proper {capabilities : Capabilities} {request : PassRequest}
    {answer : request.Answer} {before after : Store}
    (answered : Reliable capabilities request before answer after) :
    Proper request () answer () := by
  cases request with
  | cluster call =>
    cases call with
    | get kind key =>
      cases found : before.find? kind key with
      | none =>
        cases (Store.perform_get_of_none found).symm.trans answered
        trivial
      | some x =>
        cases (Store.perform_get_of_some found).symm.trans answered
        exact Store.key_of_find? found
    | _ => trivial
  | _ => trivial

variable {profiles : Profiles} {kc : Keycloak} {flags : InstallationFlags}
  {events : List PassEvent} {request : PassRequest}

theorem within_of_asks (asks : Asks profiles kc flags events request)
    (proper : ∀ part live, HandsOver kc events part live →
      (⟨part.kind, live⟩ : Object).key = part.key kc) : request.Within kc.ns := by
  cases asks with
  | flag key => trivial
  | password bytes => trivial
  | get part => exact part.ns_key kc
  | @create part b wanted is_for =>
    show (⟨part.kind, part.fresh b⟩ : Object).key.ns = kc.ns
    rw [Part.key_fresh, Part.key_congr is_for.declared, Part.ns_key]
  | @update part b live wanted is_for given =>
    show (⟨part.kind, part.refreshed b live⟩ : Object).key.ns = kc.ns
    rw [Part.key_refreshed, proper part live given, Part.ns_key]

/-- A pass that is answered properly stays in the namespace of its installation. -/
theorem within_of_run_proper {result : Tracked InstallationOutcome}
    (run : Run Proper (convergeInstallation profiles kc) () events result ()) :
    ∀ event ∈ events, event.request.Within kc.ns := by
  obtain ⟨flags, asked⟩ := asks_of_run run
  intro event mem
  refine within_of_asks (asked event mem) fun part live given => ?_
  obtain ⟨_, _, proper⟩ := run.exists_answered _ given
  exact proper

end Pass

end IdentityOperator
