import IdentityOperator.Proofs.RealmDeclaration.Finalizer
import IdentityOperator.Proofs.Split
import IdentityOperator.Proofs.Store

/-!
What the text of a label selector says.

A declared realm selects its installations by labels, and the cluster is asked for them by a text. As long
as no key or value holds what stands between them, the text is taken apart into the same labels again
(`InstanceSelector.selectorEntries_toLabelSelector`), so two selectors with the same text are the same.
Without labels the text is empty, and that alone is the text by which nothing is left out.
-/

namespace IdentityOperator

/-- An entry is taken apart at its first `=`, and be there others in its value. -/
theorem selectorEntry_append {key : String} (no_mark : '=' ∉ key.toList) (value : String) :
    selectorEntry (key ++ "=" ++ value).toList = (key, value) := by
  have text_eq : (key ++ "=" ++ value).toList = key.toList ++ '=' :: value.toList := by simp
  rw [selectorEntry, text_eq, Split.first_append no_mark]
  exact Prod.ext String.ofList_toList String.ofList_toList

namespace InstanceSelector

variable {selector other : InstanceSelector}

/-- No key and no value can be mistaken for more than one: there is no comma in any of them, and no `=`
in a key. -/
structure IsPlain (selector : InstanceSelector) : Prop where
  keys : ∀ entry ∈ selector.matchLabels.toList, ',' ∉ entry.1.toList ∧ '=' ∉ entry.1.toList
  values : ∀ entry ∈ selector.matchLabels.toList, ',' ∉ entry.2.toList

/-- The labels have all that is selected by. -/
def Selects (selector : InstanceSelector) (labels : Option (TextMap String)) : Prop :=
  ∀ entry ∈ selector.matchLabels.toList, labels.bind (·.get? entry.1) = some entry.2

instance (selector : InstanceSelector) (labels : Option (TextMap String)) :
    Decidable (selector.Selects labels) :=
  inferInstanceAs (Decidable (∀ entry ∈ selector.matchLabels.toList, _))

theorem toList_eq_nil_iff : selector.matchLabels.toList = [] ↔ selector.matchLabels = .empty :=
  ⟨fun nothing => TextMap.ext nothing, fun empty => congrArg TextMap.toList empty⟩

/-- Every entry has its `=` in the text, so only a selector without entries has an empty one. -/
theorem toLabelSelector_eq_empty_iff :
    selector.toLabelSelector = "" ↔ selector.matchLabels = .empty := by
  rw [← toList_eq_nil_iff, toLabelSelector]
  cases selector.matchLabels.toList with
  | nil => exact iff_of_true String.intercalate_nil rfl
  | cons entry rest =>
    refine iff_of_false (fun empty => ?_) (List.cons_ne_nil _ _)
    have marked : '=' ∈ (",".intercalate
        ((entry :: rest).map fun e => e.1 ++ "=" ++ e.2)).toList := by
      cases rest <;> simp
    rw [empty] at marked
    cases marked

/-- At its commas the text is cut into the entries, in the order of their keys. -/
theorem map_selectorEntry_pieces (plain : selector.IsPlain)
    (nonempty : selector.matchLabels ≠ .empty) :
    (Split.pieces ',' selector.toLabelSelector.toList).map selectorEntry =
      selector.matchLabels.toList := by
  have parts_nonempty : (selector.matchLabels.toList.map fun e => e.1 ++ "=" ++ e.2) ≠ [] :=
    fun nothing => nonempty (toList_eq_nil_iff.1 (List.map_eq_nil_iff.1 nothing))
  have no_comma : ∀ part ∈ selector.matchLabels.toList.map fun e => e.1 ++ "=" ++ e.2,
      ',' ∉ part.toList := by
    intro part mem
    obtain ⟨entry, entry_mem, rfl⟩ := List.mem_map.1 mem
    simp [(plain.keys entry entry_mem).1, plain.values entry entry_mem]
  rw [toLabelSelector, Split.pieces_intercalate rfl parts_nonempty no_comma, List.map_map,
    List.map_map]
  refine (List.map_congr_left fun entry mem => ?_).trans (List.map_id _)
  exact selectorEntry_append (plain.keys entry mem).2 entry.2

theorem selectorEntries_toLabelSelector (plain : selector.IsPlain) :
    selectorEntries selector.toLabelSelector = selector.matchLabels.toList := by
  by_cases empty : selector.matchLabels = .empty
  · rw [selectorEntries, if_pos (toLabelSelector_eq_empty_iff.2 empty), toList_eq_nil_iff.2 empty]
  · rw [selectorEntries, if_neg (mt toLabelSelector_eq_empty_iff.1 empty),
      map_selectorEntry_pieces plain empty]

/-- The text tells plain selectors apart. -/
theorem toLabelSelector_inj (plain : selector.IsPlain) (other_plain : other.IsPlain) :
    selector.toLabelSelector = other.toLabelSelector ↔ selector.matchLabels = other.matchLabels := by
  constructor
  · intro same
    have entries_eq : selector.matchLabels.toList = other.matchLabels.toList := by
      rw [← selectorEntries_toLabelSelector plain, same, selectorEntries_toLabelSelector other_plain]
    exact TextMap.ext entries_eq
  · intro same
    rw [toLabelSelector, toLabelSelector, same]

/-- By the text of a plain selector the same is selected as by its labels. -/
theorem matchesSelector_iff (plain : selector.IsPlain) {labels : Option (TextMap String)} :
    matchesSelector labels selector.toLabelSelector = true ↔ selector.Selects labels := by
  simp only [matchesSelector, selectorEntries_toLabelSelector plain, List.all_eq_true,
    decide_eq_true_eq, Selects]

end InstanceSelector

/-! ## Installations in the cluster -/

/-- The installations that a listing brings back. -/
theorem Store.mem_list_iff {store : Store} {ns labels : String} {found : List Keycloak}
    (listed : (store.perform (.list .keycloak ns labels)).1 = .ok found) {kc : Keycloak} :
    kc ∈ found ↔
      ⟨.keycloak, kc⟩ ∈ store.objects ∧ kc.ns = ns ∧
        matchesSelector kc.metadata.labels labels = true := by
  obtain rfl := Except.ok.inj listed
  refine List.mem_filterMap.trans ⟨?_, ?_⟩
  · rintro ⟨o, mem, fits⟩
    split at fits
    · next here =>
      obtain rfl := Store.as?_eq_some_iff.1 fits
      exact ⟨mem, here.2⟩
    · cases fits
  · rintro ⟨mem, here⟩
    exact ⟨_, mem, (if_pos ⟨rfl, here⟩).trans (Store.as?_eq_some_iff.2 rfl)⟩

namespace Pass

open InstanceSelector

/-- The text of a selector with labels is taken apart into them again, so it tells selectors apart, and
the installations that a pass is given by it are those with these labels. Only without labels the text
is empty, and then the pass is given every installation of its namespace. -/
theorem selection_by_text :
    (∀ selector : InstanceSelector, selector.IsPlain →
      (selector.matchLabels ≠ .empty →
        (Split.pieces ',' selector.toLabelSelector.toList).map selectorEntry =
          selector.matchLabels.toList) ∧
      ∀ other : InstanceSelector, other.IsPlain →
        (selector.toLabelSelector = other.toLabelSelector ↔
          selector.matchLabels = other.matchLabels)) ∧
    ∀ declared : KeycloakRealm,
      let selector := declared.spec.instanceSelector
      (selector.toLabelSelector = "" ↔ selector.matchLabels = .empty) ∧
      ∀ store : Store, ∃ found : List Keycloak,
        (store.perform (listing declared)).1 = .ok found ∧
        (selector.IsPlain → ∀ kc : Keycloak, kc ∈ found ↔
          ⟨.keycloak, kc⟩ ∈ store.objects ∧ kc.ns = declared.ns ∧
            selector.Selects kc.metadata.labels) ∧
        (selector.toLabelSelector = "" → ∀ kc : Keycloak, kc ∈ found ↔
          ⟨.keycloak, kc⟩ ∈ store.objects ∧ kc.ns = declared.ns) := by
  refine ⟨fun selector plain => ⟨map_selectorEntry_pieces plain, fun other other_plain =>
    toLabelSelector_inj plain other_plain⟩, fun declared => ⟨toLabelSelector_eq_empty_iff,
    fun store => ⟨_, rfl, fun plain kc => ?_, fun empty kc => ?_⟩⟩⟩
  · rw [Store.mem_list_iff rfl, matchesSelector_iff plain]
  · have all_match : matchesSelector kc.metadata.labels "" = true := rfl
    rw [Store.mem_list_iff rfl, empty, all_match]
    simp

/-- Labels with an `=` in a value and with an empty value: an installation that has them is given to the
pass and one without labels is not, which another pass without labels is given. -/
theorem selection_by_odd_values :
    let selector : InstanceSelector := ⟨.ofList [("tier", "a=b"), ("app", "")]⟩
    let declared : KeycloakRealm :=
      { spec := { realm := { realm := "basic" }, instanceSelector := selector } }
    let undemanding : KeycloakRealm := { spec := { realm := { realm := "basic" } } }
    let labelled : Keycloak :=
      { metadata := { labels := some (.ofList [("zone", "1"), ("app", ""), ("tier", "a=b")]) } }
    let store : Store := ⟨[⟨.keycloak, labelled⟩, ⟨.keycloak, ({} : Keycloak)⟩]⟩
    selector.IsPlain ∧ selector.toLabelSelector = "app=,tier=a=b" ∧
      (Split.pieces ',' "app=,tier=a=b".toList).map selectorEntry = [("app", ""), ("tier", "a=b")] ∧
      (∃ found : List Keycloak, (store.perform (listing declared)).1 = .ok found ∧
        labelled ∈ found ∧ ({} : Keycloak) ∉ found) ∧
      ∃ found : List Keycloak, (store.perform (listing undemanding)).1 = .ok found ∧
        ({} : Keycloak) ∈ found := by
  intro selector declared undemanding labelled store
  have plain : selector.IsPlain := ⟨by decide, by decide⟩
  have nonempty : selector.matchLabels ≠ .empty := by decide
  have text_eq : selector.toLabelSelector = "app=,tier=a=b" := by decide
  have selected : selector.Selects labelled.metadata.labels := by decide
  have not_selected : ¬ selector.Selects ({} : Keycloak).metadata.labels := by decide
  obtain ⟨by_entries, by_labels⟩ := selection_by_text
  obtain ⟨-, lists⟩ := by_labels declared
  obtain ⟨found, listed, mem_iff, -⟩ := lists store
  obtain ⟨-, lists_all⟩ := by_labels undemanding
  obtain ⟨all, all_listed, -, mem_all_iff⟩ := lists_all store
  refine ⟨plain, text_eq, text_eq ▸ (by_entries selector plain).1 nonempty,
    ⟨found, listed, (mem_iff plain _).2 ?_, fun mem => not_selected ((mem_iff plain _).1 mem).2.2⟩,
    all, all_listed, (mem_all_iff rfl _).2 ?_⟩
  · exact ⟨List.mem_cons_self, rfl, selected⟩
  · exact ⟨List.mem_cons_of_mem _ List.mem_cons_self, rfl⟩

end Pass

end IdentityOperator
