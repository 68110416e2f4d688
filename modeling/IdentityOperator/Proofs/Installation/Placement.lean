import IdentityOperator.Proofs.Installation.Part
import Mathlib.Data.List.Nodup
import Mathlib.Logic.Function.Basic

/-!
Objects of several parts, put into a store.

Each part has a place of its own. After the objects of some parts have been put into a store, it has
these objects at the places of these parts and what it had before everywhere else; and to put another
object for one of the parts afterwards is the same as to have put this object in the first place
(`Part.AtPlaces.putAll_put`). So the order in which parts come into a store is the order in which they
are first put there, however often they are put there later.
-/

namespace IdentityOperator.Part

variable {kc : Keycloak} {content : (part : Part) → part.kind.Object} {parts : List Part}
  {part : Part} {store : Store}

/-- The objects of some parts. -/
def objects (content : (part : Part) → part.kind.Object) (parts : List Part) : List Object :=
  parts.map fun part => ⟨part.kind, content part⟩

/-- The objects of some parts are at their places. -/
def AtPlaces (kc : Keycloak) (content : (part : Part) → part.kind.Object) (parts : List Part) : Prop :=
  ∀ part ∈ parts, (⟨part.kind, content part⟩ : Object).key = part.key kc

theorem objects_concat (content : (part : Part) → part.kind.Object) (parts : List Part)
    (part : Part) :
    objects content (parts ++ [part]) = objects content parts ++ [⟨part.kind, content part⟩] :=
  List.map_append

theorem AtPlaces.isAt_of_ne {other : Part} (at_places : AtPlaces kc content parts)
    (mem : other ∈ parts) (differs : part ≠ other) :
    Store.isAt part.kind (part.key kc) ⟨other.kind, content other⟩ = false := by
  rw [← Bool.not_eq_true, Store.isAt_iff]
  rintro ⟨kind_eq, key_eq⟩
  rw [at_places other mem] at key_eq
  exact differs (eq_of_place kind_eq key_eq).symm

/-- What is at the place of a part that has been put there. -/
theorem AtPlaces.find?_of_mem (at_places : AtPlaces kc content parts) (nodup : parts.Nodup)
    (mem : part ∈ parts) (store : Store) :
    (store.putAll (objects content parts)).find? part.kind (part.key kc) =
      some (content part) := by
  have distinct : Store.DistinctPlaces (objects content parts) := by
    refine List.pairwise_map.2 (nodup.imp_of_mem fun {first second} first_mem second_mem differs => ?_)
    rw [at_places first first_mem]
    exact at_places.isAt_of_ne second_mem differs
  have holds := Store.holds_putAll distinct
    (List.mem_map_of_mem (f := fun part => (⟨part.kind, content part⟩ : Object)) mem) store
  rw [← at_places part mem]
  exact holds.find?

/-- The places of other parts are left alone. -/
theorem AtPlaces.find?_of_not_mem (at_places : AtPlaces kc content parts)
    (absent : part ∉ parts) (store : Store) :
    (store.putAll (objects content parts)).find? part.kind (part.key kc) =
      store.find? part.kind (part.key kc) := by
  refine Store.find?_putAll_of_ne (fun o mem => ?_) store
  obtain ⟨other, other_mem, rfl⟩ := List.mem_map.1 mem
  exact at_places.isAt_of_ne other_mem fun same => absent (same ▸ other_mem)

theorem AtPlaces.update (at_places : AtPlaces kc content parts) {x : part.kind.Object}
    (at_place : (⟨part.kind, x⟩ : Object).key = part.key kc) (wider : List Part)
    (within : ∀ other ∈ wider, other = part ∨ other ∈ parts) :
    AtPlaces kc (Function.update content part x) wider := by
  intro other mem
  by_cases same : other = part
  · subst same
    rwa [Function.update_self]
  · rw [Function.update_of_ne same]
    exact at_places other ((within other mem).resolve_left same)

theorem objects_update_of_not_mem {x : part.kind.Object} (absent : part ∉ parts) :
    objects (Function.update content part x) parts = objects content parts := by
  refine List.map_congr_left fun other mem => ?_
  have differs : other ≠ part := fun same => absent (same ▸ mem)
  rw [Function.update_of_ne differs]

/-- To put an object for one of the parts after all of them have been put is to have put this object
in its turn. -/
theorem AtPlaces.putAll_put (at_places : AtPlaces kc content parts) (nodup : parts.Nodup)
    (mem : part ∈ parts) {x : part.kind.Object}
    (at_place : (⟨part.kind, x⟩ : Object).key = part.key kc) (store : Store) :
    (store.putAll (objects content parts)).put ⟨part.kind, x⟩ =
      store.putAll (objects (Function.update content part x) parts) := by
  obtain ⟨front, rest, rfl⟩ := List.append_of_mem mem
  have absent := (List.nodup_middle.1 nodup).notMem
  have absent_front : part ∉ front := fun mem => absent (List.mem_append_left _ mem)
  have absent_rest : part ∉ rest := fun mem => absent (List.mem_append_right _ mem)
  have here : Store.isAt part.kind (⟨part.kind, x⟩ : Object).key ⟨part.kind, content part⟩ = true :=
    Store.isAt_iff.2 ⟨rfl, (at_places part mem).trans at_place.symm⟩
  have elsewhere : ∀ other ∈ objects content rest,
      Store.isAt part.kind (⟨part.kind, x⟩ : Object).key other = false := by
    intro o o_mem
    obtain ⟨other, other_mem, rfl⟩ := List.mem_map.1 o_mem
    rw [at_place]
    exact at_places.isAt_of_ne (List.mem_append_right _ (List.mem_cons_of_mem _ other_mem))
      fun same => absent_rest (same ▸ other_mem)
  have split : ∀ content : (part : Part) → part.kind.Object, objects content (front ++ part :: rest) =
      objects content front ++ ⟨part.kind, content part⟩ :: objects content rest := fun content => by
    simp [objects]
  rw [split, split, objects_update_of_not_mem absent_front, objects_update_of_not_mem absent_rest,
    Function.update_self]
  exact Store.putAll_put_of_isAt here elsewhere store

/-- One content for the first few parts, and another one for the others. -/
def overlaid (parts : List Part) (n : Nat) (later content : (part : Part) → part.kind.Object)
    (part : Part) : part.kind.Object :=
  if part ∈ parts.take n then later part else content part

theorem overlaid_of_mem {later : (part : Part) → part.kind.Object} {n : Nat}
    (mem : part ∈ parts.take n) : overlaid parts n later content part = later part :=
  if_pos mem

theorem overlaid_of_not_mem {later : (part : Part) → part.kind.Object} {n : Nat}
    (absent : part ∉ parts.take n) : overlaid parts n later content part = content part :=
  if_neg absent

/-- A part is among the first few of either number or of both. -/
theorem mem_take_max {m n : Nat} (mem : part ∈ parts.take (max m n)) :
    part ∈ parts.take n ∨ part ∉ parts.take n ∧ part ∈ parts.take m := by
  by_cases here : part ∈ parts.take n
  · exact .inl here
  · rcases Nat.le_total m n with le | le
    · rw [Nat.max_eq_right le] at mem
      exact .inl mem
    · rw [Nat.max_eq_left le] at mem
      exact .inr ⟨here, mem⟩

theorem atPlaces_overlaid {later : (part : Part) → part.kind.Object} {m n : Nat}
    (first : AtPlaces kc content (parts.take m)) (second : AtPlaces kc later (parts.take n)) :
    AtPlaces kc (overlaid parts n later content) (parts.take (max m n)) := by
  intro part mem
  rcases mem_take_max mem with mem | ⟨absent, mem⟩
  · rw [overlaid_of_mem mem]
    exact second part mem
  · rw [overlaid_of_not_mem absent]
    exact first part mem

/-- Where the first few parts have been put and then the first few again, as many have been put as the
more of the two, and those that were put twice have what they got last. -/
theorem AtPlaces.putAll_take {later : (part : Part) → part.kind.Object} {m n : Nat}
    (first : AtPlaces kc content (parts.take m)) (second : AtPlaces kc later (parts.take n))
    (nodup : parts.Nodup) (store : Store) :
    (store.putAll (objects content (parts.take m))).putAll (objects later (parts.take n)) =
      store.putAll (objects (overlaid parts n later content) (parts.take (max m n))) := by
  induction n with
  | zero =>
    have unchanged : overlaid parts 0 later content = content :=
      funext fun part => overlaid_of_not_mem (by simp)
    rw [unchanged, Nat.max_zero]
    rfl
  | succ n ih =>
    have second_before : AtPlaces kc later (parts.take n) := fun part mem =>
      second part (List.take_subset_take_left _ (Nat.le_succ n) mem)
    rcases Nat.lt_or_ge n parts.length with within | beyond
    · have take_eq : parts.take (n + 1) = parts.take n ++ [parts[n]] :=
        List.take_succ_eq_append_getElem within
      generalize parts[n] = part at take_eq
      have absent : part ∉ parts.take n := by
        have nodup_take := nodup.sublist (List.take_sublist (n + 1) parts)
        rw [take_eq] at nodup_take
        exact fun mem => List.disjoint_of_nodup_append nodup_take mem List.mem_cons_self
      have overlaid_eq : overlaid parts (n + 1) later content =
          Function.update (overlaid parts n later content) part (later part) := by
        funext other
        by_cases same : other = part
        · subst same
          rw [Function.update_self, overlaid_of_mem (by simp [take_eq])]
        · rw [Function.update_of_ne same]
          simp [overlaid, take_eq, same]
      have at_place := second part (by simp [take_eq])
      rw [overlaid_eq, take_eq, objects_concat, Store.putAll_append, ih second_before]
      show (store.putAll _).put _ = _
      rcases Nat.lt_or_ge n m with behind | ahead
      -- The part has been put the first time already, and is replaced.
      · have max_eq : max m n = m := by omega
        have max_succ_eq : max m (n + 1) = m := by omega
        have mem : part ∈ parts.take m :=
          List.take_subset_take_left _ (Nat.succ_le_of_lt behind) (by simp [take_eq])
        have at_places := atPlaces_overlaid first second_before
        rw [max_eq] at at_places ⊢
        rw [max_succ_eq]
        exact at_places.putAll_put (nodup.sublist (List.take_sublist _ _)) mem at_place store
      · have max_eq : max m n = n := by omega
        have max_succ_eq : max m (n + 1) = n + 1 := by omega
        rw [max_eq, max_succ_eq, take_eq, objects_concat, Store.putAll_append,
          objects_update_of_not_mem absent, Function.update_self]
        rfl
    · have take_eq : parts.take (n + 1) = parts.take n := by
        rw [List.take_of_length_le beyond, List.take_of_length_le (by omega)]
      have take_max_eq : parts.take (max m (n + 1)) = parts.take (max m n) := by
        rw [List.take_of_length_le (by omega), List.take_of_length_le (by omega)]
      have overlaid_eq : overlaid parts (n + 1) later content = overlaid parts n later content := by
        funext other
        rw [overlaid, overlaid, take_eq]
      rw [overlaid_eq, take_eq, take_max_eq, ih second_before]

end IdentityOperator.Part
