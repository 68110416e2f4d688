import IdentityOperator.Json.MergePatch
import IdentityOperator.Pass.Wire
import IdentityOperator.Proofs.Pass.FailFast
import Mathlib.Data.List.Induction

/-!
What becomes of the finalizers that other controllers put on a declaration.

A pass works on a copy of the declaration, and others may write to the stored one at any time. What has
been written is kept as a journal: the patches of the pass, which are JSON merge patches, and the
finalizers that others have put on meanwhile. A patch of the finalizers replaces all of them by those
of the copy, so a finalizer outlasts a pass just if the copy has it or if it has been put on after the
last such patch (`Pass.foreign_finalizer_kept_iff`). A finalizer that is put on between the taking of
the copy and the patch is lost.
-/

namespace IdentityOperator

/-! ## Finalizers in JSON -/

namespace Json

/-- The finalizers in the metadata of an object, as far as they are texts. -/
def finalizers (object : Json) : List String :=
  match (object.field? "metadata").bind (·.field? "finalizers") with
  | some (.list items) => items.filterMap fun
    | .text finalizer => some finalizer
    | _ => none
  | _ => []

/-- A patch of the finalizers replaces all of them, whatever the object is like. -/
theorem finalizers_mergePatch_finalizersPatch (object : Json) (finalizers : List String) :
    (object.mergePatch (Wired.finalizersPatch finalizers)).finalizers = finalizers := by
  have patched : ((object.mergePatch (Wired.finalizersPatch finalizers)).field? "metadata").bind
      (·.field? "finalizers") = some (.list (finalizers.map Form.text.write)) := by
    simp [Wired.finalizersPatch, mergePatch, mergeFields, field?, fieldsOf, Form.list]
  rw [Json.finalizers, patched]
  clear patched
  induction finalizers with
  | nil => rfl
  | cons first rest ih => exact congrArg (first :: ·) ih

/-- A patch of the status leaves them alone. -/
theorem finalizers_mergePatch_statusPatch (object status : Json) :
    (object.mergePatch (Wired.statusPatch status)).finalizers = object.finalizers := by
  have other : "metadata" ≠ "status" := by decide
  have metadata : (object.mergePatch (Wired.statusPatch status)).field? "metadata" =
      object.field? "metadata" := by
    have inside : lastField "metadata" object.fieldsOf = object.field? "metadata" := by
      cases object <;> rfl
    rw [← inside]
    cases status with
    | null => exact lastField_dropField_of_ne other _
    | _ => exact lastField_setField_of_ne other _ _
  rw [finalizers, finalizers, metadata]

end Json

/-! ## Journals -/

/-- What is written to the stored declaration. -/
inductive DeclarationWrite where
  /-- The pass merges a patch into it. -/
  | merge (patch : Json)
  /-- Another controller puts its finalizer on, unless it is there. -/
  | enlist (finalizer : String)

namespace DeclarationWrite

def apply (stored : Json) : DeclarationWrite → Json
  | merge patch => stored.mergePatch patch
  | enlist finalizer =>
    if finalizer ∈ stored.finalizers then stored
    else stored.mergePatch (Wired.finalizersPatch (stored.finalizers ++ [finalizer]))

/-- A write by another controller. -/
def Enlists (write : DeclarationWrite) : Prop := ∃ finalizer, write = enlist finalizer

/-- A write that replaces the finalizers by those of a patch. -/
def Replaces (write : DeclarationWrite) : Prop :=
  ∃ finalizers, write = merge (Wired.finalizersPatch finalizers)

/-- What a journal of writes makes of a stored declaration. -/
def applyAll (stored : Json) (journal : List DeclarationWrite) : Json := journal.foldl apply stored

/-- A finalizer has been put on, and the finalizers have not been patched since then. -/
def Outlasts (finalizer : String) (journal : List DeclarationWrite) : Prop :=
  ∃ earlier later, journal = earlier ++ enlist finalizer :: later ∧
    ∀ write ∈ later, ¬ write.Replaces

variable {finalizer : String} {journal : List DeclarationWrite} {write : DeclarationWrite}

theorem applyAll_concat (stored : Json) (journal : List DeclarationWrite)
    (write : DeclarationWrite) :
    applyAll stored (journal ++ [write]) = apply (applyAll stored journal) write :=
  List.foldl_append

theorem mem_finalizers_enlist {stored : Json} {other : String} :
    finalizer ∈ ((enlist other).apply stored).finalizers ↔
      finalizer = other ∨ finalizer ∈ stored.finalizers := by
  rw [apply]
  split
  · next there =>
    refine ⟨.inr, ?_⟩
    rintro (rfl | mem)
    · exact there
    · exact mem
  · rw [Json.finalizers_mergePatch_finalizersPatch, List.mem_append, List.mem_singleton, or_comm]

theorem not_replaces_enlist (other : String) : ¬ (enlist other).Replaces := by
  rintro ⟨finalizers, ⟨⟩⟩

theorem not_replaces_statusPatch (status : Json) :
    ¬ (merge (Wired.statusPatch status)).Replaces := by
  rintro ⟨finalizers, same⟩
  simp [Wired.statusPatch, Wired.finalizersPatch] at same

theorem not_outlasts_nil (finalizer : String) : ¬ Outlasts finalizer [] := by
  rintro ⟨earlier, later, split, -⟩
  simp at split

/-- With one more write a finalizer outlasts the patches if this write puts it on, or if it did so
before and the write is no patch of the finalizers. -/
theorem outlasts_concat_iff :
    Outlasts finalizer (journal ++ [write]) ↔
      write = enlist finalizer ∨ ¬ write.Replaces ∧ Outlasts finalizer journal := by
  constructor
  · rintro ⟨earlier, later, split, since⟩
    rcases List.eq_nil_or_concat later with rfl | ⟨between, last, rfl⟩
    · obtain ⟨-, same⟩ := List.append_inj' split rfl
      exact .inl (List.cons.inj same).1
    · rw [List.concat_eq_append, ← List.cons_append, ← List.append_assoc] at split
      obtain ⟨rfl, same⟩ := List.append_inj' split rfl
      obtain rfl : write = last := (List.cons.inj same).1
      rw [List.concat_eq_append] at since
      obtain ⟨since, quiet⟩ := List.forall_mem_append.1 since
      exact .inr ⟨quiet write List.mem_cons_self, earlier, between, rfl, since⟩
  · rintro (rfl | ⟨quiet, earlier, later, rfl, since⟩)
    · exact ⟨journal, [], rfl, by simp⟩
    · refine ⟨earlier, later ++ [write], by simp, List.forall_mem_append.2 ⟨since, ?_⟩⟩
      exact List.forall_mem_singleton.2 quiet

/-- A write that agrees with a copy about a finalizer: it is another controller's, or a patch of the
status, or a patch of the finalizers that has this one just if the copy has it. -/
def AgreesWith (copy : List String) (finalizer : String) (write : DeclarationWrite) : Prop :=
  write.Enlists ∨ (∃ status, write = merge (Wired.statusPatch status)) ∨
    ∃ finalizers, write = merge (Wired.finalizersPatch finalizers) ∧
      (finalizer ∈ finalizers ↔ finalizer ∈ copy)

/-- What is left of a finalizer after writes that agree with the copy. -/
theorem mem_finalizers_applyAll_iff {stored : Json} {copy : List String}
    (start : finalizer ∈ stored.finalizers ↔ finalizer ∈ copy)
    (agree : ∀ write ∈ journal, write.AgreesWith copy finalizer) :
    finalizer ∈ (applyAll stored journal).finalizers ↔
      finalizer ∈ copy ∨ Outlasts finalizer journal := by
  induction journal using List.reverseRecOn with
  | nil => simpa [applyAll, not_outlasts_nil] using start
  | append_singleton journal write ih =>
    obtain ⟨agree, last⟩ := List.forall_mem_append.1 agree
    specialize ih agree
    rw [applyAll_concat, outlasts_concat_iff]
    rcases List.forall_mem_singleton.1 last with
      ⟨other, rfl⟩ | ⟨status, rfl⟩ | ⟨finalizers, rfl, same⟩
    · rw [mem_finalizers_enlist, ih]
      simp only [not_replaces_enlist, enlist.injEq, not_false_eq_true, true_and, eq_comm (a := other)]
      exact or_left_comm
    · simp only [apply, Json.finalizers_mergePatch_statusPatch, ih, not_replaces_statusPatch,
        reduceCtorEq, false_or, not_false_eq_true, true_and]
    -- A patch of the finalizers leaves nothing but those of the copy.
    · have replaces : (merge (Wired.finalizersPatch finalizers)).Replaces := ⟨_, rfl⟩
      simp only [apply, Json.finalizers_mergePatch_finalizersPatch, same, replaces, reduceCtorEq,
        not_true_eq_false, false_and, or_false]

end DeclarationWrite

/-! ## A pass among other controllers -/

/-- The patch that a request merges into the stored declaration. -/
def PassRequest.patch? : PassRequest → Option Json
  | .patchRealmStatus _ status =>
    some (Wired.statusPatch (KeycloakRealmStatus.form.write status))
  | .patchFinalizers _ finalizers => some (Wired.finalizersPatch finalizers)
  | _ => none

namespace Pass

open Program (Run Reaches Only)
open DeclarationWrite (Enlists Outlasts applyAll)

/-- Answers while others put their finalizers on. What changes is the journal of the declaration: a
request that does not fail has had its patch merged, one that fails may have had it merged, and after
each request there may be any number of writes by others. -/
def Shared : PassEnvironment (List DeclarationWrite) := fun request before answer after =>
  ∃ own others, after = before ++ own ++ others ∧ (∀ write ∈ others, write.Enlists) ∧
    (own = (request.patch?.map DeclarationWrite.merge).toList ∨
      own = [] ∧ request.FailsWith answer)

variable {declared : KeycloakRealm} {finalizer : String} {taken journal : List DeclarationWrite}

/-- The patches of a pass have the finalizers of its copy, up to the operator's own one. -/
theorem only_realm_agrees (foreign : finalizer ≠ KeycloakRealm.finalizer) :
    Only (fun request => ∀ patch, request.patch? = some patch →
      (DeclarationWrite.merge patch).AgreesWith declared.metadata.finalizerList finalizer)
      (realm declared).run := by
  refine only_realm ?_ ?_ ?_
  · intro request keeps patch patched
    cases request with
    | patchRealmStatus => exact keeps.elim
    | patchFinalizers => exact keeps.elim
    | _ => cases patched
  · intro request reports patch patched
    cases request with
    | patchRealmStatus key status =>
      cases patched
      exact .inr (.inl ⟨_, rfl⟩)
    | patchFinalizers => exact reports.elim
    | _ => cases patched
  · rintro request (rfl | rfl) patch patched
    · cases patched
      exact .inr (.inr ⟨_, rfl, by simp [foreign]⟩)
    · cases patched
      exact .inr (.inr ⟨_, rfl, by simp [KeycloakRealm.otherFinalizers, foreign]⟩)

/-- At every moment of a pass, with any writes by others between its requests and before the first one,
the finalizer of another controller is on the stored declaration just if it is on the copy that the
pass has taken, or if it has been put on after the last time that the finalizers were patched. -/
theorem foreign_finalizer_kept_iff (foreign : finalizer ≠ KeycloakRealm.finalizer) {stored : Json}
    (copied : declared.metadata.finalizerList = stored.finalizers)
    (meanwhile : ∀ write ∈ taken, write.Enlists)
    (reached : Reaches Shared (realm declared).run taken journal) :
    finalizer ∈ (applyAll stored journal).finalizers ↔
      finalizer ∈ declared.metadata.finalizerList ∨ Outlasts finalizer journal := by
  have extended : ∃ written, journal = taken ++ written ∧
      ∀ write ∈ written, write.AgreesWith declared.metadata.finalizerList finalizer := by
    refine (only_realm_agrees foreign).relates_of_reaches
      (R := fun before after => ∃ written, after = before ++ written ∧
        ∀ write ∈ written, write.AgreesWith declared.metadata.finalizerList finalizer)
      (fun journal => ⟨[], by simp⟩) ?_ ?_ reached
    · rintro a b c ⟨first, rfl, agree⟩ ⟨second, rfl, agree_too⟩
      exact ⟨first ++ second, by simp, List.forall_mem_append.2 ⟨agree, agree_too⟩⟩
    · rintro request before answer after patches ⟨own, others, rfl, enlisting, carried_out⟩
      refine ⟨own ++ others, by simp, List.forall_mem_append.2 ⟨?_, ?_⟩⟩
      · rcases carried_out with rfl | ⟨rfl, -⟩
        · intro write mem
          obtain ⟨patch, patched, rfl⟩ := Option.map_eq_some_iff.1 (Option.mem_toList.1 mem)
          exact patches patch patched
        · simp
      · exact fun write mem => .inl (enlisting write mem)
  obtain ⟨written, rfl, agree⟩ := extended
  refine DeclarationWrite.mem_finalizers_applyAll_iff (by rw [copied]) ?_
  exact List.forall_mem_append.2 ⟨fun write mem => .inl (meanwhile write mem), agree⟩

/-- A declaration without finalizers. -/
def unmarkedRealm : KeycloakRealm where
  metadata := { name := some "basic" }
  spec := { realm := { realm := "basic" } }

/-- What the cluster has stored of it. -/
def unmarkedObject : Json := .object [("metadata", .object [("name", .text "basic")])]

/-- The patch that puts the operator's own finalizer on it. -/
def markingWrite : DeclarationWrite := .merge (Wired.finalizersPatch ["keycloak.org/realm-cleanup"])

/-- Of two finalizers, one put on before the operator's own one and one after it, the second is left. -/
theorem later_finalizer_outlasts_patch :
    ∃ journal, Reaches Shared (realm unmarkedRealm).run [.enlist "example.com/backup"] journal ∧
      "example.com/backup" ∉ (applyAll unmarkedObject journal).finalizers ∧
      "example.com/audit" ∈ (applyAll unmarkedObject journal).finalizers := by
  let taken : List DeclarationWrite := [.enlist "example.com/backup"]
  let journal := taken ++ [markingWrite] ++ [.enlist "example.com/audit"]
  have meanwhile : ∀ write ∈ taken, write.Enlists := List.forall_mem_singleton.2 ⟨_, rfl⟩
  have marked : Shared (.patchFinalizers ⟨"basic", "default"⟩ ["keycloak.org/realm-cleanup"]) taken
      (.ok ()) journal :=
    ⟨[markingWrite], _, rfl, List.forall_mem_singleton.2 ⟨_, rfl⟩, .inl rfl⟩
  have reached : Reaches Shared (realm unmarkedRealm).run taken journal := .ask marked (.stop _ _)
  refine ⟨journal, reached, ?_, ?_⟩
  · rw [foreign_finalizer_kept_iff (by decide) rfl meanwhile reached]
    rintro (on_copy | since)
    · cases on_copy
    · rcases DeclarationWrite.outlasts_concat_iff.1 since with same | ⟨-, before_it⟩
      · simp at same
      rcases DeclarationWrite.outlasts_concat_iff.1 before_it with same | ⟨not_replaced, -⟩
      · cases same
      · exact not_replaced ⟨_, rfl⟩
  · refine (foreign_finalizer_kept_iff (by decide) rfl meanwhile reached).2 (.inr ?_)
    exact ⟨taken ++ [markingWrite], [], rfl, by simp⟩

/-- A finalizer that has been put on before the operator's own one is not on the declaration after a
pass that has succeeded. -/
theorem earlier_finalizer_lost :
    ¬ ∀ (declared : KeycloakRealm) (stored : Json) (finalizer : String)
      (taken journal : List DeclarationWrite) (events : List PassEvent) (result : Requeue),
      finalizer ≠ KeycloakRealm.finalizer → declared.metadata.finalizerList = stored.finalizers →
      (∀ write ∈ taken, write.Enlists) →
      Program.Run Shared (realm declared).run taken events (.ok result) journal →
      .enlist finalizer ∈ journal → finalizer ∈ (applyAll stored journal).finalizers := by
  intro kept
  let taken : List DeclarationWrite := [.enlist "example.com/backup"]
  let status := unmarkedRealm.statusAfterPass
    (.waiting "no Keycloak instance matches selector ''") none "2020-01-01T00:00:00Z"
  let report := DeclarationWrite.merge (Wired.statusPatch (KeycloakRealmStatus.form.write status))
  have marked : Shared (.patchFinalizers ⟨"basic", "default"⟩ ["keycloak.org/realm-cleanup"]) taken
      (.ok ()) (taken ++ [markingWrite]) :=
    ⟨[markingWrite], [], by simp, by simp, .inl rfl⟩
  have listed : Shared (.cluster (.list .keycloak "default" "")) (taken ++ [markingWrite]) (.ok [])
      (taken ++ [markingWrite]) :=
    ⟨[], [], by simp, by simp, .inl rfl⟩
  have timed : Shared .now (taken ++ [markingWrite]) "2020-01-01T00:00:00Z"
      (taken ++ [markingWrite]) :=
    ⟨[], [], by simp, by simp, .inl rfl⟩
  have reported : Shared (.patchRealmStatus ⟨"basic", "default"⟩ status) (taken ++ [markingWrite])
      (.ok ()) (taken ++ [markingWrite] ++ [report]) :=
    ⟨[report], [], by simp, by simp, .inl rfl⟩
  have run : Program.Run Shared (realm unmarkedRealm).run taken _ (.ok (.after 10)) _ :=
    .ask marked (.ask listed (.ask timed (.ask reported (.done _ _))))
  have left := kept unmarkedRealm unmarkedObject "example.com/backup" _ _ _ _ (by decide) rfl
    (List.forall_mem_singleton.2 ⟨_, rfl⟩) run (by simp [taken])
  -- The report leaves alone what the patch before it has made of the finalizers.
  rw [DeclarationWrite.applyAll_concat, DeclarationWrite.apply,
    Json.finalizers_mergePatch_statusPatch, DeclarationWrite.applyAll_concat, markingWrite,
    DeclarationWrite.apply, Json.finalizers_mergePatch_finalizersPatch] at left
  simp at left

end Pass

end IdentityOperator
