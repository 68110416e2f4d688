import IdentityOperator.Json.Form
import IdentityOperator.Proofs.Json.Text
import IdentityOperator.Proofs.TextMap

/-!
Forms that lose nothing.

A form keeps a value if the value is read back from what is written for it. This is shown for the
forms that are put together from plain values, lists and maps, member by member (`Form.Lossless`,
`Member.Lossless`, `Row.Lossless`), so that for a record only two facts about itself are left: no
two of its fields have one name, and it is built from what it is taken apart into.
-/

namespace IdentityOperator

namespace Json

/-! ## Depth -/

theorem itemsDepth_le_iff {n : Nat} {items : List Json} :
    itemsDepth items ≤ n ↔ ∀ item ∈ items, item.depth ≤ n := by
  induction items with
  | nil => simp [itemsDepth]
  | cons item rest ih => simp only [itemsDepth, Nat.max_le, ih, List.forall_mem_cons]

theorem fieldsDepth_le_iff {n : Nat} {fields : List (String × Json)} :
    fieldsDepth fields ≤ n ↔ ∀ field ∈ fields, field.2.depth ≤ n := by
  induction fields with
  | nil => simp [fieldsDepth]
  | cons field rest ih => simp only [fieldsDepth, Nat.max_le, ih, List.forall_mem_cons]

/-! ## Places of `null` -/

mutual

/-- Whether `null` stands only where the outline lets it stand for nothing. -/
def nullsFit : Json → Outline → Bool
  | null, outline => outline.allowsNull
  | list items, outline =>
    match outline.content with
    | .list item => nullsInItemsFit items item
    | _ => false
  | object fields, outline =>
    match outline.content with
    | .map value => nullsInValuesFit fields value
    | .record _ _ known => nullsInFieldsFit fields known
    | _ => false
  | _, _ => true

def nullsInItemsFit : List Json → Outline → Bool
  | [], _ => true
  | item :: rest, outline => item.nullsFit outline && nullsInItemsFit rest outline

def nullsInValuesFit : List (String × Json) → Outline → Bool
  | [], _ => true
  | (_, value) :: rest, outline => value.nullsFit outline && nullsInValuesFit rest outline

def nullsInFieldsFit : List (String × Json) → List (String × Bool × Outline) → Bool
  | [], _ => true
  | (name, value) :: rest, known =>
    (match known.lookup name with
      | some (_, outline) => value.nullsFit outline
      | none => false) && nullsInFieldsFit rest known

end

theorem nullsInItemsFit_iff {items : List Json} {outline : Outline} :
    nullsInItemsFit items outline = true ↔ ∀ item ∈ items, item.nullsFit outline = true := by
  induction items with
  | nil => simp [nullsInItemsFit]
  | cons item rest ih => simp [nullsInItemsFit, ih]

theorem nullsInValuesFit_iff {fields : List (String × Json)} {outline : Outline} :
    nullsInValuesFit fields outline = true ↔ ∀ field ∈ fields, field.2.nullsFit outline = true := by
  induction fields with
  | nil => simp [nullsInValuesFit]
  | cons field rest ih => simp [nullsInValuesFit, ih]

theorem nullsInFieldsFit_iff {fields : List (String × Json)}
    {known : List (String × Bool × Outline)} :
    nullsInFieldsFit fields known = true ↔ ∀ field ∈ fields, ∃ entry,
      known.lookup field.1 = some entry ∧ field.2.nullsFit entry.2 = true := by
  induction fields with
  | nil => simp [nullsInFieldsFit]
  | cons field rest ih =>
    simp only [nullsInFieldsFit, Bool.and_eq_true, ih, List.forall_mem_cons]
    cases known.lookup field.1 <;> simp

theorem nullsFit_nullable {json : Json} {outline : Outline}
    (fit : json.nullsFit outline = true) : json.nullsFit (.nullable outline) = true := by
  cases json with
  | null => rfl
  | bool | int | decimal | text | unreadable => rfl
  | list items => simpa only [nullsFit, Outline.content] using fit
  | object fields => simpa only [nullsFit, Outline.content] using fit

end Json

/-! ## The laws -/

/-- A value that is read back from what is written for it. -/
structure Form.Keeps {α : Type} (form : Form α) (value : α) : Prop where
  read : ∀ depth, (form.write value).depth ≤ depth →
    form.read depth (form.write value) = some value
  writable : (form.write value).isWritable = true
  not_null : form.write value ≠ .null
  nulls_fit : (form.write value).nullsFit form.outline = true

/-- A form that keeps all values that open no more than `n` levels. -/
class Form.Lossless {α : Type} (n : Nat) (form : Form α) : Prop where
  keeps : ∀ value, (form.write value).depth ≤ n → form.Keeps value

/-- A value of a member that is read back from what is written for it, and found again where nothing
is written for it. -/
structure Member.Keeps {α : Type} (member : Member α) (value : α) : Prop where
  missing : member.write value = none → member.missing = some value
  read : ∀ json ∈ member.write value, ∀ depth, json.depth ≤ depth →
    member.read depth json = some value
  writable : ∀ json ∈ member.write value, json.isWritable = true
  nulls_fit : ∀ json ∈ member.write value, json.nullsFit member.outline = true

class Member.Lossless {α : Type} (n : Nat) (member : Member α) : Prop where
  keeps : ∀ value, (∀ json ∈ member.write value, json.depth ≤ n) → member.Keeps value

/-- The values of a row that are read back from the fields that are written for them. -/
structure Row.Keeps {ρ : Type} (row : Row ρ) (values : ρ) : Prop where
  read : ∀ depth, Json.fieldsDepth (row.write values) ≤ depth → ∀ found : Found,
    (∀ name ∈ row.names, found name = (Form.valuesOf name (row.write values)).map some) →
      row.read depth found = some values
  names : ((row.write values).map (·.1)).Sublist row.names
  writable : Json.fieldsWritable (row.write values) = true
  nulls_fit : Json.nullsInFieldsFit (row.write values) row.outlines = true

class Row.Lossless {ρ : Type} (n : Nat) (row : Row ρ) : Prop where
  keeps : row.names.Nodup → ∀ values, Json.fieldsDepth (row.write values) ≤ n → row.Keeps values

variable {α : Type} {n : Nat}

/-! ## Plain values -/

namespace Form

theorem Lossless.mono {form : Form α} {m : Nat} (le : m ≤ n) [form.Lossless n] :
    form.Lossless m :=
  ⟨fun value shallow => Lossless.keeps value (Nat.le_trans shallow le)⟩

instance : text.Lossless n where
  keeps _ _ := {
    read := fun _ _ => rfl
    writable := rfl
    not_null := Json.noConfusion
    nulls_fit := rfl }

instance : bool.Lossless n where
  keeps _ _ := {
    read := fun _ _ => rfl
    writable := rfl
    not_null := Json.noConfusion
    nulls_fit := rfl }

theorem isWritable_int {k : Int} (low : Int64.minValue.toInt ≤ k) (high : k < UInt64.size) :
    (Json.int k).isWritable = true :=
  decide_eq_true ⟨low, high⟩

instance : int32.Lossless n where
  keeps value _ := {
    read := fun _ _ => by
      have bounds : Int32.minValue.toInt ≤ value.toInt ∧ value.toInt ≤ Int32.maxValue.toInt :=
        ⟨Int32.minValue_le_toInt value, Int32.toInt_le value⟩
      simp only [int32, if_pos bounds, Int32.ofInt_toInt]
    writable := isWritable_int (Int.le_trans (by decide) (Int32.minValue_le_toInt value))
      (Int.lt_of_le_of_lt (Int32.toInt_le value) (by decide))
    not_null := Json.noConfusion
    nulls_fit := rfl }

instance : int64.Lossless n where
  keeps value _ := {
    read := fun _ _ => by
      have bounds : Int64.minValue.toInt ≤ value.toInt ∧ value.toInt ≤ Int64.maxValue.toInt :=
        ⟨Int64.minValue_le_toInt value, Int64.toInt_le value⟩
      simp only [int64, if_pos bounds, Int64.ofInt_toInt]
    writable := isWritable_int (Int64.minValue_le_toInt value)
      (Int.lt_of_le_of_lt (Int64.toInt_le value) (by decide))
    not_null := Json.noConfusion
    nulls_fit := rfl }

/-- Of finitely many values each is kept if it is found by its name. -/
theorem lossless_choice {values : List α} {name : α → String}
    (found : ∀ value, values.find? (name · = name value) = some value) :
    (choice values name).Lossless n where
  keeps value _ := {
    read := fun _ _ => found value
    writable := rfl
    not_null := Json.noConfusion
    nulls_fit := rfl }

/-! ## Lists and maps -/

theorem mapM_read_write {β γ : Type} (read : γ → Option β) (write : β → γ) {values : List β}
    (kept : ∀ value ∈ values, read (write value) = some value) :
    (values.map write).mapM read = some values := by
  induction values with
  | nil => rfl
  | cons value rest ih =>
    have ⟨here, later⟩ := List.forall_mem_cons.1 kept
    simp [here, ih later]

instance {form : Form α} [form.Lossless n] : form.list.Lossless n where
  keeps items shallow := by
    have depth_of_mem : ∀ {m}, (form.list.write items).depth ≤ m + 1 → ∀ item ∈ items,
        (form.write item).depth ≤ m := fun shallow item mem =>
      Json.itemsDepth_le_iff.1 (Nat.le_of_succ_le_succ shallow) _ (List.mem_map_of_mem mem)
    have each : ∀ item ∈ items, form.Keeps item := fun item mem =>
      Lossless.keeps item (depth_of_mem (Nat.le_succ_of_le shallow) item mem)
    refine ⟨fun depth enough => ?_, ?_, Json.noConfusion, ?_⟩
    · cases depth with
      | zero => cases enough
      | succ depth =>
        exact mapM_read_write _ _ fun item mem =>
          (each item mem).read depth (depth_of_mem enough item mem)
    · refine Json.itemsWritable_iff.2 (List.forall_mem_map.2 fun item mem => ?_)
      exact (each item mem).writable
    · refine Json.nullsInItemsFit_iff.2 (List.forall_mem_map.2 fun item mem => ?_)
      exact (each item mem).nulls_fit

instance {form : Form α} [form.Lossless n] : form.map.Lossless n where
  keeps entries shallow := by
    have depth_of_mem : ∀ {m}, (form.map.write entries).depth ≤ m + 1 → ∀ entry ∈ entries.toList,
        (form.write entry.2).depth ≤ m := fun shallow entry mem =>
      Json.fieldsDepth_le_iff.1 (Nat.le_of_succ_le_succ shallow) _ (List.mem_map_of_mem mem)
    have each : ∀ entry ∈ entries.toList, form.Keeps entry.2 := fun entry mem =>
      Lossless.keeps entry.2 (depth_of_mem (Nat.le_succ_of_le shallow) entry mem)
    refine ⟨fun depth enough => ?_, ?_, Json.noConfusion, ?_⟩
    · cases depth with
      | zero => cases enough
      | succ depth =>
        have read := mapM_read_write
          (fun field : String × Json => (form.read depth field.2).map (field.1, ·))
          (fun entry => (entry.1, form.write entry.2)) fun entry mem => by
            rw [(each entry mem).read depth (depth_of_mem enough entry mem), Option.map_some]
        show Option.map TextMap.ofList _ = some entries
        rw [read, Option.map_some, TextMap.ofList_toList]
    · refine Json.fieldsWritable_iff.2 (List.forall_mem_map.2 fun entry mem => ?_)
      exact (each entry mem).writable
    · refine Json.nullsInValuesFit_iff.2 (List.forall_mem_map.2 fun entry mem => ?_)
      exact (each entry mem).nulls_fit

/-! ## Optional values -/

theorem Keeps.nullable {form : Form α} {value : α} (keeps : form.Keeps value) :
    form.nullable.Keeps (some value) where
  read depth enough := by
    have read := keeps.read depth enough
    simp only [Form.nullable]
    split
    · next null => exact absurd null keeps.not_null
    · rw [read, Option.map_some]
  writable := keeps.writable
  not_null := keeps.not_null
  nulls_fit := Json.nullsFit_nullable keeps.nulls_fit

end Form

/-! ## Members -/

namespace Member

/-- A member keeps a value that is written by a form which keeps it. -/
theorem Keeps.of_written {member : Member α} (form : Form α) {value : α} (keeps : form.Keeps value)
    (reads : member.read = form.read) (outlined : member.outline = form.outline)
    (written : member.write value = some (form.write value)) : member.Keeps value where
  missing absent := by
    rw [written] at absent
    cases absent
  read json mem depth enough := by
    rw [written] at mem
    cases mem
    rw [reads, keeps.read depth enough]
  writable json mem := by
    rw [written] at mem
    cases mem
    exact keeps.writable
  nulls_fit json mem := by
    rw [written] at mem
    cases mem
    rw [outlined, keeps.nulls_fit]

/-- A member keeps a value that is left out if this is what it means that the field is missing. -/
theorem Keeps.of_left_out {member : Member α} {value : α} (skipped : member.write value = none)
    (missing : member.missing = some value) : member.Keeps value where
  missing _ := missing
  read _ mem := by
    rw [skipped] at mem
    cases mem
  writable _ mem := by
    rw [skipped] at mem
    cases mem
  nulls_fit _ mem := by
    rw [skipped] at mem
    cases mem

/-- The value is read from the fields that are written for it. -/
theorem Keeps.readAll {member : Member α} {value : α} (keeps : member.Keeps value)
    (depth : Nat) (enough : ∀ json ∈ member.write value, json.depth ≤ depth) :
    member.readAll depth ((member.write value).toList.map some) = some value := by
  cases written : member.write value with
  | none => simp [Member.readAll, keeps.missing written]
  | some json =>
    have read := keeps.read json written depth (enough json written)
    simp [Member.readAll, readFound, read]

variable {name : String} {form : Form α} [form.Lossless n]

instance : (required name form).Lossless n where
  keeps value shallow := .of_written _ (Form.Lossless.keeps value (shallow _ rfl)) rfl rfl rfl

instance {default : α} : (defaulted name form default).Lossless n where
  keeps value shallow := .of_written _ (Form.Lossless.keeps value (shallow _ rfl)) rfl rfl rfl

instance : (optional name form).Lossless n where
  keeps value shallow := by
    cases value with
    | none =>
      refine ⟨nofun, ?_, ?_, ?_⟩
      all_goals
        rintro json ⟨⟩
        intros
        rfl
    | some value =>
      have keeps : form.Keeps value := Form.Lossless.keeps value (shallow _ rfl)
      exact .of_written form.nullable keeps.nullable rfl rfl rfl

instance : (omitted name form).Lossless n where
  keeps value shallow := by
    cases value with
    | none => exact .of_left_out rfl rfl
    | some value =>
      have keeps : form.Keeps value := Form.Lossless.keeps value (shallow _ rfl)
      exact .of_written form.nullable keeps.nullable rfl rfl rfl

instance : (listed name form).Lossless n where
  keeps items shallow := by
    cases items with
    | nil => exact .of_left_out rfl rfl
    | cons item rest => exact .of_written _ (Form.Lossless.keeps _ (shallow _ rfl)) rfl rfl rfl

instance : (mapped name form).Lossless n where
  keeps entries shallow := by
    cases empty : entries.isEmpty with
    | true =>
      have none_left : entries = TextMap.empty := TextMap.ext (List.isEmpty_iff.1 empty)
      subst none_left
      exact .of_left_out rfl rfl
    | false =>
      have written : (mapped name form).write entries = some (form.map.write entries) := by
        simp [mapped, empty]
      exact .of_written _ (Form.Lossless.keeps _ (shallow _ written)) rfl rfl written

end Member

/-! ## Rows -/

namespace Form

theorem valuesOf_append (name : String) (front back : List (String × Json)) :
    valuesOf name (front ++ back) = valuesOf name front ++ valuesOf name back := by
  simp [valuesOf]

theorem valuesOf_eq_nil {name : String} {fields : List (String × Json)}
    (absent : name ∉ fields.map (·.1)) : valuesOf name fields = [] := by
  rw [valuesOf, List.map_eq_nil_iff, List.filter_eq_nil_iff]
  rintro field mem named
  exact absent (of_decide_eq_true named ▸ List.mem_map_of_mem mem)

end Form

namespace Row

variable {β : Type}

instance : nil.Lossless n where
  keeps _ _ _ := {
    read := fun _ _ _ _ => rfl
    names := .slnil
    writable := rfl
    nulls_fit := rfl }

section

variable {member : Member α} {row : Row β} {value : α} {values : β}

theorem write_cons (member : Member α) (row : Row β) (value : α) (values : β) :
    (cons member row).write (value, values) =
      (member.write value).toList.map (member.name, ·) ++ row.write values := by
  simp only [cons]
  cases member.write value <;> rfl

theorem valuesOf_write_cons_self (unwritten : member.name ∉ (row.write values).map (·.1)) :
    Form.valuesOf member.name ((cons member row).write (value, values)) =
      (member.write value).toList := by
  rw [write_cons, Form.valuesOf_append, Form.valuesOf_eq_nil unwritten, List.append_nil]
  cases member.write value <;> simp [Form.valuesOf]

theorem valuesOf_write_cons_of_ne {name : String} (differs : name ≠ member.name) :
    Form.valuesOf name ((cons member row).write (value, values)) =
      Form.valuesOf name (row.write values) := by
  rw [write_cons, Form.valuesOf_append, Form.valuesOf_eq_nil, List.nil_append]
  intro named
  obtain ⟨field, written, rfl⟩ := List.mem_map.1 named
  obtain ⟨json, -, rfl⟩ := List.mem_map.1 written
  exact differs rfl

/-- What is written under a name of a row with one more member. -/
theorem lastField_write_cons (name : String) :
    Json.lastField name ((cons member row).write (value, values)) =
      (Json.lastField name (row.write values)).or
        (if member.name = name then member.write value else none) := by
  rw [write_cons]
  cases member.write value with
  | none => simp
  | some json =>
    simp only [Option.toList_some, List.map_cons, List.map_nil, List.singleton_append,
      Json.lastField]
    cases Json.lastField name (row.write values) <;> simp

/-- A row with one more member keeps the values if the member keeps its value and the row keeps the
rest. -/
theorem Keeps.cons (value_kept : member.Keeps value) (keeps : row.Keeps values)
    (fresh : member.name ∉ row.names) : (Row.cons member row).Keeps (value, values) where
  read depth enough found found_eq := by
    rw [write_cons, Json.fieldsDepth_le_iff, List.forall_mem_append] at enough
    have value_read := value_kept.readAll depth fun json mem =>
      enough.1 (member.name, json) (List.mem_map_of_mem (Option.mem_toList.2 mem))
    have rest_read := keeps.read depth (Json.fieldsDepth_le_iff.2 enough.2) found fun name mem => by
      rw [found_eq name (List.mem_cons_of_mem _ mem), valuesOf_write_cons_of_ne]
      rintro rfl
      exact fresh mem
    have unwritten : member.name ∉ (row.write values).map (·.1) := fun mem =>
      fresh (keeps.names.subset mem)
    simp only [Row.cons]
    rw [found_eq member.name List.mem_cons_self, valuesOf_write_cons_self unwritten, value_read,
      rest_read]
    rfl
  names := by
    rw [write_cons]
    cases member.write value with
    | none => exact keeps.names.cons _
    | some json => exact keeps.names.cons_cons _
  writable := by
    rw [write_cons, Json.fieldsWritable_iff, List.forall_mem_append]
    exact ⟨by simpa using value_kept.writable, Json.fieldsWritable_iff.1 keeps.writable⟩
  nulls_fit := by
    rw [write_cons, Json.nullsInFieldsFit_iff, List.forall_mem_append]
    refine ⟨?_, fun field mem => ?_⟩
    · rintro field mem
      obtain ⟨json, written, rfl⟩ := List.mem_map.1 mem
      exact ⟨_, List.lookup_cons_self, value_kept.nulls_fit json (Option.mem_toList.1 written)⟩
    · obtain ⟨entry, found, fit⟩ := Json.nullsInFieldsFit_iff.1 keeps.nulls_fit field mem
      have differs : field.1 ≠ member.name := fun same =>
        fresh (keeps.names.subset (same ▸ List.mem_map_of_mem mem))
      exact ⟨entry, by rw [Row.cons, List.lookup_cons, beq_eq_false_iff_ne.2 differs, found], fit⟩

instance [member.Lossless n] [row.Lossless n] : (cons member row).Lossless n where
  keeps := by
    rintro distinct ⟨value, values⟩ shallow
    have ⟨fresh, distinct⟩ := List.nodup_cons.1 distinct
    rw [write_cons, Json.fieldsDepth_le_iff, List.forall_mem_append] at shallow
    have value_kept : member.Keeps value := Member.Lossless.keeps value fun json mem =>
      shallow.1 (member.name, json) (List.mem_map_of_mem (Option.mem_toList.2 mem))
    have keeps : row.Keeps values :=
      Row.Lossless.keeps distinct values (Json.fieldsDepth_le_iff.2 shallow.2)
    exact Keeps.cons value_kept keeps fresh

end

end Row

/-! ## Records -/

namespace Form

variable {ρ : Type} {name : String} {row : Row ρ} {build : ρ → α} {fields : α → ρ}

/-- A record that opens one level more than its fields. -/
theorem lossless_strict_succ [row.Lossless n] (distinct : row.names.Nodup)
    (built : ∀ value, build (fields value) = value) :
    (strict name row build fields).Lossless (n + 1) where
  keeps value shallow := by
    have keeps : row.Keeps (fields value) :=
      Row.Lossless.keeps distinct (fields value) (Nat.le_of_succ_le_succ shallow)
    refine ⟨fun depth enough => ?_, keeps.writable, Json.noConfusion, keeps.nulls_fit⟩
    cases depth with
    | zero => cases enough
    | succ depth =>
      have known : ((row.write (fields value)).map (·.1)).filter (row.names.contains ·) |>.Nodup :=
        (distinct.sublist keeps.names).filter _
      have read := keeps.read depth (Nat.le_of_succ_le_succ enough)
        (fun name => (valuesOf name (row.write (fields value))).map some) fun _ _ => rfl
      show ((strictFields row.names (row.write (fields value))).bind fun found =>
        (row.read depth found).map build) = some value
      rw [strictFields, if_pos known, Option.bind_some, read, Option.map_some, built]

/-- A record without two fields of one name, built from what it is taken apart into, loses nothing.
-/
theorem lossless_strict [row.Lossless n] (distinct : row.names.Nodup)
    (built : ∀ value, build (fields value) = value) : (strict name row build fields).Lossless n :=
  have : (strict name row build fields).Lossless (n + 1) := lossless_strict_succ distinct built
  Lossless.mono (Nat.le_succ n)

/-! ## Texts -/

/-- The compact text of a value. -/
def render (form : Form α) (value : α) : String := (form.write value).render

/-- The value that a text stands for, within the depth that every text may have. -/
def ofText? (form : Form α) (text : String) : Option α := (Json.ofText? text).bind form.ofJson?

/-- A value that is kept is read back from its text, if the text may have its depth. -/
theorem Keeps.ofText?_render {form : Form α} {value : α} (keeps : form.Keeps value)
    (shallow : (form.write value).depth ≤ maxDepth) :
    form.ofText? (form.render value) = some value := by
  rw [ofText?, render, Json.ofText?_render keeps.writable, Option.bind_some, ofJson?,
    keeps.read maxDepth shallow]

end Form

end IdentityOperator
