import IdentityOperator.Json
import IdentityOperator.Json.Outline
import IdentityOperator.TextMap
import IdentityOperator.Text.Base64

/-!
Forms: how a type is written as JSON and read back.

A form of a record is put together from its fields, and each field says what a reader finds when it
is missing and whether a writer may leave it out. From one such row follow the written object and
two readers: the strict one, which refuses a repeated field and also takes the fields of a list by
position, and the lenient one, which reads all of repeated fields, takes the last, and treats `null`
as missing.

A reader gets the number of objects and lists that it may still open, one inside the other. What a
form expects can also be looked at, as its outline.
-/

namespace IdentityOperator

/-- Reading and writing values of one type. -/
structure Form (α : Type) where
  /-- The value that a JSON value stands for, if it opens no more than `depth` levels. -/
  read : (depth : Nat) → Json → Option α
  /-- The JSON value of a value. -/
  write : α → Json
  /-- What is expected of the text of a value. -/
  outline : Outline

namespace Form

/-- How many levels of objects and lists a text may open. -/
def maxDepth : Nat := 127

/-- Read a value within the depth that every text may have. -/
def ofJson? {α : Type} (form : Form α) (json : Json) : Option α := form.read maxDepth json

/-! ## Plain values -/

def text : Form String where
  read _ := fun | .text value => some value | _ => none
  write := .text
  outline := .text

def bool : Form Bool where
  read _ := fun | .bool value => some value | _ => none
  write := .bool
  outline := .bool

/-- An integer of 32 bits with sign. -/
def int32 : Form Int32 where
  read _ := fun
    | .int n =>
      if Int32.minValue.toInt ≤ n ∧ n ≤ Int32.maxValue.toInt then some (Int32.ofInt n) else none
    | _ => none
  write n := .int n.toInt
  outline := .integer "i32" Int32.minValue.toInt Int32.maxValue.toInt

/-- An integer of 64 bits with sign. -/
def int64 : Form Int64 where
  read _ := fun
    | .int n =>
      if Int64.minValue.toInt ≤ n ∧ n ≤ Int64.maxValue.toInt then some (Int64.ofInt n) else none
    | _ => none
  write n := .int n.toInt
  outline := .integer "i64" Int64.minValue.toInt Int64.maxValue.toInt

/-- An integer of 16 bits without sign. -/
def uint16 : Form UInt16 where
  read _ := fun
    | .int n => if 0 ≤ n ∧ n < UInt16.size then some (UInt16.ofNat n.toNat) else none
    | _ => none
  write n := .int n.toNat
  outline := .integer "u16" 0 (UInt16.size - 1)

/-- An integer of 32 bits without sign. -/
def uint32 : Form UInt32 where
  read _ := fun
    | .int n => if 0 ≤ n ∧ n < UInt32.size then some (UInt32.ofNat n.toNat) else none
    | _ => none
  write n := .int n.toNat
  outline := .integer "u32" 0 (UInt32.size - 1)

/-- Bytes as base64 text; `null` stands for no bytes. -/
def bytes : Form (List UInt8) where
  read _ := fun
    | .text value => Base64.decode? .standard value
    | .null => some []
    | _ => none
  write value := .text (Base64.encode .standard value)
  outline := .bytes

/-- JSON itself, taken as it stands. -/
def json : Form Json where
  read depth value := if value.depth ≤ depth ∧ value.isReadable then some value else none
  write value := value
  outline := .anything

def nullable {α : Type} (form : Form α) : Form (Option α) where
  read depth := fun | .null => some none | json => (form.read depth json).map some
  write := fun | none => .null | some value => form.write value
  outline := .nullable form.outline

/-- One of finitely many values by its name, which may also be the only field of an object, with
`null` in it. -/
def choice {α : Type} (values : List α) (name : α → String) : Form α where
  read depth := fun
    | .text given => values.find? (name · = given)
    | .object [(given, .null)] =>
      if depth = 0 then none else values.find? (name · = given)
    | _ => none
  write value := .text (name value)
  outline := .choice (values.map name)

/-! ## Lists and maps -/

def list {α : Type} (form : Form α) : Form (List α) where
  read depth := fun
    | .list items => match depth with
      | 0 => none
      | depth + 1 => items.mapM (form.read depth)
    | _ => none
  write items := .list (items.map form.write)
  outline := .list form.outline

/-- A map as an object; the last of repeated names counts. -/
def map {α : Type} (form : Form α) : Form (TextMap α) where
  read depth := fun
    | .object fields => match depth with
      | 0 => none
      | depth + 1 =>
        (fields.mapM fun field => (form.read depth field.2).map (field.1, ·)).map TextMap.ofList
    | _ => none
  write entries := .object (entries.toList.map fun entry => (entry.1, form.write entry.2))
  outline := .map form.outline

end Form

/-! ## Members and rows -/

/-- One member of a record: a field, and what it means that it is missing. -/
structure Member (α : Type) where
  name : String
  /-- The value of a field that is there. -/
  read : (depth : Nat) → Json → Option α
  /-- The value of a field that is missing; none if the field must be there. -/
  missing : Option α
  /-- What is written; none to leave the field out. -/
  write : α → Option Json
  /-- What is expected of the text of a field that is there. -/
  outline : Outline

namespace Member

variable {α : Type}

/-- A field that must be there. -/
def required (name : String) (form : Form α) : Member α :=
  ⟨name, form.read, none, fun value => some (form.write value), form.outline⟩

/-- A field with a value of its own when missing; it is always written. -/
def defaulted (name : String) (form : Form α) (value : α) : Member α :=
  ⟨name, form.read, some value, fun value => some (form.write value), form.outline⟩

/-- An optional field that is written as `null` when unset. -/
def optional (name : String) (form : Form α) : Member (Option α) :=
  ⟨name, form.nullable.read, some none, fun value => some (form.nullable.write value),
    form.nullable.outline⟩

/-- An optional field that is left out when unset. -/
def omitted (name : String) (form : Form α) : Member (Option α) :=
  ⟨name, form.nullable.read, some none, fun value => value.map form.write, form.nullable.outline⟩

/-- A list that is left out when empty. -/
def listed (name : String) (form : Form α) : Member (List α) :=
  ⟨name, form.list.read, some [], fun items =>
    if items.isEmpty then none else some (form.list.write items), form.list.outline⟩

/-- A map that is left out when empty. -/
def mapped (name : String) (form : Form α) : Member (TextMap α) :=
  ⟨name, form.map.read, some TextMap.empty, fun entries =>
    if entries.isEmpty then none else some (form.map.write entries), form.map.outline⟩

end Member

/-- What was found under each name: all values in their order, `none` for one that counts as
missing. -/
abbrev Found : Type := String → List (Option Json)

namespace Member

/-- What one of the values found means. -/
def readFound {α : Type} (member : Member α) (depth : Nat) : Option Json → Option α
  | some json => member.read depth json
  | none => member.missing

/-- What all the values found mean: each has to mean something, and the last one counts. -/
def readAll {α : Type} (member : Member α) (depth : Nat) (found : List (Option Json)) :
    Option α := do
  let values ← found.mapM (member.readFound depth)
  values.getLast?.or member.missing

end Member

/-- The members of a record, with the tuple of their values as `α`. -/
structure Row (α : Type) where
  /-- The fields, whether each must be there, and what is expected of it. -/
  outlines : List (String × Bool × Outline)
  /-- The values, from what was found. -/
  read : (depth : Nat) → Found → Option α
  /-- The fields that are written. -/
  write : α → List (String × Json)

namespace Row

variable {α β : Type}

def names (row : Row α) : List String := row.outlines.map (·.1)

def nil : Row Unit := ⟨[], fun _ _ => some (), fun _ => []⟩

/-- A row with one more member in front. -/
def cons (member : Member α) (row : Row β) : Row (α × β) where
  outlines := (member.name, member.missing.isNone, member.outline) :: row.outlines
  read depth found := do
    let value ← member.readAll depth (found member.name)
    let rest ← row.read depth found
    some (value, rest)
  write := fun (value, rest) =>
    match member.write value with
    | some json => (member.name, json) :: row.write rest
    | none => row.write rest

end Row

/-! ## Records -/

namespace Form

variable {α ρ : Type}

def valuesOf (name : String) (fields : List (String × Json)) : List Json :=
  (fields.filter (·.1 = name)).map (·.2)

/-- The fields of an object, if no name of the row is repeated. -/
def strictFields (names : List String) (fields : List (String × Json)) : Option Found :=
  let known := (fields.map (·.1)).filter (names.contains ·)
  if known.Nodup then some fun name => (valuesOf name fields).map some else none

/-- The fields of a list, by position; none if there are more items than names. -/
def positionalFields (names : List String) (items : List Json) : Option Found :=
  if items.length ≤ names.length then some fun name => (valuesOf name (names.zip items)).map some
  else none

/-- A record that is read strictly: no field twice, and a list gives the fields in their order. A
complaint calls the record by its name. -/
def strict (name : String) (row : Row ρ) (build : ρ → α) (fields : α → ρ) : Form α where
  read depth json := match depth with
    | 0 => none
    | depth + 1 => do
      let found ← match json with
        | .object given => strictFields row.names given
        | .list items => positionalFields row.names items
        | _ => none
      (row.read depth found).map build
  write value := .object (row.write (fields value))
  outline := .record .strict name row.outlines

/-- All fields of that name, with `null` as missing. -/
def lenientFields (given : List (String × Json)) : Found := fun name =>
  (valuesOf name given).map fun | .null => none | json => some json

/-- A record that is read leniently: the last of repeated fields counts, and `null` is missing. -/
def lenient (name : String) (row : Row ρ) (build : ρ → α) (fields : α → ρ) : Form α where
  read depth := fun
    | .object given => match depth with
      | 0 => none
      | depth + 1 => (row.read depth (lenientFields given)).map build
    | _ => none
  write value := .object (row.write (fields value))
  outline := .record .lenient name (Outline.allNullable row.outlines)

end Form

end IdentityOperator
