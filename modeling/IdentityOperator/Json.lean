/-!
JSON values.

An object keeps its fields in written order and may repeat a name; what a repeated name means is
decided by the reader of the object. A number written as an integer within 64 bits is an `int`; any
other number is the shortest text of the double that it is read as. A part that obeys the grammar
and still denotes no value (a string with half of a surrogate pair or with bytes that are no
characters, an object with such a name, a number beyond every double) is `unreadable`: it may stand
where nobody looks.
-/

namespace IdentityOperator

inductive Json where
  | null
  | bool (value : Bool)
  | int (value : Int)
  | decimal (literal : String)
  | text (value : String)
  | list (items : List Json)
  | object (fields : List (String × Json))
  | unreadable
  deriving Inhabited

namespace Json

def lastField (name : String) : List (String × Json) → Option Json
  | [] => none
  | (k, v) :: rest =>
    match lastField name rest with
    | some found => some found
    | none => if k = name then some v else none

/-- The value of a field, if this is an object with such a field. -/
def field? (name : String) : Json → Option Json
  | object fields => lastField name fields
  | _ => none

/-- Set a field, in the place of the last one of that name or at the end. -/
def setField (name : String) (value : Json) : List (String × Json) → List (String × Json)
  | [] => [(name, value)]
  | (k, v) :: rest =>
    if k = name ∧ (lastField name rest).isNone then (k, value) :: rest
    else (k, v) :: setField name value rest

def dropField (name : String) (fields : List (String × Json)) : List (String × Json) :=
  fields.filter fun f => f.1 ≠ name

@[simp] theorem lastField_setField_self (name : String) (value : Json)
    (fields : List (String × Json)) : lastField name (setField name value fields) = some value := by
  induction fields with
  | nil => simp [setField, lastField]
  | cons field rest ih =>
    unfold setField
    split
    · next last => simp [lastField, last.1, Option.isNone_iff_eq_none.1 last.2]
    · simp [lastField, ih]

theorem lastField_setField_of_ne {name other : String} (differs : other ≠ name) (value : Json)
    (fields : List (String × Json)) :
    lastField other (setField name value fields) = lastField other fields := by
  induction fields with
  | nil => simp [setField, lastField, differs.symm]
  | cons field rest ih =>
    unfold setField
    split
    · next last => simp [lastField, last.1, differs.symm]
    · simp [lastField, ih]

theorem lastField_dropField_of_ne {name other : String} (differs : other ≠ name)
    (fields : List (String × Json)) :
    lastField other (dropField name fields) = lastField other fields := by
  induction fields with
  | nil => rfl
  | cons field rest ih =>
    by_cases here : field.1 = name
    · have dropped : dropField name (field :: rest) = dropField name rest := by
        simp [dropField, here]
      rw [dropped, ih, lastField]
      cases lastField other rest <;> simp [here, differs.symm]
    · have kept : dropField name (field :: rest) = field :: dropField name rest := by
        simp [dropField, here]
      rw [kept, lastField, lastField, ih]

mutual

/-- How many objects and lists are open at the deepest place. -/
def depth : Json → Nat
  | list items => itemsDepth items + 1
  | object fields => fieldsDepth fields + 1
  | _ => 0

def itemsDepth : List Json → Nat
  | [] => 0
  | item :: rest => max item.depth (itemsDepth rest)

def fieldsDepth : List (String × Json) → Nat
  | [] => 0
  | (_, value) :: rest => max value.depth (fieldsDepth rest)

end

mutual

/-- Whether every part of a value denotes something. -/
def isReadable : Json → Bool
  | unreadable => false
  | list items => itemsReadable items
  | object fields => fieldsReadable fields
  | _ => true

def itemsReadable : List Json → Bool
  | [] => true
  | item :: rest => item.isReadable && itemsReadable rest

def fieldsReadable : List (String × Json) → Bool
  | [] => true
  | (_, value) :: rest => value.isReadable && fieldsReadable rest

end

end Json

end IdentityOperator
