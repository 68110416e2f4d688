import IdentityOperator.Json
import IdentityOperator.TextMap

/-!
JSON values with their fields in order, and the texts in a value: finding those under certain names,
and replacing all of them.
-/

namespace IdentityOperator.Json

mutual

/-- A value with the fields of its objects in the order of their names, and only the last one of
each name. -/
def sorted : Json → Json
  | list items => list (sortedItems items)
  | object fields => object (TextMap.ofList (sortedFields fields)).toList
  | value => value

/-- Items with their fields in order. -/
def sortedItems : List Json → List Json
  | [] => []
  | item :: rest => item.sorted :: sortedItems rest

/-- Fields whose values have their fields in order. -/
def sortedFields : List (String × Json) → List (String × Json)
  | [] => []
  | (name, value) :: rest => (name, value.sorted) :: sortedFields rest

end

mutual

/-- The texts that are values of fields of certain names, in the order of a walk through the value.
-/
def textsUnder (names : List String) : Json → List String
  | list items => itemTexts names items
  | object fields => fieldTexts names fields
  | _ => []

def itemTexts (names : List String) : List Json → List String
  | [] => []
  | item :: rest => item.textsUnder names ++ itemTexts names rest

def fieldTexts (names : List String) : List (String × Json) → List String
  | [] => []
  | (name, text value) :: rest =>
    if names.contains name then value :: fieldTexts names rest else fieldTexts names rest
  | (_, value) :: rest => value.textsUnder names ++ fieldTexts names rest

end

mutual

/-- Replace all texts; the names of fields stay. -/
def mapText (f : String → String) : Json → Json
  | text value => text (f value)
  | list items => list (mapItems f items)
  | object fields => object (mapFields f fields)
  | value => value

/-- Replace all texts in items. -/
def mapItems (f : String → String) : List Json → List Json
  | [] => []
  | item :: rest => item.mapText f :: mapItems f rest

/-- Replace all texts in the values of fields. -/
def mapFields (f : String → String) : List (String × Json) → List (String × Json)
  | [] => []
  | (name, value) :: rest => (name, value.mapText f) :: mapFields f rest

end

end IdentityOperator.Json
