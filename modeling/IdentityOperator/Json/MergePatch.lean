import IdentityOperator.Json

/-!
JSON merge patches: an object in the patch merges field by field, `null` removes a field, and any
other value, a list included, replaces what was there.
-/

namespace IdentityOperator.Json

/-- The fields of an object, none for any other value. -/
def fieldsOf : Json → List (String × Json)
  | object fields => fields
  | _ => []

mutual

def mergePatch (target : Json) : Json → Json
  | object fields => object (mergeFields target.fieldsOf fields)
  | patch => patch

/-- Apply the fields of a patch one after the other. -/
def mergeFields (target : List (String × Json)) : List (String × Json) → List (String × Json)
  | [] => target
  | (name, null) :: rest => mergeFields (dropField name target) rest
  | (name, value) :: rest =>
    mergeFields (setField name (mergePatch ((lastField name target).getD null) value) target) rest

end

end IdentityOperator.Json
