import IdentityOperator.Admin.Representation

/-!
How the groups of a realm are brought in line with the declared ones.

Groups are matched by name. A declared group that is missing is created with its subgroups; one that
exists is updated and gets the direct subgroups that it lacks. Other groups are left alone.
-/

namespace IdentityOperator

open Admin (Group)

inductive GroupStep where
  | create (group : Group)
  | update (id : String) (group : Group)
  | createChild (parentId : String) (group : Group)

namespace GroupStep

def group : GroupStep → Group
  | create group | update _ group | createChild _ group => group

/-- The first existing group of that name that has an id, with its id. -/
def current? (name : String) : List Group → Option (String × Group)
  | [] => none
  | e :: rest =>
    match e.id with
    | some id => if e.name = name then some (id, e) else current? name rest
    | none => current? name rest

def plan1 (existing : List Group) (group : Group) : List GroupStep :=
  match current? group.name existing with
  | none => [create group]
  | some (id, found) =>
    update id { group with id := some id } ::
      (group.subGroups.filter fun child =>
        ¬ found.subGroups.any (·.name = child.name)).map (createChild id)

/-- The steps for all declared groups, in their order. -/
def plan (desired existing : List Group) : List GroupStep := desired.flatMap (plan1 existing)

end GroupStep

end IdentityOperator
