import IdentityOperator.Object

/-!
Stores of objects, found by kind, namespace and name.
-/

namespace IdentityOperator

/-- The stored objects; no two of them have the same kind and key. -/
structure Store where
  objects : List Object := []

namespace Store

def isAt (kind : Kind) (key : ObjectKey) (o : Object) : Bool := o.kind = kind ∧ o.key = key

def find? (store : Store) (kind : Kind) (key : ObjectKey) : Option kind.Object :=
  (store.objects.find? (isAt kind key)).bind (·.as? kind)

/-- Whether there is an object of a kind under a key. -/
def contains (store : Store) (kind : Kind) (key : ObjectKey) : Bool :=
  store.objects.any (isAt kind key)

/-- Put an object in the place of the one with its kind and key, or at the end. -/
def put (store : Store) (o : Object) : Store :=
  if store.contains o.kind o.key then
    ⟨store.objects.map fun old => if isAt o.kind o.key old then o else old⟩
  else ⟨store.objects ++ [o]⟩

/-- Take away the object of a kind under a key. -/
def remove (store : Store) (kind : Kind) (key : ObjectKey) : Store :=
  ⟨store.objects.filter fun o => ¬ isAt kind key o⟩

/-- The objects in the order of their kinds and keys. -/
def sorted (store : Store) : List Object :=
  store.objects.mergeSort fun a b => a.display ≤ b.display

/-- The store of a list of objects; the last one of a kind and key counts. -/
def ofList (objects : List Object) : Store := objects.foldl put {}

end Store

end IdentityOperator
