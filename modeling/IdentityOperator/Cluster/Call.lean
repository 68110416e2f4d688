import IdentityOperator.Cluster.Store
import IdentityOperator.Error
import IdentityOperator.Text.Split

/-!
Calls to the cluster, and the contract that they keep.

A missing object and a kind that is not served are told apart from every other failure. Creating an
object that is already there leaves it alone, updating replaces an object and needs one to replace,
and deleting is content with an object that is not there. A call can therefore be repeated.
-/

namespace IdentityOperator

inductive ClusterCall where
  | get (kind : Kind) (key : ObjectKey)
  | create (object : Object)
  | update (object : Object)
  | delete (object : Object)
  | list (kind : Kind) (ns labels : String)

namespace ClusterCall

/-- What a call brings back. -/
def Result : ClusterCall → Type
  | get kind _ => kind.Object
  | create _ | update _ | delete _ => Unit
  | list kind _ _ => List kind.Object

abbrev Answer (call : ClusterCall) : Type := Except OperatorError call.Result

/-- The written name of what a call does. -/
def verb : ClusterCall → String
  | get .. => "get"
  | create _ => "create"
  | update _ => "update"
  | delete _ => "delete"
  | list .. => "list"

def kind : ClusterCall → Kind
  | get kind _ | list kind _ _ => kind
  | create o | update o | delete o => o.kind

/-- The object that a call is about; a listing is about a namespace and a selector. -/
def key : ClusterCall → ObjectKey
  | get _ key => key
  | create o | update o | delete o => o.key
  | list _ ns labels => ⟨labels, ns⟩

/-- The written form of a call. -/
def display (call : ClusterCall) : String :=
  call.verb ++ " " ++ call.kind.name ++ " " ++ call.key.display

def missing (kind : Kind) (key : ObjectKey) : OperatorError :=
  .notFound (kind.name ++ " " ++ key.display)

end ClusterCall

/-! ## Label selectors -/

def selectorEntry (part : List Char) : String × String :=
  let (name, value) := Split.first '=' part
  (String.ofList name, String.ofList value)

/-- The labels that a selector text asks for. -/
def selectorEntries (selector : String) : List (String × String) :=
  if selector = "" then [] else (Split.pieces ',' selector.toList).map selectorEntry

def matchesSelector (labels : Option (TextMap String)) (selector : String) : Bool :=
  (selectorEntries selector).all fun entry => (labels.bind (·.get? entry.1)) = some entry.2

/-! ## The contract -/

namespace Store

def perform (store : Store) : (call : ClusterCall) → call.Answer × Store
  | .get kind key =>
    match store.find? kind key with
    | some o => (.ok o, store)
    | none => (.error (ClusterCall.missing kind key), store)
  | .create o => (.ok (), if store.contains o.kind o.key then store else store.put o)
  | .update o =>
    if store.contains o.kind o.key then (.ok (), store.put o)
    else (.error (ClusterCall.missing o.kind o.key), store)
  | .delete o => (.ok (), store.remove o.kind o.key)
  | .list kind ns labels =>
    (.ok (store.objects.filterMap fun o =>
      if o.kind = kind ∧ o.key.ns = ns ∧ matchesSelector o.metadata.labels labels then o.as? kind
      else none), store)

end Store

end IdentityOperator
