/-!
What can go wrong in a pass, how it is worded, and how soon the pass is tried again.
-/

namespace IdentityOperator

/-- The kinds of requests to the admin API. -/
inductive Verb where
  | create
  | update
  | get
  | list
  | delete
  | ping
  deriving DecidableEq, Repr

def Verb.all : List Verb := [.create, .update, .get, .list, .delete, .ping]

/-- The written name of a kind of request. -/
def Verb.name : Verb → String
  | create => "create"
  | update => "update"
  | get => "get"
  | list => "list"
  | delete => "delete"
  | ping => "ping"

/-- A failure, by its cause. -/
inductive OperatorError where
  /-- The cluster answered with an error, or did not answer. -/
  | kubeApi (text : String)
  /-- The object does not exist. -/
  | notFound (text : String)
  /-- The cluster does not serve the kind. -/
  | kindNotRegistered (text : String)
  /-- Something declared does not make sense. -/
  | configuration (text : String)
  /-- The plan could not be carried out. -/
  | reconciliation (text : String)
  /-- The admin API could not be reached. -/
  | http (text : String)
  /-- The admin API answered with an unexpected status. -/
  | status (verb : Verb) (kind : String) (code : UInt16) (reason : String)
  /-- The credentials were refused. -/
  | authentication (text : String)
  /-- An answer could not be read. -/
  | serialization (text : String)
  /-- Something is not yet, or no longer, as it has to be. -/
  | invalidState (text : String)
  deriving DecidableEq, Repr

namespace OperatorError

/-- What is wrong in particular. -/
def text : OperatorError → String
  | kubeApi text | notFound text | kindNotRegistered text | configuration text
  | reconciliation text | http text | authentication text | serialization text
  | invalidState text => text
  | status verb kind code reason =>
    "failed to " ++ verb.name ++ " " ++ kind ++ ": (" ++ toString code.toNat ++ ") " ++ reason

/-- What is wrong in general. -/
def heading : OperatorError → String
  | kubeApi _ => "Kubernetes API error: "
  | notFound _ => "Resource not found: "
  | kindNotRegistered _ => "Resource kind not registered: "
  | configuration _ => "Configuration error: "
  | reconciliation _ => "Reconciliation error: "
  | http _ => "HTTP error: "
  | status .. => ""
  | authentication _ => "Authentication failed: "
  | serialization _ => "Serialization error: "
  | invalidState _ => "Invalid state: "

def message (e : OperatorError) : String := e.heading ++ e.text

/-- The object does not exist. -/
def isNotFound : OperatorError → Bool
  | notFound _ => true
  | _ => false

/-- The cluster does not serve the kind. -/
def isKindNotRegistered : OperatorError → Bool
  | kindNotRegistered _ => true
  | _ => false

/-- There is no such object, whatever the reason. -/
def isAbsent (e : OperatorError) : Bool := e.isNotFound || e.isKindNotRegistered

/-- The cause may go away by itself. -/
def isRetryable : OperatorError → Bool
  | kubeApi _ | http _ | status .. | reconciliation _ => true
  | _ => false

/-- After how many seconds a failed pass is tried again. -/
def requeueDelay (e : OperatorError) : Nat := if e.isRetryable then 30 else 120

end OperatorError

end IdentityOperator
