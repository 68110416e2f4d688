import IdentityOperator.Admin.Call
import IdentityOperator.Admin.Session
import IdentityOperator.Capability
import IdentityOperator.Cluster.Call
import IdentityOperator.Program

/-!
What a pass asks of the world outside: the cluster, the admin API of an installation, the flags, the
clock, and new passwords.

A pass that fails stops at once. Everything that a pass does is a request, so that it can be seen,
made to fail, or interleaved with other passes.
-/

namespace IdentityOperator

inductive PassRequest where
  /-- Read or write objects. -/
  | cluster (call : ClusterCall)
  /-- Report about an installation. -/
  | patchKeycloakStatus (key : ObjectKey) (status : KeycloakStatus)
  /-- Report about a declared realm. -/
  | patchRealmStatus (key : ObjectKey) (status : KeycloakRealmStatus)
  /-- Replace the finalizers of a declared realm. -/
  | patchFinalizers (key : ObjectKey) (finalizers : List String)
  /-- Log in to an installation as its administrator. -/
  | login (kc : Keycloak)
  /-- Call the admin API of an installation. -/
  | admin (session : Session) (call : AdminCall)
  /-- Look up a flag. -/
  | flag (key : CapabilityKey)
  /-- Make a password of that many random bytes. -/
  | password (bytes : Nat)
  /-- Read the clock. -/
  | now

namespace PassRequest

def Answer : PassRequest → Type
  | cluster call => call.Answer
  | patchKeycloakStatus .. | patchRealmStatus .. | patchFinalizers .. => Except OperatorError Unit
  | login _ => Except OperatorError Session
  | admin _ call => call.Answer
  | flag _ => Bool
  | password _ => String
  | now => String

end PassRequest

/-- A part of a pass that does not fail. -/
abbrev Asking (α : Type) : Type := Program PassRequest PassRequest.Answer α

/-- A pass, or a part of one, that may fail. -/
abbrev Pass (α : Type) : Type := ExceptT OperatorError (Program PassRequest PassRequest.Answer) α

namespace Pass

def ask (request : PassRequest) : Asking request.Answer := Program.send request

/-- A request whose answer may be a failure. -/
def clusterCall (call : ClusterCall) : Pass call.Result :=
  ExceptT.mk (ask (.cluster call))

def adminCall (session : Session) (call : AdminCall) : Pass call.Result :=
  ExceptT.mk (ask (.admin session call))

def login (kc : Keycloak) : Pass Session :=
  ExceptT.mk (ask (.login kc))

/-- A report about an installation. -/
def patchKeycloakStatus (key : ObjectKey) (status : KeycloakStatus) : Pass Unit :=
  ExceptT.mk (ask (.patchKeycloakStatus key status))

/-- A report about a declared realm. -/
def patchRealmStatus (key : ObjectKey) (status : KeycloakRealmStatus) : Pass Unit :=
  ExceptT.mk (ask (.patchRealmStatus key status))

/-- New finalizers for a declared realm. -/
def patchFinalizers (key : ObjectKey) (finalizers : List String) : Pass Unit :=
  ExceptT.mk (ask (.patchFinalizers key finalizers))

def flag (key : CapabilityKey) : Pass Bool :=
  ExceptT.lift (ask (.flag key))

def password (bytes : Nat) : Pass String :=
  ExceptT.lift (ask (.password bytes))

def now : Pass String := ExceptT.lift (ask .now)

/-- Carry out a part, and hand on whether it failed instead of failing. -/
def attempt {α : Type} (part : Pass α) : Pass (Except OperatorError α) :=
  ExceptT.lift part.run

end Pass

end IdentityOperator
