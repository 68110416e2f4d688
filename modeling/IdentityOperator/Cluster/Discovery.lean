import IdentityOperator.Capability
import IdentityOperator.Cluster.Api
import IdentityOperator.Kube.Shape
import IdentityOperator.Text.Integer

/-!
Discovery: which kinds the cluster serves, and the probe that sets the flags by it.

A group counts with one of its versions only: the one that the server prefers, else the most mature
one. The probe sets all of its flags after everything has been read, so a probe that fails sets
none.
-/

namespace IdentityOperator

/-! ## Versions -/

/-- How mature a version is. -/
inductive Maturity where
  /-- The name of the version follows no rule. -/
  | irregular
  | alpha
  | beta
  | stable
  deriving DecidableEq, Repr

def Maturity.rank : Maturity → Nat
  | irregular => 0
  | alpha => 1
  | beta => 2
  | stable => 3

structure ApiVersion where
  maturity : Maturity
  major : Nat := 0
  minor : Option Nat := none
  name : String
  deriving DecidableEq, Repr

namespace ApiVersion

/-- A number below `2 ^ 32`; a plus sign may stand before it. -/
def number? (digits : List Char) : Option Nat :=
  (Integer.nat64? (String.ofList digits)).filter (· < UInt32.size)

/-- The minor number behind a word; nothing may stand there. -/
def minor? (maturity : Maturity) (major : Nat) (name : String) (digits : List Char) :
    Option ApiVersion :=
  if digits.isEmpty then some { maturity, major, name }
  else (number? digits).map fun minor => { maturity, major, minor := some minor, name }

/-- The version of a name such as `v2` or `v1beta3`. -/
def regular? (name : String) : Option ApiVersion :=
  match name.toList with
  | 'v' :: rest => do
    let major ← number? (rest.takeWhile Char.isDigit)
    match rest.dropWhile Char.isDigit with
    | [] => some { maturity := .stable, major, name }
    | 'a' :: 'l' :: 'p' :: 'h' :: 'a' :: digits => minor? .alpha major name digits
    | 'b' :: 'e' :: 't' :: 'a' :: digits => minor? .beta major name digits
    | _ => none
  | _ => none

def ofName (name : String) : ApiVersion :=
  (regular? name).getD { maturity := .irregular, name }

/-- Whether a version comes before another one or is as good: by maturity, then by its numbers,
where no minor number counts least. Of irregular names the smaller one comes first. -/
def leads (a b : ApiVersion) : Bool :=
  if a.maturity ≠ b.maturity then b.maturity.rank < a.maturity.rank
  else if a.maturity = .irregular then a.name ≤ b.name
  else if a.major ≠ b.major then b.major < a.major
  else match a.minor, b.minor with
    | _, none => true
    | none, some _ => false
    | some m, some n => n ≤ m

end ApiVersion

/-! ## Groups -/

/-- A group of kinds as it was discovered: the kinds of each version. -/
structure DiscoveredGroup where
  name : String
  preferred : Option String
  versions : List (String × List String)

namespace DiscoveredGroup

/-- The version by which the group counts. -/
def recommended? (group : DiscoveredGroup) : Option String :=
  group.preferred.or
    ((group.versions.mergeSort fun a b =>
      (ApiVersion.ofName a.1).leads (ApiVersion.ofName b.1)).head?.map (·.1))

def serves (group : DiscoveredGroup) (kind : String) : Bool :=
  match group.recommended? with
  | some version => ((group.versions.find? (·.1 = version)).map (·.2)).any (·.contains kind)
  | none => false

end DiscoveredGroup

/-! ## Answers -/

/-- A version of a group in a list of groups. -/
structure VersionEntry where
  groupVersion : String
  version : String

def VersionEntry.row :=
  Row.cons (Member.defaulted "groupVersion" Form.text "") <|
  Row.cons (Member.defaulted "version" Form.text "") Row.nil

def VersionEntry.form : Form VersionEntry :=
  .lenient "GroupVersionForDiscovery" row (fun (a, b, _) => ⟨a, b⟩) (fun ⟨a, b⟩ => (a, b, ()))

def addressShape : Shape := .object "ServerAddressByClientCIDR" [
  Shape.req "clientCIDR" .text, Shape.req "serverAddress" .text]

structure GroupEntry where
  name : String
  preferredVersion : Option VersionEntry
  addresses : Option (List Json)
  versions : List VersionEntry

def GroupEntry.row :=
  Row.cons (Member.defaulted "name" Form.text "") <|
  Row.cons (Member.omitted "preferredVersion" VersionEntry.form) <|
  Row.cons (Member.omitted "serverAddressByClientCIDRs" (Form.shaped addressShape).list) <|
  Row.cons (Member.defaulted "versions" VersionEntry.form.list []) Row.nil

def GroupEntry.form : Form GroupEntry :=
  .resource "v1" "APIGroup" row (fun (a, b, c, d, _) => ⟨a, b, c, d⟩)
    (fun ⟨a, b, c, d⟩ => (a, b, c, d, ()))

def groupListForm : Form (List GroupEntry) :=
  .resource "v1" "APIGroupList"
    (Row.cons (Member.defaulted "groups" GroupEntry.form.list []) Row.nil)
    (fun (a, _) => a) (fun a => (a, ()))

/-- The versions of kinds without a group. -/
def coreVersionsForm : Form (List String × List Json) :=
  .resource "v1" "APIVersions"
    (Row.cons (Member.defaulted "versions" Form.text.list []) <|
     Row.cons (Member.defaulted "serverAddressByClientCIDRs" (Form.shaped addressShape).list [])
      Row.nil)
    (fun (a, b, _) => (a, b)) (fun (a, b) => (a, b, ()))

/-- How the rest of a kind's entry is written. -/
def kindEntryOthers : List (String × Bool × Shape) := [
  Shape.opt "categories" (.list .text), Shape.opt "group" .text, Shape.req "namespaced" .bool,
  Shape.opt "shortNames" (.list .text), Shape.req "singularName" .text,
  Shape.opt "storageVersionHash" .text, Shape.req "verbs" (.list .text),
  Shape.opt "version" .text]

/-- A kind in a list of kinds. A name with a slash is that of a part of a kind's objects. -/
structure KindEntry where
  name : String
  kind : String
  others : Fields

def KindEntry.row :=
  Row.cons (Member.defaulted "name" Form.text "") <|
  Row.cons (Member.defaulted "kind" Form.text "") <|
  Row.others kindEntryOthers

def KindEntry.form : Form KindEntry :=
  .lenient "APIResource" row (fun (a, b, c) => ⟨a, b, c⟩) (fun ⟨a, b, c⟩ => (a, b, c))

/-- Whether an entry is about a kind and not about a part of its objects. -/
def KindEntry.isWhole (entry : KindEntry) : Bool := !entry.name.toList.contains '/'

def kindListForm : Form (String × List KindEntry) :=
  .resource "v1" "APIResourceList"
    (Row.cons (Member.defaulted "groupVersion" Form.text "") <|
     Row.cons (Member.defaulted "resources" KindEntry.form.list []) Row.nil)
    (fun (a, b, _) => (a, b)) (fun (a, b) => (a, b, ()))

/-! ## Asking -/

namespace Discovery

/-- Requests to the server that may fail. -/
abbrev Query (α : Type) : Type := ExceptT ApiFailure (Program ApiRequest fun _ => ApiResponse) α

/-- Read what is found at a place. -/
def fetch {α : Type} (form : Form α) (place : String) : Query α :=
  let request := match Http.Target.ofText? place with
    | .ok target => .ok { method := .get, target }
    | .error e => .error (.misaddressed e)
  ExceptT.mk ((ApiRequest.exchange request).bind fun outcome =>
    .done (outcome.bind fun content => content.read form))

/-- The names of the kinds of a version. -/
def kindsAt (place : String) : Query (List String) := do
  let (_, entries) ← fetch kindListForm place
  pure ((entries.filter (·.isWhole)).map (·.kind))

/-- The kinds of each version of a group. -/
def versionsOf : List VersionEntry → Query (List (String × List String))
  | [] => pure []
  | entry :: rest => do
    let kinds ← kindsAt ("/apis/" ++ entry.groupVersion)
    let others ← versionsOf rest
    pure ((entry.version, kinds) :: others)

/-- The groups that have been listed. A group without versions is an error. -/
def groupsOf : List GroupEntry → Query (List DiscoveredGroup)
  | [] => pure []
  | entry :: rest => do
    if entry.versions.isEmpty then throw (.emptyGroup entry.name)
    let versions ← versionsOf entry.versions
    let others ← groupsOf rest
    pure ({ name := entry.name, preferred := entry.preferredVersion.map (·.version), versions }
      :: others)

/-- Ask for the kinds without a group, which only have to be there. -/
def coreKinds : List String → Query Unit
  | [] => pure ()
  | version :: rest => do
    let _ ← kindsAt ("/api/" ++ version)
    coreKinds rest

/-- Everything that the cluster serves in groups. -/
def groups : Query (List DiscoveredGroup) := do
  let listed ← fetch groupListForm "/apis"
  let groups ← groupsOf listed
  let (versions, _) ← fetch coreVersionsForm "/api"
  if versions.isEmpty then throw (.emptyGroup "")
  coreKinds versions
  pure groups

/-- Whether one of the groups, the last one of that name, serves a kind. -/
def served (groups : List DiscoveredGroup) (group kind : String) : Bool :=
  (groups.reverse.find? (·.name = group)).any (·.serves kind)

/-- The flags that a probe sets, with the group that has to serve the kind. -/
def probed : List (CapabilityKey × String) := [
  (.prometheusRule, "monitoring.coreos.com"),
  (.serviceMonitor, "monitoring.coreos.com"),
  (.grafanaDashboard, "integreatly.org"),
  (.route, "route.openshift.io")]

/-- The flags as a probe finds them. -/
def probe : Query (List (CapabilityKey × Bool)) := do
  let found ← groups
  pure (probed.map fun (key, group) => (key, served found group key.kind))

end Discovery

def Capabilities.afterProbe (capabilities : Capabilities) :
    ApiOutcome (List (CapabilityKey × Bool)) → Capabilities
  | .ok flags => flags.foldl (fun capabilities flag => capabilities.set flag.1 flag.2) capabilities
  | .error _ => capabilities

end IdentityOperator
