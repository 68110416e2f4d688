import IdentityOperator.Cluster.ApiCall
import IdentityOperator.Json.MergePatch

/-!
A server of the cluster's API in memory: it stores objects as the JSON values that it was sent,
tells which kinds it serves, and can be made to answer anything to some requests.

A path names an object, the objects of a kind in one namespace, the objects of a kind in all
namespaces, or what is known about kinds. Whether the kind of a path is served does not matter.
-/

namespace IdentityOperator

/-! ## Paths -/

/-- What the path of a request names. -/
inductive ApiPlace where
  /-- An object, by the path of its collection and its name. -/
  | object (collection name : String)
  /-- The objects of a kind in one namespace. -/
  | collection (path : String)
  /-- The objects of a kind in all namespaces, which are told by both ends of their path. -/
  | everywhere (front back : String)
  /-- The groups of kinds. -/
  | groups
  /-- The kinds of one version of a group. -/
  | groupVersion (group version : String)
  /-- The versions of the kinds without a group. -/
  | coreVersions
  | coreVersion (version : String)
  | unknown
  deriving DecidableEq, Repr

namespace ApiPlace

/-- What the segments behind a group and version name; `base` is the path up to there. -/
def ofSegments (base : String) : List String → ApiPlace
  | ["namespaces", ns, plural] => .collection (base ++ "/namespaces/" ++ ns ++ "/" ++ plural)
  | ["namespaces", ns, plural, name] | ["namespaces", ns, plural, name, "status"] =>
    .object (base ++ "/namespaces/" ++ ns ++ "/" ++ plural) name
  | [plural] => .everywhere (base ++ "/namespaces/") ("/" ++ plural)
  | _ => .unknown

def ofPath (path : String) : ApiPlace :=
  match (Split.pieces '/' path.toList).map String.ofList with
  | ["", "apis"] => .groups
  | ["", "api"] => .coreVersions
  | ["", "apis", group, version] => .groupVersion group version
  | ["", "api", version] => .coreVersion version
  | "" :: "apis" :: group :: version :: rest =>
    ofSegments ("/apis/" ++ group ++ "/" ++ version) rest
  | "" :: "api" :: version :: rest => ofSegments ("/api/" ++ version) rest
  | _ => .unknown

end ApiPlace

/-! ## The server -/

/-- A group of kinds, with its versions and the kinds of each. -/
structure ServedGroup where
  name : String
  preferred : Option String := none
  versions : List (String × List String)

/-- An answer to every request that it fits; what is not said fits anything. -/
structure ServerFault where
  method : Option String := none
  /-- The end of the path. -/
  pathEnd : String := ""
  response : ApiResponse
  /-- How often the answer is still given; for ever if that is not said. -/
  times : Option Nat := none

def ServerFault.fits (fault : ServerFault) (request : ApiRequest) : Bool :=
  fault.method.all (· = request.method.name) &&
    fault.pathEnd.toList.isSuffixOf request.target.path.toList && fault.times ≠ some 0

structure ApiServer where
  /-- The stored objects by their paths. -/
  objects : TextMap Json := .empty
  groups : List ServedGroup := []
  faults : List ServerFault := []
  /-- The requests so far with the status of their answers, the last one at the end. -/
  log : List (ApiRequest × Nat) := []

namespace ApiServer

/-! ## Answers -/

def answer (status : Nat) (value : Json) : ApiResponse := ⟨status, .json value⟩

/-- The report of a failure as a JSON value. -/
def statusJson (code : Nat) (reason message : String) : Json := .object [
  ("apiVersion", .text "v1"), ("kind", .text "Status"), ("metadata", .object []),
  ("status", .text "Failure"), ("message", .text message), ("reason", .text reason),
  ("code", .int code)]

/-- An answer that reports a failure. -/
def failure (code : Nat) (reason message : String) : ApiResponse :=
  answer code (statusJson code reason message)

/-- The answer about an object that is not there. -/
def missing (collection name : String) : ApiResponse :=
  let plural := String.ofList (Split.afterLast '/' collection.toList)
  failure 404 "NotFound" (plural ++ " \"" ++ name ++ "\" not found")

/-- The answer about an object that is there already. -/
def taken (collection name : String) : ApiResponse :=
  let plural := String.ofList (Split.afterLast '/' collection.toList)
  failure 409 "AlreadyExists" (plural ++ " \"" ++ name ++ "\" already exists")

/-- The answer to a path that names nothing. -/
def unknownPath : ApiResponse :=
  failure 404 "NotFound" "the server could not find the requested resource"

def gone : ApiResponse := answer 200 (.object [
  ("apiVersion", .text "v1"), ("kind", .text "Status"), ("metadata", .object []),
  ("status", .text "Success")])

/-! ## Objects -/

def pathOf (collection name : String) : String := collection ++ "/" ++ name

def collectionOf (path : String) : String :=
  String.ofList (path.toList.take
    (path.toList.length - (Split.afterLast '/' path.toList).length - 1))

/-- The name in the metadata of an object. -/
def nameIn (value : Json) : String :=
  match (value.field? "metadata").bind (·.field? "name") with
  | some (.text name) => name
  | _ => ""

/-- The labels in the metadata of an object, as far as they are texts. -/
def labelsIn (value : Json) : TextMap String :=
  match (value.field? "metadata").bind (·.field? "labels") with
  | some (.object fields) => .ofList (fields.filterMap fun
      | (name, .text value) => some (name, value)
      | _ => none)
  | _ => .empty

def selectorOf (request : ApiRequest) : String :=
  ((request.target.query.find? (·.1 = "labelSelector")).map (·.2)).getD ""

/-- A list of the objects whose collections are as wanted and whose labels are as asked for. -/
def listing (server : ApiServer) (request : ApiRequest) (isWanted : String → Bool) : ApiResponse :=
  let items := server.objects.toList.filter fun entry =>
    isWanted (collectionOf entry.1) &&
      matchesSelector (some (labelsIn entry.2)) (selectorOf request)
  answer 200 (.object [("apiVersion", .text "v1"), ("kind", .text "List"),
    ("metadata", .object []), ("items", .list (items.map (·.2)))])

def put (server : ApiServer) (path : String) (value : Json) : ApiServer :=
  { server with objects := server.objects.insert path value }

/-! ## Kinds -/

/-- A version of a group, as it is named in both. -/
def versionJson (group version : String) : Json := .object [
  ("groupVersion", .text (group ++ "/" ++ version)), ("version", .text version)]

def groupJson (group : ServedGroup) : Json := .object ([
  ("name", .text group.name),
  ("versions", .list (group.versions.map fun version => versionJson group.name version.1))] ++
  (group.preferred.map fun version => ("preferredVersion", versionJson group.name version)).toList)

/-- A kind among those of a version. -/
def kindJson (kind : String) : Json := .object [
  ("name", .text (String.ofList (kind.toList.map Char.toLower) ++ "s")),
  ("singularName", .text (String.ofList (kind.toList.map Char.toLower))),
  ("namespaced", .bool true), ("kind", .text kind), ("verbs", .list [.text "get", .text "list"])]

def kindsJson (groupVersion : String) (kinds : List String) : Json := .object [
  ("apiVersion", .text "v1"), ("kind", .text "APIResourceList"),
  ("groupVersion", .text groupVersion), ("resources", .list (kinds.map kindJson))]

/-- The kinds of a version of a group, if it is served. -/
def kindsOf? (server : ApiServer) (group version : String) : Option (List String) :=
  (server.groups.find? (·.name = group)).bind fun found =>
    (found.versions.find? (·.1 = version)).map (·.2)

/-! ## Serving -/

def read (server : ApiServer) (request : ApiRequest) : ApiResponse :=
  match ApiPlace.ofPath request.target.path with
  | .object collection name =>
    match server.objects.get? (pathOf collection name) with
    | some value => answer 200 value
    | none => missing collection name
  | .collection path => server.listing request (· = path)
  | .everywhere front back =>
    server.listing request fun path =>
      front.toList.isPrefixOf path.toList && back.toList.isSuffixOf path.toList
  | .groups => answer 200 (.object [("apiVersion", .text "v1"), ("kind", .text "APIGroupList"),
      ("groups", .list (server.groups.map groupJson))])
  | .groupVersion group version =>
    match server.kindsOf? group version with
    | some kinds => answer 200 (kindsJson (group ++ "/" ++ version) kinds)
    | none => unknownPath
  | .coreVersions => answer 200 (.object [("kind", .text "APIVersions"),
      ("versions", .list [.text "v1"]), ("serverAddressByClientCIDRs", .list [])])
  | .coreVersion version =>
    if version = "v1" then answer 200 (kindsJson "v1" []) else unknownPath
  | .unknown => unknownPath

/-- The answer to a request that does not meet a fault. -/
def perform (server : ApiServer) (request : ApiRequest) : ApiResponse × ApiServer :=
  let body := request.body.getD .null
  match request.method, ApiPlace.ofPath request.target.path with
  | .get, _ => (server.read request, server)
  | .post, .collection collection =>
    let path := pathOf collection (nameIn body)
    match server.objects.get? path with
    | some _ => (taken collection (nameIn body), server)
    | none => (answer 201 body, server.put path body)
  | .put, .object collection name =>
    let path := pathOf collection name
    match server.objects.get? path with
    | some _ => (answer 200 body, server.put path body)
    | none => (missing collection name, server)
  | .patch, .object collection name =>
    let path := pathOf collection name
    match server.objects.get? path with
    | some value => (answer 200 (value.mergePatch body), server.put path (value.mergePatch body))
    | none => (missing collection name, server)
  | .delete, .object collection name =>
    let path := pathOf collection name
    match server.objects.get? path with
    | some _ => (gone, { server with objects := server.objects.erase path })
    | none => (missing collection name, server)
  | _, _ => (unknownPath, server)

/-- The first fault that fits a request, and the faults once it has been met. -/
def meet (request : ApiRequest) : List ServerFault → Option (ApiResponse × List ServerFault)
  | [] => none
  | fault :: rest =>
    if fault.fits request then
      some (fault.response, { fault with times := fault.times.map (· - 1) } :: rest)
    else (meet request rest).map fun (response, rest) => (response, fault :: rest)

/-- The answer to a request: that of the first fault that fits it, else that of the store. -/
def serve (request : ApiRequest) (server : ApiServer) : ApiResponse × ApiServer :=
  let (response, server) := match meet request server.faults with
    | some (response, faults) => (response, { server with faults })
    | none => server.perform request
  (response, { server with log := server.log ++ [(request, response.status)] })

end ApiServer

end IdentityOperator
