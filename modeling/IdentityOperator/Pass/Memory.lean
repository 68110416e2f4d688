import IdentityOperator.Cluster.Memory
import IdentityOperator.Installation.Status
import IdentityOperator.Pass.Request

/-!
A world in memory that passes run against: one cluster, one admin API behind every installation, the
flags, and a supply of passwords no two of which are the same.
-/

namespace IdentityOperator

namespace Password

/-- The last `length` digits of a number in base 256. -/
def digits256 : (length : Nat) → Nat → List UInt8
  | 0, _ => []
  | length + 1, n => digits256 length (n / 256) ++ [UInt8.ofNat (n % 256)]

/-- The `n`-th password of a supply. -/
def numbered (bytes n : Nat) : String := ofBytes (digits256 bytes n)

end Password

structure MemoryWorld where
  cluster : MemoryCluster := {}
  admin : MemoryAdmin := {}
  capabilities : Capabilities := {}
  /-- How many passwords have been made, with their lengths in bytes; the last one in front. -/
  passwords : List Nat := []
  clock : String := ""

namespace MemoryWorld

def changeObject (world : MemoryWorld) (kind : Kind) (key : ObjectKey)
    (change : kind.Object → kind.Object) : Except OperatorError Unit × MemoryWorld :=
  match world.cluster.store.find? kind key with
  | none => (.error (ClusterCall.missing kind key), world)
  | some object =>
    let store := world.cluster.store.put ⟨kind, change object⟩
    (.ok (), { world with cluster := { world.cluster with store } })

/-- Log in: the installation must have a place where it is found and a secret with credentials. -/
def login (world : MemoryWorld) (kc : Keycloak) : Except OperatorError Session × MemoryWorld :=
  match kc.target with
  | .error e => (.error e, world)
  | .ok (endpoint, secret) =>
    let (answer, cluster) := world.cluster.perform (.get .secret (kc.keyOf secret))
    let world := { world with cluster }
    match answer with
    | .error e => (.error (Keycloak.credentialsError e), world)
    | .ok _ => (.ok { endpoint }, world)

def serve : (request : PassRequest) → MemoryWorld → request.Answer × MemoryWorld
  | .cluster call, world =>
    let (answer, cluster) := world.cluster.perform call
    (answer, { world with cluster })
  | .patchKeycloakStatus key status, world =>
    world.changeObject .keycloak key fun (kc : Keycloak) => { kc with status := some status }
  | .patchRealmStatus key status, world =>
    world.changeObject .keycloakRealm key fun (realm : KeycloakRealm) =>
      { realm with status := some status }
  | .patchFinalizers key finalizers, world =>
    world.changeObject .keycloakRealm key fun (realm : KeycloakRealm) =>
      { realm with metadata := { realm.metadata with finalizers := some finalizers } }
  | .login kc, world => world.login kc
  | .admin _ call, world =>
    let (answer, admin) := world.admin.perform call
    (answer, { world with admin })
  | .flag key, world => (world.capabilities.get key, world)
  | .password bytes, world =>
    (Password.numbered bytes (world.passwords.length + 1),
      { world with passwords := bytes :: world.passwords })
  | .now, world => (world.clock, world)

def withStore (world : MemoryWorld) (store : Store) : MemoryWorld :=
  { world with cluster := world.cluster.withStore store }

def forgetful (world : MemoryWorld) : MemoryWorld :=
  { world with cluster := world.cluster.forgetful }

/-- Run a pass, or a part of one. -/
def run {α : Type} (world : MemoryWorld) (program : Asking α) : α × MemoryWorld :=
  program.run serve world

end MemoryWorld

end IdentityOperator
