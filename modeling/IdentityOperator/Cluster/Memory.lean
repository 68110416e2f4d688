import IdentityOperator.Cluster.Call

/-!
A cluster in memory whose calls can be made to fail, and which remembers the calls made to it.
-/

namespace IdentityOperator

/-- A failure of every call that it fits; what is not said fits anything. -/
structure CallFault where
  verb : Option String := none
  kind : Option String := none
  name : Option String := none
  error : OperatorError

def CallFault.fits (fault : CallFault) (call : ClusterCall) : Bool :=
  fault.verb.all (· = call.verb) && fault.kind.all (· = call.kind.name)
    && fault.name.all (· = call.key.name)

structure MemoryCluster where
  store : Store := {}
  faults : List CallFault := []
  /-- The calls so far, the last one at the end. -/
  log : List ClusterCall := []

namespace MemoryCluster

/-- The answer to a call: the error of the first fault that fits it, else that of the store. -/
def perform (call : ClusterCall) (cluster : MemoryCluster) : call.Answer × MemoryCluster :=
  let cluster := { cluster with log := cluster.log ++ [call] }
  match cluster.faults.find? (·.fits call) with
  | some fault => (.error fault.error, cluster)
  | none =>
    let (answer, store) := cluster.store.perform call
    (answer, { cluster with store })

def withStore (cluster : MemoryCluster) (store : Store) : MemoryCluster := { cluster with store }

def forgetful (cluster : MemoryCluster) : MemoryCluster := { cluster with log := [] }

end MemoryCluster

end IdentityOperator
