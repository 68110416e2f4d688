import IdentityOperator.Object

/-!
What the objects of one installation have in common: names, ports, labels and their owner.
-/

namespace IdentityOperator

/-! ## Names and ports -/

/-- The name of the application; most objects of an installation are called so. -/
def applicationName : String := "keycloak"

/-- The name of the service that the pods find each other by. -/
def discoveryServiceName : String := "keycloak-discovery"

/-- The name of the config map with the probe scripts. -/
def probesName : String := "keycloak-probes"

/-- The secret that the cluster puts the serving certificate into. -/
def servingCertSecretName : String := "sso-x509-https-secret"

/-- The name of everything that runs the embedded database. -/
def databaseServiceName : String := "keycloak-postgresql"

/-- The port for encrypted requests. -/
def httpsPort : Int32 := 8443

/-- The port for plain requests. -/
def httpPort : Int32 := 8080

def managementPort : Int32 := 9990

/-- The port of a database, unless another is known. -/
def defaultDatabasePort : Int32 := 5432

/-- A name with only the characters of DNS names: capitals become small letters, `_` becomes `-`,
and what is left of other characters is nothing. -/
def sanitizeName (name : String) : String :=
  String.ofList (name.toList.filterMap fun c =>
    if ('0' ≤ c ∧ c ≤ '9') ∨ ('a' ≤ c ∧ c ≤ 'z') ∨ c = '-' ∨ c = '.' then some c
    else if 'A' ≤ c ∧ c ≤ 'Z' then some (Char.ofNat (c.toNat + 32))
    else if c = '_' then some '-'
    else none)

/-- The number of pods to ask for. A new stateful set gets at least one. -/
def sanitizeReplicas (instances : Int32) (isCreate : Bool) : Int32 :=
  if isCreate ∧ instances < 1 then 1 else instances

/-! ## Labels and owner -/

/-- The labels of every object of an installation. -/
def appLabels : TextMap String :=
  .ofList [("app", applicationName), ("app.kubernetes.io/managed-by", "keycloak-operator")]

/-- The labels that pick the pods of an installation. -/
def podSelector : TextMap String :=
  .ofList [("app", applicationName), ("component", "keycloak")]

namespace Keycloak

/-- The installation as the owner of an object. -/
def ownerReference (kc : Keycloak) : OwnerReference where
  apiVersion := apiVersion
  kind := "Keycloak"
  name := kc.name
  uid := kc.metadata.uid.getD ""
  controller := some true
  blockOwnerDeletion := some true

/-- The metadata of an object that belongs to the installation. -/
def ownedMeta (kc : Keycloak) (name : String) (labels : TextMap String) : ObjectMeta where
  name := some name
  ns := some kc.ns
  labels := some labels
  ownerReferences := some [kc.ownerReference]

def keyOf (kc : Keycloak) (name : String) : ObjectKey := ⟨name, kc.ns⟩

end Keycloak

def nonEmpty? (text : Option String) : Option String := text.filter (· ≠ "")

end IdentityOperator
