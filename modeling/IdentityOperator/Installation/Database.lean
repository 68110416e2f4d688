import IdentityOperator.Installation.Credentials

/-!
The embedded database: a claim on a volume, a deployment of one pod that mounts it, and a service.
-/

namespace IdentityOperator

/-- The labels that pick the pod of the embedded database. -/
def databaseSelector : TextMap String :=
  .ofList [("app", applicationName), ("component", "database")]

/-- The labels of the objects of the embedded database. -/
def databaseLabels : TextMap String := appLabels.union databaseSelector

namespace DatabaseClaim

def name : String := "keycloak-postgresql-claim"

def key (kc : Keycloak) : ObjectKey := kc.keyOf name

def spec : ClaimSpec where
  accessModes := some ["ReadWriteOnce"]
  resources := some { requests := some (.ofList [("storage", "1Gi")]) }

def fresh (kc : Keycloak) : PersistentVolumeClaim where
  metadata := kc.ownedMeta name databaseLabels
  spec := some spec

/-- The claim with its labels. A bound claim cannot change, so a specification that is there stays.
-/
def refreshed (current : PersistentVolumeClaim) : PersistentVolumeClaim :=
  let labels := (current.metadata.labels.getD .empty).union databaseLabels
  { current with
    metadata := { current.metadata with labels := some labels }
    spec := some (current.spec.getD spec) }

end DatabaseClaim

namespace DatabaseDeployment

def key (kc : Keycloak) : ObjectKey := kc.keyOf databaseServiceName

/-- A variable with a value of the database secret. -/
def secretEnv (name key : String) : EnvVar := .ofSecret name DatabaseSecret.name key

def container : Container where
  name := databaseServiceName
  image := some "registry.access.redhat.com/rhscl/postgresql-10-rhel7:1"
  imagePullPolicy := some "IfNotPresent"
  ports := some [{ containerPort := defaultDatabasePort, protocol := some "TCP" }]
  env := some [
    secretEnv "POSTGRESQL_USER" DatabaseSecret.usernameKey,
    secretEnv "POSTGRESQL_PASSWORD" DatabaseSecret.passwordKey,
    secretEnv "POSTGRESQL_DATABASE" DatabaseSecret.databaseKey]
  livenessProbe := some
    { tcpSocket := some { port := .int defaultDatabasePort }
      initialDelaySeconds := some 30
      timeoutSeconds := some 1 }
  readinessProbe := some
    { exec := some { command := some ["/bin/sh", "-c",
        "psql -h 127.0.0.1 -U $POSTGRESQL_USER -q -d $POSTGRESQL_DATABASE -c 'SELECT 1'"] }
      initialDelaySeconds := some 5
      timeoutSeconds := some 1 }
  volumeMounts := some [{ name := DatabaseClaim.name, mountPath := "/var/lib/pgsql/data" }]

def template : PodTemplate where
  metadata := some { labels := some databaseLabels }
  spec := some
    { containers := [container]
      volumes := some [
        { name := DatabaseClaim.name
          persistentVolumeClaim := some { claimName := DatabaseClaim.name } }] }

/-- One pod. The old one stops before a new one starts, since they cannot share the volume. -/
def spec : DeploymentSpec where
  replicas := some 1
  selector := { matchLabels := some databaseSelector }
  strategy := some { strategyType := some "Recreate" }
  template := template

def fresh (kc : Keycloak) : Deployment where
  metadata := kc.ownedMeta databaseServiceName databaseLabels
  spec := some spec

/-- A specification with the number of pods and the pod template. -/
def refreshedSpec : Option DeploymentSpec → DeploymentSpec
  | some live => { live with replicas := some 1, template := template }
  | none => spec

/-- The deployment with its number of pods and its pod template. -/
def refreshed (current : Deployment) : Deployment :=
  { current with spec := some (refreshedSpec current.spec) }

end DatabaseDeployment

namespace DatabaseService

def key (kc : Keycloak) : ObjectKey := kc.keyOf databaseServiceName

def ports : List ServicePort := [
  { port := defaultDatabasePort, targetPort := some (.int defaultDatabasePort),
    protocol := some "TCP" }]

def fresh (kc : Keycloak) : Service where
  metadata := kc.ownedMeta databaseServiceName databaseLabels
  spec := some { selector := some databaseSelector, ports := some ports }

/-- The service with its selector and ports. -/
def refreshed (current : Service) : Service :=
  let live := current.spec.getD {}
  { current with spec := some { live with selector := some databaseSelector, ports := some ports } }

end DatabaseService

end IdentityOperator
