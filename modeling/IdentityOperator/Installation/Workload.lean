import IdentityOperator.Installation.Credentials
import IdentityOperator.Installation.Profile

/-!
What runs the server: the probe scripts, the two services, the stateful set and the budget of its
disruptions.
-/

namespace IdentityOperator

/-! ## Probe scripts -/

namespace Probes

/-- The file that tells whether the server lives. -/
def livenessFile : String := "liveness_probe.sh"

/-- The file that tells whether the server can take requests. -/
def readinessFile : String := "readiness_probe.sh"

def livenessScript : String := "\n".intercalate [
  "#!/bin/bash",
  "set -e",
  "curl -s --max-time 10 --fail http://$(hostname -i):8080/auth > /dev/null",
  ""]

def readinessScript : String := "\n".intercalate [
  "#!/bin/bash",
  "set -e",
  "DATASOURCE_POOL_TYPE=\"data-source\"",
  "DATASOURCE_POOL_NAME=\"KeycloakDS\"",
  "PASSWORD_FILE=\"/tmp/management-password\"",
  "PASSWORD=`cat $PASSWORD_FILE 2>/dev/null || true`",
  "USERNAME=\"admin\"",
  "if [ -z \"$PASSWORD\" ]; then",
  "    PASSWORD=$(cat /dev/urandom | tr -dc 'a-zA-Z0-9' | fold -w 32 | head -n 1)",
  "    echo $PASSWORD > $PASSWORD_FILE",
  "    /opt/jboss/keycloak/bin/add-user.sh -u $USERNAME -p $PASSWORD > /dev/null",
  "fi",
  "curl -s --max-time 10 --fail http://localhost:9990/management --user $USERNAME:$PASSWORD --digest \\",
  "    -H 'Content-Type: application/json' \\",
  "    -d '\x7b\"operation\": \"test-connection-in-pool\", \"address\": [\"subsystem\",\"datasources\",\"'$DATASOURCE_POOL_TYPE'\",\"'$DATASOURCE_POOL_NAME'\"], \"json.pretty\":1\x7d'",
  "curl -s --max-time 10 --fail http://$(hostname -i):8080/auth > /dev/null",
  ""]

def data : TextMap String :=
  .ofList [(livenessFile, livenessScript), (readinessFile, readinessScript)]

def key (kc : Keycloak) : ObjectKey := kc.keyOf probesName

def fresh (kc : Keycloak) : ConfigMap where
  metadata := kc.ownedMeta probesName appLabels
  data := some data

def refreshed (current : ConfigMap) : ConfigMap := { current with data := some data }

end Probes

/-! ## Services -/

namespace ServerService

def key (kc : Keycloak) : ObjectKey := kc.keyOf applicationName

def ports : List ServicePort := [
  { name := some applicationName, port := httpsPort, targetPort := some (.int httpsPort),
    protocol := some "TCP" }]

/-- The service that clients use. The cluster issues its certificate on request. -/
def fresh (kc : Keycloak) : Service where
  metadata :=
    { kc.ownedMeta applicationName appLabels with
      annotations := some (.ofList [
        ("service.alpha.openshift.io/serving-cert-secret-name", servingCertSecretName)]) }
  spec := some
    { serviceType := some "ClusterIP", selector := some podSelector, ports := some ports }

/-- The service with its selector and ports; the address that it was given stays. -/
def refreshed (current : Service) : Service :=
  let live := current.spec.getD {}
  { current with spec := some { live with selector := some podSelector, ports := some ports } }

end ServerService

namespace DiscoveryService

def key (kc : Keycloak) : ObjectKey := kc.keyOf discoveryServiceName

def ports : List ServicePort := [
  { name := some "http", port := httpPort, targetPort := some (.int httpPort),
    protocol := some "TCP" }]

/-- The service without an address of its own, by which the pods find each other. -/
def fresh (kc : Keycloak) : Service where
  metadata := kc.ownedMeta discoveryServiceName appLabels
  spec := some
    { clusterIP := some "None", selector := some podSelector, ports := some ports,
      publishNotReadyAddresses := some true }

/-- The service with its selector and ports, and with the pods that are not ready. -/
def refreshed (current : Service) : Service :=
  let live := current.spec.getD {}
  let spec : ServiceSpec :=
    { live with
      selector := some podSelector, ports := some ports, publishNotReadyAddresses := some true }
  { current with spec := some spec }

end DiscoveryService

/-! ## Environment -/

/-- The host of the database: that of the external one if its secret names one, else the service of
the embedded one. -/
def databaseAddress (kc : Keycloak) (secret : Option Secret) : String :=
  let embedded := databaseServiceName ++ "." ++ kc.ns
  if kc.spec.externalDatabase.enabled then (DatabaseSecret.host? secret).getD embedded
  else embedded

/-- The variables that the operator sets. -/
def managedEnv (kc : Keycloak) (secret : Option Secret) : List EnvVar := [
  .plain "DB_VENDOR" "POSTGRES",
  .plain "DB_SCHEMA" "public",
  .plain "DB_ADDR" (databaseAddress kc secret),
  .plain "DB_PORT" (Integer.ofInt32 (DatabaseSecret.port secret)),
  .plain "DB_DATABASE" (DatabaseSecret.database secret),
  .ofSecret "DB_USER" DatabaseSecret.name DatabaseSecret.usernameKey,
  .ofSecret "DB_PASSWORD" DatabaseSecret.name DatabaseSecret.passwordKey,
  .plain "NAMESPACE" kc.ns,
  .plain "JGROUPS_DISCOVERY_PROTOCOL" "dns.DNS_PING",
  .plain "JGROUPS_DISCOVERY_PROPERTIES" ("dns_query=" ++ discoveryServiceName ++ "." ++ kc.ns),
  .plain "CACHE_OWNERS_COUNT" "2",
  .plain "CACHE_OWNERS_AUTH_SESSIONS_COUNT" "2",
  .ofSecret "KEYCLOAK_USER" (AdminSecret.name kc) AdminSecret.usernameKey,
  .ofSecret "KEYCLOAK_PASSWORD" (AdminSecret.name kc) AdminSecret.passwordKey,
  .plain "X509_CA_BUNDLE" "/var/run/secrets/kubernetes.io/serviceaccount/*.crt",
  .plain "PROXY_ADDRESS_FORWARDING" "true"]

/-- Put a variable in the place of the one with its name, or at the end. -/
def putVariable (extra : EnvVar) : List EnvVar → List EnvVar
  | [] => [extra]
  | v :: rest => if v.name = extra.name then extra :: rest else v :: putVariable extra rest

/-- The managed variables, then the user's; a user's variable with a managed name replaces it. -/
def serverEnv (kc : Keycloak) (secret : Option Secret) : List EnvVar :=
  kc.spec.podSettings.env.foldl (fun env declared =>
    putVariable { name := declared.name, value := declared.value } env) (managedEnv kc secret)

/-! ## The stateful set -/

namespace ServerStatefulSet

def key (kc : Keycloak) : ObjectKey := kc.keyOf applicationName

def extensionsVolume : String := "keycloak-extensions"

def ports : List ContainerPort := [
  { name := some "https", containerPort := httpsPort, protocol := some "TCP" },
  { name := some "management", containerPort := managementPort, protocol := some "TCP" },
  { name := some "http", containerPort := httpPort, protocol := some "TCP" }]

def scriptProbe (script : String) (initialDelay : Int32) : Probe where
  exec := some { command := some ["/bin/sh", "-c", "/probes/" ++ script] }
  initialDelaySeconds := some initialDelay
  timeoutSeconds := some 5
  periodSeconds := some 10
  failureThreshold := some 10

def amounts (declared : ResourceAmounts) : Option (TextMap String) :=
  let entries := (declared.cpu.map ("cpu", ·)).toList ++ (declared.memory.map ("memory", ·)).toList
  if entries.isEmpty then none else some (.ofList entries)

def resources (kc : Keycloak) : Resources where
  limits := amounts kc.spec.podSettings.resources.limits
  requests := amounts kc.spec.podSettings.resources.requests

def volumeMounts : List VolumeMount := [
  { name := servingCertSecretName, mountPath := "/etc/x509/https" },
  { name := extensionsVolume, mountPath := "/opt/jboss/keycloak/providers" },
  { name := probesName, mountPath := "/probes" }]

def volumes : List Volume := [
  { name := servingCertSecretName
    secret := some { secretName := some servingCertSecretName, optional := some true } },
  { name := extensionsVolume, emptyDir := some {} },
  { name := probesName, configMap := some { name := probesName, defaultMode := some 0o555 } }]

/-- The container that fetches the declared extensions; none if nothing is declared. -/
def initContainers (kc : Keycloak) (profiles : Profiles) : Option (List Container) :=
  if kc.spec.extensions.isEmpty then none
  else some [
    { name := "extensions-init"
      image := some (profiles.initImage kc)
      env := some [.plain "KEYCLOAK_EXTENSIONS" (",".intercalate kc.spec.extensions)]
      volumeMounts := some [{ name := extensionsVolume, mountPath := "/opt/extensions" }] }]

def container (kc : Keycloak) (secret : Option Secret) (profiles : Profiles) : Container where
  name := applicationName
  image := some (profiles.image kc)
  imagePullPolicy := kc.spec.podSettings.imagePullPolicy
  ports := some ports
  env := some (serverEnv kc secret)
  resources := some (resources kc)
  volumeMounts := some volumeMounts
  livenessProbe := some (scriptProbe Probes.livenessFile 30)
  readinessProbe := some (scriptProbe Probes.readinessFile 40)

def template (kc : Keycloak) (secret : Option Secret) (profiles : Profiles) : PodTemplate where
  metadata := some { labels := some (podSelector.union appLabels) }
  spec := some
    { containers := [container kc secret profiles]
      initContainers := initContainers kc profiles
      volumes := some volumes }

def spec (kc : Keycloak) (secret : Option Secret) (profiles : Profiles) : StatefulSetSpec where
  replicas := some (sanitizeReplicas kc.spec.instances true)
  serviceName := discoveryServiceName
  selector := { matchLabels := some podSelector }
  template := template kc secret profiles

/-- A new stateful set. The database secret, if there is one, tells where the database is. -/
def fresh (kc : Keycloak) (secret : Option Secret) (profiles : Profiles) : StatefulSet where
  metadata := kc.ownedMeta applicationName (appLabels.union podSelector)
  spec := some (spec kc secret profiles)

/-- A specification with the declared number of pods and the pod template. -/
def refreshedSpec (kc : Keycloak) (secret : Option Secret) (profiles : Profiles) :
    Option StatefulSetSpec → StatefulSetSpec
  | some live =>
    { live with
      replicas := some (sanitizeReplicas kc.spec.instances false)
      template := template kc secret profiles }
  | none => spec kc secret profiles

/-- The stateful set with the declared number of pods and the pod template; what cannot be changed
stays. -/
def refreshed (kc : Keycloak) (secret : Option Secret) (profiles : Profiles)
    (current : StatefulSet) : StatefulSet :=
  { current with spec := some (refreshedSpec kc secret profiles current.spec) }

end ServerStatefulSet

/-! ## The disruption budget -/

namespace DisruptionBudget

def key (kc : Keycloak) : ObjectKey := kc.keyOf applicationName

def spec : DisruptionBudgetSpec where
  maxUnavailable := some (.int 1)
  selector := some { matchLabels := some podSelector }

def fresh (kc : Keycloak) : PodDisruptionBudget where
  metadata := kc.ownedMeta applicationName appLabels
  spec := some spec

def refreshed (current : PodDisruptionBudget) : PodDisruptionBudget :=
  { current with spec := some spec }

end DisruptionBudget

end IdentityOperator
