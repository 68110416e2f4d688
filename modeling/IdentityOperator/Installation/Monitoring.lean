import IdentityOperator.Installation.Basic

/-!
How an installation is monitored, on a cluster that has the kinds for it.
-/

namespace IdentityOperator

def monitoringLabels : TextMap String := appLabels.insert "monitoring-key" "middleware"

namespace ServerMonitor

def key (kc : Keycloak) : ObjectKey := kc.keyOf applicationName

def spec : ServiceMonitorSpec where
  selector := { matchLabels := .ofList [("app", applicationName)] }
  endpoints := [
    { port := applicationName
      path := some "/auth/realms/master/metrics"
      scheme := some "https"
      interval := some "30s" }]

def fresh (kc : Keycloak) : ServiceMonitor where
  metadata := kc.ownedMeta applicationName monitoringLabels
  spec := spec

def refreshed (current : ServiceMonitor) : ServiceMonitor := { current with spec := spec }

end ServerMonitor

namespace ServerAlerts

def key (kc : Keycloak) : ObjectKey := kc.keyOf applicationName

def alert (name expr duration severity message : String) : AlertRule where
  alert := name
  expr := expr
  duration := some duration
  labels := .ofList [("severity", severity)]
  annotations := .ofList [("message", message)]

/-- The alerts about the pods of a namespace. -/
def spec (ns : String) : PrometheusRuleSpec where
  groups := [
    { name := "general.rules"
      rules := [
        alert "KeycloakJavaHeapThresholdExceeded"
          ("100 * jvm_memory_bytes_used\x7barea=\"heap\",namespace=\"" ++ ns
            ++ "\"\x7d / jvm_memory_bytes_max\x7barea=\"heap\",namespace=\"" ++ ns
            ++ "\"\x7d > 90")
          "1m" "critical" "Heap memory usage is above 90% of the maximum",
        alert "KeycloakInstanceNotAvailable"
          ("(1 - absent(kube_pod_status_ready\x7bnamespace=\"" ++ ns
            ++ "\", condition=\"true\"\x7d * on (pod) group_left (label_component) "
            ++ "kube_pod_labels\x7blabel_component=\"keycloak\"\x7d)) == 0")
          "1m" "critical" "No Keycloak instance is ready",
        alert "KeycloakAPIRequestDuration99PercThresholdExceeded"
          ("histogram_quantile(0.99, sum(rate(keycloak_request_duration_bucket\x7bnamespace=\""
            ++ ns ++ "\"\x7d[5m])) by (le)) / 1000 > 2")
          "10m" "warning" "99th percentile of request duration is above 2 seconds"] }]

def fresh (kc : Keycloak) : PrometheusRule where
  metadata := kc.ownedMeta applicationName monitoringLabels
  spec := spec kc.ns

/-- The rule object with its alerts. -/
def refreshed (kc : Keycloak) (current : PrometheusRule) : PrometheusRule :=
  { current with spec := spec kc.ns }

end ServerAlerts

namespace ServerDashboard

def key (kc : Keycloak) : ObjectKey := kc.keyOf applicationName

def panels : String := "\n".intercalate [
  "\x7b",
  "  \"title\": \"Keycloak\",",
  "  \"uid\": \"keycloak\",",
  "  \"schemaVersion\": 16,",
  "  \"panels\": [",
  "    \x7b",
  "      \"type\": \"graph\",",
  "      \"title\": \"Memory usage\",",
  "      \"targets\": [\x7b\"expr\": \"sum(jvm_memory_bytes_used\x7bnamespace=\\\"$namespace\\\"\x7d) by (area)\"\x7d]",
  "    \x7d,",
  "    \x7b",
  "      \"type\": \"graph\",",
  "      \"title\": \"Logins per minute\",",
  "      \"targets\": [\x7b\"expr\": \"sum(rate(keycloak_logins\x7bnamespace=\\\"$namespace\\\"\x7d[1m])) by (realm)\"\x7d]",
  "    \x7d,",
  "    \x7b",
  "      \"type\": \"graph\",",
  "      \"title\": \"Failed logins per minute\",",
  "      \"targets\": [\x7b\"expr\": \"sum(rate(keycloak_failed_login_attempts\x7bnamespace=\\\"$namespace\\\"\x7d[1m])) by (realm)\"\x7d]",
  "    \x7d",
  "  ]",
  "\x7d"]

def spec : GrafanaDashboardSpec where
  json := panels
  name := some "keycloak.json"

def fresh (kc : Keycloak) : GrafanaDashboard where
  metadata := kc.ownedMeta applicationName monitoringLabels
  spec := spec

/-- The dashboard object with its panels. -/
def refreshed (current : GrafanaDashboard) : GrafanaDashboard := { current with spec := spec }

end ServerDashboard

end IdentityOperator
