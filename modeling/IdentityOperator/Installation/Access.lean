import IdentityOperator.Installation.Basic

/-!
How an installation is reached from outside: a route where the cluster has routes, else an ingress.
-/

namespace IdentityOperator

namespace ServerIngress

def key (kc : Keycloak) : ObjectKey := kc.keyOf applicationName

/-- The declared host, or a host that only a local cluster knows. -/
def host (kc : Keycloak) : String :=
  (nonEmpty? kc.spec.externalAccess.host).getD "keycloak.local"

/-- The annotations: the protocol behind the ingress, and the declared ones. -/
def annotations (kc : Keycloak) : TextMap String :=
  (TextMap.ofList [("nginx.ingress.kubernetes.io/backend-protocol", "HTTPS")]).union
    kc.spec.externalAccess.annotations

/-- Every request for the host goes to the server. -/
def rule (host : String) : IngressRule where
  host := some host
  http := some
    { paths := [
        { path := some "/"
          pathType := "Prefix"
          backend :=
            { service := some
                { name := applicationName, port := some { number := some httpsPort } } } }] }

def fresh (kc : Keycloak) : Ingress where
  metadata :=
    { kc.ownedMeta applicationName appLabels with annotations := some (annotations kc) }
  spec := some
    { rules := some [rule (host kc)]
      tls := some [{ hosts := some [host kc], secretName := some (host kc ++ "-tls") }] }

/-- The ingress with its annotations and its rule. Of the specification only the host and the
certificates stay. -/
def refreshed (kc : Keycloak) (current : Ingress) : Ingress :=
  let live := current.spec.getD {}
  { current with
    metadata := { current.metadata with annotations := some (annotations kc) }
    spec := some { rules := some [rule (live.firstHost?.getD (host kc))], tls := live.tls } }

end ServerIngress

namespace ServerRoute

def key (kc : Keycloak) : ObjectKey := kc.keyOf applicationName

def spec (kc : Keycloak) (host : Option String) : RouteSpec where
  host := host
  target := { kind := "Service", name := applicationName }
  port := some { targetPort := applicationName }
  tls := some
    { termination := (nonEmpty? kc.spec.externalAccess.tlsTermination).getD "reencrypt" }

def fresh (kc : Keycloak) : Route where
  metadata := kc.ownedMeta applicationName appLabels
  spec := spec kc (nonEmpty? kc.spec.externalAccess.host)

/-- The route with its target and encryption; the host that it was given stays. -/
def refreshed (kc : Keycloak) (current : Route) : Route :=
  { current with spec := spec kc current.spec.host }

end ServerRoute

end IdentityOperator
