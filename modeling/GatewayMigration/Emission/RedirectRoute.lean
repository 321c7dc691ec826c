import GatewayMigration.Gateway.Provenance
import GatewayMigration.Lowering.Naming
import GatewayMigration.Topology.Layout
/-!
# Redirect routes

For every hostname of a route that wants TLS only, a companion route on the host's HTTP listener
which answers all requests with a redirect to HTTPS.
-/

namespace GatewayMigration

namespace RedirectRoute

def statusCode : Int := 301

/-- The companion's key. The host is part of it if the route has several. -/
def key (route : ObjectKey) (hostname : String) (hostnames : List String) : ObjectKey :=
  if hostnames.length ≤ 1 then ⟨route.space, route.name ++ "-redirect"⟩
  else ⟨route.space, route.name ++ "-" ++ hostSlug hostname ++ "-redirect"⟩

def rule : RouteRule where
  filters := some [
    { type := "RequestRedirect"
      requestRedirect := some { scheme := some "https", statusCode := some statusCode } }]

def build (l : GatewayLayout) (route : ObjectKey) (hostnames : List String) (hostname : String) :
    HttpRoute :=
  let key := key route hostname hostnames
  let gateway := l.gatewayFor route.space
  { metadata :=
      { name := key.name
        space := key.space
        labels := some generatedLabels
        annotations := some (generatedAnnotations "ssl-redirect"
          (some ("HTTP to HTTPS redirect for " ++ hostname))) }
    spec :=
      { parentRefs := [
          { space := some gateway.space
            name := gateway.name
            sectionName := some (listenerName hostname "http") }]
        hostnames := [hostname]
        rules := [rule] } }

/-- The companions of a route, one for each of its hostnames. -/
def all (l : GatewayLayout) (key : ObjectKey) (route : HttpRoute) : List HttpRoute :=
  route.spec.hostnames.map (build l key route.spec.hostnames)

end RedirectRoute

end GatewayMigration
