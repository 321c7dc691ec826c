import GatewayMigration.Emission.EnvoyFilter
import GatewayMigration.Emission.Grant
import GatewayMigration.Emission.RedirectRoute
import GatewayMigration.Report.Notification
import GatewayMigration.Run.Progress
import GatewayMigration.Topology.Attach
/-!
# Materializing settings

The objects that the settings of a plan ask for, added to its Gateway API objects. An object is
added only where its key is free, so adding twice changes nothing.
-/

namespace GatewayMigration

/-- Objects that are produced, and what there is to say about them. -/
structure Emission where
  resources : Resources := {}
  notices : Notices := []
deriving DecidableEq

namespace Emission

def notify (e : Emission) (severity : Severity) (source : ObjectKey) (message : String) :
    Emission :=
  { e with notices := e.notices ++ [⟨severity, message, some source⟩] }

/-! ## Redirects -/

def redirectMessage (r : HttpRoute) : String :=
  "Generated redirect HTTPRoute " ++ toString r.metadata.key ++ " for " ++
    r.spec.hostnames.headD ""

/-- Add a redirect for a route, and say so if it is new. -/
def addRedirect (source : ObjectKey) (e : Emission) (r : HttpRoute) : Emission :=
  let k := r.metadata.key
  if e.resources.routes.contains k then e
  else { e with resources := { e.resources with routes := e.resources.routes.insert k r } }.notify
    .info source (redirectMessage r)

def wantsRedirect (p : RoutePlan) : Bool :=
  match p.settings with
  | some s => s.sslRedirect == some true
  | none => false

def addRedirects (l : GatewayLayout) (e : Emission) (r : ObjectKey × RoutePlan) : Emission :=
  if wantsRedirect r.2 then (RedirectRoute.all l r.1 r.2.route).foldl (addRedirect r.1) e else e

/-! ## Filters -/

def addExtension (e : Emission) (x : ObjectKey × Extension) : Emission :=
  { e with resources :=
    { e.resources with extensions := e.resources.extensions.insertNew x.1 x.2 } }

def addFilters (l : GatewayLayout) (e : Emission) (r : ObjectKey × RoutePlan) : Progress Emission :=
  match r.2.settings with
  | none => ⟨e, none⟩
  | some s =>
    match EnvoyFilter.forRoute l r.1 s with
    | .ok filters => ⟨filters.foldl addExtension e, none⟩
    | .error why => ⟨e, some why⟩

/-! ## Grants -/

/-- The namespaces that have routes, in alphabetical order. -/
def routeSpaces (r : Resources) : List String := sortTexts (GatewayLayout.routeSpaces r)

def addGrant (l : GatewayLayout) (e : Emission) (space : String) : Emission :=
  let gateway := l.gatewayFor space
  if gateway.space = space then e
  else { e with resources := { e.resources with
    grants := e.resources.grants.insertNew (ReferenceGrant.keyFor space gateway)
      (ReferenceGrant.forRoutes space gateway) } }

def addGrants (l : GatewayLayout) (e : Emission) : Emission :=
  (routeSpaces e.resources).foldl (addGrant l) e

/-! ## Advice -/

def authAdvice (route gateway : ObjectKey) : String :=
  "HTTPRoute " ++ toString route ++ " uses external auth; the ext_authz filter is installed on " ++
    "the shared Gateway " ++ toString gateway ++ " and applies to every route attached to it"

def clientCertAdvice (route gateway : ObjectKey) : String :=
  "HTTPRoute " ++ toString route ++ " requires client certificates; mutual TLS is configured " ++
    "per listener on the shared Gateway " ++ toString gateway ++
    " and affects every tenant using that listener"

/-- The warnings about a route whose settings reach beyond it on a shared Gateway. -/
def advice (gateway : ObjectKey) (r : ObjectKey × RoutePlan) : Notices :=
  let warn (m : String) : Notification := ⟨.warning, m, some r.1⟩
  match r.2.settings with
  | none => []
  | some s =>
    (s.externalAuth.map fun _ => warn (authAdvice r.1 gateway)).toList ++
      (s.clientCert.map fun _ => warn (clientCertAdvice r.1 gateway)).toList

def addAdvice (l : GatewayLayout) (routes : Catalog RoutePlan) (e : Emission) : Emission :=
  if l.isCentralized then
    { e with notices := e.notices ++ routes.toList.flatMap (advice (l.gatewayFor "")) }
  else e

/-! ## All of it -/

/-- Add to what is there all that the plan's settings ask for. A URL of an authorization service
that names no server interrupts, and what was added before stays. -/
def materialize (l : GatewayLayout) (plan : Plan) (e : Emission) : Progress Emission :=
  let withRedirects := plan.routes.toList.foldl (addRedirects l) e
  (Progress.each (addFilters l) withRedirects plan.routes.toList).andThen fun e =>
    ⟨addAdvice l plan.routes (addGrants l e), none⟩

end Emission

end GatewayMigration
