import GatewayMigration.Gateway.Provenance
import GatewayMigration.Plan.Basic
import GatewayMigration.Topology.Layout
import GatewayMigration.Url
/-!
# Envoy filters

What a route's settings ask for beyond the Gateway API: local rate limits, limits on request bodies,
no buffering, and external authorization. Each of these concerns makes one filter of a route; the
filter targets the route's Gateway and lives where the layout says.
-/

namespace GatewayMigration

namespace EnvoyFilter

def apiVersion : String := "networking.istio.io/v1alpha3"

def connectionManager : String := "envoy.filters.network.http_connection_manager"
def router : String := "envoy.filters.http.router"

def filterType (name : String) : String := "type.googleapis.com/envoy.extensions.filters." ++ name

/-! ## Patches -/

/-- The filter chains of Gateways that speak HTTP, up to a filter inside if one is given. -/
def chainMatch (inner : List (String × Value)) : Value :=
  .object [("context", .string "GATEWAY"),
    ("listener", .object [("filterChain", .object [("filter",
      .object (("name", .string connectionManager) :: inner))])])]

def patch (applyTo : String) (target : Value) (operation : String) (value : Value) : Value :=
  .object [("applyTo", .string applyTo), ("match", target),
    ("patch", .object [("operation", .string operation), ("value", value)])]

/-- Insert a filter in front of the router. -/
def insertFilter (name typeUrl : String) (config : List (String × Value)) : Value :=
  patch "HTTP_FILTER" (chainMatch [("subFilter", .object [("name", .string router)])])
    "INSERT_BEFORE"
    (.object [("name", .string name),
      ("typed_config", .object (("@type", .string typeUrl) :: config))])

/-! ## Rate limits -/

def defaultBurstFactor : Int := 5

/-- The size of the token bucket: the burst, or else a multiple of the rate. -/
def bucketSize (rate : Int) (burst : Option Int) : Int :=
  (burst.filter (· != 0)).getD (rate * defaultBurstFactor)

def defaultShareKey : String := "default_value"

/-- All requests. -/
def fullShare : Value := .object [("numerator", .int 100), ("denominator", .string "HUNDRED")]

def runtimeShare (key : String) : Value :=
  .object [("runtime_key", .string key), (defaultShareKey, fullShare)]

def rateLimitPatches (rate : Int) (burst : Option Int) : List Value :=
  [insertFilter "envoy.filters.http.local_ratelimit"
    (filterType "http.local_ratelimit.v3.LocalRateLimit")
    [("stat_prefix", .string "http_local_rate_limiter"),
     ("token_bucket", .object
       [("max_tokens", .int (bucketSize rate burst)), ("tokens_per_fill", .int rate),
        ("fill_interval", .string "1s")]),
     ("filter_enabled", runtimeShare "local_rate_limit_enabled"),
     ("filter_enforced", runtimeShare "local_rate_limit_enforced"),
     ("response_headers_to_add", .list [.object
       [("append_action", .string "OVERWRITE_IF_EXISTS_OR_ADD"),
        ("header", .object [("key", .string "x-local-rate-limit"), ("value", .string "true")])]])]]

/-- The places of a rate limit's two shares, which are one thing. -/
def rateLimitSharing : List (List Step × List Step) :=
  let place (key : String) : List Step :=
    [.field "spec", .field "configPatches", .index 0, .field "patch", .field "value",
     .field "typed_config", .field key, .field defaultShareKey]
  [(place "filter_enabled", place "filter_enforced")]

/-! ## Bodies and buffering -/

/-- What stands for no limit, in bytes. -/
def unlimitedBytes : Int := 1024 * 1024 * 1024

def bodyLimit (bytes : Int) : Int := if bytes = 0 then unlimitedBytes else bytes

def bodySizePatches (bytes : Int) : List Value :=
  [patch "NETWORK_FILTER" (chainMatch []) "MERGE"
    (.object [("typed_config", .object
      [("@type", .string
         (filterType "network.http_connection_manager.v3.HttpConnectionManager")),
       ("route_config", .object
         [("max_direct_response_body_size_bytes", .int (bodyLimit bytes))])])]),
   insertFilter "envoy.filters.http.buffer" (filterType "http.buffer.v3.Buffer")
    [("max_request_bytes", .int (bodyLimit bytes))]]

def pendingLimit : Int := 100000

def noBufferPatches : List Value :=
  [patch "CLUSTER" (.object [("context", .string "GATEWAY")]) "MERGE"
    (.object [("circuit_breakers", .object [("thresholds", .list [.object
      [("max_pending_requests", .int pendingLimit), ("max_requests", .int pendingLimit)]])])])]

/-! ## External authorization -/

def defaultPort (scheme : String) : Nat := if scheme = "https" then 443 else 80

/-- The name of the cluster that serves a URL. Port zero counts as none. -/
def authCluster (url : String) : Except Interruption String := do
  let u ← Url.read url
  let port := ((← u.port?).filter (· != 0)).getD (defaultPort u.scheme)
  return "outbound|" ++ toString port ++ "||" ++ u.host?.getD "ext-authz-service"

def defaultAuthHeaders : List String := ["authorization", "x-forwarded-user", "x-forwarded-email"]

def authHeaders (a : ExternalAuth) : List String :=
  if a.responseHeaders.isEmpty then defaultAuthHeaders else a.responseHeaders

def headerPatterns (patterns : List (String × String)) : Value :=
  .object [("patterns", .list (patterns.map fun p => .object [(p.1, .string p.2)]))]

def authPatches (a : ExternalAuth) : Except Interruption (List Value) := do
  let cluster ← authCluster a.url
  return [insertFilter "envoy.filters.http.ext_authz" (filterType "http.ext_authz.v3.ExtAuthz")
    [("http_service", .object
       [("server_uri", .object
          [("uri", .string a.url), ("cluster", .string cluster), ("timeout", .string "5s")]),
        ("authorization_request", .object [("allowed_headers", headerPatterns
          [("exact", "authorization"), ("exact", "cookie"), ("prefix", "x-")])]),
        ("authorization_response", .object [("allowed_upstream_headers", headerPatterns
          ((authHeaders a).map fun h => ("exact", Text.lower h)))])]),
     ("failure_mode_allow", .bool false)]]

/-! ## Filters of a route -/

inductive Concern
  | rateLimit
  | bodySize
  | noBuffer
  | externalAuth
deriving DecidableEq, Repr

namespace Concern

def all : List Concern := [.rateLimit, .bodySize, .noBuffer, .externalAuth]

def name : Concern → String
  | .rateLimit => "ratelimit"
  | .bodySize => "bodysize"
  | .noBuffer => "nobuffer"
  | .externalAuth => "extauthz"

/-- The patches that settings ask for, if they are about this concern. -/
def patches? (s : RouteSettings) : Concern → Option (Except Interruption (List Value))
  | .rateLimit => s.rateLimit?.map fun rate => .ok (rateLimitPatches rate s.burst)
  | .bodySize => s.bodySize.map fun b => .ok (bodySizePatches b.bytes)
  | .noBuffer => if s.bufferingDisabled then some (.ok noBufferPatches) else none
  | .externalAuth => s.externalAuth.map authPatches

def sharing : Concern → List (List Step × List Step)
  | .rateLimit => rateLimitSharing
  | _ => []

end Concern

/-- The filter of a route for one concern. -/
def key (l : GatewayLayout) (route : ObjectKey) (c : Concern) : ObjectKey :=
  ⟨l.filterSpace route.space, route.space ++ "-" ++ route.name ++ "-" ++ c.name⟩

def labelsValue (ls : Labels) : Value := .object (ls.toList.map fun e => (e.1, .string e.2))

def wrap (l : GatewayLayout) (route : ObjectKey) (c : Concern) (patches : List Value) : Extension :=
  let key := key l route c
  let gateway := l.gatewayFor route.space
  { content := .ofList
      [("apiVersion", .string apiVersion),
       ("kind", .string "EnvoyFilter"),
       ("metadata", .object
         [("name", .string key.name),
          ("namespace", .string key.space),
          ("labels", labelsValue generatedLabels),
          ("annotations", labelsValue (generatedAnnotations ("HTTPRoute/" ++ toString route)
            (some (c.name ++ " for " ++ toString route))))]),
       ("spec", .object
         [("targetRefs", .list [.object
            [("group", .string gatewayGroup), ("kind", .string "Gateway"),
             ("namespace", .string gateway.space), ("name", .string gateway.name)]]),
          ("configPatches", .list patches)])]
    shared := c.sharing }

/-- All filters of a route. -/
def forRoute (l : GatewayLayout) (route : ObjectKey) (s : RouteSettings) :
    Except Interruption (List (ObjectKey × Extension)) :=
  (Concern.all.filterMap fun c => (c.patches? s).map fun ps => (c, ps)).mapM fun (c, ps) =>
    ps.map fun ps => (key l route c, wrap l route c ps)

end EnvoyFilter

end GatewayMigration
