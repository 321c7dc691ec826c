import GatewayMigration.Ingress.Basic
import GatewayMigration.Schema.Problem
/-!
# Gateway API objects

The target objects of a migration, and the set of all objects that one run produces.
-/

namespace GatewayMigration

def gatewayGroup : String := "gateway.networking.k8s.io"
def gatewayV1 : String := gatewayGroup ++ "/v1"
def gatewayV1Beta1 : String := gatewayGroup ++ "/v1beta1"

structure ObjectMeta where
  name : String
  space : String
  labels : Option Labels := none
  annotations : Option Labels := none
deriving DecidableEq

def ObjectMeta.key (m : ObjectMeta) : ObjectKey := ⟨m.space, m.name⟩

/-! ## Gateways -/

structure SecretRef where
  group : Option String := none
  kind : Option String := none
  name : String
  space : Option String := none
deriving DecidableEq, Repr

structure ListenerTls where
  mode : String := "Terminate"
  certificateRefs : List SecretRef
deriving DecidableEq, Repr

structure Listener where
  name : String
  hostname : Option String
  port : Int
  protocol : String
  tls : Option ListenerTls := none
deriving DecidableEq, Repr

structure GatewaySpec where
  className : String
  listeners : List Listener := []
deriving DecidableEq, Repr

structure Gateway where
  apiVersion : String := gatewayV1
  kind : String := "Gateway"
  metadata : ObjectMeta
  spec : GatewaySpec
deriving DecidableEq

/-! ## Routes -/

/-- A reference to the Gateway of a route. Without a namespace it means the route's own. -/
structure ParentRef where
  group : Option String := none
  kind : Option String := none
  space : Option String := none
  name : String
  sectionName : Option String := none
deriving DecidableEq, Repr

structure PathMatch where
  type : String := "PathPrefix"
  value : String := "/"
deriving DecidableEq, Repr

structure RouteMatch where
  path : Option PathMatch
deriving DecidableEq, Repr

structure BackendRef where
  name : String
  space : Option String := none
  port : Option Int
deriving DecidableEq, Repr

structure RedirectAction where
  scheme : Option String := none
  hostname : Option String := none
  port : Option Int := none
  statusCode : Option Int := none
deriving DecidableEq, Repr

structure RouteFilter where
  type : String
  requestRedirect : Option RedirectAction
deriving DecidableEq, Repr

structure RouteTimeouts where
  request : Option String := none
  backendRequest : Option String := none
deriving DecidableEq, Repr

structure RouteRule where
  pathMatches : Option (List RouteMatch) := none
  filters : Option (List RouteFilter) := none
  backendRefs : Option (List BackendRef) := none
  timeouts : Option RouteTimeouts := none
deriving DecidableEq, Repr

structure HttpRouteSpec where
  parentRefs : List ParentRef := []
  hostnames : List String := []
  rules : List RouteRule := []
deriving DecidableEq, Repr

structure HttpRoute where
  apiVersion : String := gatewayV1
  kind : String := "HTTPRoute"
  metadata : ObjectMeta
  spec : HttpRouteSpec := {}
deriving DecidableEq

/-! ## Policies and grants -/

structure PolicyTarget where
  group : String := ""
  kind : String
  name : String
deriving DecidableEq, Repr

structure LocalRef where
  group : String := ""
  kind : String
  name : String
deriving DecidableEq, Repr

structure TlsValidation where
  hostname : String
  caCertificateRefs : Option (List LocalRef) := none
  wellKnownCaCertificates : Option String := none
deriving DecidableEq, Repr

structure TlsPolicySpec where
  targetRefs : List PolicyTarget
  validation : TlsValidation
deriving DecidableEq, Repr

/-- How a Gateway speaks TLS to one Service. -/
structure BackendTlsPolicy where
  apiVersion : String := gatewayV1
  kind : String := "BackendTLSPolicy"
  metadata : ObjectMeta
  spec : TlsPolicySpec
deriving DecidableEq

structure GrantFrom where
  group : String
  kind : String
  space : String
deriving DecidableEq, Repr

structure GrantTo where
  group : String
  kind : String
  name : Option String := none
deriving DecidableEq, Repr

structure GrantSpec where
  sources : List GrantFrom
  targets : List GrantTo
deriving DecidableEq, Repr

/-- The permission to refer to objects of another namespace. -/
structure ReferenceGrant where
  apiVersion : String := gatewayV1Beta1
  kind : String := "ReferenceGrant"
  metadata : ObjectMeta
  spec : GrantSpec
deriving DecidableEq

/-! ## Extensions -/

/-- An object of a foreign kind, kept as it is. `shared` lists pairs of places that hold the same
thing: a document writes it at the first place and refers to it at the second. -/
structure Extension where
  content : OrderedMap String Value
  shared : List (List Step × List Step) := []
deriving DecidableEq

namespace Extension

def kind (e : Extension) : Value := (e.content.get? "kind").getD (.string "")

/-- The namespace and the name of the metadata; nothing if the metadata is no mapping. -/
def identity? (e : Extension) : Option (Value × Value) :=
  let field (k : String) (es : List (Value × Value)) : Value :=
    (Value.lookup k es).getD (.string "")
  match e.content.get? "metadata" with
  | none => some (.string "", .string "")
  | some (.mapping es) => some (field "namespace" es, field "name" es)
  | some _ => none

end Extension

/-! ## Results -/

/-- Everything one run produces. -/
structure Resources where
  gateways : Catalog Gateway := .empty
  routes : Catalog HttpRoute := .empty
  tlsPolicies : Catalog BackendTlsPolicy := .empty
  grants : Catalog ReferenceGrant := .empty
  extensions : Catalog Extension := .empty
deriving DecidableEq

end GatewayMigration
