import GatewayMigration.Gateway.Basic
/-!
# The plan of a migration

The working state between reading and writing: Gateway API objects together with what the
annotations of the Ingresses ask for. A setting that no annotation gave is absent.
-/

namespace GatewayMigration

/-! ## Settings of routes -/

/-- How a client's certificate is checked. -/
inductive CertVerification
  | required
  | disabled
  | optional
  | optionalNoCa
deriving DecidableEq, Repr

namespace CertVerification

def all : List CertVerification := [.required, .disabled, .optional, .optionalNoCa]

def name : CertVerification → String
  | .required => "on"
  | .disabled => "off"
  | .optional => "optional"
  | .optionalNoCa => "optional_no_ca"

def ofName? (s : String) : Option CertVerification := all.find? fun v => v.name == s

end CertVerification

/-- A limit on request bodies, as written and in bytes. Zero bytes mean no limit. -/
structure BodySize where
  raw : String
  bytes : Int
deriving DecidableEq, Repr

def BodySize.isUnlimited (b : BodySize) : Bool := b.bytes == 0

/-- Mutual TLS with clients. The secret holds the trusted certificates. -/
structure ClientCertAuth where
  secret : String
  verifyClient : CertVerification := .required
  verifyDepth : Int := 1
  errorPage : Option String := none
  passToUpstream : Bool := false
deriving DecidableEq, Repr

/-- A service that decides about requests. -/
structure ExternalAuth where
  url : String
  method : String := "GET"
  signinUrl : Option String := none
  responseHeaders : List String := []
  requestRedirect : Option String := none
  cacheKey : Option String := none
  cacheDuration : Option String := none
deriving DecidableEq, Repr

structure RouteSettings where
  sslRedirect : Option Bool := none
  bodySize : Option BodySize := none
  buffering : Option Bool := none
  requestBuffering : Option Bool := none
  requestRate : Option Int := none
  burst : Option Int := none
  connections : Option Int := none
  clientCert : Option ClientCertAuth := none
  externalAuth : Option ExternalAuth := none
deriving DecidableEq, Repr

namespace RouteSettings

/-- The rate of requests per second, if it is a limit at all. -/
def rateLimit? (s : RouteSettings) : Option Int := s.requestRate.filter (0 < ·)

def bufferingDisabled (s : RouteSettings) : Bool := s.buffering == some false

end RouteSettings

/-! ## Settings of services -/

inductive BackendProtocol
  | http
  | https
  | grpc
  | grpcs
  | autoHttp
  | fcgi
deriving DecidableEq, Repr

namespace BackendProtocol

def all : List BackendProtocol := [.http, .https, .grpc, .grpcs, .autoHttp, .fcgi]

def name : BackendProtocol → String
  | .http => "HTTP"
  | .https => "HTTPS"
  | .grpc => "GRPC"
  | .grpcs => "GRPCS"
  | .autoHttp => "AUTO_HTTP"
  | .fcgi => "FCGI"

def ofName? (s : String) : Option BackendProtocol := all.find? fun p => p.name == s

def isTls : BackendProtocol → Bool
  | .https | .grpcs => true
  | _ => false

end BackendProtocol

structure ServiceSettings where
  protocol : Option BackendProtocol := none
  sslSecret : Option String := none
  sslVerify : Option Bool := none
  sslName : Option String := none
  sslProtocols : Option String := none
  sslCiphers : Option String := none
  loadBalancing : Option String := none
deriving DecidableEq, Repr

/-! ## Plans -/

/-- A route, the Ingresses it was made from, and its settings once an annotation gave one. -/
structure RoutePlan where
  route : HttpRoute
  sources : List ObjectKey := []
  settings : Option RouteSettings := none
deriving DecidableEq

structure ServicePlan where
  ports : PortLookup := .empty
  settings : Option ServiceSettings := none
deriving DecidableEq

structure Plan where
  gateways : Catalog Gateway := .empty
  routes : Catalog RoutePlan := .empty
  services : Catalog ServicePlan := .empty
  tlsPolicies : Catalog BackendTlsPolicy := .empty
  grants : Catalog ReferenceGrant := .empty
deriving DecidableEq

/-- The Gateway API objects of a plan, without its settings. -/
def Plan.resources (p : Plan) : Resources where
  gateways := p.gateways
  routes := p.routes.mapValues fun _ r => r.route
  tlsPolicies := p.tlsPolicies
  grants := p.grants

end GatewayMigration
