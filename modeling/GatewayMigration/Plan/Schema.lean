import GatewayMigration.Gateway.Schema
import GatewayMigration.Plan.Basic
import GatewayMigration.Text.Case
/-!
# The schema of plans

Settings are closed records whose rules are checked when they are read: a URL and a secret are not
empty, sizes and depths are not negative.
-/

namespace GatewayMigration

open Codec Fields

def BodySize.codec : Codec BodySize := closed <| BodySize.mk
  <$> required "raw" text (·.raw)
  <*> required "bytes" (integerFrom 0) (·.bytes)

def ClientCertAuth.codec : Codec ClientCertAuth := closed <| ClientCertAuth.mk
  <$> required "secret" (nonEmpty "ClientCertAuthConfig.secret must not be empty") (·.secret)
  <*> defaulted "verify_client" .required (choice CertVerification.all CertVerification.name)
    (·.verifyClient)
  <*> defaulted "verify_depth" 1 (integerFrom 0) (·.verifyDepth)
  <*> optional "error_page" text (·.errorPage)
  <*> defaulted "pass_certificate_to_upstream" false boolean (·.passToUpstream)

/-- The method of a request in upper case; an empty one is `GET`. -/
def normalMethod (s : String) : String := if s.isEmpty then "GET" else Text.upper s

def methodCodec : Codec String where
  read v := (readText v).map normalMethod
  write _ := .string

def ExternalAuth.codec : Codec ExternalAuth := closed <| ExternalAuth.mk
  <$> required "url" (nonEmpty "ExternalAuthConfig.url must not be empty") (·.url)
  <*> defaulted "method" "GET" methodCodec (·.method)
  <*> optional "signin_url" text (·.signinUrl)
  <*> defaulted "response_headers" [] (list text) (·.responseHeaders)
  <*> optional "request_redirect" text (·.requestRedirect)
  <*> optional "cache_key" text (·.cacheKey)
  <*> optional "cache_duration" text (·.cacheDuration)

def RouteSettings.codec : Codec RouteSettings := closed <| RouteSettings.mk
  <$> optional "ssl_redirect" boolean (·.sslRedirect)
  <*> optional "proxy_body_size" BodySize.codec (·.bodySize)
  <*> optional "proxy_buffering" boolean (·.buffering)
  <*> optional "proxy_request_buffering" boolean (·.requestBuffering)
  <*> optional "rate_limit_rps" integer (·.requestRate)
  <*> optional "rate_limit_burst" integer (·.burst)
  <*> optional "rate_limit_connections" integer (·.connections)
  <*> optional "client_cert_auth" ClientCertAuth.codec (·.clientCert)
  <*> optional "external_auth" ExternalAuth.codec (·.externalAuth)

def ServiceSettings.codec : Codec ServiceSettings := closed <| ServiceSettings.mk
  <$> optional "backend_protocol" (choice BackendProtocol.all BackendProtocol.name) (·.protocol)
  <*> optional "proxy_ssl_secret" text (·.sslSecret)
  <*> optional "proxy_ssl_verify" boolean (·.sslVerify)
  <*> optional "proxy_ssl_name" text (·.sslName)
  <*> optional "proxy_ssl_protocols" text (·.sslProtocols)
  <*> optional "proxy_ssl_ciphers" text (·.sslCiphers)
  <*> optional "load_balance_algorithm" text (·.loadBalancing)

/-- Settings stand under the name of their provider. -/
def routeExtras : Codec (Option RouteSettings) :=
  opened (optional "ingress_nginx" RouteSettings.codec id)

def serviceExtras : Codec (Option ServiceSettings) :=
  opened (optional "ingress_nginx" ServiceSettings.codec id)

def RoutePlan.codec : Codec RoutePlan := opened <| RoutePlan.mk
  <$> required "http_route" HttpRoute.codec (·.route)
  <*> defaulted "sources" [] (list objectKey) (·.sources)
  <*> defaulted "provider_specific" none routeExtras (·.settings)

def ServicePlan.codec : Codec ServicePlan := opened <| ServicePlan.mk
  <$> defaulted "ports" .empty (dictionary integer) (·.ports)
  <*> defaulted "provider_specific" none serviceExtras (·.settings)

end GatewayMigration
