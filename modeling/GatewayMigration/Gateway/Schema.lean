import GatewayMigration.Gateway.Basic
import GatewayMigration.Schema.Record
/-!
# The schema of Gateway API objects

Target objects are closed records. A manifest is what the codec writes without nulls.
-/

namespace GatewayMigration

open Codec Fields

def ObjectMeta.codec : Codec ObjectMeta := closed <| ObjectMeta.mk
  <$> required "name" text (·.name)
  <*> required "namespace" text (·.space)
  <*> optional "labels" (dictionary text) (·.labels)
  <*> optional "annotations" (dictionary text) (·.annotations)

def SecretRef.codec : Codec SecretRef := closed <| SecretRef.mk
  <$> optional "group" text (·.group)
  <*> optional "kind" text (·.kind)
  <*> required "name" text (·.name)
  <*> optional "namespace" text (·.space)

def ListenerTls.codec : Codec ListenerTls := closed <| ListenerTls.mk
  <$> defaulted "mode" "Terminate" text (·.mode)
  <*> defaulted (either "certificateRefs" "certificate_refs") [] (list SecretRef.codec)
    (·.certificateRefs)

def Listener.codec : Codec Listener := closed <| Listener.mk
  <$> required "name" text (·.name)
  <*> optional "hostname" text (·.hostname)
  <*> required "port" integer (·.port)
  <*> required "protocol" text (·.protocol)
  <*> optional "tls" ListenerTls.codec (·.tls)

def GatewaySpec.codec : Codec GatewaySpec := closed <| GatewaySpec.mk
  <$> required (either "gatewayClassName" "gateway_class_name") text (·.className)
  <*> defaulted "listeners" [] (list Listener.codec) (·.listeners)

def Gateway.codec : Codec Gateway := closed <| Gateway.mk
  <$> defaulted (either "apiVersion" "api_version") gatewayV1 text (·.apiVersion)
  <*> defaulted "kind" "Gateway" text (·.kind)
  <*> required "metadata" ObjectMeta.codec (·.metadata)
  <*> required "spec" GatewaySpec.codec (·.spec)

def ParentRef.codec : Codec ParentRef := closed <| ParentRef.mk
  <$> optional "group" text (·.group)
  <*> optional "kind" text (·.kind)
  <*> optional "namespace" text (·.space)
  <*> required "name" text (·.name)
  <*> optional (either "sectionName" "section_name") text (·.sectionName)

def PathMatch.codec : Codec PathMatch := closed <| PathMatch.mk
  <$> defaulted "type" "PathPrefix" text (·.type)
  <*> defaulted "value" "/" text (·.value)

def RouteMatch.codec : Codec RouteMatch := closed <| RouteMatch.mk
  <$> optional "path" PathMatch.codec (·.path)

def BackendRef.codec : Codec BackendRef := closed <| BackendRef.mk
  <$> required "name" text (·.name)
  <*> optional "namespace" text (·.space)
  <*> optional "port" integer (·.port)

def RedirectAction.codec : Codec RedirectAction := closed <| RedirectAction.mk
  <$> optional "scheme" text (·.scheme)
  <*> optional "hostname" text (·.hostname)
  <*> optional "port" integer (·.port)
  <*> optional (either "statusCode" "status_code") integer (·.statusCode)

def RouteFilter.codec : Codec RouteFilter := closed <| RouteFilter.mk
  <$> required "type" text (·.type)
  <*> optional (either "requestRedirect" "request_redirect") RedirectAction.codec
    (·.requestRedirect)

def RouteTimeouts.codec : Codec RouteTimeouts := closed <| RouteTimeouts.mk
  <$> optional "request" text (·.request)
  <*> optional (either "backendRequest" "backend_request") text (·.backendRequest)

def RouteRule.codec : Codec RouteRule := closed <| RouteRule.mk
  <$> optional "matches" (list RouteMatch.codec) (·.pathMatches)
  <*> optional "filters" (list RouteFilter.codec) (·.filters)
  <*> optional (either "backendRefs" "backend_refs") (list BackendRef.codec) (·.backendRefs)
  <*> optional "timeouts" RouteTimeouts.codec (·.timeouts)

def HttpRouteSpec.codec : Codec HttpRouteSpec := closed <| HttpRouteSpec.mk
  <$> defaulted (either "parentRefs" "parent_refs") [] (list ParentRef.codec) (·.parentRefs)
  <*> defaulted "hostnames" [] (list text) (·.hostnames)
  <*> defaulted "rules" [] (list RouteRule.codec) (·.rules)

def HttpRoute.codec : Codec HttpRoute := closed <| HttpRoute.mk
  <$> defaulted (either "apiVersion" "api_version") gatewayV1 text (·.apiVersion)
  <*> defaulted "kind" "HTTPRoute" text (·.kind)
  <*> required "metadata" ObjectMeta.codec (·.metadata)
  <*> defaulted "spec" {} HttpRouteSpec.codec (·.spec)

def PolicyTarget.codec : Codec PolicyTarget := closed <| PolicyTarget.mk
  <$> defaulted "group" "" text (·.group)
  <*> required "kind" text (·.kind)
  <*> required "name" text (·.name)

def LocalRef.codec : Codec LocalRef := closed <| LocalRef.mk
  <$> defaulted "group" "" text (·.group)
  <*> required "kind" text (·.kind)
  <*> required "name" text (·.name)

def TlsValidation.codec : Codec TlsValidation := closed <| TlsValidation.mk
  <$> required "hostname" text (·.hostname)
  <*> optional (either "caCertificateRefs" "ca_certificate_refs") (list LocalRef.codec)
    (·.caCertificateRefs)
  <*> optional (either "wellKnownCACertificates" "well_known_ca_certificates") text
    (·.wellKnownCaCertificates)

def TlsPolicySpec.codec : Codec TlsPolicySpec := closed <| TlsPolicySpec.mk
  <$> required (either "targetRefs" "target_refs") (list PolicyTarget.codec) (·.targetRefs)
  <*> required "validation" TlsValidation.codec (·.validation)

def BackendTlsPolicy.codec : Codec BackendTlsPolicy := closed <| BackendTlsPolicy.mk
  <$> defaulted (either "apiVersion" "api_version") gatewayV1 text (·.apiVersion)
  <*> defaulted "kind" "BackendTLSPolicy" text (·.kind)
  <*> required "metadata" ObjectMeta.codec (·.metadata)
  <*> required "spec" TlsPolicySpec.codec (·.spec)

def GrantFrom.codec : Codec GrantFrom := closed <| GrantFrom.mk
  <$> required "group" text (·.group)
  <*> required "kind" text (·.kind)
  <*> required "namespace" text (·.space)

def GrantTo.codec : Codec GrantTo := closed <| GrantTo.mk
  <$> required "group" text (·.group)
  <*> required "kind" text (·.kind)
  <*> optional "name" text (·.name)

def GrantSpec.codec : Codec GrantSpec := closed <| GrantSpec.mk
  <$> required (either "from" "from_") (list GrantFrom.codec) (·.sources)
  <*> required "to" (list GrantTo.codec) (·.targets)

def ReferenceGrant.codec : Codec ReferenceGrant := closed <| ReferenceGrant.mk
  <$> defaulted (either "apiVersion" "api_version") gatewayV1Beta1 text (·.apiVersion)
  <*> defaulted "kind" "ReferenceGrant" text (·.kind)
  <*> required "metadata" ObjectMeta.codec (·.metadata)
  <*> required "spec" GrantSpec.codec (·.spec)

/-- An extension is read from a record that holds its content. -/
def Extension.codec : Codec Extension := opened <| (Extension.mk · [])
  <$> required "content" (dictionary anything) (·.content)

/-! ## Manifests -/

/-- A document to write, with the pairs of places that hold the same thing. -/
structure Manifest where
  body : Value
  shared : List (List Step × List Step) := []
deriving DecidableEq

namespace Resources

/-- The entries of a catalog by namespace, then by name. -/
def sorted {α : Type} (c : Catalog α) : List α :=
  (c.toList.mergeSort fun a b => a.1.le b.1).map Prod.snd

def extensionManifest (e : Extension) : Manifest :=
  ⟨Value.object e.content.toList, e.shared⟩

/-- The documents of all objects: grouped by kind, and sorted within a kind. -/
def manifests (r : Resources) : List Manifest :=
  (sorted r.gateways).map (⟨Gateway.codec.write .dropped ·, []⟩) ++
  (sorted r.routes).map (⟨HttpRoute.codec.write .dropped ·, []⟩) ++
  (sorted r.tlsPolicies).map (⟨BackendTlsPolicy.codec.write .dropped ·, []⟩) ++
  (sorted r.grants).map (⟨ReferenceGrant.codec.write .dropped ·, []⟩) ++
  (sorted r.extensions).map extensionManifest

end Resources

end GatewayMigration
