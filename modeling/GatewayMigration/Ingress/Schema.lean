import GatewayMigration.Ingress.Basic
import GatewayMigration.Schema.Record
/-!
# The schema of Ingresses and Services

Source objects are open records: manifests hold many fields that the migration does not look at.
-/

namespace GatewayMigration

open Codec Fields

def SourceMeta.codec : Codec SourceMeta := opened <| SourceMeta.mk
  <$> required "name" text (·.name)
  <*> defaulted "namespace" defaultNamespace text (·.space)
  <*> defaulted "labels" .empty (dictionary text) (·.labels)
  <*> defaulted "annotations" .empty (dictionary text) (·.annotations)

def BackendPort.codec : Codec BackendPort := opened <| BackendPort.mk
  <$> optional "name" text (·.name)
  <*> optional "number" integer (·.number)

def ServiceBackend.codec : Codec ServiceBackend := opened <| ServiceBackend.mk
  <$> required "name" text (·.name)
  <*> defaulted "port" ⟨none, none⟩ BackendPort.codec (·.port)

def Backend.codec : Codec Backend := opened <| Backend.mk
  <$> optional "service" ServiceBackend.codec (·.service)
  <*> optional "resource" (dictionary anything) (·.resource)

def IngressPath.codec : Codec IngressPath := opened <| IngressPath.mk
  <$> defaulted "path" "/" text (·.path)
  <*> defaulted (either "pathType" "path_type") "Prefix" text (·.pathType)
  <*> required "backend" Backend.codec (·.backend)

def IngressPaths.codec : Codec IngressPaths := opened <| IngressPaths.mk
  <$> defaulted "paths" [] (list IngressPath.codec) (·.paths)

def IngressRule.codec : Codec IngressRule := opened <| IngressRule.mk
  <$> defaulted "host" "" text (·.host)
  <*> optional "http" IngressPaths.codec (·.http)

def IngressTls.codec : Codec IngressTls := opened <| IngressTls.mk
  <$> defaulted "hosts" [] (list text) (·.hosts)
  <*> optional (either "secretName" "secret_name") text (·.secretName)

def IngressSpec.codec : Codec IngressSpec := opened <| IngressSpec.mk
  <$> optional (either "ingressClassName" "ingress_class_name") text (·.className)
  <*> optional (either "defaultBackend" "default_backend") Backend.codec (·.defaultBackend)
  <*> defaulted "rules" [] (list IngressRule.codec) (·.rules)
  <*> defaulted "tls" [] (list IngressTls.codec) (·.tls)

def ingressApiVersion : String := "networking.k8s.io/v1"

def Ingress.codec : Codec Ingress := opened <| Ingress.mk
  <$> defaulted (either "apiVersion" "api_version") ingressApiVersion text (·.apiVersion)
  <*> defaulted "kind" "Ingress" text (·.kind)
  <*> required "metadata" SourceMeta.codec (·.metadata)
  <*> defaulted "spec" ⟨none, none, [], []⟩ IngressSpec.codec (·.spec)

def ServicePort.codec : Codec ServicePort := opened <| ServicePort.mk
  <$> optional "name" text (·.name)
  <*> required "port" integer (·.port)
  <*> defaulted "protocol" "TCP" text (·.protocol)

def ServiceSpec.codec : Codec ServiceSpec := opened <| ServiceSpec.mk
  <$> defaulted "ports" [] (list ServicePort.codec) (·.ports)

def Service.codec : Codec Service := opened <| Service.mk
  <$> defaulted (either "apiVersion" "api_version") "v1" text (·.apiVersion)
  <*> defaulted "kind" "Service" text (·.kind)
  <*> required "metadata" SourceMeta.codec (·.metadata)
  <*> defaulted "spec" ⟨[]⟩ ServiceSpec.codec (·.spec)

end GatewayMigration
