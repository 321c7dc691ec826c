import GatewayMigration.Document.Value
import GatewayMigration.ObjectKey
/-!
# Ingresses and Services

The source objects of a migration: routing rules of an Ingress, and the ports of the Services they
lead to. Only what the migration looks at is kept.
-/

namespace GatewayMigration

abbrev Labels := OrderedMap String String

/-- The legacy way to say the class of an Ingress. -/
def ingressClassAnnotationKey : String := "kubernetes.io/ingress.class"

def defaultNamespace : String := "default"

structure SourceMeta where
  name : String
  space : String
  labels : Labels
  annotations : Labels
deriving DecidableEq

/-- A port by name or by number; the number decides when both are there. -/
structure BackendPort where
  name : Option String
  number : Option Int
deriving DecidableEq, Repr

structure ServiceBackend where
  name : String
  port : BackendPort
deriving DecidableEq, Repr

/-- A backend that is no Service is a reference to some other resource. -/
structure Backend where
  service : Option ServiceBackend
  resource : Option (OrderedMap String Value)
deriving DecidableEq

structure IngressPath where
  path : String
  pathType : String
  backend : Backend
deriving DecidableEq

structure IngressPaths where
  paths : List IngressPath
deriving DecidableEq

/-- The empty host stands for all hosts. -/
structure IngressRule where
  host : String
  http : Option IngressPaths
deriving DecidableEq

structure IngressTls where
  hosts : List String
  secretName : Option String
deriving DecidableEq, Repr

structure IngressSpec where
  className : Option String
  defaultBackend : Option Backend
  rules : List IngressRule
  tls : List IngressTls
deriving DecidableEq

structure Ingress where
  apiVersion : String
  kind : String
  metadata : SourceMeta
  spec : IngressSpec
deriving DecidableEq

namespace Ingress

def key (i : Ingress) : ObjectKey := ⟨i.metadata.space, i.metadata.name⟩

def annotation? (i : Ingress) (name : String) : Option String := i.metadata.annotations.get? name

/-- The class of the specification, or else that of the legacy annotation. -/
def className (i : Ingress) : String :=
  match i.spec.className with
  | some c => if c.isEmpty then (i.annotation? ingressClassAnnotationKey).getD "" else c
  | none => (i.annotation? ingressClassAnnotationKey).getD ""

/-- The Services of an Ingress: the default backend, then the rules in order. -/
def backends (i : Ingress) : List ServiceBackend :=
  ((i.spec.defaultBackend.bind (·.service)).toList) ++
    i.spec.rules.flatMap fun r =>
      match r.http with
      | some h => h.paths.filterMap (·.backend.service)
      | none => []

end Ingress

structure ServicePort where
  name : Option String
  port : Int
  protocol : String
deriving DecidableEq, Repr

structure ServiceSpec where
  ports : List ServicePort
deriving DecidableEq, Repr

structure Service where
  apiVersion : String
  kind : String
  metadata : SourceMeta
  spec : ServiceSpec
deriving DecidableEq

/-- The numbers of a Service's ports, by name and by written number. -/
abbrev PortLookup := OrderedMap String Int

namespace Service

def key (s : Service) : ObjectKey := ⟨s.metadata.space, s.metadata.name⟩

def addPort (ports : PortLookup) (p : ServicePort) : PortLookup :=
  let ports := ports.insert (toString p.port) p.port
  match p.name with
  | some n => if n.isEmpty then ports else ports.insert n p.port
  | none => ports

def portLookup (s : Service) : PortLookup := s.spec.ports.foldl addPort .empty

end Service

end GatewayMigration
