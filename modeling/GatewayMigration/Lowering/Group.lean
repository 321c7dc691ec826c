import GatewayMigration.Ingress.Basic
import GatewayMigration.Lowering.Naming
import GatewayMigration.Report.FieldError
/-!
# Rule groups

The rules of all Ingresses that share a namespace, a class and a host become one route. A group
collects their paths in the order of the Ingresses and of their rules, the Ingresses themselves, and
the TLS secrets that cover the host.
-/

namespace GatewayMigration

/-- A path that leads to a Service. `field` is where an error about the backend is reported. -/
structure RoutePath where
  source : ObjectKey
  path : String
  pathType : String
  backend : ServiceBackend
  field : FieldPath
deriving DecidableEq

structure GroupKey where
  space : String
  ingressClass : String
  host : String
deriving DecidableEq, Repr

/-- `name` is the name of the first Ingress of the group. -/
structure RuleGroup where
  space : String
  name : String
  host : String
  ingressClass : String
  paths : List RoutePath := []
  sources : List ObjectKey := []
  tlsSecrets : List String := []
deriving DecidableEq

/-- Add an element that is not there yet at the end. -/
def addNew {α : Type} [DecidableEq α] (xs : List α) (x : α) : List α :=
  if x ∈ xs then xs else xs ++ [x]

namespace RuleGroup

def key (g : RuleGroup) : ObjectKey := ⟨g.space, routeName g.name g.host⟩

/-- The secret that a TLS block gives to a host. -/
def secretFor? (host : String) (t : IngressTls) : Option String :=
  match t.secretName with
  | some s => if !host.isEmpty && host ∈ t.hosts && !s.isEmpty then some s else none
  | none => none

def addSource (g : RuleGroup) (i : Ingress) : RuleGroup :=
  { g with
    sources := addNew g.sources i.key
    tlsSecrets := (i.spec.tls.filterMap (secretFor? g.host)).foldl addNew g.tlsSecrets }

def addPaths (g : RuleGroup) (ps : List RoutePath) : RuleGroup := { g with paths := g.paths ++ ps }

end RuleGroup

/-! ## The paths of one Ingress -/

namespace Ingress

def fieldPath (i : Ingress) : FieldPath := ⟨["ingress", i.metadata.space, i.metadata.name]⟩

/-- The path at position `j` of the rule at position `r`, if it leads to a Service. -/
def rulePath? (i : Ingress) (r j : Nat) (p : IngressPath) : Option RoutePath :=
  p.backend.service.map fun s =>
    { source := i.key
      path := if p.path.isEmpty then "/" else p.path
      pathType := p.pathType
      backend := s
      field := i.fieldPath.child
        ["spec", "rules[" ++ toString r ++ "]", "http", "paths[" ++ toString j ++ "]", "backend"] }

def rulePaths (i : Ingress) (r : Nat) (rule : IngressRule) : List RoutePath :=
  match rule.http with
  | some h => (h.paths.zipIdx.filterMap fun (p, j) => i.rulePath? r j p)
  | none => []

def defaultPath? (i : Ingress) : Option RoutePath :=
  (i.spec.defaultBackend.bind (·.service)).map fun s =>
    { source := i.key
      path := "/"
      pathType := "Prefix"
      backend := s
      field := i.fieldPath.child ["spec", "defaultBackend"] }

/-- The hosts of an Ingress with their paths: the rules in order, then the default backend under the
empty host. -/
def contributions (i : Ingress) : List (String × List RoutePath) :=
  (i.spec.rules.zipIdx.map fun (rule, r) => (rule.host, i.rulePaths r rule)) ++
    i.defaultPath?.toList.map fun p => ("", [p])

end Ingress

/-! ## All groups -/

abbrev GroupTable := OrderedMap GroupKey RuleGroup

/-- The group of a host, which the Ingress opens if it is the first. -/
def GroupTable.groupFor (t : GroupTable) (i : Ingress) (host : String) : RuleGroup :=
  (t.get? ⟨i.metadata.space, i.className, host⟩).getD
    ⟨i.metadata.space, i.metadata.name, host, i.className, [], [], []⟩

def GroupTable.add (i : Ingress) (t : GroupTable) (c : String × List RoutePath) : GroupTable :=
  t.insert ⟨i.metadata.space, i.className, c.1⟩
    (((t.groupFor i c.1).addSource i).addPaths c.2)

def GroupTable.addIngress (t : GroupTable) (i : Ingress) : GroupTable :=
  i.contributions.foldl (GroupTable.add i) t

/-- The groups under the keys of their routes. -/
def ruleGroups (is : List Ingress) : Catalog RuleGroup :=
  .ofList ((is.foldl GroupTable.addIngress .empty).values.map fun g => (g.key, g))

end GatewayMigration
