import GatewayMigration.Lowering.Group
import GatewayMigration.Plan.Basic
/-!
# Lowering

The plan that Ingresses make without their annotations. Every rule group becomes a route, every
namespace and class a Gateway with an HTTP listener for each host and an HTTPS listener for each
host that a TLS block covers. A named port that the Service does not have is an error, and its path
is left out.
-/

namespace GatewayMigration

def gatewayPathType (pathType : String) : String :=
  if pathType = "Exact" then "Exact" else "PathPrefix"

/-- The ports of a Service, empty for an unknown one. -/
def portsOf (ports : Catalog PortLookup) (service : ObjectKey) : PortLookup :=
  (ports.get? service).getD .empty

/-- The port of a path's backend: its number, or the number of its name, or none. -/
def resolvePort (ports : Catalog PortLookup) (p : RoutePath) : Except FieldError (Option Int) :=
  let service : ObjectKey := ⟨p.source.space, p.backend.name⟩
  match p.backend.port.number, p.backend.port.name with
  | some n, _ => .ok (some n)
  | none, none => .ok none
  | none, some name =>
    match (portsOf ports service).get? name with
    | some n => .ok (some n)
    | none => .error (.invalid (p.field.child ["service", "port", "name"]) (.string name)
        ("named port not found on Service " ++ toString service))

def ruleFor (p : RoutePath) (port : Option Int) : RouteRule where
  pathMatches := some [⟨some ⟨gatewayPathType p.pathType, p.path⟩⟩]
  backendRefs := some [{ name := p.backend.name, port := port }]

/-- The rule of every path whose port resolves. -/
def groupRules (ports : Catalog PortLookup) (g : RuleGroup) : List RouteRule :=
  g.paths.filterMap fun p =>
    match resolvePort ports p with
    | .ok port => some (ruleFor p port)
    | .error _ => none

/-- The error of every path whose port does not resolve. -/
def groupErrors (ports : Catalog PortLookup) (g : RuleGroup) : List FieldError :=
  g.paths.filterMap fun p =>
    match resolvePort ports p with
    | .ok _ => none
    | .error e => some e

def groupRoute (ports : Catalog PortLookup) (g : RuleGroup) : HttpRoute where
  metadata := { name := g.key.name, space := g.space }
  spec :=
    { parentRefs := [{ name := gatewayNameFor g.ingressClass }]
      hostnames := if g.host.isEmpty then [] else [g.host]
      rules := groupRules ports g }

/-! ## Gateways -/

def hostname? (host : String) : Option String := if host.isEmpty then none else some host

def httpListener (g : RuleGroup) : Listener where
  name := listenerName g.host "http"
  hostname := hostname? g.host
  port := 80
  protocol := "HTTP"

def httpsListener (g : RuleGroup) : Listener where
  name := listenerName g.host "https"
  hostname := hostname? g.host
  port := 443
  protocol := "HTTPS"
  tls := some { certificateRefs := g.tlsSecrets.map fun s => { name := s } }

/-- The listeners a group asks for. -/
def groupListeners (g : RuleGroup) : List Listener :=
  httpListener g :: if g.tlsSecrets.isEmpty then [] else [httpsListener g]

/-- Add the listeners whose names are not taken. -/
def addListeners (gateway : Gateway) (g : RuleGroup) : Gateway :=
  let taken := gateway.spec.listeners.map (·.name)
  let new := (groupListeners g).filter fun l => l.name ∉ taken
  { gateway with spec := { gateway.spec with listeners := gateway.spec.listeners ++ new } }

def groupGatewayKey (g : RuleGroup) : ObjectKey := ⟨g.space, gatewayNameFor g.ingressClass⟩

def emptyGateway (k : ObjectKey) : Gateway where
  metadata := { name := k.name, space := k.space }
  spec := { className := k.name }

/-! ## Plans -/

def addServices (ports : Catalog PortLookup) (g : RuleGroup) (services : Catalog ServicePlan) :
    Catalog ServicePlan :=
  g.paths.foldl (fun services p =>
    let key : ObjectKey := ⟨g.space, p.backend.name⟩
    services.insertNew key { ports := portsOf ports key }) services

/-- Add what a group becomes, under the key of its route. -/
def addGroup (ports : Catalog PortLookup) (plan : Plan) (e : ObjectKey × RuleGroup) : Plan :=
  let k := groupGatewayKey e.2
  { plan with
    gateways := plan.gateways.insert k
      (addListeners ((plan.gateways.get? k).getD (emptyGateway k)) e.2)
    routes := plan.routes.insert e.1 { route := groupRoute ports e.2, sources := e.2.sources }
    services := addServices ports e.2 plan.services }

def lower (is : List Ingress) (ports : Catalog PortLookup) : Plan × List FieldError :=
  let groups := ruleGroups is
  (groups.toList.foldl (addGroup ports) {}, groups.values.flatMap (groupErrors ports))

end GatewayMigration
