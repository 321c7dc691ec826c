import GatewayMigration.Annotations.All
import GatewayMigration.Lowering.Lower
import GatewayMigration.Run.Provider
/-!
# The provider for ingress-nginx

Ingresses are lowered to a plan, the annotation passes put their settings into it, and emission
makes the objects that the settings ask for and attaches routes to the Gateways of the layout.
-/

namespace GatewayMigration.IngressNginx

def name : String := "ingress-nginx"

def description : String := "Convert ingress-nginx Ingresses to Gateway API and Istio"

def defaultClass : String := "nginx"

/-- The class whose Ingresses are kept; an empty one counts as none. -/
def classOf (c : ProviderConfig) : String := (c.ingressClass.filter (!·.isEmpty)).getD defaultClass

/-- Lower the Ingresses and run every annotation pass. -/
def plan (s : Sources) : PassOutcome PlanState :=
  let (plan, errors) := lower s.ingresses s.servicePorts
  let outcome := annotationRunner.run (PassContext.ofIngresses s.ingresses) { plan := plan }
  { outcome with errors := errors ++ outcome.errors }

/-- The objects of a plan. With an interruption, routes are not attached. -/
def emit (l : GatewayLayout) (p : Plan) : PassOutcome Emission :=
  let progress := Emission.materialize l p { resources := p.resources }
  let done := progress.state
  match progress.stop with
  | some why => { state := done, stop := some why }
  | none => { state := { done with resources := l.attach done.resources } }

def layout (c : ProviderConfig) : Except Interruption GatewayLayout :=
  GatewayLayout.ofFlags (c.flagsFor name)

def provider (c : ProviderConfig) : Except Interruption Provider := do
  let layout ← layout c
  return { read := Manifest.readFile (classOf c), plan := plan, emit := emit layout }

end GatewayMigration.IngressNginx
