import GatewayMigration.Annotations.Parse
import GatewayMigration.Annotations.Setting
import GatewayMigration.Plan.State
import GatewayMigration.Run.FeatureRunner
/-!
# Annotation passes

A pass looks at the annotations of one Ingress at a time. It says what is wrong with them, and what
they ask for as a list of edits. Edits change the plan one after the other: they set fields of
routes and Services, never take a field back, and never add or remove a route (`outline_apply`).
-/

namespace GatewayMigration

/-! ## Edits -/

inductive Edit
  /-- A setting of a route, from the Ingress `source`. -/
  | setting (route : ObjectKey) (value : Setting) (source : ObjectKey)
  /-- Timeouts of all rules of a route. -/
  | timeouts (route : ObjectKey) (value : RouteTimeouts)
  /-- Settings of a Service. -/
  | service (key : ObjectKey) (value : ServiceSettings)
  /-- A policy for a Service, with the notification to make if there was none. -/
  | tlsPolicy (key : ObjectKey) (value : BackendTlsPolicy) (announce : Notification)
  | notify (n : Notification)
deriving DecidableEq

/-- The value that is present, or else the other one. -/
def orElse {α : Type} (a b : Option α) : Option α :=
  match a with
  | some a => some a
  | none => b

namespace ServiceSettings

/-- The fields of `new` where they are set, and those of `old` elsewhere. -/
def overlay (old new : ServiceSettings) : ServiceSettings where
  protocol := orElse new.protocol old.protocol
  sslSecret := orElse new.sslSecret old.sslSecret
  sslVerify := orElse new.sslVerify old.sslVerify
  sslName := orElse new.sslName old.sslName
  sslProtocols := orElse new.sslProtocols old.sslProtocols
  sslCiphers := orElse new.sslCiphers old.sslCiphers
  loadBalancing := orElse new.loadBalancing old.loadBalancing

end ServiceSettings

def RouteTimeouts.overlay (old new : RouteTimeouts) : RouteTimeouts where
  request := orElse new.request old.request
  backendRequest := orElse new.backendRequest old.backendRequest

def RouteRule.withTimeouts (r : RouteRule) (t : RouteTimeouts) : RouteRule :=
  { r with timeouts := some ((r.timeouts.getD {}).overlay t) }

namespace RoutePlan

def currentSettings (r : RoutePlan) : RouteSettings := r.settings.getD {}

def withTimeouts (r : RoutePlan) (t : RouteTimeouts) : RoutePlan :=
  let spec := r.route.spec
  { r with
    route := { r.route with spec := { spec with rules := spec.rules.map (·.withTimeouts t) } } }

/-- The value that a setting would replace, if it is another one. -/
def conflict? (r : RoutePlan) (v : Setting) : Option Setting :=
  (r.currentSettings.get v.field).filter (· != v)

end RoutePlan

/-- The warning about a replaced value; nothing if one of the values cannot be shown. -/
def conflictNotice? (r : RoutePlan) (old new : Setting) (source : ObjectKey) :
    Option Notification := do
  let before ← old.diagnostic
  let after ← new.diagnostic
  return { severity := .warning
           message := "conflicting values for '" ++ new.field.name ++ "' on HTTPRoute " ++
             toString r.route.metadata.key ++ ": " ++ before ++ " replaced by " ++ after
           source := some source }

namespace PlanState

def notify (s : PlanState) (n : Notification) : PlanState := { s with notices := s.notices ++ [n] }

def updateRoute (s : PlanState) (k : ObjectKey) (r : RoutePlan) : PlanState :=
  { s with plan := { s.plan with routes := s.plan.routes.insert k r } }

/-- Write a setting of a route that is there. A different earlier value is reported first. -/
def writeSetting (s : PlanState) (k : ObjectKey) (v : Setting) (source : ObjectKey) :
    Progress PlanState :=
  match s.plan.routes.get? k with
  | none => ⟨s, none⟩
  | some r =>
    let written := s.updateRoute k { r with settings := some (r.currentSettings.write v) }
    match r.conflict? v with
    | none => ⟨written, none⟩
    | some old =>
      match conflictNotice? r old v source with
      | some n => ⟨written.notify n, none⟩
      | none => ⟨s, some .longInteger⟩

def writeTimeouts (s : PlanState) (k : ObjectKey) (t : RouteTimeouts) : PlanState :=
  match s.plan.routes.get? k with
  | none => s
  | some r => s.updateRoute k (r.withTimeouts t)

def writeService (s : PlanState) (k : ObjectKey) (v : ServiceSettings) : PlanState :=
  let old := (s.plan.services.get? k).getD {}
  let new := { old with settings := some ((old.settings.getD {}).overlay v) }
  { s with plan := { s.plan with services := s.plan.services.insert k new } }

/-- Add a policy where there is none. -/
def addPolicy (s : PlanState) (k : ObjectKey) (p : BackendTlsPolicy) (n : Notification) :
    PlanState :=
  if s.plan.tlsPolicies.contains k then s
  else { s with plan := { s.plan with tlsPolicies := s.plan.tlsPolicies.insert k p } }.notify n

def edit (s : PlanState) : Edit → Progress PlanState
  | .setting k v source => s.writeSetting k v source
  | .timeouts k t => ⟨s.writeTimeouts k t, none⟩
  | .service k v => ⟨s.writeService k v, none⟩
  | .tlsPolicy k p n => ⟨s.addPolicy k p n, none⟩
  | .notify n => ⟨s.notify n, none⟩

end PlanState

/-! ## Passes -/

/-- The Ingresses of a run and the groups their rules make. -/
structure PassContext where
  ingresses : List Ingress
  groups : Catalog RuleGroup
deriving DecidableEq

namespace PassContext

def ofIngresses (is : List Ingress) : PassContext := ⟨is, ruleGroups is⟩

/-- The routes that the rules of an Ingress went into. -/
def routesOf (c : PassContext) (i : Ingress) : List ObjectKey :=
  c.groups.toList.filterMap fun e => if i.key ∈ e.2.sources then some e.1 else none

/-- Those of its routes that the plan has. -/
def presentRoutesOf (c : PassContext) (i : Ingress) (p : Plan) : List ObjectKey :=
  (c.routesOf i).filter p.routes.contains

end PassContext

/-- What the annotations of an Ingress say: what is wrong with them, and what they ask for. The
edits are made for all routes of the Ingress and for those among them that the plan has. A value
that cannot even be read stops the pass. -/
structure Reading where
  errors : List FieldError := []
  edits : (routes present : List ObjectKey) → List Edit := fun _ _ => []
  stop : Option Interruption := none

structure AnnotationPass where
  name : String
  triggers : List String
  read : Ingress → Reading

namespace AnnotationPass

/-- A pass looks only at Ingresses that have one of its annotations. -/
def isTriggered (p : AnnotationPass) (i : Ingress) : Bool :=
  p.triggers.any i.metadata.annotations.contains

def triggered (p : AnnotationPass) (c : PassContext) : List Ingress :=
  c.ingresses.filter p.isTriggered

/-- The edits that one Ingress asks for. -/
def editsFor (p : AnnotationPass) (c : PassContext) (s : PlanState) (i : Ingress) : List Edit :=
  (p.read i).edits (c.routesOf i) (c.presentRoutesOf i s.plan)

def applyTo (p : AnnotationPass) (c : PassContext) (s : PlanState) (i : Ingress) :
    Progress PlanState :=
  match (p.read i).stop with
  | some why => ⟨s, some why⟩
  | none => Progress.each PlanState.edit s (p.editsFor c s i)

def apply (p : AnnotationPass) (c : PassContext) (s : PlanState) : PassOutcome PlanState :=
  let progress := Progress.each (p.applyTo c) s (p.triggered c)
  { state := progress.state
    errors := (p.triggered c).flatMap fun i => (p.read i).errors
    stop := progress.stop }

def toFeature (p : AnnotationPass) : FeaturePass PassContext PlanState := ⟨p.name, p.apply⟩

end AnnotationPass

/-! ## What passes leave alone -/

/-- The parts of a plan that annotations have no say in: its Gateways, its grants, and which routes
there are. -/
structure PlanOutline where
  gateways : Catalog Gateway
  grants : Catalog ReferenceGrant
  routeKeys : List ObjectKey
deriving DecidableEq

def Plan.outline (p : Plan) : PlanOutline := ⟨p.gateways, p.grants, p.routes.keys⟩

namespace PlanState

theorem outline_updateRoute {s : PlanState} {k : ObjectKey} {r old : RoutePlan}
    (present : s.plan.routes.get? k = some old) :
    (s.updateRoute k r).plan.outline = s.plan.outline := by
  have hk : k ∈ s.plan.routes.keys :=
    OrderedMap.contains_iff.mp (by simp [OrderedMap.contains, present])
  simp [updateRoute, Plan.outline, OrderedMap.keys_insert, hk]

theorem outline_writeSetting (s : PlanState) (k : ObjectKey) (v : Setting) (source : ObjectKey) :
    (s.writeSetting k v source).state.plan.outline = s.plan.outline := by
  unfold writeSetting
  split
  · rfl
  · rename_i r present
    have kept := outline_updateRoute (r := { r with settings := some (r.currentSettings.write v) })
      present
    split
    · exact kept
    · split
      · exact kept
      · rfl

theorem outline_writeTimeouts (s : PlanState) (k : ObjectKey) (t : RouteTimeouts) :
    (s.writeTimeouts k t).plan.outline = s.plan.outline := by
  unfold writeTimeouts
  split
  · rfl
  · rename_i present
    exact outline_updateRoute present

theorem outline_addPolicy (s : PlanState) (k : ObjectKey) (p : BackendTlsPolicy)
    (n : Notification) : (s.addPolicy k p n).plan.outline = s.plan.outline := by
  unfold addPolicy
  split <;> rfl

theorem outline_edit (s : PlanState) (e : Edit) :
    (s.edit e).state.plan.outline = s.plan.outline := by
  cases e with
  | setting k v source => exact outline_writeSetting s k v source
  | timeouts k t => exact outline_writeTimeouts s k t
  | service => rfl
  | tlsPolicy k p n => exact outline_addPolicy s k p n
  | notify => rfl

end PlanState

namespace AnnotationPass

theorem outline_applyTo (p : AnnotationPass) (c : PassContext) (s : PlanState) (i : Ingress) :
    (p.applyTo c s i).state.plan.outline = s.plan.outline := by
  unfold applyTo
  split
  · rfl
  · exact Progress.each_preserves (·.plan.outline) PlanState.outline_edit s _

/-- A pass changes no Gateway and no grant, and adds or removes no route. -/
theorem outline_apply (p : AnnotationPass) (c : PassContext) (s : PlanState) :
    (p.apply c s).state.plan.outline = s.plan.outline :=
  Progress.each_preserves (·.plan.outline) (p.outline_applyTo c) s _

end AnnotationPass

end GatewayMigration
