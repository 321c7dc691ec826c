import GatewayMigration.Proofs.Annotations.Edits
/-!
# What annotations leave as lowering made it

Edits change timeouts and settings of routes and nothing else about them. Main statements:
`get?_routes_annotate` and `outline_annotate`, which say so of all edits that the annotations of
some Ingresses make.
-/

namespace GatewayMigration

def RouteRule.untimed (r : RouteRule) : RouteRule := { r with timeouts := none }

/-- A route without what annotations may change: the timeouts of its rules and its settings. -/
def RoutePlan.shell (r : RoutePlan) : RoutePlan where
  route := { r.route with spec :=
    { r.route.spec with rules := r.route.spec.rules.map RouteRule.untimed } }
  sources := r.sources

theorem RoutePlan.shell_withTimeouts (r : RoutePlan) (t : RouteTimeouts) :
    (r.withTimeouts t).shell = r.shell := by
  have rules : (r.route.spec.rules.map (·.withTimeouts t)).map RouteRule.untimed =
      r.route.spec.rules.map RouteRule.untimed := by
    rw [List.map_map]
    rfl
  unfold shell withTimeouts
  dsimp only
  rw [rules]

namespace PlanState

def shells (s : PlanState) : Catalog RoutePlan := s.plan.routes.mapValues fun _ r => r.shell

theorem shells_updateRoute {s : PlanState} {k : ObjectKey} {old new : RoutePlan}
    (present : s.plan.routes.get? k = some old) (same : new.shell = old.shell) :
    (s.updateRoute k new).shells = s.shells := by
  unfold shells updateRoute
  rw [OrderedMap.mapValues_insert]
  apply OrderedMap.insert_of_get?
  rw [OrderedMap.get?_mapValues, present, Option.map_some, same]

theorem shells_edit (s : PlanState) (e : Edit) : (s.edit e).state.shells = s.shells := by
  cases e with
  | setting k v source =>
    unfold edit writeSetting
    dsimp only
    split
    · rfl
    · rename_i r present
      have written (new : Option RouteSettings) :
          (s.updateRoute k { r with settings := new }).shells = s.shells :=
        shells_updateRoute present rfl
      split
      · exact written _
      · split
        · exact written _
        · rfl
  | timeouts k t =>
    unfold edit writeTimeouts
    dsimp only
    split
    · rfl
    · rename_i r present
      exact shells_updateRoute present (r.shell_withTimeouts t)
  | service k v => rfl
  | tlsPolicy k p n =>
    unfold edit addPolicy
    dsimp only
    split
    · rfl
    · rfl
  | notify n => rfl

end PlanState

namespace IngressNginx

variable {is : List Ingress} {ports : Catalog PortLookup}

/-- An annotated route has the shell of the lowered route of its key. -/
theorem get?_routes_annotate {k : ObjectKey} {r : RoutePlan}
    (found : (annotate is ports).state.plan.routes.get? k = some r) :
    ∃ g, (ruleGroups is).get? k = some g ∧ r.shell = (routePlanFor ports g).shell := by
  have shells := congrArg (fun m => m.get? k)
    (annotate_keeps PlanState.shells PlanState.shells_edit is ports)
  simp only [PlanState.shells, OrderedMap.get?_mapValues, found, Option.map_some, routes_lower,
    Option.map_map] at shells
  obtain ⟨g, kept, same⟩ := Option.map_eq_some_iff.mp shells.symm
  exact ⟨g, kept, same.symm⟩

theorem outline_annotate (is : List Ingress) (ports : Catalog PortLookup) :
    (annotate is ports).state.plan.outline = (lower is ports).1.outline :=
  annotate_keeps (fun s => s.plan.outline) PlanState.outline_edit is ports

theorem gateways_annotate (is : List Ingress) (ports : Catalog PortLookup) :
    (annotate is ports).state.plan.gateways = (lower is ports).1.gateways :=
  congrArg PlanOutline.gateways (outline_annotate is ports)

theorem keys_routes_annotate (is : List Ingress) (ports : Catalog PortLookup) :
    (annotate is ports).state.plan.routes.keys = (ruleGroups is).keys :=
  (congrArg PlanOutline.routeKeys (outline_annotate is ports)).trans (keys_routes_lower is ports)

end IngressNginx

end GatewayMigration
