import GatewayMigration.Lowering.Lower
import GatewayMigration.Proofs.Lowering.Groups
/-!
# The routes of a lowered plan

Lowering makes one route of every group that `ruleGroups` keeps. Main statement: `routes_lower`.
-/

namespace GatewayMigration

/-- What a group becomes. -/
def routePlanFor (ports : Catalog PortLookup) (g : RuleGroup) : RoutePlan :=
  { route := groupRoute ports g, sources := g.sources }

theorem routes_foldl_addGroup (ports : Catalog PortLookup) (plan : Plan)
    (es : List (ObjectKey × RuleGroup)) :
    (es.foldl (addGroup ports) plan).routes =
      (es.map fun e => (e.1, routePlanFor ports e.2)).foldl (fun m e => m.insert e.1 e.2)
        plan.routes := by
  induction es generalizing plan with
  | nil => rfl
  | cons e es ih => exact ih (addGroup ports plan e)

/-- The routes are those of the groups, under the same keys and in the same order. -/
theorem routes_lower (is : List Ingress) (ports : Catalog PortLookup) :
    (lower is ports).1.routes = (ruleGroups is).mapValues fun _ g => routePlanFor ports g := by
  have distinct := ((ruleGroups is).mapValues fun _ g => routePlanFor ports g).nodup
  apply OrderedMap.ext
  have routes := routes_foldl_addGroup ports {} (ruleGroups is).toList
  rw [lower, routes]
  exact OrderedMap.toList_ofList distinct

/-- Lowering grants nothing. -/
theorem grants_lower (is : List Ingress) (ports : Catalog PortLookup) :
    (lower is ports).1.grants = .empty := by
  unfold lower
  apply List.foldlRecOn (motive := fun (p : Plan) => p.grants = .empty)
  · rfl
  · intro p none e _
    exact none

/-- Lowering makes no policies. -/
theorem tlsPolicies_lower (is : List Ingress) (ports : Catalog PortLookup) :
    (lower is ports).1.tlsPolicies = .empty := by
  unfold lower
  apply List.foldlRecOn (motive := fun (p : Plan) => p.tlsPolicies = .empty)
  · rfl
  · intro p none e _
    exact none

theorem get?_routes_lower_iff {is : List Ingress} {ports : Catalog PortLookup} {k : ObjectKey}
    {r : RoutePlan} :
    (lower is ports).1.routes.get? k = some r ↔
      ∃ g, (ruleGroups is).get? k = some g ∧ routePlanFor ports g = r := by
  rw [routes_lower, OrderedMap.get?_mapValues, Option.map_eq_some_iff]

theorem mem_groupRules_iff {ports : Catalog PortLookup} {g : RuleGroup} {r : RouteRule} :
    r ∈ groupRules ports g ↔
      ∃ p ∈ g.paths, ∃ port, resolvePort ports p = .ok port ∧ ruleFor p port = r := by
  unfold groupRules
  rw [List.mem_filterMap]
  constructor
  · rintro ⟨p, mem, made⟩
    split at made
    · rename_i port resolved
      exact ⟨p, mem, port, resolved, Option.some.inj made⟩
    · cases made
  · rintro ⟨p, mem, port, resolved, rfl⟩
    exact ⟨p, mem, by rw [resolved]⟩

end GatewayMigration
