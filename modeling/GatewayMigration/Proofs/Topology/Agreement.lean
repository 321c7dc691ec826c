import GatewayMigration.Proofs.Topology.Output
import Mathlib.Logic.ExistsUnique
/-!
# One Gateway for each namespace

Routes, redirects, filters and grants each work out for themselves which Gateway the routes of a
namespace use. Main statement: `agrees_of_migrates`, they come to the same one, whatever the
namespaces, the classes and the names of the layout are.
-/

namespace GatewayMigration

/-- The permission for routes of a namespace to refer to a Gateway, from the Gateway's namespace. -/
structure ReferenceGrant.Permits (g : ReferenceGrant) (space : String) (gateway : ObjectKey) :
    Prop where
  place : g.metadata.space = gateway.space
  sources : g.spec.sources =
    [⟨gatewayGroup, "HTTPRoute", space⟩, ⟨gatewayGroup, "GRPCRoute", space⟩]
  targets : g.spec.targets =
    [{ group := gatewayGroup, kind := "Gateway", name := some gateway.name }]

theorem ReferenceGrant.permits_forRoutes (space : String) (gateway : ObjectKey) :
    (forRoutes space gateway).Permits space gateway := ⟨rfl, rfl, rfl⟩

theorem ReferenceGrant.Permits.space_eq {g : ReferenceGrant} {a b : String} {h k : ObjectKey}
    (first : g.Permits a h) (second : g.Permits b k) : a = b := by
  have same := first.sources.symm.trans second.sources
  exact (GrantFrom.mk.inj (List.cons.inj same).1).2.2

/-- A route is filed under the namespace. -/
def Resources.HasRouteIn (r : Resources) (space : String) : Prop :=
  ∃ k ∈ r.routes.keys, k.space = space

/-- All objects that were made for the routes of a namespace agree on its Gateway. -/
structure Agrees (l : GatewayLayout) (p : Plan) (r : Resources) : Prop where
  /-- Every reference of a route leads there. -/
  refs : ∀ k route, r.routes.get? k = some route → ∀ ref ∈ route.spec.parentRefs,
    ref.target route.metadata.space = l.gatewayFor k.space
  /-- Every filter was made for a route, and is for the Gateway of this route alone. -/
  filters : ∀ key x, r.extensions.get? key = some x → ∃ k c ps, p.AsksFilter k c ps ∧
    x = EnvoyFilter.wrap l k c ps ∧ x.targets? = some [l.gatewayFor k.space]
  /-- A namespace whose Gateway is elsewhere has exactly one grant. -/
  granted : ∀ space, r.HasRouteIn space → (l.gatewayFor space).space ≠ space →
    ∃! key, ∃ grant, r.grants.get? key = some grant ∧ grant.Permits space (l.gatewayFor space)
  /-- There are no other grants. -/
  needed : ∀ key grant, r.grants.get? key = some grant → key = grant.metadata.key ∧
    ∃ space, r.HasRouteIn space ∧ (l.gatewayFor space).space ≠ space ∧
      grant.Permits space (l.gatewayFor space)

namespace IngressNginx

variable {l : GatewayLayout} {is : List Ingress} {ports : Catalog PortLookup} {r : Resources}

theorem space_gatewayFor_ne (named : l.space ≠ "") (space : String) :
    (l.gatewayFor space).space ≠ "" := by
  cases mode : l.mode with
  | centralized => simpa only [GatewayLayout.gatewayFor, mode] using named
  | perNamespace => exact GatewayLayout.space_gatewayFor_ne mode space

namespace Migrates

variable (m : Migrates l is ports r)

include m

theorem get?_grants {key : ObjectKey} {grant : ReferenceGrant} :
    r.grants.get? key = some grant ↔
      ∃ space, r.HasRouteIn space ∧ (l.gatewayFor space).space ≠ space ∧
        key = ReferenceGrant.keyFor space (l.gatewayFor space) ∧
        grant = ReferenceGrant.forRoutes space (l.gatewayFor space) := by
  have fresh : (annotate is ports).state.plan.resources.grants = .empty := by
    have grants : (annotate is ports).state.plan.grants = (lower is ports).1.grants :=
      congrArg PlanOutline.grants (outline_annotate is ports)
    exact grants.trans (grants_lower is ports)
  have grants : r.grants = (unattached l is ports).grants := by
    rw [m.eq_attach]
    rfl
  unfold Resources.HasRouteIn
  rw [grants, m.keys_routes]
  exact Emission.get?_grants_materialize m.namesClusters fresh

end Migrates

/-- In the output of a complete run, everything that was made for the routes of a namespace agrees
on the Gateway of the layout. -/
theorem agrees_of_migrates (named : l.space ≠ "") (m : Migrates l is ports r) :
    Agrees l (annotate is ports).state.plan r where
  refs k route found ref mem := by
    obtain ⟨j, g, listener, -, -, parents, -⟩ := m.refs found
    rw [parents, List.mem_singleton] at mem
    rw [mem]
    exact GatewayLayout.target_refFor (space_gatewayFor_ne named k.space) listener _
  filters key x found := by
    obtain ⟨k, c, ps, asks, -, rfl⟩ := (m.get?_extensions key).1 x found
    exact ⟨k, c, ps, asks, rfl, EnvoyFilter.targets?_wrap l k c ps⟩
  granted space route elsewhere := by
    refine ⟨ReferenceGrant.keyFor space (l.gatewayFor space), ?_, ?_⟩
    · exact ⟨_, m.get?_grants.mpr ⟨space, route, elsewhere, rfl, rfl⟩,
        ReferenceGrant.permits_forRoutes _ _⟩
    · rintro key ⟨grant, found, permits⟩
      obtain ⟨other, -, -, rfl, rfl⟩ := m.get?_grants.mp found
      have own := ReferenceGrant.permits_forRoutes other (l.gatewayFor other)
      rw [own.space_eq permits]
  needed key grant found := by
    obtain ⟨space, route, elsewhere, rfl, rfl⟩ := m.get?_grants.mp found
    exact ⟨rfl, space, route, elsewhere, ReferenceGrant.permits_forRoutes _ _⟩

theorem agrees_limited :
    Agrees { mode := .centralized } (annotate limited .empty).state.plan
      (emit { mode := .centralized } (annotate limited .empty).state.plan).state.resources :=
  agrees_of_migrates (by decide) (migrates_limited .centralized)

end IngressNginx

end GatewayMigration
