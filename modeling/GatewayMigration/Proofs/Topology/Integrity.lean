import GatewayMigration.Proofs.Topology.Output
/-!
# No reference leads nowhere

With a Gateway for each namespace, redirects work out the names of listeners from hostnames, long
after lowering made the listeners, and before the Gateways that have them are replaced. Main
statement: `resolves_of_migrates`, every reference of the output finds its Gateway and its listener,
and no Gateway is without a reference.
-/

namespace GatewayMigration

/-- The routes and filters of an output lead to its Gateways, and every Gateway is led to. -/
structure Resolves (r : Resources) : Prop where
  /-- A reference of a route finds a Gateway, and there the HTTP listener that it names. -/
  refs : ∀ k route, r.routes.get? k = some route → ∀ ref ∈ route.spec.parentRefs,
    ∃ gateway, r.gateways.get? (ref.target route.metadata.space) = some gateway ∧
      ∀ name, ref.sectionName = some name → ∃ listener ∈ gateway.spec.listeners,
        listener.name = name ∧ listener.protocol = "HTTP" ∧ listener.port = 80
  /-- A filter is for Gateways that are there. -/
  targets : ∀ key x, r.extensions.get? key = some x → ∃ gateways, x.targets? = some gateways ∧
    ∀ gateway ∈ gateways, r.gateways.contains gateway = true
  /-- A Gateway is referred to by a route. -/
  used : ∀ key gateway, r.gateways.get? key = some gateway →
    ∃ k route, r.routes.get? k = some route ∧ ∃ ref ∈ route.spec.parentRefs,
      ref.target route.metadata.space = key

namespace IngressNginx

variable {l : GatewayLayout} {is : List Ingress} {ports : Catalog PortLookup} {r : Resources}

namespace Migrates

variable (m : Migrates l is ports r)

include m

/-- The namespace of a group has its Gateway, with an HTTP listener for the host of the group. -/
theorem exists_httpListener (mode : l.mode = .perNamespace) {j : ObjectKey} {g : RuleGroup}
    (kept : (ruleGroups is).get? j = some g) :
    ∃ gateway, r.gateways.get? (l.gatewayFor g.space) = some gateway ∧
      ∃ listener ∈ gateway.spec.listeners, listener.name = listenerName g.host "http" ∧
        listener.protocol = "HTTP" ∧ listener.port = 80 := by
  obtain ⟨lowered, found, named⟩ := listensAs_lower ports kept
    (mem_groupListeners_iff.mpr (.inl rfl))
  obtain ⟨own, inside, same⟩ := List.mem_map.mp named
  rw [← gateways_unattached (l := l)] at found
  have refers := refers_lowered l ports kept
  have present := OrderedMap.contains_of_get? found
  obtain ⟨gateway, made⟩ := GatewayLayout.exists_spaceGateway? (l := l) refers present
  refine ⟨gateway, (m.get?_gateways mode).mpr
    ⟨g.space, GatewayLayout.mem_routeSpaces refers, made⟩, ?_⟩
  obtain ⟨-, -, listeners, -⟩ := GatewayLayout.eq_of_spaceGateway? made
  rw [listeners]
  -- The group's own listener may come second, but all of its name are HTTP listeners.
  have merged := GatewayLayout.mem_usedGateways_iff.mpr ⟨_, refers, found⟩
  obtain ⟨listener, mem, name⟩ := exists_mem_mergeListeners
    (mem_listenersNamed_iff.mpr ⟨same, lowered, merged, inside⟩)
  obtain ⟨first, before, face⟩ := face_of_mem_mergeListeners mem
  obtain ⟨alike, old, there, held⟩ := mem_listenersNamed_iff.mp before
  obtain ⟨key, -, source⟩ := GatewayLayout.mem_usedGateways_iff.mp there
  rw [gateways_unattached] at source
  obtain ⟨i, g', -, -, asked⟩ := group_of_mem_listeners_lower source held
  obtain rfl := eq_httpListener_of_name asked (alike.trans name)
  exact ⟨listener, mem, name, congrArg Listener.protocol face, congrArg Listener.port face⟩

end Migrates

/-- In the output of a complete run with a Gateway for each namespace, no reference leads nowhere
and no Gateway is left over. -/
theorem resolves_of_migrates (mode : l.mode = .perNamespace) (m : Migrates l is ports r) :
    Resolves r where
  refs k route found ref mem := by
    obtain ⟨j, g, listener, kept, space, parents, names⟩ := m.refs found
    obtain ⟨gateway, there, http⟩ := m.exists_httpListener mode kept
    rw [parents, List.mem_singleton] at mem
    subst mem
    refine ⟨gateway, ?_, ?_⟩
    · rw [GatewayLayout.target_refFor (GatewayLayout.space_gatewayFor_ne mode k.space), ← space]
      exact there
    · intro name named
      rcases names with rfl | rfl
      · cases named
      · cases named
        exact http
  targets key x found := by
    obtain ⟨k, c, ps, ⟨p, s, planned, -⟩, -, rfl⟩ := (m.get?_extensions key).1 x found
    obtain ⟨g, kept, -⟩ := get?_routes_annotate planned
    obtain ⟨gateway, there, -⟩ := m.exists_httpListener mode kept
    have space : g.space = k.space := congrArg ObjectKey.space (key_of_ruleGroups kept)
    refine ⟨[l.gatewayFor k.space], EnvoyFilter.targets?_wrap l k c ps, ?_⟩
    intro gateway mem
    rw [List.mem_singleton.mp mem, ← space]
    exact OrderedMap.contains_of_get? there
  used key gateway found := by
    obtain ⟨space, -, made⟩ := (m.get?_gateways mode).mp found
    obtain ⟨rfl, -, -, old, refers, present⟩ := GatewayLayout.eq_of_spaceGateway? made
    have attached : r.Refers space (l.gatewayFor space) := by
      rw [m.eq_attach]
      exact (GatewayLayout.refers_attach_iff mode).mpr ⟨old, refers, (if_pos present).symm⟩
    obtain ⟨k, route, there, -, ref, mem, -, target⟩ := attached
    exact ⟨k, route, there, ref, mem, target⟩

theorem resolves_limited :
    Resolves (emit { mode := .perNamespace } (annotate limited .empty).state.plan).state.resources :=
  resolves_of_migrates rfl (migrates_limited .perNamespace)

end IngressNginx

end GatewayMigration
