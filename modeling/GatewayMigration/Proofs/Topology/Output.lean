import GatewayMigration.Proofs.Annotations.Frame
import GatewayMigration.Proofs.Emission.Interruption
import GatewayMigration.Proofs.Lowering.Gateways
import GatewayMigration.Proofs.Topology.Attach
/-!
# The output of a migration

What complete runs make of Ingresses. Main statements:

* `route_of_unattached`, `exists_lowered_route`: before routes are attached, they are those of the
  rule groups and their redirects;
* `Migrates.refs`: afterwards every route has one reference, to the Gateway of the layout;
* `Migrates.gateways_eq`: the Gateways follow from the lowered ones, the routes and the redirects.
-/

namespace GatewayMigration

/-! ## References to the Gateway of a layout -/

namespace GatewayLayout

variable {l : GatewayLayout}

/-- The reference of a route to the Gateway of its namespace, or to one of its listeners. -/
def refFor (l : GatewayLayout) (space : String) (listener : Option String) : ParentRef where
  space := some (l.gatewayFor space).space
  name := (l.gatewayFor space).name
  sectionName := listener

theorem target_refFor {space : String} (named : (l.gatewayFor space).space ≠ "")
    (listener : Option String) (home : String) :
    (l.refFor space listener).target home = l.gatewayFor space :=
  ParentRef.target_of_space rfl named home

/-- Whether such a reference is replaced or not makes no difference. -/
theorem retarget_refFor (replaced : ObjectKey → Bool) (space home : String)
    (listener : Option String) :
    (l.refFor space listener).retarget replaced (l.gatewayFor space) home =
      l.refFor space listener :=
  ParentRef.retarget_of_names ⟨rfl, rfl⟩ replaced home

end GatewayLayout

namespace IngressNginx

variable {l : GatewayLayout} {is : List Ingress} {ports : Catalog PortLookup} {r : Resources}

/-! ## Before routes are attached -/

/-- The objects of a migration before its routes are attached. -/
def unattached (l : GatewayLayout) (is : List Ingress) (ports : Catalog PortLookup) : Resources :=
  (Emission.materialize l (annotate is ports).state.plan
    { resources := (annotate is ports).state.plan.resources }).state.resources

theorem gateways_unattached :
    (unattached l is ports).gateways = (lower is ports).1.gateways :=
  (Emission.gateways_materialize _ _ _).trans (gateways_annotate is ports)

theorem routes_unattached :
    (unattached l is ports).routes =
      ((annotate is ports).state.plan.routes.toList.flatMap (Emission.redirectsOf l)).foldl
        (fun m x => m.insertNew x.1 x.2) (annotate is ports).state.plan.resources.routes :=
  Emission.routes_materialize _ _ _

/-- The reference of a route that was lowered from a group. -/
def loweredRef (g : RuleGroup) : ParentRef := { name := gatewayNameFor g.ingressClass }

theorem target_loweredRef (g : RuleGroup) : (loweredRef g).target g.space = groupGatewayKey g := rfl

/-- A route of the plan is the one of a kept group. -/
theorem route_of_planned {k : ObjectKey} {p : RoutePlan}
    (planned : (annotate is ports).state.plan.routes.get? k = some p) :
    ∃ g, (ruleGroups is).get? k = some g ∧ g.space = k.space ∧
      p.route.metadata.space = k.space ∧ p.route.spec.parentRefs = [loweredRef g] ∧
      p.route.spec.hostnames = if g.host.isEmpty then [] else [g.host] := by
  obtain ⟨g, kept, same⟩ := get?_routes_annotate planned
  have space : g.space = k.space := congrArg ObjectKey.space (key_of_ruleGroups kept)
  have home : p.route.metadata.space = g.space := congrArg (·.route.metadata.space) same
  exact ⟨g, kept, space, home.trans space, congrArg (·.route.spec.parentRefs) same,
    congrArg (·.route.spec.hostnames) same⟩

theorem space_redirectKey (route : ObjectKey) (host : String) (hosts : List String) :
    (RedirectRoute.key route host hosts).space = route.space := by
  unfold RedirectRoute.key
  split
  · rfl
  · rfl

/-- A redirect is on the HTTP listener of its host, at the Gateway of the layout. -/
theorem parentRefs_build (k : ObjectKey) (hosts : List String) (host : String) :
    (RedirectRoute.build l k hosts host).spec.parentRefs =
      [l.refFor (RedirectRoute.build l k hosts host).metadata.space
        (some (listenerName host "http"))] := by
  have home : (RedirectRoute.build l k hosts host).metadata.space = k.space :=
    space_redirectKey k host hosts
  rw [home]
  rfl

/-- A route is the one of a kept group, or redirects for the host of one. -/
theorem route_of_unattached {k : ObjectKey} {route : HttpRoute}
    (found : (unattached l is ports).routes.get? k = some route) :
    route.metadata.space = k.space ∧
      ∃ j g, (ruleGroups is).get? j = some g ∧ g.space = k.space ∧
        (route.spec.parentRefs = [loweredRef g] ∨
          route.spec.parentRefs = [l.refFor k.space (some (listenerName g.host "http"))]) := by
  rcases Emission.route_of_materialize found with
    ⟨p, planned, rfl⟩ | ⟨j, p, host, planned, -, named, rfl, rfl⟩
  · obtain ⟨g, kept, space, home, parents, -⟩ := route_of_planned planned
    exact ⟨home, k, g, kept, space, .inl parents⟩
  · obtain ⟨g, kept, space, -, -, hosts⟩ := route_of_planned planned
    obtain rfl : host = g.host := by
      rw [hosts] at named
      split at named
      · cases named
      · exact List.mem_singleton.mp named
    have home := space_redirectKey j g.host p.route.spec.hostnames
    exact ⟨rfl, j, g, kept, space.trans home.symm, .inr (parentRefs_build j _ g.host)⟩

theorem ref_of_unattached {k : ObjectKey} {route : HttpRoute}
    (found : (unattached l is ports).routes.get? k = some route) {ref : ParentRef}
    (mem : ref ∈ route.spec.parentRefs) :
    route.metadata.space = k.space ∧
      ∃ j g, (ruleGroups is).get? j = some g ∧ g.space = k.space ∧
        (ref = loweredRef g ∨ ref = l.refFor k.space (some (listenerName g.host "http"))) := by
  obtain ⟨home, j, g, kept, space, parents | parents⟩ := route_of_unattached found
  · rw [parents, List.mem_singleton] at mem
    exact ⟨home, j, g, kept, space, .inl mem⟩
  · rw [parents, List.mem_singleton] at mem
    exact ⟨home, j, g, kept, space, .inr mem⟩

variable (l ports) in
/-- Every kept group has its route, whatever redirects there are. -/
theorem exists_lowered_route {j : ObjectKey} {g : RuleGroup}
    (kept : (ruleGroups is).get? j = some g) :
    ∃ route, (unattached l is ports).routes.get? j = some route ∧
      route.metadata.space = g.space ∧ route.spec.parentRefs = [loweredRef g] := by
  have planned : j ∈ (annotate is ports).state.plan.routes.keys := by
    rw [keys_routes_annotate]
    exact OrderedMap.mem_keys_iff.mpr ⟨g, kept⟩
  obtain ⟨p, there⟩ := OrderedMap.mem_keys_iff.mp planned
  obtain ⟨g', kept', space, home, parents, -⟩ := route_of_planned there
  obtain rfl : g = g' := Option.some.inj (kept.symm.trans kept')
  refine ⟨p.route, ?_, home.trans space.symm, parents⟩
  rw [routes_unattached, OrderedMap.get?_foldl_insertNew, Plan.resources,
    OrderedMap.get?_mapValues, there]
  rfl

variable (l ports) in
theorem refers_lowered {j : ObjectKey} {g : RuleGroup} (kept : (ruleGroups is).get? j = some g) :
    (unattached l is ports).Refers g.space (groupGatewayKey g) := by
  obtain ⟨route, there, home, parents⟩ := exists_lowered_route l ports kept
  have space : g.space = j.space := congrArg ObjectKey.space (key_of_ruleGroups kept)
  refine ⟨j, route, there, space.symm, loweredRef g, by simp [parents], rfl, ?_⟩
  rw [home]
  rfl

/-- Lowered routes refer to the Gateway of their group, and redirects to that of the layout. -/
theorem prepared_unattached : l.Prepared (unattached l is ports) := by
  intro k route found ref mem _
  obtain ⟨home, j, g, kept, space, rfl | rfl⟩ := ref_of_unattached found mem
  · left
    rw [home, ← space, target_loweredRef, gateways_unattached]
    exact contains_gateways_lower kept
  · exact .inr ⟨rfl, rfl⟩

theorem settled_unattached (mode : l.mode = .perNamespace) : l.Settled (unattached l is ports) :=
  GatewayLayout.settled_of_prepared mode prepared_unattached

/-! ## Complete runs -/

theorem resources_emit {p : Plan} (complete : (emit l p).stop = none) :
    (emit l p).state.resources =
      l.attach (Emission.materialize l p { resources := p.resources }).state.resources := by
  have made := Emission.materialize_completes_iff (l := l) (e := { resources := p.resources }).mpr
    (emit_completes_iff_named.mp complete)
  unfold emit
  dsimp only
  rw [made]

/-- A complete run makes these objects of the Ingresses, with any lookup of ports. -/
structure Migrates (l : GatewayLayout) (is : List Ingress) (ports : Catalog PortLookup)
    (r : Resources) : Prop where
  planned : (annotate is ports).stop = none
  emitted : (emit l (annotate is ports).state.plan).stop = none
  output : (emit l (annotate is ports).state.plan).state.resources = r

/-- An Ingress whose route is redirected and has a filter. -/
def limited : List Ingress :=
  [.plain ⟨"shop", "web"⟩ [("a.b", "one")] []
    (.ofList [(AnnotationKey.sslRedirect, "true"), (AnnotationKey.limitRps, "5")])]

theorem migrates_limited (mode : TopologyMode) :
    Migrates { mode := mode } limited .empty
      (emit { mode := mode } (annotate limited .empty).state.plan).state.resources where
  planned := by decide +kernel
  emitted := by
    cases mode with
    | centralized => decide +kernel
    | perNamespace => decide +kernel
  output := rfl

namespace Migrates

variable (m : Migrates l is ports r)

include m

theorem namesClusters : (annotate is ports).state.plan.NamesClusters :=
  emit_completes_iff_named.mp m.emitted

theorem eq_attach : r = l.attach (unattached l is ports) :=
  m.output.symm.trans (resources_emit m.emitted)

theorem keys_routes : r.routes.keys = (unattached l is ports).routes.keys := by
  rw [m.eq_attach]
  exact OrderedMap.keys_mapValues _ _

theorem extensions : r.extensions = (unattached l is ports).extensions := by
  rw [m.eq_attach]
  rfl

/-- The extensions are filters that routes ask for, and each such filter has an entry under its
key. -/
theorem get?_extensions (key : ObjectKey) :
    (∀ x, r.extensions.get? key = some x →
      ∃ k c ps, (annotate is ports).state.plan.AsksFilter k c ps ∧ EnvoyFilter.key l k c = key ∧
        EnvoyFilter.wrap l k c ps = x) ∧
    ∀ k c ps, (annotate is ports).state.plan.AsksFilter k c ps → EnvoyFilter.key l k c = key →
      ∃ x, r.extensions.get? key = some x := by
  rw [m.extensions]
  exact Emission.get?_extensions_materialize m.namesClusters rfl key

/-- An attached route has one reference, to the Gateway of its namespace, or to a listener there that
has the name of the HTTP listener of one of the namespace's hosts. -/
theorem refs {k : ObjectKey} {route : HttpRoute} (found : r.routes.get? k = some route) :
    ∃ j g listener, (ruleGroups is).get? j = some g ∧ g.space = k.space ∧
      route.spec.parentRefs = [l.refFor k.space listener] ∧
      (listener = none ∨ listener = some (listenerName g.host "http")) := by
  rw [m.eq_attach, GatewayLayout.attach, OrderedMap.get?_mapValues] at found
  obtain ⟨old, before, rfl⟩ := Option.map_eq_some_iff.mp found
  obtain ⟨home, j, g, kept, space, parents | parents⟩ := route_of_unattached before
  · refine ⟨j, g, none, kept, space, ?_, .inl rfl⟩
    have made : (unattached l is ports).gateways.contains
        ((loweredRef g).target old.metadata.space) = true := by
      rw [gateways_unattached, home, ← space]
      exact contains_gateways_lower kept
    rw [HttpRoute.retargetRefs]
    dsimp only
    rw [parents, List.map_singleton, ParentRef.retarget, made]
    rfl
  · refine ⟨j, g, _, kept, space, ?_, .inr rfl⟩
    rw [HttpRoute.retargetRefs]
    dsimp only
    rw [parents, List.map_singleton, GatewayLayout.retarget_refFor]

theorem get?_gateways (mode : l.mode = .perNamespace) {k : ObjectKey} {gateway : Gateway} :
    r.gateways.get? k = some gateway ↔
      ∃ space ∈ GatewayLayout.routeSpaces (unattached l is ports),
        l.spaceGateway? (unattached l is ports) space = some (k, gateway) := by
  rw [m.eq_attach]
  exact GatewayLayout.get?_gateways_iff mode

/-- Gateways depend on lowered Gateways, routes and redirects alone. -/
theorem gateways_eq : r.gateways = l.gateways
    { gateways := (lower is ports).1.gateways
      routes := ((annotate is ports).state.plan.routes.toList.flatMap (Emission.redirectsOf l)).foldl
        (fun m x => m.insertNew x.1 x.2) (annotate is ports).state.plan.resources.routes } := by
  rw [m.eq_attach, ← gateways_unattached (l := l), ← routes_unattached]
  rfl

end Migrates

end IngressNginx

end GatewayMigration
