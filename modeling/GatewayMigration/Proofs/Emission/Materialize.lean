import GatewayMigration.Emission.Materialize
import GatewayMigration.Proofs.Emission.Filters
import GatewayMigration.Proofs.Run.Progress
/-!
# What materializing adds

Materializing adds redirects to the routes, filters to the extensions, and grants. Main statements:

* `materialize_completes_iff`: only a URL of an authorization service can interrupt;
* `gateways_materialize`: Gateways stay as they are;
* `routes_materialize`, `route_of_materialize`: routes stay too, and redirects are added where their
  keys are free;
* `get?_grants_materialize`: the grants are those of the namespaces whose Gateway is elsewhere;
* `get?_extensions_materialize`: the extensions are filters that routes ask for, and no such filter
  is without an entry under its key.
-/

namespace GatewayMigration

/-- Every URL of an authorization service in the plan's settings names a cluster. -/
def Plan.NamesClusters (p : Plan) : Prop :=
  ∀ k r s a, p.routes.get? k = some r → r.settings = some s → s.externalAuth = some a →
    ∃ cluster, EnvoyFilter.authCluster a.url = .ok cluster

/-- A route of the plan asks for patches about a concern. -/
def Plan.AsksFilter (p : Plan) (k : ObjectKey) (c : EnvoyFilter.Concern) (ps : List Value) : Prop :=
  ∃ r s, p.routes.get? k = some r ∧ r.settings = some s ∧ c.patches? s = some (.ok ps)

namespace Emission

variable {l : GatewayLayout} {plan : Plan} {e : Emission}

/-! ## Redirects -/

def redirectsOf (l : GatewayLayout) (r : ObjectKey × RoutePlan) : List (ObjectKey × HttpRoute) :=
  if wantsRedirect r.2 then
    (RedirectRoute.all l r.1 r.2.route).map fun made => (made.metadata.key, made)
  else []

theorem mem_redirectsOf_iff {r : ObjectKey × RoutePlan} {x : ObjectKey × HttpRoute} :
    x ∈ redirectsOf l r ↔ wantsRedirect r.2 = true ∧ ∃ host ∈ r.2.route.spec.hostnames,
      x.2 = RedirectRoute.build l r.1 r.2.route.spec.hostnames host ∧ x.1 = x.2.metadata.key := by
  unfold redirectsOf
  constructor
  · intro mem
    split at mem
    · rename_i wanted
      obtain ⟨made, listed, rfl⟩ := List.mem_map.mp mem
      obtain ⟨host, named, rfl⟩ := List.mem_map.mp listed
      exact ⟨wanted, host, named, rfl, rfl⟩
    · cases mem
  · rintro ⟨wanted, host, named, built, filed⟩
    rw [if_pos wanted]
    refine List.mem_map.mpr ⟨x.2, ?_, Prod.ext filed.symm rfl⟩
    rw [built]
    exact List.mem_map_of_mem named

theorem resources_addRedirect (source : ObjectKey) (e : Emission) (r : HttpRoute) :
    (addRedirect source e r).resources =
      { e.resources with routes := e.resources.routes.insertNew r.metadata.key r } := by
  unfold addRedirect OrderedMap.insertNew
  dsimp only
  split
  · rfl
  · rfl

theorem resources_addRedirects (l : GatewayLayout) (e : Emission) (r : ObjectKey × RoutePlan) :
    (addRedirects l e r).resources = { e.resources with
      routes := (redirectsOf l r).foldl (fun m x => m.insertNew x.1 x.2) e.resources.routes } := by
  unfold addRedirects redirectsOf
  split
  · induction RedirectRoute.all l r.1 r.2.route generalizing e with
    | nil => rfl
    | cons made rest ih => rw [List.foldl_cons, ih, resources_addRedirect]; rfl
  · rfl

theorem resources_withRedirects (l : GatewayLayout) (e : Emission)
    (rs : List (ObjectKey × RoutePlan)) :
    (rs.foldl (addRedirects l) e).resources = { e.resources with
      routes := (rs.flatMap (redirectsOf l)).foldl (fun m x => m.insertNew x.1 x.2)
        e.resources.routes } := by
  induction rs generalizing e with
  | nil => rfl
  | cons r rs ih =>
    rw [List.foldl_cons, ih, resources_addRedirects, List.flatMap_cons, List.foldl_append]

/-! ## Filters -/

def filtersOf (l : GatewayLayout) (r : ObjectKey × RoutePlan) :
    Except Interruption (List (ObjectKey × Extension)) :=
  match r.2.settings with
  | none => .ok []
  | some s => EnvoyFilter.forRoute l r.1 s

theorem resources_addExtensions (fs : List (ObjectKey × Extension)) (e : Emission) :
    (fs.foldl addExtension e).resources = { e.resources with
      extensions := fs.foldl (fun m x => m.insertNew x.1 x.2) e.resources.extensions } := by
  induction fs generalizing e with
  | nil => rfl
  | cons f fs ih => rw [List.foldl_cons, ih]; rfl

theorem addFilters_of_ok {r : ObjectKey × RoutePlan} {fs : List (ObjectKey × Extension)}
    (made : filtersOf l r = .ok fs) (e : Emission) :
    addFilters l e r = ⟨fs.foldl addExtension e, none⟩ := by
  unfold addFilters
  unfold filtersOf at made
  split
  · rename_i absent
    rw [absent] at made
    cases made
    rfl
  · rename_i s given
    rw [given] at made
    simp only at made
    rw [made]

theorem addFilters_of_error {r : ObjectKey × RoutePlan} {why : Interruption}
    (fails : filtersOf l r = .error why) (e : Emission) : addFilters l e r = ⟨e, some why⟩ := by
  unfold addFilters
  unfold filtersOf at fails
  split
  · rename_i absent
    rw [absent] at fails
    cases fails
  · rename_i s given
    rw [given] at fails
    simp only at fails
    rw [fails]

theorem stop_addFilters (l : GatewayLayout) (e : Emission) (r : ObjectKey × RoutePlan) :
    (addFilters l e r).stop = none ↔ ∃ fs, filtersOf l r = .ok fs := by
  cases made : filtersOf l r with
  | ok fs =>
    rw [addFilters_of_ok made]
    exact iff_of_true rfl ⟨fs, rfl⟩
  | error why =>
    rw [addFilters_of_error made]
    exact iff_of_false nofun (fun ⟨_, built⟩ => nomatch built)

theorem resources_each_addFilters {rs : List (ObjectKey × RoutePlan)}
    {fss : List (List (ObjectKey × Extension))} (made : rs.mapM (filtersOf l) = .ok fss)
    (e : Emission) :
    (Progress.each (addFilters l) e rs).state.resources = { e.resources with
      extensions := fss.flatten.foldl (fun m x => m.insertNew x.1 x.2)
        e.resources.extensions } := by
  induction rs generalizing e fss with
  | nil =>
    cases made
    rfl
  | cons r rs ih =>
    obtain ⟨fs, rest, first, others, rfl⟩ := mapM_cons_ok_iff.mp made
    rw [Progress.each_cons, addFilters_of_ok first, Progress.andThen_complete _ rfl, ih others,
      resources_addExtensions, List.flatten_cons, List.foldl_append]

/-- What filters, grants and advice leave as it is. -/
def attached (e : Emission) : Catalog Gateway × Catalog HttpRoute :=
  (e.resources.gateways, e.resources.routes)

theorem attached_addFilters (l : GatewayLayout) (e : Emission) (r : ObjectKey × RoutePlan) :
    (addFilters l e r).state.attached = e.attached := by
  unfold attached
  cases made : filtersOf l r with
  | ok fs => rw [addFilters_of_ok made, resources_addExtensions]
  | error why => rw [addFilters_of_error made]

/-! ## Grants and advice -/

/-- The grants for routes whose Gateway is in another namespace than they are. -/
def grantsFor (l : GatewayLayout) (spaces : List String) : List (ObjectKey × ReferenceGrant) :=
  (spaces.filter fun space => (l.gatewayFor space).space ≠ space).map fun space =>
    (ReferenceGrant.keyFor space (l.gatewayFor space),
      ReferenceGrant.forRoutes space (l.gatewayFor space))

theorem resources_addGrants (l : GatewayLayout) (e : Emission) :
    (addGrants l e).resources = { e.resources with
      grants := (grantsFor l (routeSpaces e.resources)).foldl (fun m x => m.insertNew x.1 x.2)
        e.resources.grants } := by
  unfold addGrants grantsFor
  induction routeSpaces e.resources generalizing e with
  | nil => rfl
  | cons space spaces ih =>
    rw [List.foldl_cons, ih]
    unfold addGrant
    dsimp only
    by_cases own : (l.gatewayFor space).space = space
    · rw [if_pos own, List.filter_cons_of_neg (by simpa using own)]
    · rw [if_neg own, List.filter_cons_of_pos (by simpa using own)]
      rfl

theorem resources_addAdvice (l : GatewayLayout) (routes : Catalog RoutePlan) (e : Emission) :
    (addAdvice l routes e).resources = e.resources := by
  unfold addAdvice
  split
  · rfl
  · rfl

/-! ## All of it -/

theorem materialize_completes_iff_made :
    (materialize l plan e).stop = none ↔
      ∀ r ∈ plan.routes.toList, ∃ fs, filtersOf l r = .ok fs := by
  unfold materialize
  rw [Progress.stop_andThen_eq_none_iff, Progress.each_completes_iff (stop_addFilters l)]
  exact and_iff_left rfl

theorem materialize_completes_iff :
    (materialize l plan e).stop = none ↔ plan.NamesClusters := by
  rw [materialize_completes_iff_made]
  constructor
  · intro made k r s a there given auth
    have built := made (k, r) (OrderedMap.mem_toList.mpr there)
    rw [filtersOf, given] at built
    exact EnvoyFilter.forRoute_ok_iff.mp built a auth
  · rintro named ⟨k, r⟩ mem
    unfold filtersOf
    cases given : r.settings with
    | none => exact ⟨[], rfl⟩
    | some s =>
      exact EnvoyFilter.forRoute_ok_iff.mpr fun a auth =>
        named k r s a (OrderedMap.mem_toList.mp mem) given auth

theorem attached_materialize (l : GatewayLayout) (plan : Plan) (e : Emission) :
    (materialize l plan e).state.attached =
      (plan.routes.toList.foldl (addRedirects l) e).attached := by
  have filters := Progress.each_preserves attached (attached_addFilters l)
    (plan.routes.toList.foldl (addRedirects l) e) plan.routes.toList
  rw [← filters]
  unfold materialize Progress.andThen
  dsimp only
  split
  · unfold attached
    rw [resources_addAdvice, resources_addGrants]
  · rfl

theorem gateways_materialize (l : GatewayLayout) (plan : Plan) (e : Emission) :
    (materialize l plan e).state.resources.gateways = e.resources.gateways := by
  have same := congrArg Prod.fst (attached_materialize l plan e)
  unfold attached at same
  rw [resources_withRedirects] at same
  exact same

theorem routes_materialize (l : GatewayLayout) (plan : Plan) (e : Emission) :
    (materialize l plan e).state.resources.routes =
      (plan.routes.toList.flatMap (redirectsOf l)).foldl (fun m x => m.insertNew x.1 x.2)
        e.resources.routes := by
  have same := congrArg Prod.snd (attached_materialize l plan e)
  unfold attached at same
  rw [resources_withRedirects] at same
  exact same

/-- A route is one of the plan, or the redirect of one. -/
theorem route_of_materialize {k : ObjectKey} {route : HttpRoute}
    (found : (materialize l plan { resources := plan.resources }).state.resources.routes.get? k =
      some route) :
    (∃ r, plan.routes.get? k = some r ∧ r.route = route) ∨
      ∃ j r host, plan.routes.get? j = some r ∧ wantsRedirect r = true ∧
        host ∈ r.route.spec.hostnames ∧
        route = RedirectRoute.build l j r.route.spec.hostnames host ∧ k = route.metadata.key := by
  rw [routes_materialize, OrderedMap.get?_foldl_insertNew, Option.or_eq_some_iff] at found
  rcases found with own | ⟨-, made⟩
  · rw [Plan.resources, OrderedMap.get?_mapValues] at own
    exact .inl (Option.map_eq_some_iff.mp own)
  · obtain ⟨before, after, split, -⟩ := OrderedMap.lookup_eq_some_iff_first.mp made
    have mem : (k, route) ∈ plan.routes.toList.flatMap (redirectsOf l) := by simp [split]
    obtain ⟨⟨j, r⟩, there, inside⟩ := List.mem_flatMap.mp mem
    obtain ⟨wanted, host, named, built, filed⟩ := mem_redirectsOf_iff.mp inside
    exact .inr ⟨j, r, host, OrderedMap.mem_toList.mp there, wanted, named, built, filed⟩

/-- What a complete run makes: redirects, filters, and grants for all routes. -/
theorem resources_materialize {fss : List (List (ObjectKey × Extension))}
    (made : plan.routes.toList.mapM (filtersOf l) = .ok fss) (e : Emission) :
    (materialize l plan e).state.resources =
      let routes := (plan.routes.toList.flatMap (redirectsOf l)).foldl
        (fun m x => m.insertNew x.1 x.2) e.resources.routes
      let spaces := routeSpaces { e.resources with routes := routes }
      { e.resources with
        routes := routes
        extensions := fss.flatten.foldl (fun m x => m.insertNew x.1 x.2) e.resources.extensions
        grants := (grantsFor l spaces).foldl (fun m x => m.insertNew x.1 x.2)
          e.resources.grants } := by
  have each := exists_mapM_ok_iff.mp ⟨fss, made⟩
  have complete := (Progress.each_completes_iff (stop_addFilters l)
    (s := plan.routes.toList.foldl (addRedirects l) e)).mpr each
  unfold materialize
  rw [Progress.andThen_complete _ complete, resources_addAdvice, resources_addGrants,
    resources_each_addFilters made, resources_withRedirects]
  rfl

theorem exists_filters (named : plan.NamesClusters) :
    ∃ fss, plan.routes.toList.mapM (filtersOf l) = .ok fss :=
  exists_mapM_ok_iff.mpr (materialize_completes_iff_made (e := {}).mp
    (materialize_completes_iff.mpr named))

/-! ## The grants that are there -/

theorem mem_routeSpaces_iff {r : Resources} {space : String} :
    space ∈ routeSpaces r ↔ ∃ k ∈ r.routes.keys, k.space = space := by
  unfold routeSpaces sortTexts GatewayLayout.routeSpaces
  rw [List.mem_mergeSort, mem_foldl_addNew, or_iff_right List.not_mem_nil, List.mem_map]

theorem mem_grantsFor_iff {spaces : List String} {x : ObjectKey × ReferenceGrant} :
    x ∈ grantsFor l spaces ↔ ∃ space ∈ spaces, (l.gatewayFor space).space ≠ space ∧
      x = (ReferenceGrant.keyFor space (l.gatewayFor space),
        ReferenceGrant.forRoutes space (l.gatewayFor space)) := by
  unfold grantsFor
  rw [List.mem_map]
  constructor
  · rintro ⟨space, mem, rfl⟩
    obtain ⟨listed, elsewhere⟩ := List.mem_filter.mp mem
    exact ⟨space, listed, by simpa using elsewhere, rfl⟩
  · rintro ⟨space, listed, elsewhere, rfl⟩
    exact ⟨space, List.mem_filter.mpr ⟨listed, by simpa using elsewhere⟩, rfl⟩

/-- The key of a grant tells the namespace that it is for. -/
theorem space_of_keyFor_eq {a b : String} {g h : ObjectKey}
    (same : ReferenceGrant.keyFor a g = ReferenceGrant.keyFor b h) : a = b :=
  (String.append_right_inj _).mp (ObjectKey.mk.inj same).2

/-- In a complete run every entry of an output without grants is the one for a namespace with
routes whose Gateway is elsewhere, and every such namespace has its entry. -/
theorem get?_grants_materialize (named : plan.NamesClusters) (fresh : e.resources.grants = .empty)
    {key : ObjectKey} {grant : ReferenceGrant} :
    (materialize l plan e).state.resources.grants.get? key = some grant ↔
      ∃ space, (∃ k ∈ (materialize l plan e).state.resources.routes.keys, k.space = space) ∧
        (l.gatewayFor space).space ≠ space ∧
        key = ReferenceGrant.keyFor space (l.gatewayFor space) ∧
        grant = ReferenceGrant.forRoutes space (l.gatewayFor space) := by
  obtain ⟨fss, made⟩ := exists_filters (l := l) named
  rw [resources_materialize made, fresh]
  dsimp only
  rw [OrderedMap.get?_foldl_insertNew, OrderedMap.get?_empty, Option.none_or,
    OrderedMap.lookup_eq_some_iff_mem, mem_grantsFor_iff]
  · simp only [mem_routeSpaces_iff, Prod.mk.injEq]
  · intro a b first second
    obtain ⟨s, -, -, made⟩ := mem_grantsFor_iff.mp first
    obtain ⟨t, -, -, made'⟩ := mem_grantsFor_iff.mp second
    obtain ⟨here, rfl⟩ := Prod.mk.inj made
    obtain ⟨there, rfl⟩ := Prod.mk.inj made'
    obtain rfl := space_of_keyFor_eq (here.symm.trans there)
    rfl

/-! ## The filters that are there -/

/-- In a complete run every entry of an empty output is a filter that a route asks for, and every
filter that a route asks for has an entry under its key. -/
theorem get?_extensions_materialize (named : plan.NamesClusters)
    (fresh : e.resources.extensions = .empty) (key : ObjectKey) :
    (∀ x, (materialize l plan e).state.resources.extensions.get? key = some x →
      ∃ k c ps, plan.AsksFilter k c ps ∧ EnvoyFilter.key l k c = key ∧
        EnvoyFilter.wrap l k c ps = x) ∧
    ∀ k c ps, plan.AsksFilter k c ps → EnvoyFilter.key l k c = key →
      ∃ x, (materialize l plan e).state.resources.extensions.get? key = some x := by
  obtain ⟨fss, made⟩ := exists_filters (l := l) named
  rw [resources_materialize made, fresh]
  dsimp only
  rw [OrderedMap.get?_foldl_insertNew, OrderedMap.get?_empty, Option.none_or]
  have asked : ∀ f : ObjectKey × Extension, f ∈ fss.flatten ↔
      ∃ k c ps, plan.AsksFilter k c ps ∧
        f = (EnvoyFilter.key l k c, EnvoyFilter.wrap l k c ps) := by
    intro f
    rw [List.mem_flatten]
    constructor
    · rintro ⟨fs, mem, inside⟩
      obtain ⟨⟨k, r⟩, there, built⟩ := (mem_iff_of_mapM_ok made).mp mem
      unfold filtersOf at built
      cases given : r.settings with
      | none =>
        rw [given] at built
        cases built
        cases inside
      | some s =>
        rw [given] at built
        obtain ⟨c, ps, asks, rfl⟩ := (EnvoyFilter.mem_forRoute_iff built).mp inside
        exact ⟨k, c, ps, ⟨r, s, OrderedMap.mem_toList.mp there, given, asks⟩, rfl⟩
    · rintro ⟨k, c, ps, ⟨r, s, there, given, asks⟩, rfl⟩
      have mem := OrderedMap.mem_toList.mpr there
      obtain ⟨fs, built⟩ := exists_mapM_ok_iff.mp ⟨fss, made⟩ _ mem
      refine ⟨fs, (mem_iff_of_mapM_ok made).mpr ⟨_, mem, built⟩, ?_⟩
      rw [filtersOf, given] at built
      exact (EnvoyFilter.mem_forRoute_iff built).mpr ⟨c, ps, asks, rfl⟩
  constructor
  · intro x found
    obtain ⟨before, after, split, -⟩ := OrderedMap.lookup_eq_some_iff_first.mp found
    obtain ⟨k, c, ps, asks, entry⟩ := (asked (key, x)).mp (by simp [split])
    obtain ⟨rfl, rfl⟩ := Prod.mk.inj entry
    exact ⟨k, c, ps, asks, rfl, rfl⟩
  · rintro k c ps asks rfl
    rw [← Option.isSome_iff_exists, OrderedMap.lookup_isSome_iff_mem]
    exact List.mem_map_of_mem ((asked (_, _)).mpr ⟨k, c, ps, asks, rfl⟩)

end Emission

end GatewayMigration
