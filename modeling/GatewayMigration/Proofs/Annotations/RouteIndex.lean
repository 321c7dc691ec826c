import GatewayMigration.Annotations.Pass
import GatewayMigration.Proofs.Lowering.Contributors
import GatewayMigration.Proofs.Lowering.Routes
/-!
# The routes of an Ingress

Which Ingresses a route comes from is known twice: passes find the routes of an Ingress in an index
that is made of the groups, and the plan says of each route which Ingresses it comes from. A group
that had a source twice would be twice in the index. Main statements:

* `getD_routeIndex`: the index has a route under a source once for each time that its group has it;
* `routeIndex_eq_routesOf`: where groups have their sources once, it has the routes that passes
  edit;
* `routesFor_lower`: in a lowered plan these are the routes that come from the Ingress, in their
  order, and every route comes from Ingresses of its namespace.
-/

namespace GatewayMigration

namespace PassContext

/-- A route is put under every source of its group, behind the routes that are there. -/
def fileRoute (index : Catalog (List ObjectKey)) (e : ObjectKey × RuleGroup) :
    Catalog (List ObjectKey) :=
  e.2.sources.foldl (fun index source =>
    index.insert source ((index.get? source).getD [] ++ [e.1])) index

/-- The routes of all groups under the Ingresses that they come from. -/
def routeIndex (c : PassContext) : Catalog (List ObjectKey) :=
  c.groups.toList.foldl fileRoute .empty

/-- The routes that the index has for an Ingress, as far as the plan has them. -/
def routesFor (c : PassContext) (i : Ingress) (p : Plan) : List (ObjectKey × RoutePlan) :=
  ((c.routeIndex.get? i.key).getD []).filterMap fun k => (p.routes.get? k).map fun r => (k, r)

/-! ## The index -/

theorem getD_fileRoute (source : ObjectKey) (index : Catalog (List ObjectKey))
    (e : ObjectKey × RuleGroup) :
    ((fileRoute index e).get? source).getD [] =
      (index.get? source).getD [] ++ (e.2.sources.filter (· = source)).map fun _ => e.1 := by
  have step : ∀ (index : Catalog (List ObjectKey)), ∀ s ∈ e.2.sources,
      ((index.insert s ((index.get? s).getD [] ++ [e.1])).get? source).getD [] =
        (index.get? source).getD [] ++ if s = source then [e.1] else [] := by
    intro index s _
    rw [OrderedMap.get?_insert]
    by_cases own : s = source
    · rw [if_pos own, if_pos own, own]
      rfl
    · rw [if_neg own, if_neg own, List.append_nil]
  unfold fileRoute
  rw [foldl_accumulates (fun index => (OrderedMap.get? index source).getD []) step,
    List.map_eq_flatMap, flatMap_filter]
  simp only [decide_eq_true_eq]

theorem getD_routeIndex (c : PassContext) (source : ObjectKey) :
    (c.routeIndex.get? source).getD [] =
      c.groups.toList.flatMap fun e => (e.2.sources.filter (· = source)).map fun _ => e.1 :=
  foldl_accumulates (fun index => (OrderedMap.get? index source).getD [])
    (fun index e _ => getD_fileRoute source index e) .empty

theorem routesOf_eq_map (c : PassContext) (i : Ingress) :
    c.routesOf i = (c.groups.toList.filter fun e => i.key ∈ e.2.sources).map Prod.fst := by
  unfold routesOf
  rw [← List.filterMap_eq_filter, List.map_filterMap]
  apply List.filterMap_congr
  intro e _
  by_cases source : i.key ∈ e.2.sources
  · simp [source, Option.guard]
  · simp [source, Option.guard]

theorem routeIndex_eq_routesOf {c : PassContext}
    (distinct : ∀ e ∈ c.groups.toList, e.2.sources.Nodup) (i : Ingress) :
    (c.routeIndex.get? i.key).getD [] = c.routesOf i := by
  rw [getD_routeIndex, routesOf_eq_map, List.map_eq_flatMap, flatMap_filter]
  apply List.flatMap_congr
  intro e mem
  by_cases source : i.key ∈ e.2.sources
  · have once : e.2.sources.filter (· = i.key) = [i.key] := by
      rw [List.filter_eq, List.count_eq_one_of_mem (distinct e mem) source]
      rfl
    rw [once, if_pos (decide_eq_true source)]
    rfl
  · have never : e.2.sources.filter (· = i.key) = [] := by
      rw [List.filter_eq_nil_iff]
      intro s there same
      exact source (of_decide_eq_true same ▸ there)
    rw [never, if_neg (by simpa using source)]
    rfl

end PassContext

/-! ## Sources of routes -/

section
variable {is : List Ingress} {k : ObjectKey} {g : RuleGroup}

theorem isMadeOf_ruleGroups (kept : (ruleGroups is).get? k = some g) : g.IsMadeOf is :=
  isMadeOf_groupTable (get?_groupTable_of_ruleGroups kept)

theorem nodup_sources_ruleGroups (kept : (ruleGroups is).get? k = some g) : g.sources.Nodup := by
  rw [(isMadeOf_ruleGroups kept).sources, ← foldl_addNew_nil]
  exact nodup_foldl_addNew List.nodup_nil _

theorem sources_ne_nil (kept : (ruleGroups is).get? k = some g) : g.sources ≠ [] := by
  have made := isMadeOf_ruleGroups kept
  obtain ⟨first, head, -⟩ := made.name
  rw [made.sources]
  apply List.ne_nil_of_mem (a := first.key)
  exact List.mem_eraseDups.mpr (List.mem_map_of_mem (List.mem_of_head? head))

end

/-- The sources of a route: there are some, each is there once, and all are Ingresses in the
namespace of the route. -/
structure RoutePlan.ComesFrom (is : List Ingress) (k : ObjectKey) (r : RoutePlan) : Prop where
  present : r.sources ≠ []
  distinct : r.sources.Nodup
  listed : ∀ source ∈ r.sources, ∃ i ∈ is, i.key = source
  space : ∀ source ∈ r.sources,
    source.space = k.space ∧ source.space = r.route.metadata.space

theorem comesFrom_lower {is : List Ingress} {ports : Catalog PortLookup} {k : ObjectKey}
    {r : RoutePlan} (found : (lower is ports).1.routes.get? k = some r) : r.ComesFrom is k := by
  obtain ⟨g, kept, rfl⟩ := get?_routes_lower_iff.mp found
  refine ⟨sources_ne_nil kept, nodup_sources_ruleGroups kept, fun source mem => ?_,
    fun source mem => ?_⟩
  · obtain ⟨i, listed, same, -⟩ := source_of_ruleGroups kept mem
    exact ⟨i, listed, same⟩
  · have own := space_of_mem_sources kept mem
    have named : k.space = g.space := congrArg ObjectKey.space (key_of_ruleGroups kept).symm
    exact ⟨own, own.trans named⟩

/-! ## Both together -/

/-- The index finds what the groups with this source become. -/
theorem routesFor_eq_map (is : List Ingress) (ports : Catalog PortLookup) (i : Ingress) :
    (PassContext.ofIngresses is).routesFor i (lower is ports).1 =
      ((ruleGroups is).toList.filter fun e => i.key ∈ e.2.sources).map
        fun e => (e.1, routePlanFor ports e.2) := by
  have distinct : ∀ e ∈ (PassContext.ofIngresses is).groups.toList, e.2.sources.Nodup :=
    fun e mem => nodup_sources_ruleGroups (OrderedMap.mem_toList.mp mem)
  unfold PassContext.routesFor
  rw [PassContext.routeIndex_eq_routesOf distinct, PassContext.routesOf_eq_map,
    List.filterMap_map, ← List.filterMap_eq_map]
  apply List.filterMap_congr
  intro e mem
  have kept := OrderedMap.mem_toList.mp (List.mem_filter.mp mem).1
  have read : (lower is ports).1.routes.get? e.1 = some (routePlanFor ports e.2) :=
    get?_routes_lower_iff.mpr ⟨e.2, kept, rfl⟩
  rw [Function.comp_apply, read]
  rfl

/-- In a lowered plan, the index finds the routes that come from an Ingress, in the order of the
plan and each of them once. They are those that passes edit. Every route comes from Ingresses of its
namespace. -/
theorem routesFor_lower (is : List Ingress) (ports : Catalog PortLookup) :
    (∀ i ∈ is,
      let found := (PassContext.ofIngresses is).routesFor i (lower is ports).1
      found = (lower is ports).1.routes.toList.filter (fun e => i.key ∈ e.2.sources) ∧
        (found.map Prod.fst).Nodup ∧
        found.map Prod.fst = (PassContext.ofIngresses is).routesOf i) ∧
    ∀ k r, (lower is ports).1.routes.get? k = some r → r.ComesFrom is k := by
  refine ⟨fun i _ => ?_, fun k r found => comesFrom_lower found⟩
  have agree : (PassContext.ofIngresses is).routesFor i (lower is ports).1 =
      (lower is ports).1.routes.toList.filter fun e => i.key ∈ e.2.sources := by
    rw [routesFor_eq_map, routes_lower, OrderedMap.mapValues, List.filter_map]
    rfl
  refine ⟨agree, ?_, ?_⟩
  · rw [agree]
    exact (lower is ports).1.routes.nodup.sublist (List.filter_sublist.map _)
  · rw [routesFor_eq_map, List.map_map, PassContext.routesOf_eq_map]
    rfl

/-- The two Ingresses of one key have the same routes, both of the group that they share with the
third one and of the one that they have alone. -/
theorem mixed_routes_found :
    (∀ i ∈ mixed.take 2, i ∈ mixed ∧
      ((PassContext.ofIngresses mixed).routesFor i (lower mixed .empty).1).map Prod.fst =
        [⟨"shop", "web-a-b"⟩, ⟨"shop", "web-all-hosts"⟩] ∧
      ((PassContext.ofIngresses mixed).routesFor i (lower mixed .empty).1) =
        (lower mixed .empty).1.routes.toList.filter (fun e => i.key ∈ e.2.sources)) ∧
    ∃ r, (lower mixed .empty).1.routes.get? ⟨"shop", "web-a-b"⟩ = some r ∧
      r.sources = [⟨"shop", "web"⟩, ⟨"shop", "api"⟩] ∧ r.ComesFrom mixed ⟨"shop", "web-a-b"⟩ := by
  have found : ∀ i ∈ mixed.take 2,
      ((PassContext.ofIngresses mixed).routesFor i (lower mixed .empty).1).map Prod.fst =
        [⟨"shop", "web-a-b"⟩, ⟨"shop", "web-all-hosts"⟩] := by decide +kernel
  have route : ((lower mixed .empty).1.routes.get? ⟨"shop", "web-a-b"⟩).map (·.sources) =
      some [⟨"shop", "web"⟩, ⟨"shop", "api"⟩] := by decide +kernel
  constructor
  · intro i mem
    have listed := List.mem_of_mem_take mem
    exact ⟨listed, found i mem, ((routesFor_lower mixed .empty).1 i listed).1⟩
  · obtain ⟨r, kept, sources⟩ := Option.map_eq_some_iff.mp route
    exact ⟨r, kept, sources, (routesFor_lower mixed .empty).2 _ r kept⟩

end GatewayMigration
