import GatewayMigration.Proofs.Topology.Isolation
/-!
# Attaching again

The layout's Gateways are worked out from what references lead to, and then the references change.
When the same is attached again, a reference that led nowhere may find a Gateway that was made for
another namespace. Nothing happens where every reference finds its Gateway, or is what attaching
makes of it already. Main statements:

* `mergeListeners_singleton`: merging the listeners of one Gateway leaves them as they are, if
  their names are different;
* `attach_attach`: attaching twice is attaching once, where references are prepared in this way
  (`attach_attach_early_ne` is what happens elsewhere);
* `attach_again`: the output of a complete run stays as it is when it is attached once more.
-/

namespace GatewayMigration

/-! ## Merging one Gateway -/

namespace Listener

/-- Listeners of new names follow the ones that are there, unchanged. -/
theorem values_foldl_addTo {ls : OrderedMap String Listener} {more : List Listener}
    (distinct : (ls.keys ++ more.map (·.name)).Nodup) :
    (more.foldl addTo ls).values = ls.values ++ more := by
  induction more generalizing ls with
  | nil => exact (List.append_nil _).symm
  | cons l more ih =>
    have fresh : l.name ∉ ls.keys := by
      intro present
      rw [List.nodup_append] at distinct
      exact distinct.2.2 _ present l.name (.head _) rfl
    have absent : ls.get? l.name = none := OrderedMap.lookup_eq_none_iff.mpr fresh
    have written : (addTo ls l).toList = ls.toList ++ [(l.name, l)] := by
      unfold addTo
      rw [absent]
      exact OrderedMap.put_of_not_mem fresh
    have keys : (addTo ls l).keys = ls.keys ++ [l.name] := by
      rw [OrderedMap.keys, written, List.map_append]
      rfl
    rw [List.foldl_cons, ih, OrderedMap.values, written, List.map_append, List.append_assoc]
    · rfl
    · rw [keys, List.append_assoc]
      exact distinct

end Listener

theorem mergeListeners_singleton {g : Gateway} (distinct : (g.spec.listeners.map (·.name)).Nodup) :
    mergeListeners [g] = g.spec.listeners := by
  unfold mergeListeners
  rw [List.flatMap_singleton, Listener.values_foldl_addTo]
  · rfl
  · exact distinct

/-! ## Attaching twice -/

/-- A reference is changed only once, if it finds a Gateway or is what changing makes of it. -/
theorem ParentRef.retarget_retarget {replaced : ObjectKey → Bool} {new : ObjectKey} {home : String}
    {ref : ParentRef}
    (prepared : ref.isGateway = true → replaced (ref.target home) = true ∨ ref.Names new)
    (later : ObjectKey → Bool) :
    (ref.retarget replaced new home).retarget later new home = ref.retarget replaced new home := by
  by_cases changes : (ref.isGateway && replaced (ref.target home)) = true
  · have names : (ref.retarget replaced new home).Names new := by
      rw [retarget, if_pos changes]
      exact ⟨rfl, rfl⟩
    exact retarget_of_names names later home
  · have kept : ref.retarget replaced new home = ref := if_neg changes
    rw [kept]
    cases kind : ref.isGateway with
    | false =>
      rw [retarget, kind]
      rfl
    | true =>
      rw [kind, Bool.true_and] at changes
      exact retarget_of_names ((prepared kind).resolve_left changes) later home

namespace GatewayLayout

variable {l : GatewayLayout} {r : Resources}

theorem routes_attach_attach (prepared : l.Prepared r) :
    (l.attach (l.attach r)).routes = (l.attach r).routes := by
  show (l.attach r).routes.mapValues (fun k route =>
    route.retargetRefs (l.attach r).gateways.contains (l.gatewayFor k.space)) = (l.attach r).routes
  apply OrderedMap.mapValues_eq_self
  rintro ⟨k, route⟩ mem
  have found := OrderedMap.mem_toList.mp mem
  rw [attach, OrderedMap.get?_mapValues, Option.map_eq_some_iff] at found
  obtain ⟨old, there, rfl⟩ := found
  simp only [HttpRoute.retargetRefs, List.map_map]
  congr 2
  apply List.map_congr_left
  intro ref held
  exact ParentRef.retarget_retarget (prepared k old there ref held) _

/-- A namespace that has its Gateway uses no other one. -/
theorem gatewaysUsedIn_attach (mode : l.mode = .perNamespace) (settled : l.Settled r)
    {space : String} {e : ObjectKey × Gateway} (made : l.spaceGateway? r space = some e) :
    gatewaysUsedIn (l.attach r) space = [l.gatewayFor space] := by
  obtain ⟨key, gateway⟩ := e
  obtain ⟨rfl, -, -, old, refers, present⟩ := eq_of_spaceGateway? made
  have own : (l.attach r).Refers space (l.gatewayFor space) :=
    (refers_attach_iff mode).mpr ⟨old, refers, (if_pos present).symm⟩
  have there : (l.attach r).gateways.contains (l.gatewayFor space) = true :=
    OrderedMap.contains_of_get?
      ((get?_gateways_iff mode).mpr ⟨space, mem_routeSpaces refers, made⟩)
  have only : ∀ key, key ∈ gatewaysUsedIn (l.attach r) space ↔ key = l.gatewayFor space := by
    intro key
    rw [mem_gatewaysUsedIn_iff]
    constructor
    · rintro ⟨refers, -⟩
      exact refers_attach_of_settled mode settled refers
    · rintro rfl
      exact ⟨own, there⟩
  unfold gatewaysUsedIn at only ⊢
  simp only [mem_foldl_addNew, List.not_mem_nil, false_or] at only
  exact foldl_addNew_eq_singleton ((only _).mpr rfl) fun key mem => (only key).mp mem

/-- A namespace that gets no Gateway uses none afterwards either. -/
theorem gatewaysUsedIn_attach_of_none (mode : l.mode = .perNamespace) (settled : l.Settled r)
    {space : String} (none : l.spaceGateway? r space = none) :
    gatewaysUsedIn (l.attach r) space = [] := by
  rw [List.eq_nil_iff_forall_not_mem]
  intro key used
  obtain ⟨refers, there⟩ := mem_gatewaysUsedIn_iff.mp used
  obtain rfl := refers_attach_of_settled mode settled refers
  obtain ⟨gateway, found⟩ := Option.isSome_iff_exists.mp there
  obtain ⟨other, -, made⟩ := (get?_gateways_iff mode).mp found
  rw [← gatewayFor_injective mode (eq_of_spaceGateway? made).1, none] at made
  cases made

theorem spaceGateway?_attach (mode : l.mode = .perNamespace) (settled : l.Settled r)
    (space : String) : l.spaceGateway? (l.attach r) space = l.spaceGateway? r space := by
  cases made : l.spaceGateway? r space with
  | none => exact spaceGateway?_eq_none_iff.mpr (gatewaysUsedIn_attach_of_none mode settled made)
  | some e =>
    have used := gatewaysUsedIn_attach mode settled made
    obtain ⟨key, gateway⟩ := e
    obtain ⟨-, -, -, old, refers, -⟩ := eq_of_spaceGateway? made
    obtain ⟨-, same⟩ := spaceGateway?_eq_some_iff.mp made
    cases same
    have found := (get?_gateways_iff mode).mpr ⟨space, mem_routeSpaces refers, made⟩
    have alone : usedGateways (l.attach r) space =
        [l.gatewayWith space (mergeListeners (usedGateways r space))] := by
      rw [usedGateways, used]
      exact List.filterMap_cons_some found
    have distinct := nodup_name_mergeListeners (usedGateways r space)
    rw [spaceGateway?_eq_some_iff, used, alone, mergeListeners_singleton distinct]
    exact ⟨List.cons_ne_nil _ _, rfl⟩

theorem gateways_attach (prepared : l.Prepared r) :
    l.gateways (l.attach r) = l.gateways r := by
  cases mode : l.mode with
  | centralized => simp only [gateways, mode]
  | perNamespace =>
    have spaces : routeSpaces (l.attach r) = routeSpaces r := by
      unfold routeSpaces
      rw [attach, OrderedMap.keys_mapValues]
    have settled := settled_of_prepared mode prepared
    simp only [gateways, mode, spaces]
    congr 1
    exact List.filterMap_congr fun space _ => spaceGateway?_attach mode settled space

theorem attach_attach (prepared : l.Prepared r) : l.attach (l.attach r) = l.attach r := by
  have gateways : (l.attach (l.attach r)).gateways = (l.attach r).gateways :=
    gateways_attach prepared
  have routes := routes_attach_attach prepared
  calc l.attach (l.attach r)
      = { l.attach (l.attach r) with
          gateways := (l.attach r).gateways, routes := (l.attach r).routes } := by
        rw [← gateways, ← routes]
    _ = l.attach r := rfl

/-- The route of the second namespace refers to the Gateway that the first one gets. -/
def early : Resources where
  gateways := .ofList [(⟨"a", "nginx"⟩,
    { metadata := { name := "nginx", space := "a" }, spec := { className := "nginx" } })]
  routes := .ofList
    [(⟨"a", "web"⟩,
      { metadata := { name := "web", space := "a" }
        spec := { parentRefs := [{ name := "nginx" }] } }),
     (⟨"b", "web"⟩,
      { metadata := { name := "web", space := "b" }
        spec := { parentRefs := [{ space := some "a-gateway", name := "a-gateway" }] } })]

/-- It leads nowhere at first, and is changed once the Gateway is there. -/
theorem attach_attach_early_ne :
    attach { mode := .perNamespace } (attach { mode := .perNamespace } early) ≠
      attach { mode := .perNamespace } early := by
  decide +kernel

end GatewayLayout

namespace IngressNginx

variable {l : GatewayLayout} {is : List Ingress} {ports : Catalog PortLookup} {r : Resources}

/-- The output of a complete run stays as it is when the layout is attached once more. -/
theorem attach_again (m : Migrates l is ports r) : l.attach r = r := by
  rw [m.eq_attach]
  exact GatewayLayout.attach_attach prepared_unattached

/-- The first namespace has a redirect, which leads to what was the Gateway of the second one. -/
theorem coincident_attached_again :
    GatewayLayout.attach { mode := .perNamespace }
        (emit { mode := .perNamespace } (annotate coincident .empty).state.plan).state.resources =
      (emit { mode := .perNamespace } (annotate coincident .empty).state.plan).state.resources :=
  attach_again migrates_coincident

end IngressNginx

end GatewayMigration
