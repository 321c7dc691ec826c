import GatewayMigration.Proofs.Topology.Attach
/-!
# What attaching replaces

References are changed one by one, while what they lead to is worked out from them, and new Gateways
may have the keys of old ones. Routes are taken together by the keys that they are filed under, and
their references are read by their metadata. Main statements:

* `isUnion_mergeListeners`: merged listeners have every name once, and under it the first listener
  with the certificates of all;
* `gatewaysUsedIn_eq`: the Gateways that a namespace uses are those that references found before the
  first of them was changed;
* `replaces_attach`: references that find a Gateway lead to the layout's one afterwards, the
  Gateways are those that the layout has for them, and all else stays.
-/

namespace GatewayMigration

/-! ## Merging -/

namespace ListenerTls

/-- The TLS settings of several listeners in one. They are the first ones, and behind their
certificates there are those of the others that they do not have, each once. -/
def merged : List ListenerTls → Option ListenerTls
  | [] => none
  | t :: ts => some { t with certificateRefs := t.certificateRefs ++
      ((ts.flatMap (·.certificateRefs)).filter (· ∉ t.certificateRefs)).eraseDups }

theorem foldl_pool (t : ListenerTls) (us : List ListenerTls) :
    us.foldl pool t = { t with certificateRefs :=
      (us.flatMap (·.certificateRefs)).foldl addNew t.certificateRefs } := by
  induction us generalizing t with
  | nil => rfl
  | cons u us ih =>
    rw [List.foldl_cons, ih, List.flatMap_cons, List.foldl_append]
    rfl

theorem merged_cons (t : ListenerTls) (ts : List ListenerTls) :
    merged (t :: ts) = some (ts.foldl pool t) := by
  rw [foldl_pool, foldl_addNew_eq]
  rfl

end ListenerTls

namespace Listener

variable {l : Listener} {t : ListenerTls}

/-- Listeners of one name in one. It is the first of them, except for TLS. -/
structure IsMerge (ls : List Listener) (l : Listener) : Prop where
  face : ∃ first, ls.head? = some first ∧ l.face = first.face
  tls : l.tls = ListenerTls.merged (ls.filterMap (·.tls))

theorem tls_pool_of_none (plain : l.tls = none) (m : Listener) : (l.pool m).tls = m.tls := by
  unfold pool
  rw [plain]
  cases other : m.tls with
  | none => exact plain
  | some u => rfl

theorem tls_foldl_pool_of_some (own : l.tls = some t) (ms : List Listener) :
    (ms.foldl pool l).tls = some ((ms.filterMap (·.tls)).foldl ListenerTls.pool t) := by
  induction ms generalizing l t with
  | nil => exact own
  | cons m ms ih =>
    rw [List.foldl_cons]
    cases other : m.tls with
    | none =>
      have kept : (l.pool m).tls = some t := by
        unfold pool
        rw [own, other]
        exact own
      rw [ih kept, List.filterMap_cons_none other]
    | some u =>
      have pooled : (l.pool m).tls = some (t.pool u) := by
        unfold pool
        rw [own, other]
      rw [ih pooled, List.filterMap_cons_some other, List.foldl_cons]

theorem tls_foldl_pool (l : Listener) (ms : List Listener) :
    (ms.foldl pool l).tls = ListenerTls.merged ((l :: ms).filterMap (·.tls)) := by
  induction ms generalizing l with
  | nil =>
    cases own : l.tls with
    | none => rw [List.filterMap_cons_none own]; exact own
    | some t => rw [List.filterMap_cons_some own, ListenerTls.merged_cons]; exact own
  | cons m ms ih =>
    cases own : l.tls with
    | none =>
      -- The second listener decides about TLS as if it came first.
      have next := tls_pool_of_none own m
      rw [List.foldl_cons, ih, List.filterMap_cons_none own]
      simp only [List.filterMap_cons, next]
    | some t =>
      rw [tls_foldl_pool_of_some own, List.filterMap_cons_some own, ListenerTls.merged_cons]

theorem isMerge_of_pooled? {ls : List Listener} (pooled : pooled? ls = some l) : IsMerge ls l := by
  cases ls with
  | nil => cases pooled
  | cons first rest =>
    cases pooled
    exact ⟨⟨first, rfl, face_foldl_pool first rest⟩, tls_foldl_pool first rest⟩

theorem keys_addTo (ls : OrderedMap String Listener) (l : Listener) :
    (addTo ls l).keys = addNew ls.keys l.name := by
  unfold addTo
  cases ls.get? l.name with
  | none => exact OrderedMap.keys_insert ..
  | some first => exact OrderedMap.keys_insert ..

end Listener

/-- The listeners of some Gateways in one list. Every name is there once, in the order in which the
names come first. -/
structure IsUnion (gs : List Gateway) (ls : List Listener) : Prop where
  names : ls.map (·.name) = ((gs.flatMap (·.spec.listeners)).map (·.name)).eraseDups
  merges : ∀ l ∈ ls, Listener.IsMerge (listenersNamed gs l.name) l

theorem isUnion_mergeListeners (gs : List Gateway) : IsUnion gs (mergeListeners gs) where
  names := by
    rw [map_name_mergeListeners, ← foldl_addNew_nil, List.foldl_map]
    exact (List.foldl_hom OrderedMap.keys fun ls l => (Listener.keys_addTo ls l).symm).symm
  merges l mem := Listener.isMerge_of_pooled? (mem_mergeListeners_iff.mp mem)

/-! ## References -/

theorem ParentRef.isGateway_iff {ref : ParentRef} : ref.isGateway = true ↔
    ref.kind = none ∨ ref.kind = some "" ∨ ref.kind = some "Gateway" := by
  unfold isGateway
  cases ref.kind with
  | none => simp
  | some k => simp

namespace Resources

/-- The reference is one to a Gateway, which it is without a kind too, and that Gateway is there. -/
def Finds (r : Resources) (route : HttpRoute) (ref : ParentRef) : Prop :=
  (ref.kind = none ∨ ref.kind = some "" ∨ ref.kind = some "Gateway") ∧
    ref.target route.metadata.space ∈ r.gateways.keys

instance (r : Resources) (route : HttpRoute) (ref : ParentRef) : Decidable (r.Finds route ref) :=
  inferInstanceAs (Decidable (_ ∧ _))

/-- The Gateways that the routes under a namespace find, route by route and reference by
reference. -/
def found (r : Resources) (space : String) : List ObjectKey :=
  (r.routes.toList.filter (·.1.space = space)).flatMap fun e =>
    (e.2.spec.parentRefs.filter (r.Finds e.2)).map (·.target e.2.metadata.space)

variable {r : Resources} {route : HttpRoute} {ref : ParentRef}

theorem finds_iff : r.Finds route ref ↔
    (ref.isGateway && r.gateways.contains (ref.target route.metadata.space)) = true := by
  rw [Finds, Bool.and_eq_true, ParentRef.isGateway_iff, OrderedMap.contains_iff]

theorem gatewaysUsed_eq (r : Resources) (route : HttpRoute) :
    route.gatewaysUsed r.gateways.contains =
      (route.spec.parentRefs.filter (r.Finds route)).map (·.target route.metadata.space) := by
  unfold HttpRoute.gatewaysUsed
  rw [List.filter_map, List.filter_filter]
  congr 2
  funext ref
  rw [Bool.eq_iff_iff, decide_eq_true_eq, finds_iff, Function.comp_apply, Bool.and_comm]

theorem gatewaysUsedIn_eq (r : Resources) (space : String) :
    GatewayLayout.gatewaysUsedIn r space = (r.found space).eraseDups := by
  unfold GatewayLayout.gatewaysUsedIn found
  rw [foldl_addNew_nil, flatMap_filter]
  simp only [decide_eq_true_eq, gatewaysUsed_eq]

theorem contains_of_mem_found {space : String} {key : ObjectKey} (mem : key ∈ r.found space) :
    r.gateways.contains key = true := by
  obtain ⟨e, -, there⟩ := List.mem_flatMap.mp mem
  obtain ⟨ref, held, rfl⟩ := List.mem_map.mp there
  have finds := (List.mem_filter.mp held).2
  exact OrderedMap.contains_iff.mpr (of_decide_eq_true finds).2

end Resources

/-! ## Gateways -/

namespace GatewayLayout

variable {l : GatewayLayout} {r : Resources}

/-- The Gateway is the one that the layout has for a namespace: its listeners are merged from the
Gateways that the routes there find, from each once, in the order in which they find them. -/
def IsGatewayOf (l : GatewayLayout) (r : Resources) (space : String) (gateway : Gateway) : Prop :=
  ∃ old listeners, List.Forall₂ (fun key g => r.gateways.get? key = some g)
      (r.found space).eraseDups old ∧ IsUnion old listeners ∧
    gateway =
      { metadata :=
          { name := (l.gatewayFor space).name
            space := (l.gatewayFor space).space
            labels := some generatedLabels }
        spec := { className := l.className, listeners := listeners } }

theorem forall₂_filterMap_get? {keys : List ObjectKey}
    (present : ∀ key ∈ keys, r.gateways.contains key = true) :
    List.Forall₂ (fun key g => r.gateways.get? key = some g) keys
      (keys.filterMap r.gateways.get?) := by
  induction keys with
  | nil => exact .nil
  | cons key keys ih =>
    obtain ⟨g, there⟩ := Option.isSome_iff_exists.mp (present key (.head _))
    rw [List.filterMap_cons_some there]
    exact .cons there (ih fun k mem => present k (.tail _ mem))

theorem isGatewayOf_of_spaceGateway? {space : String} {key : ObjectKey} {gateway : Gateway}
    (made : l.spaceGateway? r space = some (key, gateway)) :
    key = l.gatewayFor space ∧ r.found space ≠ [] ∧ l.IsGatewayOf r space gateway := by
  obtain ⟨some, same⟩ := spaceGateway?_eq_some_iff.mp made
  cases same
  rw [r.gatewaysUsedIn_eq] at some
  refine ⟨rfl, ?_, _, _, forall₂_filterMap_get? ?_, isUnion_mergeListeners _, ?_⟩
  · intro none
    rw [none] at some
    exact some rfl
  · intro k mem
    exact Resources.contains_of_mem_found (List.mem_eraseDups.mp mem)
  · rw [← r.gatewaysUsedIn_eq]
    rfl

theorem exists_spaceGateway?_of_found {space : String} (finds : r.found space ≠ []) :
    ∃ gateway, l.spaceGateway? r space = some (l.gatewayFor space, gateway) ∧
      space ∈ routeSpaces r := by
  obtain ⟨key, mem⟩ := List.exists_mem_of_ne_nil _ finds
  have used : key ∈ gatewaysUsedIn r space := by
    rw [r.gatewaysUsedIn_eq]
    exact List.mem_eraseDups.mpr mem
  obtain ⟨refers, present⟩ := mem_gatewaysUsedIn_iff.mp used
  obtain ⟨gateway, made⟩ := exists_spaceGateway? (l := l) refers present
  exact ⟨gateway, made, mem_routeSpaces refers⟩

/-! ## All of it -/

/-- A reference that finds a Gateway gets the namespace and the name of the layout's one for the
namespace that the route is filed under. Nothing else about it changes, and nothing at all about
any other reference. -/
def Retargets (l : GatewayLayout) (r : Resources) (key : ObjectKey) (route : HttpRoute)
    (old new : ParentRef) : Prop :=
  (r.Finds route old → new = { old with
    space := some (l.gatewayFor key.space).space, name := (l.gatewayFor key.space).name }) ∧
  (¬ r.Finds route old → new = old)

/-- What the layout makes of some objects. -/
structure Replaces (l : GatewayLayout) (before after : Resources) : Prop where
  /-- The same routes are there, in the same order, and only their references differ. -/
  keys : after.routes.keys = before.routes.keys
  routes : ∀ key route, before.routes.get? key = some route → ∃ refs,
    after.routes.get? key =
      some { route with spec := { route.spec with parentRefs := refs } } ∧
    List.Forall₂ (l.Retargets before key route) route.spec.parentRefs refs
  /-- A shared Gateway is there already, so no Gateway is left. -/
  shared : l.mode = .centralized → after.gateways = .empty
  /-- The namespaces with a reference that finds a Gateway have one each, and there are no other
  ones. -/
  gateways : l.mode = .perNamespace →
    (∀ key, key ∈ after.gateways.keys ↔
      ∃ space, before.found space ≠ [] ∧ key = l.gatewayFor space) ∧
    ∀ space gateway, after.gateways.get? (l.gatewayFor space) = some gateway →
      l.IsGatewayOf before space gateway
  tlsPolicies : after.tlsPolicies = before.tlsPolicies
  grants : after.grants = before.grants
  extensions : after.extensions = before.extensions

theorem retargets_retarget (l : GatewayLayout) (r : Resources) (key : ObjectKey)
    (route : HttpRoute) (ref : ParentRef) : l.Retargets r key route ref
      (ref.retarget r.gateways.contains (l.gatewayFor key.space) route.metadata.space) :=
  ⟨fun finds => if_pos (Resources.finds_iff.mp finds),
    fun lost => if_neg fun found => lost (Resources.finds_iff.mpr found)⟩

theorem replaces_attach (l : GatewayLayout) (r : Resources) : l.Replaces r (l.attach r) where
  keys := OrderedMap.keys_mapValues _ _
  routes key route found := by
    refine ⟨route.spec.parentRefs.map fun ref =>
      ref.retarget r.gateways.contains (l.gatewayFor key.space) route.metadata.space, ?_, ?_⟩
    · rw [attach, OrderedMap.get?_mapValues, found]
      rfl
    · rw [List.forall₂_map_right_iff, List.forall₂_same]
      exact fun ref _ => l.retargets_retarget r key route ref
  shared mode := by
    rw [attach, gateways, mode]
  gateways mode := by
    refine ⟨fun key => ?_, fun space gateway found => ?_⟩
    · rw [OrderedMap.mem_keys_iff]
      constructor
      · rintro ⟨gateway, found⟩
        obtain ⟨space, -, made⟩ := (get?_gateways_iff mode).mp found
        obtain ⟨same, finds, -⟩ := isGatewayOf_of_spaceGateway? made
        exact ⟨space, finds, same⟩
      · rintro ⟨space, finds, rfl⟩
        obtain ⟨gateway, made, listed⟩ := exists_spaceGateway?_of_found (l := l) finds
        exact ⟨gateway, (get?_gateways_iff mode).mpr ⟨space, listed, made⟩⟩
    · obtain ⟨home, -, made⟩ := (get?_gateways_iff mode).mp found
      obtain ⟨same, -, own⟩ := isGatewayOf_of_spaceGateway? made
      rw [gatewayFor_injective mode same]
      exact own
  tlsPolicies := rfl
  grants := rfl
  extensions := rfl

end GatewayLayout

end GatewayMigration
