import GatewayMigration.Gateway.Provenance
import GatewayMigration.Lowering.Group
import GatewayMigration.Topology.Layout
/-!
# Attaching routes

Lowering makes a Gateway for every namespace and class. Attaching puts the Gateways of the layout in
their place: routes that referred to a Gateway that was made refer to the layout's one instead. The
Gateway of a namespace has the listeners of all Gateways that its routes referred to, each name once
(`nodup_name_mergeListeners`).
-/

namespace GatewayMigration

namespace ParentRef

/-- A reference without a kind is one to a Gateway. -/
def isGateway (r : ParentRef) : Bool :=
  match r.kind with
  | some k => k.isEmpty || k == "Gateway"
  | none => true

/-- What a reference of a route means; `home` is the namespace of the route. -/
def target (home : String) (r : ParentRef) : ObjectKey :=
  match r.space with
  | some s => ⟨if s.isEmpty then home else s, r.name⟩
  | none => ⟨home, r.name⟩

/-- Refer to `new` instead of a Gateway that is replaced. -/
def retarget (replaced : ObjectKey → Bool) (new : ObjectKey) (home : String) (r : ParentRef) :
    ParentRef :=
  if r.isGateway && replaced (r.target home) then
    { r with space := some new.space, name := new.name }
  else r

end ParentRef

namespace HttpRoute

/-- What the references of a route mean, whatever their kind. -/
def parentKeys (r : HttpRoute) : List ObjectKey :=
  r.spec.parentRefs.map (·.target r.metadata.space)

/-- The Gateways among `present` that a route refers to. -/
def gatewaysUsed (present : ObjectKey → Bool) (r : HttpRoute) : List ObjectKey :=
  ((r.spec.parentRefs.filter (·.isGateway)).map (·.target r.metadata.space)).filter present

def retargetRefs (replaced : ObjectKey → Bool) (new : ObjectKey) (r : HttpRoute) : HttpRoute :=
  { r with spec := { r.spec with
      parentRefs := r.spec.parentRefs.map (·.retarget replaced new r.metadata.space) } }

end HttpRoute

/-! ## Merging listeners -/

namespace ListenerTls

/-- The certificates of both, each once. -/
def pool (t u : ListenerTls) : ListenerTls :=
  { t with certificateRefs := u.certificateRefs.foldl addNew t.certificateRefs }

end ListenerTls

namespace Listener

/-- A listener with the certificates of another one of its name. -/
def pool (l m : Listener) : Listener :=
  match l.tls, m.tls with
  | _, none => l
  | none, some u => { l with tls := some u }
  | some t, some u => { l with tls := some (t.pool u) }

def addTo (listeners : OrderedMap String Listener) (l : Listener) : OrderedMap String Listener :=
  match listeners.get? l.name with
  | none => listeners.insert l.name l
  | some first => listeners.insert l.name (first.pool l)

end Listener

/-- One listener for each name. The first one decides about everything but the certificates. -/
def mergeListeners (gs : List Gateway) : List Listener :=
  ((gs.flatMap fun g => g.spec.listeners).foldl Listener.addTo .empty).values

namespace Listener

theorem name_pool (l m : Listener) : (l.pool m).name = l.name := by
  unfold pool
  split <;> rfl

/-- Every listener stands under its own name. -/
def Filed (ls : OrderedMap String Listener) : Prop := ∀ e ∈ ls.toList, e.2.name = e.1

theorem filed_insert {ls : OrderedMap String Listener} (filed : Filed ls) {n : String}
    {l : Listener} (named : l.name = n) : Filed (ls.insert n l) := by
  intro e he
  have found := OrderedMap.mem_toList.mp he
  rw [OrderedMap.get?_insert] at found
  split at found
  · rename_i same
    rw [← Option.some.inj found, ← same]
    exact named
  · exact filed e (OrderedMap.mem_toList.mpr found)

theorem filed_addTo {ls : OrderedMap String Listener} (filed : Filed ls) (l : Listener) :
    Filed (addTo ls l) := by
  unfold addTo
  split
  · exact filed_insert filed rfl
  · rename_i first found
    have named : first.name = l.name := filed (l.name, first) (OrderedMap.mem_toList.mpr found)
    exact filed_insert filed ((name_pool first l).trans named)

theorem filed_foldl_addTo {ls : OrderedMap String Listener} (filed : Filed ls)
    (more : List Listener) : Filed (more.foldl addTo ls) := by
  induction more generalizing ls with
  | nil => exact filed
  | cons l more ih => exact ih (filed_addTo filed l)

end Listener

/-- Merged listeners stand under their names, in the order of the names. -/
theorem map_name_mergeListeners (gs : List Gateway) : (mergeListeners gs).map (·.name) =
    ((gs.flatMap fun g => g.spec.listeners).foldl Listener.addTo .empty).keys := by
  have none_filed : Listener.Filed .empty := by intro e he; cases he
  have filed := Listener.filed_foldl_addTo none_filed (gs.flatMap fun g => g.spec.listeners)
  simp only [mergeListeners, OrderedMap.values, List.map_map]
  exact List.map_congr_left filed

/-- Merged listeners have different names. -/
theorem nodup_name_mergeListeners (gs : List Gateway) :
    ((mergeListeners gs).map (·.name)).Nodup := by
  rw [map_name_mergeListeners]
  exact OrderedMap.keys_nodup _

/-! ## Layouts -/

namespace GatewayLayout

/-- The namespaces of routes, in the order of the routes. -/
def routeSpaces (r : Resources) : List String := (r.routes.keys.map (·.space)).foldl addNew []

/-- The Gateways that the routes of a namespace refer to, in the order of their first use. -/
def gatewaysUsedIn (r : Resources) (space : String) : List ObjectKey :=
  (r.routes.toList.flatMap fun e =>
    if e.1.space = space then e.2.gatewaysUsed r.gateways.contains else []).foldl addNew []

/-- The Gateway of a namespace; a namespace whose routes refer to no Gateway gets none. -/
def spaceGateway? (l : GatewayLayout) (r : Resources) (space : String) :
    Option (ObjectKey × Gateway) :=
  let used := gatewaysUsedIn r space
  let key := l.gatewayFor space
  if used.isEmpty then none
  else some (key,
    { metadata := { name := key.name, space := key.space, labels := some generatedLabels }
      spec :=
        { className := l.className
          listeners := mergeListeners (used.filterMap r.gateways.get?) } })

def gateways (l : GatewayLayout) (r : Resources) : Catalog Gateway :=
  match l.mode with
  | .centralized => .empty
  | .perNamespace => .ofList ((routeSpaces r).filterMap (l.spaceGateway? r))

/-- Put the Gateways of the layout in the place of the present ones. -/
def attach (l : GatewayLayout) (r : Resources) : Resources :=
  { r with
    gateways := l.gateways r
    routes := r.routes.mapValues fun k route =>
      route.retargetRefs r.gateways.contains (l.gatewayFor k.space) }

end GatewayLayout

end GatewayMigration
