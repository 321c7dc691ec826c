import GatewayMigration.Proofs.Topology.Output
import Mathlib.Data.List.Nodup
/-!
# Listeners of other namespaces

With a Gateway for each namespace, the Gateway of a namespace has the listeners of all lowered
Gateways that its routes refer to. Redirects refer to it before it is made, and a Gateway that was
lowered for another namespace may be under its key until then. Main statements:

* `stems_lower`: the listeners of a lowered Gateway come from the Ingresses of its namespace;
* `exists_split_gatewaysUsedIn`: beside the lowered Gateways of a namespace, redirects use what is
  under the key of its Gateway;
* `isolated_iff`: the Gateway of a namespace has only listeners that come from there, exactly if
  what its redirects use has nothing else either.
-/

namespace GatewayMigration

namespace Listener

/-- An Ingress of the namespace has the host that the listener is named after and is for. -/
def HasHostOf (is : List Ingress) (space : String) (l : Listener) : Prop :=
  ∃ i ∈ is, i.metadata.space = space ∧ ∃ host ∈ i.hosts,
    (l.name = listenerName host "http" ∨ l.name = listenerName host "https") ∧
      l.hostname = hostname? host

/-- Every certificate is one that a TLS block of an Ingress of the namespace gives to a host that
the listener is named after. -/
def HasCertificatesOf (is : List Ingress) (space : String) (l : Listener) : Prop :=
  ∀ c ∈ l.certificates, ∃ i ∈ is, i.metadata.space = space ∧ ∃ t ∈ i.spec.tls, ∃ host secret,
    RuleGroup.secretFor? host t = some secret ∧ l.name = listenerName host "https" ∧
      c = { name := secret }

/-- All of a listener comes from the Ingresses of the namespace. -/
structure StemsFrom (is : List Ingress) (space : String) (l : Listener) : Prop where
  host : l.HasHostOf is space
  certificates : l.HasCertificatesOf is space

theorem HasHostOf.of_face {is : List Ingress} {space : String} {l m : Listener}
    (has : m.HasHostOf is space) (same : l.face = m.face) : l.HasHostOf is space := by
  have hostname : l.hostname = m.hostname := (congrArg Listener.hostname same : _)
  unfold HasHostOf
  rw [name_of_face same, hostname]
  exact has

end Listener

/-- A route of the namespace refers to one listener of a Gateway. -/
def Resources.PicksListener (r : Resources) (space : String) : Prop :=
  ∃ k route, r.routes.get? k = some route ∧ k.space = space ∧
    ∃ ref ∈ route.spec.parentRefs, ref.sectionName ≠ none

namespace IngressNginx

variable {l : GatewayLayout} {is : List Ingress} {ports : Catalog PortLookup} {r : Resources}

/-! ## Lowered Gateways -/

theorem stems_groupListeners {j : ObjectKey} {g : RuleGroup}
    (kept : (ruleGroups is).get? j = some g) {listener : Listener}
    (asked : listener ∈ groupListeners g) : listener.StemsFrom is g.space := by
  have stems := stems_ruleGroups kept
  obtain ⟨i, mem, same, named⟩ := stems.host
  have space : i.metadata.space = g.space := congrArg GroupKey.space same
  rcases mem_groupListeners_iff.mp asked with rfl | ⟨-, rfl⟩
  · exact ⟨⟨i, mem, space, g.host, named, .inl rfl, rfl⟩, nofun⟩
  · refine ⟨⟨i, mem, space, g.host, named, .inr rfl, rfl⟩, fun c has => ?_⟩
    obtain ⟨secret, there, rfl⟩ := List.mem_map.mp has
    obtain ⟨i, mem, same, t, block, given⟩ := stems.secrets secret there
    exact ⟨i, mem, congrArg GroupKey.space same, t, block, g.host, secret, given, rfl, rfl⟩

theorem stems_lower {k : ObjectKey} {gateway : Gateway}
    (found : (lower is ports).1.gateways.get? k = some gateway) {listener : Listener}
    (mem : listener ∈ gateway.spec.listeners) : listener.StemsFrom is k.space := by
  obtain ⟨j, g, kept, rfl, asked⟩ := group_of_mem_listeners_lower found mem
  exact stems_groupListeners kept asked

/-- The listener was lowered for the namespace. -/
def IsOwn (is : List Ingress) (ports : Catalog PortLookup) (space : String)
    (listener : Listener) : Prop :=
  ∃ k gateway, k.space = space ∧ (lower is ports).1.gateways.get? k = some gateway ∧
    listener ∈ gateway.spec.listeners

def OwnsName (is : List Ingress) (ports : Catalog PortLookup) (space name : String) : Prop :=
  ∃ listener, IsOwn is ports space listener ∧ listener.name = name

/-- The listener brings a namespace nothing that is not its own. Under a name that is taken there,
only its certificates count. -/
structure Harmless (is : List Ingress) (ports : Catalog PortLookup) (space : String)
    (listener : Listener) : Prop where
  host : listener.HasHostOf is space ∨ OwnsName is ports space listener.name
  certificates : listener.HasCertificatesOf is space

theorem IsOwn.stems {space : String} {listener : Listener} (own : IsOwn is ports space listener) :
    listener.StemsFrom is space := by
  obtain ⟨k, gateway, rfl, found, mem⟩ := own
  exact stems_lower found mem

/-! ## The Gateways that are merged -/

variable (l is ports) in
/-- The routes of a namespace use its own lowered Gateways first. Redirects add nothing but what is
under the key of the Gateway that the layout has for them. -/
theorem exists_split_gatewaysUsedIn (mode : l.mode = .perNamespace) (space : String) :
    ∃ own rest, GatewayLayout.gatewaysUsedIn (unattached l is ports) space = own ++ rest ∧
      (∀ k ∈ own, k.space = space) ∧ ∀ k ∈ rest, k = l.gatewayFor space := by
  obtain ⟨redirects, routes, made⟩ := OrderedMap.toList_foldl_insertNew
    (annotate is ports).state.plan.resources.routes
    ((annotate is ports).state.plan.routes.toList.flatMap (Emission.redirectsOf l))
  unfold GatewayLayout.gatewaysUsedIn
  rw [routes_unattached, routes, List.flatMap_append, List.foldl_append]
  obtain ⟨rest, split, sub⟩ := foldl_addNew_eq_append (α := ObjectKey) _ _
  -- Redirects come after the routes that were lowered, and so do the Gateways that they refer to.
  refine ⟨_, rest, split, fun k used => ?_, fun k used => ?_⟩
  · simp only [mem_foldl_addNew, List.not_mem_nil, false_or, List.mem_flatMap,
      List.mem_ite_nil_right, GatewayLayout.mem_gatewaysUsed_iff] at used
    obtain ⟨⟨j, route⟩, there, rfl, ⟨ref, mem, -, rfl⟩, -⟩ := used
    have found := OrderedMap.mem_toList.mp there
    rw [Plan.resources, OrderedMap.get?_mapValues] at found
    obtain ⟨p, planned, rfl⟩ := Option.map_eq_some_iff.mp found
    obtain ⟨g, -, -, home, parents, -⟩ := route_of_planned planned
    rw [parents, List.mem_singleton] at mem
    rw [mem]
    exact home
  · have used := sub k used
    simp only [List.mem_flatMap, List.mem_ite_nil_right, GatewayLayout.mem_gatewaysUsed_iff] at used
    obtain ⟨⟨j, route⟩, there, rfl, ⟨ref, mem, -, rfl⟩, -⟩ := used
    obtain ⟨planned, -, listed⟩ := List.mem_flatMap.mp (made _ there)
    obtain ⟨-, host, -, built, filed⟩ := Emission.mem_redirectsOf_iff.mp listed
    dsimp only at built filed
    rw [built, parentRefs_build, List.mem_singleton] at mem
    subst built filed mem
    exact GatewayLayout.target_refFor (GatewayLayout.space_gatewayFor_ne mode _) _ _

/-- The Gateway that was lowered under the key of the one that a namespace gets, and that a redirect
of this namespace is taken to be for. -/
def Adopts (l : GatewayLayout) (is : List Ingress) (ports : Catalog PortLookup) (r : Resources)
    (space : String) (foreign : Gateway) : Prop :=
  r.PicksListener space ∧
    (lower is ports).1.gateways.get? (l.gatewayFor space) = some foreign

/-- Only redirects refer to a listener, and from the start it is one of the layout's Gateway. -/
theorem Migrates.picksListener_iff (mode : l.mode = .perNamespace) (m : Migrates l is ports r)
    {space : String} :
    r.PicksListener space ↔ (unattached l is ports).Refers space (l.gatewayFor space) := by
  have named := GatewayLayout.space_gatewayFor_ne mode space
  constructor
  · rintro ⟨k, route, found, rfl, ref, mem, picks⟩
    rw [m.eq_attach, GatewayLayout.attach, OrderedMap.get?_mapValues] at found
    obtain ⟨old, there, rfl⟩ := Option.map_eq_some_iff.mp found
    obtain ⟨before, held, rfl⟩ := List.mem_map.mp mem
    rw [ParentRef.sectionName_retarget] at picks
    obtain ⟨-, j, g, -, -, rfl | rfl⟩ := ref_of_unattached there held
    · exact absurd rfl picks
    · exact ⟨k, old, there, rfl, _, held, rfl, GatewayLayout.target_refFor named _ _⟩
  · rintro ⟨k, old, there, rfl, ref, mem, -, target⟩
    refine ⟨k, old.retargetRefs (unattached l is ports).gateways.contains (l.gatewayFor k.space),
      ?_, rfl, _, List.mem_map_of_mem mem, ?_⟩
    · rw [m.eq_attach, GatewayLayout.attach, OrderedMap.get?_mapValues, there]
      rfl
    · rw [ParentRef.sectionName_retarget]
      obtain ⟨home, j, g, -, space, rfl | rfl⟩ := ref_of_unattached there mem
      · -- What was lowered for the namespace is not under the key of the layout.
        rw [home, ← space, target_loweredRef] at target
        have own : (l.gatewayFor g.space).space = g.space := (congrArg ObjectKey.space target).symm
        exact absurd own (GatewayLayout.space_gatewayFor_ne_self mode g.space)
      · exact Option.some_ne_none _

/-- What is merged for a namespace is its own, or what redirects found in the place of its
Gateway. -/
theorem Migrates.own_or_adopted (mode : l.mode = .perNamespace) (m : Migrates l is ports r)
    {space name : String} {listener : Listener}
    (mem : listener ∈
      listenersNamed (GatewayLayout.usedGateways (unattached l is ports) space) name) :
    IsOwn is ports space listener ∨
      ∃ foreign, Adopts l is ports r space foreign ∧ listener ∈ foreign.spec.listeners := by
  obtain ⟨-, gateway, used, inside⟩ := mem_listenersNamed_iff.mp mem
  obtain ⟨key, refers, found⟩ := GatewayLayout.mem_usedGateways_iff.mp used
  by_cases layout : key = l.gatewayFor space
  · subst layout
    rw [gateways_unattached] at found
    exact .inr ⟨gateway, ⟨(m.picksListener_iff mode).mpr refers, found⟩, inside⟩
  · have present := OrderedMap.contains_of_get? found
    have listed := GatewayLayout.mem_gatewaysUsedIn_iff.mpr ⟨refers, present⟩
    obtain ⟨own, rest, split, here, others⟩ := exists_split_gatewaysUsedIn l is ports mode space
    rw [split, List.mem_append] at listed
    have lowered := listed.resolve_right fun redirected => layout (others key redirected)
    rw [gateways_unattached] at found
    exact .inl ⟨key, gateway, here key lowered, found, inside⟩

/-- If a name was lowered for the namespace, the first listener that is merged under it was. -/
theorem exists_own_first (mode : l.mode = .perNamespace) {space name : String}
    (owned : OwnsName is ports space name) :
    ∃ first rest, listenersNamed (GatewayLayout.usedGateways (unattached l is ports) space) name =
      first :: rest ∧ IsOwn is ports space first := by
  obtain ⟨listener, ⟨k, gateway, rfl, found, inside⟩, rfl⟩ := owned
  obtain ⟨own, rest, split, here, others⟩ := exists_split_gatewaysUsedIn l is ports mode k.space
  obtain ⟨j, g, kept, rfl, -⟩ := group_of_mem_listeners_lower found inside
  rw [← gateways_unattached (l := l)] at found
  have present := OrderedMap.contains_of_get? found
  have listed := GatewayLayout.mem_gatewaysUsedIn_iff.mpr ⟨refers_lowered l ports kept, present⟩
  have home : (groupGatewayKey g).space = g.space := rfl
  rw [home] at split here others ⊢
  rw [split, List.mem_append] at listed
  have lowered := listed.resolve_right fun redirected =>
    GatewayLayout.space_gatewayFor_ne_self mode g.space
      (congrArg ObjectKey.space (others _ redirected)).symm
  unfold GatewayLayout.usedGateways
  rw [split, List.filterMap_append, listenersNamed_append]
  -- The listener is somewhere in the first part, so this part is not empty.
  have mem : listener ∈ listenersNamed
      (own.filterMap (unattached l is ports).gateways.get?) listener.name :=
    mem_listenersNamed_iff.mpr
      ⟨rfl, gateway, List.mem_filterMap.mpr ⟨_, lowered, found⟩, inside⟩
  obtain ⟨first, tail, named⟩ := List.exists_cons_of_ne_nil (List.ne_nil_of_mem mem)
  refine ⟨first, _, congrArg (· ++ _) named, ?_⟩
  obtain ⟨-, source, there, held⟩ := mem_listenersNamed_iff.mp (named ▸ List.mem_cons_self)
  obtain ⟨key, among, filed⟩ := List.mem_filterMap.mp there
  rw [gateways_unattached] at filed
  exact ⟨key, source, here key among, filed, held⟩

/-! ## What the Gateway of a namespace listens for -/

section Isolation
variable {space : String} {gateway : Gateway} (mode : l.mode = .perNamespace)
  (m : Migrates l is ports r) (found : r.gateways.get? (l.gatewayFor space) = some gateway)

include mode m found

theorem listeners_output : gateway.spec.listeners =
    mergeListeners (GatewayLayout.usedGateways (unattached l is ports) space) := by
  obtain ⟨home, -, made⟩ := (m.get?_gateways mode).mp found
  obtain ⟨same, -, listeners, -⟩ := GatewayLayout.eq_of_spaceGateway? made
  rw [GatewayLayout.gatewayFor_injective mode same]
  exact listeners

/-- If the adopted listeners are the namespace's, all are. -/
theorem stems_of_adopted
    (adopted : ∀ foreign, Adopts l is ports r space foreign → ∀ listener ∈ foreign.spec.listeners,
      Harmless is ports space listener)
    {listener : Listener} (mem : listener ∈ gateway.spec.listeners) :
    listener.StemsFrom is space := by
  rw [listeners_output mode m found] at mem
  have pooled := mem_mergeListeners_iff.mp mem
  constructor
  · -- The first listener of the name decides about the host.
    by_cases owned : OwnsName is ports space listener.name
    · obtain ⟨first, rest, split, own⟩ := exists_own_first (l := l) mode owned
      rw [split] at pooled
      obtain ⟨_, _, same, face⟩ := Listener.face_of_pooled? pooled
      obtain ⟨rfl, rfl⟩ := List.cons.inj same
      exact own.stems.host.of_face face
    · obtain ⟨first, before, face⟩ := face_of_mem_mergeListeners mem
      have host : first.HasHostOf is space := by
        rcases m.own_or_adopted mode before with own | ⟨foreign, adopts, inside⟩
        · exact own.stems.host
        · rw [Listener.name_of_face face] at owned
          exact (adopted foreign adopts first inside).host.resolve_right owned
      exact host.of_face face
  · intro c has
    obtain ⟨part, before, has⟩ := (Listener.mem_certificates_of_pooled? pooled).mp has
    have certificates : part.HasCertificatesOf is space := by
      rcases m.own_or_adopted mode before with own | ⟨foreign, adopts, inside⟩
      · exact own.stems.certificates
      · exact (adopted foreign adopts part inside).certificates
    have name := (mem_listenersNamed_iff.mp before).1
    rw [← name]
    exact certificates c has

/-- The listeners of an adopted Gateway get there, and under names that are taken their certificates
do. -/
theorem adopted_of_stems
    (stems : ∀ listener ∈ gateway.spec.listeners, listener.StemsFrom is space)
    {foreign : Gateway} (adopts : Adopts l is ports r space foreign) {listener : Listener}
    (inside : listener ∈ foreign.spec.listeners) : Harmless is ports space listener := by
  have refers := (m.picksListener_iff mode).mp adopts.1
  have there : (unattached l is ports).gateways.get? (l.gatewayFor space) = some foreign := by
    rw [gateways_unattached]
    exact adopts.2
  have part := mem_listenersNamed_iff.mpr
    ⟨rfl, foreign, GatewayLayout.mem_usedGateways_iff.mpr ⟨_, refers, there⟩, inside⟩
  obtain ⟨whole, mem, name⟩ := exists_mem_mergeListeners part
  have stem := stems whole (by rwa [listeners_output mode m found])
  constructor
  · obtain ⟨first, before, face⟩ := face_of_mem_mergeListeners mem
    rcases m.own_or_adopted mode before with own | ⟨same, again, held⟩
    · exact .inr ⟨first, own, (Listener.name_of_face face).symm.trans name⟩
    · obtain rfl : foreign = same := Option.some.inj (adopts.2.symm.trans again.2)
      have names : listener.name = first.name :=
        name.symm.trans (Listener.name_of_face face)
      have alone : listener = first :=
        List.inj_on_of_nodup_map (nodup_name_lower adopts.2) inside held names
      rw [alone]
      exact .inl (stem.host.of_face face.symm)
  · intro c has
    rw [← name]
    have pooled := mem_mergeListeners_iff.mp mem
    rw [name] at pooled
    exact stem.certificates c
      ((Listener.mem_certificates_of_pooled? pooled).mpr ⟨listener, part, has⟩)

/-- No listener of another namespace gets there as long as no Ingress is in a namespace and of a
class that both have the name of the Gateway. -/
theorem stems_of_apart
    (apart : ∀ i ∈ is, ⟨i.metadata.space, gatewayNameFor i.className⟩ ≠ l.gatewayFor space)
    {listener : Listener} (mem : listener ∈ gateway.spec.listeners) :
    listener.StemsFrom is space := by
  refine stems_of_adopted mode m found ?_ mem
  intro foreign adopts listener inside
  obtain ⟨j, g, kept, key, -⟩ := group_of_mem_listeners_lower adopts.2 inside
  obtain ⟨i, there, same, -⟩ := (stems_ruleGroups kept).host
  have taken : ⟨i.metadata.space, gatewayNameFor i.className⟩ = groupGatewayKey g := by
    rw [groupGatewayKey, show i.metadata.space = g.space from congrArg GroupKey.space same,
      show i.className = g.ingressClass from congrArg GroupKey.ingressClass same]
  exact absurd (taken.trans key) (apart i there)

/-- The Gateway of a namespace has only listeners of the namespace's Ingresses, exactly if there was
nothing harmful where its redirects lead before there is a Gateway for the namespace. -/
theorem isolated_iff :
    (∀ listener ∈ gateway.spec.listeners, listener.StemsFrom is space) ↔
      ∀ foreign, Adopts l is ports r space foreign → ∀ listener ∈ foreign.spec.listeners,
        Harmless is ports space listener := by
  constructor
  · intro stems foreign adopts listener inside
    exact adopted_of_stems mode m found stems adopts inside
  · intro adopted listener mem
    exact stems_of_adopted mode m found adopted mem

end Isolation

/-- Two namespaces, of which the second has the name that the Gateway of the first gets, and a class
of that name too. -/
def coincident : List Ingress :=
  let first := Ingress.plain ⟨"a", "web"⟩ [("x.io", "one")] []
    (.ofList [(AnnotationKey.sslRedirect, "true")])
  let second := Ingress.plain ⟨"a-gateway", "web"⟩ [("y.io", "two")]
    [{ hosts := ["y.io"], secretName := some "other" }]
  [first, second].map fun i => { i with spec := { i.spec with className := some "a-gateway" } }

theorem migrates_coincident :
    Migrates { mode := .perNamespace } coincident .empty
      (emit { mode := .perNamespace } (annotate coincident .empty).state.plan).state.resources where
  planned := by decide +kernel
  emitted := by decide +kernel
  output := rfl

/-- The second namespace keeps its listeners to itself. -/
theorem coincident_second_isolated :
    ∃ r gateway, r.gateways.get? ⟨"a-gateway-gateway", "a-gateway-gateway"⟩ = some gateway ∧
      Migrates { mode := .perNamespace } coincident .empty r ∧
      ∀ listener ∈ gateway.spec.listeners, listener.StemsFrom coincident "a-gateway" := by
  have key : (⟨"a-gateway-gateway", "a-gateway-gateway"⟩ : ObjectKey) =
      GatewayLayout.gatewayFor { mode := .perNamespace } "a-gateway" := by decide
  have there : (emit { mode := .perNamespace }
      (annotate coincident .empty).state.plan).state.resources.gateways.contains
        (GatewayLayout.gatewayFor { mode := .perNamespace } "a-gateway") = true := by
    rw [migrates_coincident.gateways_eq]
    decide +kernel
  have free : (lower coincident .empty).1.gateways.contains
      (GatewayLayout.gatewayFor { mode := .perNamespace } "a-gateway") = false := by
    decide +kernel
  obtain ⟨gateway, found⟩ := Option.isSome_iff_exists.mp there
  rw [key]
  refine ⟨_, gateway, found, migrates_coincident,
    (isolated_iff rfl migrates_coincident found).mpr ?_⟩
  rintro foreign ⟨-, lowered⟩
  rw [OrderedMap.contains_of_get? lowered] at free
  cases free

/-- The Gateway of the first has the listeners and the certificate of the second. -/
theorem coincident_first_shared :
    ∃ r gateway, Migrates { mode := .perNamespace } coincident .empty r ∧
      r.gateways.get? ⟨"a-gateway", "a-gateway"⟩ = some gateway ∧
      ∃ listener ∈ gateway.spec.listeners,
        ¬ listener.HasHostOf coincident "a" ∧ ¬ listener.HasCertificatesOf coincident "a" := by
  have output : ∃ e ∈ (emit { mode := .perNamespace }
        (annotate coincident .empty).state.plan).state.resources.gateways.toList,
      e.1 = ⟨"a-gateway", "a-gateway"⟩ ∧ ∃ listener ∈ e.2.spec.listeners,
        listener.hostname = some "y.io" ∧ { name := "other" } ∈ listener.certificates := by
    rw [migrates_coincident.gateways_eq]
    decide +kernel
  have hosts : ∀ i ∈ coincident, i.metadata.space = "a" → i.hosts = ["x.io"] := by decide +kernel
  have blocks : ∀ i ∈ coincident, i.metadata.space = "a" → i.spec.tls = [] := by decide +kernel
  obtain ⟨⟨_, gateway⟩, found, rfl, listener, mem, hostname, has⟩ := output
  refine ⟨_, gateway, migrates_coincident, OrderedMap.mem_toList.mp found, listener, mem, ?_, ?_⟩
  · rintro ⟨i, there, space, host, named, -, own⟩
    rw [hosts i there space, List.mem_singleton] at named
    rw [hostname, named] at own
    exact absurd own (by decide)
  · intro certificates
    obtain ⟨i, there, space, t, block, -⟩ := certificates _ has
    rw [blocks i there space] at block
    cases block

end IngressNginx

end GatewayMigration
