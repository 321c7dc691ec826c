import GatewayMigration.Proofs.Topology.Listeners
/-!
# What attached routes refer to

With a Gateway for each namespace, attaching replaces the Gateways that routes referred to. Main
statements:

* `refers_attach_iff`: references to Gateways that were there lead to the namespace's Gateway now,
  and all other ones lead where they led;
* `spaceGateway?_eq_some_iff`: a namespace has a Gateway exactly if its routes use one;
* `certifies_attach_iff`: the certificates of a namespace's Gateway are those of the Gateways it
  stands for, but what they mean without a namespace depends on where the Gateway is.
-/

namespace GatewayMigration

/-- Entries of which no two with one key differ are all in the map that is made of them. -/
theorem OrderedMap.get?_ofList_iff_mem {κ α : Type} [DecidableEq κ] {es : List (κ × α)} {k : κ}
    (functional : ∀ a b, (k, a) ∈ es → (k, b) ∈ es → a = b) {a : α} :
    (ofList es).get? k = some a ↔ (k, a) ∈ es := by
  rw [get?_ofList, lookup_eq_some_iff_mem, List.mem_reverse]
  intro a b first second
  exact functional a b (List.mem_reverse.mp first) (List.mem_reverse.mp second)

/-- The secret that a reference means; `home` is the namespace of the Gateway. -/
def SecretRef.secretIn (home : String) (c : SecretRef) : ObjectKey := ⟨c.space.getD home, c.name⟩

namespace Resources

/-- A route of the namespace refers to a Gateway. -/
def Refers (r : Resources) (space : String) (gateway : ObjectKey) : Prop :=
  ∃ k route, r.routes.get? k = some route ∧ k.space = space ∧
    ∃ ref ∈ route.spec.parentRefs, ref.isGateway = true ∧
      ref.target route.metadata.space = gateway

/-- A Gateway that the routes of the namespace refer to has a certificate from the secret. -/
def Certifies (r : Resources) (space : String) (secret : ObjectKey) : Prop :=
  ∃ k g c, r.Refers space k ∧ r.gateways.get? k = some g ∧ g.Has c ∧
    c.secretIn g.metadata.space = secret

end Resources

/-! ## References -/

namespace ParentRef

/-- A namespace that is given, and is not empty, is meant. -/
theorem target_of_space {ref : ParentRef} {space : String} (given : ref.space = some space)
    (named : space ≠ "") (home : String) : ref.target home = ⟨space, ref.name⟩ := by
  have filled : ¬ space.isEmpty = true := by
    rw [String.isEmpty_iff]
    exact named
  unfold target
  rw [given]
  dsimp only
  rw [if_neg filled]

/-- The reference gives the namespace and the name of the Gateway, as one that was changed does. -/
def Names (ref : ParentRef) (gateway : ObjectKey) : Prop :=
  ref.space = some gateway.space ∧ ref.name = gateway.name

theorem retarget_of_names {ref : ParentRef} {new : ObjectKey} (names : ref.Names new)
    (replaced : ObjectKey → Bool) (home : String) : ref.retarget replaced new home = ref := by
  obtain ⟨space, name⟩ := names
  unfold retarget
  split
  · rw [← space, ← name]
  · rfl

theorem target_retarget {replaced : ObjectKey → Bool} {new : ObjectKey} (named : new.space ≠ "")
    (home : String) {ref : ParentRef} (gateway : ref.isGateway = true) :
    (ref.retarget replaced new home).target home =
      if replaced (ref.target home) then new else ref.target home := by
  unfold retarget
  rw [gateway, Bool.true_and]
  split
  · exact target_of_space rfl named home
  · rfl

theorem isGateway_retarget (replaced : ObjectKey → Bool) (new : ObjectKey) (home : String)
    (ref : ParentRef) : (ref.retarget replaced new home).isGateway = ref.isGateway := by
  unfold retarget
  split
  · rfl
  · rfl

theorem sectionName_retarget (replaced : ObjectKey → Bool) (new : ObjectKey) (home : String)
    (ref : ParentRef) : (ref.retarget replaced new home).sectionName = ref.sectionName := by
  unfold retarget
  split
  · rfl
  · rfl

end ParentRef

namespace GatewayLayout

variable {l : GatewayLayout} {r : Resources}

theorem gatewayFor_perNamespace (mode : l.mode = .perNamespace) (space : String) :
    l.gatewayFor space = ⟨space ++ "-gateway", space ++ "-gateway"⟩ := by
  simp only [gatewayFor, mode]

theorem gatewayFor_injective (mode : l.mode = .perNamespace) {a b : String}
    (same : l.gatewayFor a = l.gatewayFor b) : a = b := by
  rw [gatewayFor_perNamespace mode, gatewayFor_perNamespace mode] at same
  exact (String.append_left_inj _).mp (ObjectKey.mk.inj same).1

theorem space_gatewayFor_ne (mode : l.mode = .perNamespace) (space : String) :
    (l.gatewayFor space).space ≠ "" := by
  rw [gatewayFor_perNamespace mode]
  intro empty
  have : ("-gateway" : String) = "" := (String.append_eq_empty_iff.mp empty).2
  exact absurd this (by decide)

theorem space_gatewayFor_ne_self (mode : l.mode = .perNamespace) (space : String) :
    (l.gatewayFor space).space ≠ space := by
  rw [gatewayFor_perNamespace mode]
  intro same
  have longer := congrArg String.length same
  simp at longer

theorem refers_attach_iff (mode : l.mode = .perNamespace) {space : String} {gateway : ObjectKey} :
    (l.attach r).Refers space gateway ↔ ∃ old, r.Refers space old ∧
      gateway = if r.gateways.contains old then l.gatewayFor space else old := by
  have named := space_gatewayFor_ne mode space
  constructor
  · rintro ⟨k, route, found, rfl, ref, mem, isGateway, rfl⟩
    rw [attach, OrderedMap.get?_mapValues, Option.map_eq_some_iff] at found
    obtain ⟨route, there, rfl⟩ := found
    obtain ⟨ref, held, rfl⟩ := List.mem_map.mp mem
    rw [ParentRef.isGateway_retarget] at isGateway
    exact ⟨_, ⟨k, route, there, rfl, ref, held, isGateway, rfl⟩,
      ParentRef.target_retarget named _ isGateway⟩
  · rintro ⟨old, ⟨k, route, there, rfl, ref, mem, isGateway, rfl⟩, rfl⟩
    refine ⟨k, route.retargetRefs r.gateways.contains (l.gatewayFor k.space), ?_, rfl,
      ref.retarget r.gateways.contains (l.gatewayFor k.space) route.metadata.space,
      List.mem_map_of_mem mem, ?_, ParentRef.target_retarget named _ isGateway⟩
    · rw [attach, OrderedMap.get?_mapValues, there]
      rfl
    · rw [ParentRef.isGateway_retarget, isGateway]

/-! ## Gateways -/

theorem mem_gatewaysUsed_iff {present : ObjectKey → Bool} {route : HttpRoute} {gateway : ObjectKey} :
    gateway ∈ route.gatewaysUsed present ↔
      (∃ ref ∈ route.spec.parentRefs, ref.isGateway = true ∧
        ref.target route.metadata.space = gateway) ∧ present gateway = true := by
  simp only [HttpRoute.gatewaysUsed, List.mem_filter, List.mem_map, and_assoc]

theorem mem_gatewaysUsedIn_iff {space : String} {gateway : ObjectKey} :
    gateway ∈ gatewaysUsedIn r space ↔
      r.Refers space gateway ∧ r.gateways.contains gateway = true := by
  unfold gatewaysUsedIn
  simp only [mem_foldl_addNew, List.mem_flatMap, List.not_mem_nil, false_or,
    List.mem_ite_nil_right, mem_gatewaysUsed_iff]
  constructor
  · rintro ⟨⟨k, route⟩, there, same, refers, present⟩
    exact ⟨⟨k, route, OrderedMap.mem_toList.mp there, same, refers⟩, present⟩
  · rintro ⟨⟨k, route, there, same, refers⟩, present⟩
    exact ⟨(k, route), OrderedMap.mem_toList.mpr there, same, refers, present⟩

/-- The Gateways that the routes of a namespace refer to, as far as they are there. -/
def usedGateways (r : Resources) (space : String) : List Gateway :=
  (gatewaysUsedIn r space).filterMap r.gateways.get?

theorem mem_usedGateways_iff {space : String} {old : Gateway} :
    old ∈ usedGateways r space ↔
      ∃ key, r.Refers space key ∧ r.gateways.get? key = some old := by
  unfold usedGateways
  rw [List.mem_filterMap]
  constructor
  · rintro ⟨key, used, found⟩
    exact ⟨key, (mem_gatewaysUsedIn_iff.mp used).1, found⟩
  · rintro ⟨key, refers, found⟩
    have present := OrderedMap.contains_of_get? found
    exact ⟨key, mem_gatewaysUsedIn_iff.mpr ⟨refers, present⟩, found⟩

/-- The Gateway of a namespace with these listeners. -/
def gatewayWith (l : GatewayLayout) (space : String) (listeners : List Listener) : Gateway where
  metadata :=
    { name := (l.gatewayFor space).name
      space := (l.gatewayFor space).space
      labels := some generatedLabels }
  spec := { className := l.className, listeners := listeners }

theorem spaceGateway?_eq_none_iff {space : String} :
    l.spaceGateway? r space = none ↔ gatewaysUsedIn r space = [] := by
  simp [spaceGateway?]

theorem spaceGateway?_eq_some_iff {space : String} {e : ObjectKey × Gateway} :
    l.spaceGateway? r space = some e ↔ gatewaysUsedIn r space ≠ [] ∧
      e = (l.gatewayFor space, l.gatewayWith space (mergeListeners (usedGateways r space))) := by
  by_cases unused : gatewaysUsedIn r space = []
  · simp [spaceGateway?, unused]
  · have some : ¬ (gatewaysUsedIn r space).isEmpty = true := by simpa using unused
    unfold spaceGateway?
    dsimp only
    rw [if_neg some, Option.some_inj, eq_comm, and_iff_right unused]
    rfl

/-- The Gateway of a namespace merges the listeners of the Gateways that the routes referred to, of
which there is one. -/
theorem eq_of_spaceGateway? {space : String} {k : ObjectKey} {g : Gateway}
    (made : l.spaceGateway? r space = some (k, g)) :
    k = l.gatewayFor space ∧ g.metadata.space = k.space ∧
      g.spec.listeners = mergeListeners (usedGateways r space) ∧
      ∃ key, r.Refers space key ∧ r.gateways.contains key = true := by
  obtain ⟨some, same⟩ := spaceGateway?_eq_some_iff.mp made
  cases same
  obtain ⟨key, used⟩ := List.exists_mem_of_ne_nil _ some
  exact ⟨rfl, rfl, rfl, key, mem_gatewaysUsedIn_iff.mp used⟩

/-- The Gateway of a namespace has the certificates of the Gateways that the routes referred to. -/
theorem has_of_spaceGateway? {space : String} {k : ObjectKey} {g : Gateway}
    (made : l.spaceGateway? r space = some (k, g)) (c : SecretRef) :
    g.Has c ↔ ∃ key old, r.Refers space key ∧ r.gateways.get? key = some old ∧ old.Has c := by
  obtain ⟨-, -, listeners, -⟩ := eq_of_spaceGateway? made
  unfold Gateway.Has
  rw [listeners, mem_certificates_mergeListeners]
  simp only [mem_usedGateways_iff]
  constructor
  · rintro ⟨old, ⟨key, refers, found⟩, has⟩
    exact ⟨key, old, refers, found, has⟩
  · rintro ⟨key, old, refers, found, has⟩
    exact ⟨old, ⟨key, refers, found⟩, has⟩

/-- A namespace whose routes refer to a Gateway has one of its own. -/
theorem exists_spaceGateway? {space : String} {key : ObjectKey} (refers : r.Refers space key)
    (present : r.gateways.contains key = true) :
    ∃ g, l.spaceGateway? r space = some (l.gatewayFor space, g) := by
  have used := List.ne_nil_of_mem (mem_gatewaysUsedIn_iff.mpr ⟨refers, present⟩)
  exact ⟨_, spaceGateway?_eq_some_iff.mpr ⟨used, rfl⟩⟩

theorem mem_routeSpaces {space : String} {key : ObjectKey} (refers : r.Refers space key) :
    space ∈ routeSpaces r := by
  obtain ⟨k, route, there, rfl, -⟩ := refers
  unfold routeSpaces
  rw [mem_foldl_addNew]
  exact .inr (List.mem_map_of_mem (OrderedMap.mem_keys_iff.mpr ⟨route, there⟩))

theorem get?_gateways_iff (mode : l.mode = .perNamespace) {k : ObjectKey} {g : Gateway} :
    (l.gateways r).get? k = some g ↔
      ∃ space ∈ routeSpaces r, l.spaceGateway? r space = some (k, g) := by
  unfold gateways
  rw [mode]
  dsimp only
  rw [OrderedMap.get?_ofList_iff_mem, List.mem_filterMap]
  -- The key of an entry tells the namespace that it was made for.
  intro a b first second
  obtain ⟨s, -, made⟩ := List.mem_filterMap.mp first
  obtain ⟨t, -, made'⟩ := List.mem_filterMap.mp second
  obtain rfl := gatewayFor_injective mode
    ((eq_of_spaceGateway? made).1.symm.trans (eq_of_spaceGateway? made').1)
  exact (Prod.mk.inj (Option.some.inj (made.symm.trans made'))).2

/-- Gateways are made for namespaces, and with a shared Gateway there are none. -/
theorem space_of_gateways {k : ObjectKey} {g : Gateway} (found : (l.gateways r).get? k = some g) :
    ∃ space ∈ routeSpaces r, l.spaceGateway? r space = some (k, g) := by
  cases mode : l.mode with
  | centralized =>
    rw [gateways, mode] at found
    cases found
  | perNamespace => exact (get?_gateways_iff mode).mp found

/-! ## Certificates -/

/-- Every route refers only to Gateways that are there and to the one of its namespace. -/
def Settled (l : GatewayLayout) (r : Resources) : Prop :=
  ∀ space key, r.Refers space key → r.gateways.contains key = true ∨ key = l.gatewayFor space

/-- Every reference to a Gateway finds it, or is what attaching would make of it. -/
def Prepared (l : GatewayLayout) (r : Resources) : Prop :=
  ∀ k route, r.routes.get? k = some route → ∀ ref ∈ route.spec.parentRefs, ref.isGateway = true →
    r.gateways.contains (ref.target route.metadata.space) = true ∨ ref.Names (l.gatewayFor k.space)

theorem settled_of_prepared (mode : l.mode = .perNamespace) (prepared : l.Prepared r) :
    l.Settled r := by
  rintro _ _ ⟨k, route, found, rfl, ref, mem, isGateway, rfl⟩
  rcases prepared k route found ref mem isGateway with there | names
  · exact .inl there
  · right
    rw [ParentRef.target_of_space names.1 (space_gatewayFor_ne mode k.space), names.2]

theorem refers_attach_of_settled (mode : l.mode = .perNamespace) (settled : l.Settled r)
    {space : String} {key : ObjectKey} (refers : (l.attach r).Refers space key) :
    key = l.gatewayFor space := by
  obtain ⟨old, before, rfl⟩ := (refers_attach_iff mode).mp refers
  split
  · rfl
  · rename_i absent
    exact (settled space old before).resolve_left absent

theorem certifies_attach_iff (mode : l.mode = .perNamespace) (settled : l.Settled r)
    {space : String} {secret : ObjectKey} :
    (l.attach r).Certifies space secret ↔
      ∃ key old c, r.Refers space key ∧ r.gateways.get? key = some old ∧ old.Has c ∧
        c.secretIn (space ++ "-gateway") = secret := by
  have home : (l.gatewayFor space).space = space ++ "-gateway" := by
    rw [gatewayFor_perNamespace mode]
  constructor
  · rintro ⟨key, g, c, refers, found, has, rfl⟩
    obtain rfl := refers_attach_of_settled mode settled refers
    obtain ⟨own, -, made⟩ := (get?_gateways_iff mode).mp found
    obtain ⟨same, place, -, -⟩ := eq_of_spaceGateway? made
    obtain rfl := gatewayFor_injective mode same
    obtain ⟨key, old, refers, there, has⟩ := (has_of_spaceGateway? made c).mp has
    exact ⟨key, old, c, refers, there, has, by rw [place, home]⟩
  · rintro ⟨key, old, c, refers, there, has, rfl⟩
    have present := OrderedMap.contains_of_get? there
    obtain ⟨g, made⟩ := exists_spaceGateway? (l := l) refers present
    obtain ⟨-, place, -, -⟩ := eq_of_spaceGateway? made
    refine ⟨l.gatewayFor space, g, c, (refers_attach_iff mode).mpr ⟨key, refers, ?_⟩,
      (get?_gateways_iff mode).mpr ⟨space, mem_routeSpaces refers, made⟩,
      (has_of_spaceGateway? made c).mpr ⟨key, old, refers, there, has⟩, by rw [place, home]⟩
    rw [if_pos present]

end GatewayLayout

end GatewayMigration
