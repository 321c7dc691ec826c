import GatewayMigration.Proofs.Lowering.Routes
import GatewayMigration.Proofs.Topology.Listeners
/-!
# The Gateways of a lowered plan

Main statements:

* `gateways_lower`: the Gateways are filled group by group;
* `group_of_mem_listeners_lower`, `listensAs_lower`: their listeners are those of the groups, and
  every group has its own there, under their names;
* `areLocal_lower`: the certificates of Gateways have no namespace, so they are in that of the
  Gateway.
-/

namespace GatewayMigration

/-- What a group does to the Gateways. -/
def putListeners (gs : Catalog Gateway) (g : RuleGroup) : Catalog Gateway :=
  gs.insert (groupGatewayKey g)
    (addListeners ((gs.get? (groupGatewayKey g)).getD (emptyGateway (groupGatewayKey g))) g)

theorem gateways_lower (is : List Ingress) (ports : Catalog PortLookup) :
    (lower is ports).1.gateways = (ruleGroups is).values.foldl putListeners .empty := by
  have step : ∀ (plan : Plan) (e : ObjectKey × RuleGroup),
      putListeners plan.gateways e.2 = (addGroup ports plan e).gateways := fun _ _ => rfl
  rw [OrderedMap.values, List.foldl_map]
  exact (List.foldl_hom Plan.gateways step).symm

/-- What holds of Gateways without listeners, and still holds when those of a group are added, holds
of all lowered Gateways. -/
theorem gateway_lower_induction {is : List Ingress} {ports : Catalog PortLookup}
    {motive : ObjectKey → Gateway → Prop} (empty : ∀ k, motive k (emptyGateway k))
    (add : ∀ j g gateway, (ruleGroups is).get? j = some g → motive (groupGatewayKey g) gateway →
      motive (groupGatewayKey g) (addListeners gateway g))
    {k : ObjectKey} {gateway : Gateway}
    (found : (lower is ports).1.gateways.get? k = some gateway) : motive k gateway := by
  rw [gateways_lower] at found
  revert k gateway
  apply List.foldlRecOn (motive := fun (gs : Catalog Gateway) =>
    ∀ {k gateway}, gs.get? k = some gateway → motive k gateway)
  · intro k gateway found
    cases found
  · intro gs before g mem k gateway found
    obtain ⟨j, kept⟩ := OrderedMap.mem_values_iff.mp mem
    rw [putListeners, OrderedMap.get?_insert] at found
    split at found
    · rename_i same
      subst same
      cases found
      cases present : gs.get? (groupGatewayKey g) with
      | none => exact add j g _ kept (empty _)
      | some old => exact add j g _ kept (before present)
    · exact before found

/-! ## Listeners -/

theorem lower_http : Text.lower "http" = "http" := by decide

theorem lower_https : Text.lower "https" = "https" := by decide

theorem listenerName_http (host : String) :
    listenerName host "http" = hostSlug host ++ "-http" := by
  rw [listenerName, lower_http, String.append_assoc]
  rfl

theorem listenerName_https (host : String) :
    listenerName host "https" = hostSlug host ++ "-https" := by
  rw [listenerName, lower_https, String.append_assoc]
  rfl

/-- The names of HTTP listeners end in another letter than those of HTTPS listeners. -/
theorem append_http_ne_https (a b : String) : a ++ "-http" ≠ b ++ "-https" := by
  intro same
  have ends := congrArg (fun s => s.toList.getLast?) same
  simp [List.getLast?_append] at ends

theorem listenerName_http_ne_https (a b : String) :
    listenerName a "http" ≠ listenerName b "https" := by
  rw [listenerName_http, listenerName_https]
  exact append_http_ne_https _ _

theorem mem_groupListeners_iff {g : RuleGroup} {l : Listener} :
    l ∈ groupListeners g ↔ l = httpListener g ∨ g.tlsSecrets ≠ [] ∧ l = httpsListener g := by
  unfold groupListeners
  by_cases tls : g.tlsSecrets = []
  · simp [tls]
  · simp [tls]

theorem eq_httpListener_of_name {g : RuleGroup} {l : Listener} (mem : l ∈ groupListeners g)
    {host : String} (named : l.name = listenerName host "http") : l = httpListener g := by
  rcases mem_groupListeners_iff.mp mem with http | ⟨-, rfl⟩
  · exact http
  · exact absurd named.symm (listenerName_http_ne_https host g.host)

theorem mem_addListeners_iff {gateway : Gateway} {g : RuleGroup} {l : Listener} :
    l ∈ (addListeners gateway g).spec.listeners ↔ l ∈ gateway.spec.listeners ∨
      l ∈ groupListeners g ∧ l.name ∉ gateway.spec.listeners.map (·.name) := by
  unfold addListeners
  dsimp only
  rw [List.mem_append, List.mem_filter, decide_eq_true_eq]

/-- Listeners come from the groups of the namespace and the class. -/
theorem group_of_mem_listeners_lower {is : List Ingress} {ports : Catalog PortLookup}
    {k : ObjectKey} {gateway : Gateway} (found : (lower is ports).1.gateways.get? k = some gateway)
    {l : Listener} (mem : l ∈ gateway.spec.listeners) :
    ∃ j g, (ruleGroups is).get? j = some g ∧ groupGatewayKey g = k ∧ l ∈ groupListeners g := by
  refine gateway_lower_induction (motive := fun k gateway => ∀ l ∈ gateway.spec.listeners,
    ∃ j g, (ruleGroups is).get? j = some g ∧ groupGatewayKey g = k ∧ l ∈ groupListeners g)
    ?_ ?_ found l mem
  · intro k l mem
    cases mem
  · intro j g gateway kept before l mem
    rcases mem_addListeners_iff.mp mem with old | ⟨new, -⟩
    · exact before l old
    · exact ⟨j, g, kept, rfl, new⟩

theorem nodup_name_groupListeners (g : RuleGroup) : ((groupListeners g).map (·.name)).Nodup := by
  unfold groupListeners
  split
  · simp
  · simpa [httpListener, httpsListener] using listenerName_http_ne_https g.host g.host

theorem nodup_name_addListeners {gateway : Gateway}
    (differ : (gateway.spec.listeners.map (·.name)).Nodup) (g : RuleGroup) :
    ((addListeners gateway g).spec.listeners.map (·.name)).Nodup := by
  unfold addListeners
  dsimp only
  rw [List.map_append, List.nodup_append]
  refine ⟨differ, (nodup_name_groupListeners g).sublist (List.filter_sublist.map _), ?_⟩
  rintro n old m new rfl
  obtain ⟨l, mem, rfl⟩ := List.mem_map.mp new
  have free := (List.mem_filter.mp mem).2
  exact of_decide_eq_true free old

/-- The listeners of a lowered Gateway have different names. -/
theorem nodup_name_lower {is : List Ingress} {ports : Catalog PortLookup} {k : ObjectKey}
    {gateway : Gateway} (found : (lower is ports).1.gateways.get? k = some gateway) :
    (gateway.spec.listeners.map (·.name)).Nodup := by
  refine gateway_lower_induction (motive := fun _ gateway =>
    (gateway.spec.listeners.map (·.name)).Nodup) ?_ ?_ found
  · intro k
    exact List.nodup_nil
  · intro j g gateway _ differ
    exact nodup_name_addListeners differ g

/-- The Gateway of this key has a listener of this name. -/
def ListensAs (gs : Catalog Gateway) (k : ObjectKey) (n : String) : Prop :=
  ∃ gateway, gs.get? k = some gateway ∧ n ∈ gateway.spec.listeners.map (·.name)

theorem name_mem_addListeners_iff {gateway : Gateway} {g : RuleGroup} {n : String} :
    n ∈ (addListeners gateway g).spec.listeners.map (·.name) ↔
      n ∈ gateway.spec.listeners.map (·.name) ∨ n ∈ (groupListeners g).map (·.name) := by
  simp only [List.mem_map, mem_addListeners_iff]
  constructor
  · rintro ⟨l, old | ⟨new, -⟩, rfl⟩
    · exact .inl ⟨l, old, rfl⟩
    · exact .inr ⟨l, new, rfl⟩
  · rintro (⟨l, old, rfl⟩ | ⟨l, new, rfl⟩)
    · exact ⟨l, .inl old, rfl⟩
    · by_cases taken : ∃ l' ∈ gateway.spec.listeners, l'.name = l.name
      · obtain ⟨l', old, same⟩ := taken
        exact ⟨l', .inl old, same⟩
      · exact ⟨l, .inr ⟨new, taken⟩, rfl⟩

theorem listensAs_putListeners {gs : Catalog Gateway} {g : RuleGroup} {k : ObjectKey} {n : String}
    (there : ListensAs gs k n ∨ groupGatewayKey g = k ∧ n ∈ (groupListeners g).map (·.name)) :
    ListensAs (putListeners gs g) k n := by
  unfold ListensAs putListeners
  rw [OrderedMap.get?_insert]
  by_cases same : groupGatewayKey g = k
  · rw [if_pos same]
    refine ⟨_, rfl, name_mem_addListeners_iff.mpr ?_⟩
    rcases there with ⟨gateway, found, named⟩ | ⟨-, own⟩
    · rw [same, found]
      exact .inl named
    · exact .inr own
  · rw [if_neg same]
    exact there.resolve_right fun own => same own.1

/-- The listeners that a group asks for are there under their names. -/
theorem listensAs_lower {is : List Ingress} (ports : Catalog PortLookup) {j : ObjectKey}
    {g : RuleGroup} (kept : (ruleGroups is).get? j = some g) {l : Listener}
    (asked : l ∈ groupListeners g) :
    ListensAs (lower is ports).1.gateways (groupGatewayKey g) l.name := by
  obtain ⟨before, after, split⟩ := List.append_of_mem (OrderedMap.mem_values_iff.mpr ⟨j, kept⟩)
  rw [gateways_lower, split, List.foldl_append, List.foldl_cons]
  -- The group puts its listeners there, and the groups after it leave them there.
  apply List.foldlRecOn (motive := fun (gs : Catalog Gateway) =>
    ListensAs gs (groupGatewayKey g) l.name)
  · exact listensAs_putListeners (.inr ⟨rfl, List.mem_map_of_mem asked⟩)
  · intro gs there h _
    exact listensAs_putListeners (.inl there)

theorem contains_gateways_lower {is : List Ingress} {ports : Catalog PortLookup} {j : ObjectKey}
    {g : RuleGroup} (kept : (ruleGroups is).get? j = some g) :
    (lower is ports).1.gateways.contains (groupGatewayKey g) = true := by
  obtain ⟨gateway, found, -⟩ := listensAs_lower ports kept (mem_groupListeners_iff.mpr (.inl rfl))
  exact OrderedMap.contains_of_get? found

/-! ## Certificates -/

/-- All certificates of a Gateway are in its own namespace. -/
def Gateway.IsLocal (g : Gateway) : Prop := ∀ c, g.Has c → c.space = none

def AreLocal (gs : Catalog Gateway) : Prop :=
  ∀ k gateway, gs.get? k = some gateway → gateway.IsLocal

theorem space_of_mem_groupListeners {g : RuleGroup} {l : Listener} (mem : l ∈ groupListeners g)
    {c : SecretRef} (has : c ∈ l.certificates) : c.space = none := by
  rcases mem_groupListeners_iff.mp mem with rfl | ⟨-, rfl⟩
  · cases has
  · obtain ⟨s, -, rfl⟩ := List.mem_map.mp has
    rfl

theorem areLocal_lower (is : List Ingress) (ports : Catalog PortLookup) :
    AreLocal (lower is ports).1.gateways := by
  rintro k gateway found c ⟨l, mem, has⟩
  obtain ⟨j, g, -, -, asked⟩ := group_of_mem_listeners_lower found mem
  exact space_of_mem_groupListeners asked has

end GatewayMigration
