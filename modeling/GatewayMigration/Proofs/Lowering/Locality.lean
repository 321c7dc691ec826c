import GatewayMigration.Proofs.Annotations.Scope
import GatewayMigration.Proofs.Lowering.Delivery
/-!
# Lowering, namespace by namespace

Every group, and every object that it becomes, is in the namespace of its Ingresses. Main
statements:

* `inSpace_ruleGroups`: the groups of a namespace are those of its own Ingresses;
* `inSpace_lower`: so are the objects of the lowered plan;
* `filter_errors_lower`: and so are the errors about named ports.
-/

namespace GatewayMigration

/-- The objects of one namespace. -/
def Catalog.inSpace {α : Type} (space : String) (c : Catalog α) : Catalog α :=
  c.filterKeys fun k => k.space == space

def Plan.inSpace (space : String) (p : Plan) : Plan where
  gateways := p.gateways.inSpace space
  routes := p.routes.inSpace space
  services := p.services.inSpace space
  tlsPolicies := p.tlsPolicies.inSpace space
  grants := p.grants.inSpace space

def FieldError.isIn (space : String) (e : FieldError) : Bool :=
  e.path.owner?.any fun k => k.space == space

/-! ## Groups -/

namespace GroupTable

def inSpace (space : String) (t : GroupTable) : GroupTable :=
  t.filterKeys fun k => k.space == space

theorem inSpace_add (space : String) (i : Ingress) (t : GroupTable) (c : String × List RoutePath) :
    (t.add i c).inSpace space =
      if i.metadata.space = space then (t.inSpace space).add i c else t.inSpace space := by
  unfold inSpace add
  rw [OrderedMap.filterKeys_insert]
  by_cases own : i.metadata.space = space
  · have group : (GroupTable.groupFor (t.filterKeys fun k => k.space == space) i c.1) =
        t.groupFor i c.1 := by
      unfold groupFor
      rw [OrderedMap.get?_filterKeys (by simpa using own)]
    simp [own, group]
  · simp [own]

theorem inSpace_addIngress (space : String) (t : GroupTable) (i : Ingress) :
    (t.addIngress i).inSpace space =
      if i.metadata.space = space then (t.inSpace space).addIngress i else t.inSpace space := by
  unfold addIngress
  split
  · rename_i own
    refine (List.foldl_hom (inSpace space) fun t c => ?_).symm
    rw [inSpace_add, if_pos own]
  · rename_i other
    apply foldl_keeps (inSpace space)
    intro t c _
    rw [inSpace_add, if_neg other]

end GroupTable

theorem inSpace_groupTable (space : String) (is : List Ingress) :
    (groupTable is).inSpace space = groupTable (is.filter (·.metadata.space == space)) := by
  unfold groupTable
  apply foldl_filter_hom (GroupTable.inSpace space) fun i : Ingress => i.metadata.space == space
  · intro t i _ other
    rw [GroupTable.inSpace_addIngress, if_neg (by simpa using other)]
  · intro t i _ own
    rw [GroupTable.inSpace_addIngress, if_pos (by simpa using own)]

/-- The groups of a namespace are made of its own Ingresses. -/
theorem inSpace_ruleGroups (space : String) (is : List Ingress) :
    Catalog.inSpace space (ruleGroups is) =
      ruleGroups (is.filter (·.metadata.space == space)) := by
  have entries : ∀ is, ruleGroups is =
      .ofList ((groupTable is).toList.map fun e => (e.2.key, e.2)) := by
    intro is
    simp [ruleGroups, groupTable, OrderedMap.values, Function.comp_def]
  rw [entries, entries, ← inSpace_groupTable, Catalog.inSpace, OrderedMap.filterKeys_ofList,
    List.filter_map]
  congr 2
  apply List.filter_congr
  intro e mem
  have filed := filed_groupTable is e.1 e.2 (OrderedMap.mem_toList.mp mem)
  have same : e.2.space = e.1.space := congrArg GroupKey.space filed
  simp [RuleGroup.key, same]

/-! ## Lowered plans -/

theorem Catalog.inSpace_insert {α : Type} (space : String) (c : Catalog α) (k : ObjectKey) (a : α) :
    inSpace space (c.insert k a) =
      if k.space = space then (inSpace space c).insert k a else inSpace space c := by
  unfold inSpace
  rw [OrderedMap.filterKeys_insert]
  simp only [beq_iff_eq]

theorem inSpace_addServices (ports : Catalog PortLookup) (space : String) (g : RuleGroup)
    (services : Catalog ServicePlan) :
    Catalog.inSpace space (addServices ports g services) =
      if g.space = space then addServices ports g (Catalog.inSpace space services)
      else Catalog.inSpace space services := by
  unfold addServices
  split
  · rename_i own
    refine (List.foldl_hom (Catalog.inSpace space) fun services p => ?_).symm
    unfold Catalog.inSpace
    rw [OrderedMap.filterKeys_insertNew, if_pos (by simpa using own)]
  · rename_i other
    apply foldl_keeps (Catalog.inSpace space)
    intro services p _
    unfold Catalog.inSpace
    rw [OrderedMap.filterKeys_insertNew, if_neg (by simpa using other)]

theorem inSpace_addGroup (ports : Catalog PortLookup) (space : String) (plan : Plan)
    {e : ObjectKey × RuleGroup} (named : e.2.key = e.1) :
    (addGroup ports plan e).inSpace space =
      if e.1.space = space then addGroup ports (plan.inSpace space) e else plan.inSpace space := by
  have same : e.2.space = e.1.space := congrArg ObjectKey.space named
  have gateway : (groupGatewayKey e.2).space = e.1.space := same
  unfold addGroup Plan.inSpace
  dsimp only
  rw [Catalog.inSpace_insert, Catalog.inSpace_insert, inSpace_addServices, gateway, same]
  by_cases own : e.1.space = space
  · have read : (Catalog.inSpace space plan.gateways).get? (groupGatewayKey e.2) =
        plan.gateways.get? (groupGatewayKey e.2) :=
      OrderedMap.get?_filterKeys (by simpa [gateway] using own) _
    simp only [if_pos own, read]
  · simp only [if_neg own]

/-- Lowering takes the objects of a namespace from the namespace's own Ingresses. -/
theorem inSpace_lower (space : String) (is : List Ingress) (ports : Catalog PortLookup) :
    (lower is ports).1.inSpace space =
      (lower (is.filter (·.metadata.space == space)) ports).1 := by
  unfold lower
  dsimp only
  rw [← inSpace_ruleGroups]
  apply foldl_filter_hom (Plan.inSpace space) fun e : ObjectKey × RuleGroup => e.1.space == space
  · intro plan e mem other
    have named := key_of_ruleGroups (OrderedMap.mem_toList.mp mem)
    rw [inSpace_addGroup ports space plan named, if_neg (by simpa using other)]
  · intro plan e mem own
    have named := key_of_ruleGroups (OrderedMap.mem_toList.mp mem)
    rw [inSpace_addGroup ports space plan named, if_pos (by simpa using own)]

/-! ## Errors of lowering -/

theorem field_of_mem_pathsFor {i : Ingress} {k : GroupKey} {q : RoutePath}
    (held : q ∈ i.pathsFor k) : ∃ segments, q.field = i.fieldPath.child segments := by
  obtain ⟨c, mem, -, inside⟩ := mem_pathsFor_iff.mp held
  rcases mem_contributions_iff.mp mem with ⟨r, rule, -, rfl⟩ | ⟨p, given, rfl⟩
  · obtain ⟨http, -, j, p, -, made⟩ := mem_rulePaths_iff.mp inside
    obtain ⟨s, -, rfl⟩ := Option.map_eq_some_iff.mp made
    exact ⟨_, rfl⟩
  · obtain rfl := List.mem_singleton.mp inside
    obtain ⟨s, -, rfl⟩ := Option.map_eq_some_iff.mp given
    exact ⟨_, rfl⟩

theorem owner?_of_mem_groupErrors {is : List Ingress} {ports : Catalog PortLookup} {k : ObjectKey}
    {g : RuleGroup} (kept : (ruleGroups is).get? k = some g) {e : FieldError}
    (mem : e ∈ groupErrors ports g) :
    ∃ i ∈ is, i.metadata.space = g.space ∧ e.path.owner? = some i.key := by
  obtain ⟨p, held, made⟩ := List.mem_filterMap.mp mem
  obtain ⟨i, listed, own⟩ := (mem_paths_iff (get?_groupTable_of_ruleGroups kept) p).mp held
  obtain ⟨same, -, -⟩ := asks_of_mem_pathsFor own
  obtain ⟨segments, field⟩ := field_of_mem_pathsFor own
  refine ⟨i, listed, congrArg GroupKey.space same, ?_⟩
  split at made
  · cases made
  · rename_i why unresolved
    cases made
    unfold resolvePort at unresolved
    split at unresolved
    · cases unresolved
    · cases unresolved
    · dsimp only at unresolved
      split at unresolved
      · cases unresolved
      · cases unresolved
        rw [field]
        rfl

theorem filter_errors_lower (space : String) (is : List Ingress) (ports : Catalog PortLookup) :
    (lower is ports).2.filter (·.isIn space) =
      (lower (is.filter (·.metadata.space == space)) ports).2 := by
  unfold lower
  dsimp only
  rw [← inSpace_ruleGroups]
  unfold OrderedMap.values
  rw [List.flatMap_map, List.flatMap_map]
  refine filter_flatMap_of _ (fun e : ObjectKey × RuleGroup => e.1.space == space) ?_
  intro e mem err found
  have kept := OrderedMap.mem_toList.mp mem
  obtain ⟨i, -, same, owner⟩ := owner?_of_mem_groupErrors kept found
  have named := key_of_ruleGroups kept
  have key : e.2.space = e.1.space := by rw [← named]; rfl
  rw [FieldError.isIn, owner, Option.any_some, ← key, ← same]
  rfl

end GatewayMigration
