import GatewayMigration.Proofs.Collections
/-!
# What the rule groups hold

Groups are opened and filled while the Ingresses are read one after the other. Main statements:

* `filed_groupTable`: every group stands under its own namespace, class and host;
* `pathsAt_groupTable`: a group holds exactly the paths of its Ingresses, in their order;
* `stems_groupTable`: the host of a group and its secrets come from its Ingresses;
* `nodup_secrets_groupTable`: a group has each of its secrets once;
* `source_of_ruleGroups`: the sources of a group are the Ingresses that have paths for it;
* `get?_ruleGroups_iff`: of the groups with one route key, the one that was opened last is kept.
-/

namespace GatewayMigration

/-- The group that the rules of an Ingress for a host go into. -/
def Ingress.groupKey (i : Ingress) (host : String) : GroupKey :=
  ⟨i.metadata.space, i.className, host⟩

/-- An Ingress of class nginx that sends all requests for each of some hosts to a Service. -/
def Ingress.plain (k : ObjectKey) (hosts : List (String × String)) (tls : List IngressTls := [])
    (annotations : Labels := .empty) : Ingress where
  apiVersion := "networking.k8s.io/v1"
  kind := "Ingress"
  metadata := ⟨k.name, k.space, .empty, annotations⟩
  spec :=
    { className := some "nginx"
      defaultBackend := none
      rules := hosts.map fun h =>
        ⟨h.1, some ⟨[⟨"/", "Prefix", ⟨some ⟨h.2, ⟨none, some 80⟩⟩, none⟩⟩]⟩⟩
      tls := tls }

def RuleGroup.groupKey (g : RuleGroup) : GroupKey := ⟨g.space, g.ingressClass, g.host⟩

/-- The paths that an Ingress puts into a group. -/
def Ingress.pathsFor (i : Ingress) (k : GroupKey) : List RoutePath :=
  i.contributions.flatMap fun c => if i.groupKey c.1 = k then c.2 else []

/-- All groups, in the order in which they are opened. -/
def groupTable (is : List Ingress) : GroupTable := is.foldl GroupTable.addIngress .empty

namespace GroupTable

/-- Every group stands under its own key. -/
def Filed (t : GroupTable) : Prop := ∀ k g, t.get? k = some g → g.groupKey = k

def pathsAt (t : GroupTable) (k : GroupKey) : List RoutePath :=
  ((t.get? k).map (·.paths)).getD []

theorem filed_empty : Filed .empty := by
  intro k g found
  simp at found

theorem groupKey_groupFor {t : GroupTable} (filed : t.Filed) (i : Ingress) (host : String) :
    (t.groupFor i host).groupKey = i.groupKey host := by
  unfold groupFor
  cases found : t.get? ⟨i.metadata.space, i.className, host⟩ with
  | none => rfl
  | some g => exact filed _ g found

theorem filed_add {t : GroupTable} (filed : t.Filed) (i : Ingress)
    (c : String × List RoutePath) : (t.add i c).Filed := by
  intro k g found
  rw [add, OrderedMap.get?_insert] at found
  split at found
  · rename_i same
    rw [← Option.some.inj found]
    exact (groupKey_groupFor filed i c.1).trans same
  · exact filed k g found

theorem pathsAt_add (i : Ingress) (k : GroupKey) (t : GroupTable) (c : String × List RoutePath) :
    (t.add i c).pathsAt k = t.pathsAt k ++ if i.groupKey c.1 = k then c.2 else [] := by
  unfold pathsAt add
  rw [OrderedMap.get?_insert]
  by_cases same : i.groupKey c.1 = k
  · subst same
    cases found : t.get? (i.groupKey c.1) with
    | none =>
      have opened : t.get? ⟨i.metadata.space, i.className, c.1⟩ = none := found
      simp [Ingress.groupKey, groupFor, opened, RuleGroup.addPaths, RuleGroup.addSource]
    | some g =>
      have there : t.get? ⟨i.metadata.space, i.className, c.1⟩ = some g := found
      simp [Ingress.groupKey, groupFor, there, RuleGroup.addPaths, RuleGroup.addSource]
  · have other : ¬ (⟨i.metadata.space, i.className, c.1⟩ : GroupKey) = k := same
    rw [if_neg other, if_neg same, List.append_nil]

theorem pathsAt_addIngress (k : GroupKey) (t : GroupTable) (i : Ingress) :
    (t.addIngress i).pathsAt k = t.pathsAt k ++ i.pathsFor k :=
  foldl_accumulates (fun t => pathsAt t k) (fun t c _ => pathsAt_add i k t c) t

end GroupTable

/-! ## All Ingresses -/

/-- What holds before there are groups, and still holds when an Ingress adds paths for a host, holds
of all groups together. -/
theorem groupTable_induction {is : List Ingress} {motive : GroupTable → Prop}
    (empty : motive .empty)
    (add : ∀ t i c, i ∈ is → c ∈ i.contributions → motive t → motive (t.add i c)) :
    motive (groupTable is) := by
  unfold groupTable
  apply List.foldlRecOn _ _ empty
  intro t before i mem
  unfold GroupTable.addIngress
  apply List.foldlRecOn _ _ before
  intro t before c own
  exact add t i c mem own before

theorem filed_groupTable (is : List Ingress) : (groupTable is).Filed :=
  groupTable_induction GroupTable.filed_empty fun _ i c _ _ filed => GroupTable.filed_add filed i c

/-- A group holds the paths that the Ingresses have for it, Ingress by Ingress. -/
theorem pathsAt_groupTable (is : List Ingress) (k : GroupKey) :
    (groupTable is).pathsAt k = is.flatMap (·.pathsFor k) :=
  foldl_accumulates (fun t => GroupTable.pathsAt t k)
    (fun t i _ => GroupTable.pathsAt_addIngress k t i) .empty

theorem mem_paths_iff {is : List Ingress} {k : GroupKey} {g : RuleGroup}
    (found : (groupTable is).get? k = some g) (p : RoutePath) :
    p ∈ g.paths ↔ ∃ i ∈ is, p ∈ i.pathsFor k := by
  have held : (groupTable is).pathsAt k = g.paths := by simp [GroupTable.pathsAt, found]
  rw [← held, pathsAt_groupTable, List.mem_flatMap]

/-! ## Where groups come from -/

/-- The hosts of an Ingress: those of its rules, and the empty one if it has a default backend. -/
def Ingress.hosts (i : Ingress) : List String := i.contributions.map (·.1)

/-- Some of the Ingresses have the host of the group, and every secret of the group is one that a
TLS block of an Ingress of the same namespace and class gives to this host. -/
structure RuleGroup.StemsFrom (is : List Ingress) (g : RuleGroup) : Prop where
  host : ∃ i ∈ is, i.groupKey g.host = g.groupKey ∧ g.host ∈ i.hosts
  secrets : ∀ s ∈ g.tlsSecrets, ∃ i ∈ is, i.groupKey g.host = g.groupKey ∧
    ∃ t ∈ i.spec.tls, RuleGroup.secretFor? g.host t = some s

namespace GroupTable

/-- Every group stands under its own key and comes from the Ingresses. -/
def Stems (is : List Ingress) (t : GroupTable) : Prop :=
  t.Filed ∧ ∀ k g, t.get? k = some g → g.StemsFrom is

theorem secrets_groupFor {is : List Ingress} {t : GroupTable} (stems : t.Stems is) (i : Ingress)
    (host : String) {s : String} (mem : s ∈ (t.groupFor i host).tlsSecrets) :
    ∃ j ∈ is, j.groupKey host = i.groupKey host ∧
      ∃ b ∈ j.spec.tls, RuleGroup.secretFor? host b = some s := by
  unfold groupFor at mem
  cases found : t.get? ⟨i.metadata.space, i.className, host⟩ with
  | none =>
    rw [found] at mem
    cases mem
  | some g =>
    rw [found] at mem
    have key : g.groupKey = i.groupKey host := stems.1 _ g found
    obtain rfl : g.host = host := congrArg GroupKey.host key
    obtain ⟨j, there, same, block⟩ := (stems.2 _ g found).secrets s mem
    exact ⟨j, there, same.trans key, block⟩

theorem stems_add {is : List Ingress} {t : GroupTable} (stems : t.Stems is) {i : Ingress}
    (mem : i ∈ is) {c : String × List RoutePath} (own : c ∈ i.contributions) :
    (t.add i c).Stems is := by
  refine ⟨filed_add stems.1 i c, fun k g found => ?_⟩
  rw [add, OrderedMap.get?_insert] at found
  split at found
  · cases found
    have key : (((t.groupFor i c.1).addSource i).addPaths c.2).groupKey = i.groupKey c.1 :=
      groupKey_groupFor stems.1 i c.1
    have host : (((t.groupFor i c.1).addSource i).addPaths c.2).host = c.1 :=
      congrArg GroupKey.host key
    constructor
    · rw [host, key]
      exact ⟨i, mem, rfl, List.mem_map_of_mem own⟩
    · intro s there
      rw [host, key]
      rcases mem_foldl_addNew.mp there with old | new
      · exact secrets_groupFor stems i c.1 old
      · obtain ⟨b, listed, given⟩ := List.mem_filterMap.mp new
        have same : (t.groupFor i c.1).host = c.1 := host
        rw [same] at given
        exact ⟨i, mem, rfl, b, listed, given⟩
  · exact stems.2 k g found

theorem stems_groupTable (is : List Ingress) : (groupTable is).Stems is := by
  apply groupTable_induction
  · exact ⟨filed_empty, fun k g found => nomatch found⟩
  · intro t i c mem own stems
    exact stems_add stems mem own

end GroupTable

/-! ## Secrets of groups -/

/-- A group has each of its secrets once. -/
theorem nodup_secrets_groupTable {is : List Ingress} {k : GroupKey} {g : RuleGroup}
    (found : (groupTable is).get? k = some g) : g.tlsSecrets.Nodup := by
  revert k g
  apply groupTable_induction (motive := fun t =>
    ∀ {k g}, t.get? k = some g → g.tlsSecrets.Nodup)
  · intro k g found
    cases found
  · intro t i c _ _ before k g found
    rw [GroupTable.add, OrderedMap.get?_insert] at found
    split at found
    · cases found
      apply nodup_foldl_addNew
      unfold GroupTable.groupFor
      cases there : t.get? ⟨i.metadata.space, i.className, c.1⟩ with
      | none => exact List.nodup_nil
      | some old => exact before there
    · exact before found

theorem RuleGroup.ne_empty_of_secretFor? {host secret : String} {t : IngressTls}
    (given : secretFor? host t = some secret) : secret ≠ "" := by
  unfold secretFor? at given
  split at given
  · split at given
    · rename_i name _ fits
      cases given
      simp only [Bool.and_eq_true, Bool.not_eq_true', String.isEmpty_eq_false_iff] at fits
      exact fits.2
    · cases given
  · cases given

/-! ## Sources of groups -/

namespace GroupTable

/-- An Ingress of this key is among the sources of the group. -/
def HasSource (t : GroupTable) (k : GroupKey) (source : ObjectKey) : Prop :=
  ∃ g, t.get? k = some g ∧ source ∈ g.sources

theorem hasSource_add (i : Ingress) (k : GroupKey) (source : ObjectKey) (t : GroupTable)
    (c : String × List RoutePath) :
    (t.add i c).HasSource k source ↔
      t.HasSource k source ∨ i.groupKey c.1 = k ∧ i.key = source := by
  unfold HasSource add
  rw [OrderedMap.get?_insert]
  by_cases same : i.groupKey c.1 = k
  · subst same
    have here : (⟨i.metadata.space, i.className, c.1⟩ : GroupKey) = i.groupKey c.1 := rfl
    simp only [here, if_true, Option.some.injEq, exists_eq_left', true_and]
    have sources : (((t.groupFor i c.1).addSource i).addPaths c.2).sources =
        addNew (t.groupFor i c.1).sources i.key := rfl
    rw [sources, mem_addNew, eq_comm (a := source)]
    apply or_congr_left
    unfold groupFor
    rw [here]
    cases t.get? (i.groupKey c.1) with
    | none => simp
    | some g => simp
  · have other : ¬ (⟨i.metadata.space, i.className, c.1⟩ : GroupKey) = k := same
    simp [other, same]

theorem hasSource_groupTable {is : List Ingress} {k : GroupKey} {source : ObjectKey} :
    (groupTable is).HasSource k source ↔
      ∃ i ∈ is, i.key = source ∧ ∃ c ∈ i.contributions, i.groupKey c.1 = k := by
  have empty : ¬ HasSource .empty k source := by
    rintro ⟨g, found, -⟩
    cases found
  have ingress : ∀ (t : GroupTable) (i : Ingress), (t.addIngress i).HasSource k source ↔
      t.HasSource k source ∨ ∃ c ∈ i.contributions, i.groupKey c.1 = k ∧ i.key = source := by
    intro t i
    exact foldl_gathers (P := fun t => HasSource t k source) (hasSource_add i k source) t _
  have all := foldl_gathers (P := fun t => HasSource t k source) ingress .empty is
  rw [groupTable, all, or_iff_right empty]
  constructor
  · rintro ⟨i, mem, c, own, same, rfl⟩
    exact ⟨i, mem, rfl, c, own, same⟩
  · rintro ⟨i, mem, rfl, c, own, same⟩
    exact ⟨i, mem, c, own, same, rfl⟩

end GroupTable

/-! ## Groups under the keys of their routes -/

/-- The groups and their keys, in the order in which they are opened. -/
def openedGroups (is : List Ingress) : List (GroupKey × RuleGroup) := (groupTable is).toList

/-- Two groups with the same key have one route; the group that is opened last gives it. -/
theorem get?_ruleGroups_iff {is : List Ingress} {k : ObjectKey} {g : RuleGroup} :
    (ruleGroups is).get? k = some g ↔
      ∃ before e after, openedGroups is = before ++ e :: after ∧ e.2 = g ∧ g.key = k ∧
        ∀ later ∈ after, later.2.key ≠ k := by
  have entries : ruleGroups is =
      .ofList ((openedGroups is).map fun e => (e.2.key, e.2)) := by
    simp [ruleGroups, openedGroups, groupTable, OrderedMap.values, Function.comp_def]
  rw [entries, OrderedMap.get?_ofList_iff]
  constructor
  · rintro ⟨before, after, split, fresh⟩
    obtain ⟨before', rest, opened, -, tail⟩ := List.map_eq_append_iff.mp split
    obtain ⟨e, after', rfl, here, rfl⟩ := List.map_eq_cons_iff.mp tail
    obtain ⟨named, same⟩ := Prod.mk.inj here
    refine ⟨before', e, after', opened, same, by rw [← same]; exact named, ?_⟩
    intro later mem taken
    exact fresh (List.mem_map.mpr ⟨_, List.mem_map_of_mem mem, taken⟩)
  · rintro ⟨before, e, after, opened, rfl, rfl, free⟩
    refine ⟨before.map fun e => (e.2.key, e.2), after.map fun e => (e.2.key, e.2), ?_, ?_⟩
    · rw [opened, List.map_append, List.map_cons]
    · intro taken
      obtain ⟨entry, mem, same⟩ := List.mem_map.mp taken
      obtain ⟨later, there, rfl⟩ := List.mem_map.mp mem
      exact free later there same

theorem key_of_ruleGroups {is : List Ingress} {k : ObjectKey} {g : RuleGroup}
    (kept : (ruleGroups is).get? k = some g) : g.key = k := by
  obtain ⟨_, e, _, -, rfl, named, -⟩ := get?_ruleGroups_iff.mp kept
  exact named

/-- A kept group is one of the groups that were opened. -/
theorem get?_groupTable_of_ruleGroups {is : List Ingress} {k : ObjectKey} {g : RuleGroup}
    (kept : (ruleGroups is).get? k = some g) : (groupTable is).get? g.groupKey = some g := by
  obtain ⟨before, e, after, opened, rfl, -, -⟩ := get?_ruleGroups_iff.mp kept
  have found : (groupTable is).get? e.1 = some e.2 := by
    apply OrderedMap.mem_toList.mp
    rw [show (groupTable is).toList = before ++ e :: after from opened]
    simp
  rw [filed_groupTable is e.1 e.2 found]
  exact found

theorem stems_ruleGroups {is : List Ingress} {k : ObjectKey} {g : RuleGroup}
    (kept : (ruleGroups is).get? k = some g) : g.StemsFrom is :=
  (GroupTable.stems_groupTable is).2 _ g (get?_groupTable_of_ruleGroups kept)

theorem nodup_secrets_ruleGroups {is : List Ingress} {k : ObjectKey} {g : RuleGroup}
    (kept : (ruleGroups is).get? k = some g) : g.tlsSecrets.Nodup :=
  nodup_secrets_groupTable (get?_groupTable_of_ruleGroups kept)

theorem empty_not_mem_secrets {is : List Ingress} {k : ObjectKey} {g : RuleGroup}
    (kept : (ruleGroups is).get? k = some g) : "" ∉ g.tlsSecrets := by
  intro mem
  obtain ⟨_, -, -, _, -, given⟩ := (stems_ruleGroups kept).secrets "" mem
  exact RuleGroup.ne_empty_of_secretFor? given rfl

/-- The sources of a kept group are Ingresses of its namespace and class with a rule for its host,
or with a default backend for all hosts. -/
theorem source_of_ruleGroups {is : List Ingress} {k : ObjectKey} {g : RuleGroup}
    (kept : (ruleGroups is).get? k = some g) {source : ObjectKey} (mem : source ∈ g.sources) :
    ∃ i ∈ is, i.key = source ∧ ∃ c ∈ i.contributions, i.groupKey c.1 = g.groupKey :=
  GroupTable.hasSource_groupTable.mp ⟨g, get?_groupTable_of_ruleGroups kept, mem⟩

theorem space_of_mem_sources {is : List Ingress} {k : ObjectKey} {g : RuleGroup}
    (kept : (ruleGroups is).get? k = some g) {source : ObjectKey} (mem : source ∈ g.sources) :
    source.space = k.space := by
  obtain ⟨i, -, rfl, c, -, same⟩ := source_of_ruleGroups kept mem
  have space : i.metadata.space = g.space := congrArg GroupKey.space same
  rw [← key_of_ruleGroups kept]
  exact space

end GatewayMigration
