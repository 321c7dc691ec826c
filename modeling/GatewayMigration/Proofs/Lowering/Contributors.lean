import GatewayMigration.Proofs.Lowering.Groups
/-!
# Who contributes to a group

Groups are opened, joined and filled in one go, rule by rule, and an Ingress may come back to a
group after it has been at another one. What a group holds in the end can be said without the table:
it is made of the Ingresses of its namespace and class that have its host, in their order. Main
statements:

* `get?_groupTable`: a group is opened by the first share that falls to it, and takes all of them
  one after the other;
* `sharesIn_eq`: the shares that fall to a group are those of its contributors, Ingress by Ingress;
* `isMadeOf_groupTable`: so every part of the group is determined by its contributors;
* `groups_sound`: every group stands under the key that it makes, and no contributor is without a
  group under its key.
-/

namespace GatewayMigration

/-! ## What an Ingress has for a host -/

namespace Ingress

/-- The Ingress has a rule for the host. A default backend that is a Service counts as one for the
empty host. -/
def HasHost (i : Ingress) (host : String) : Prop :=
  (∃ rule ∈ i.spec.rules, rule.host = host) ∨
    host = "" ∧ (i.spec.defaultBackend.bind (·.service)).isSome = true

instance (i : Ingress) (host : String) : Decidable (i.HasHost host) :=
  inferInstanceAs (Decidable (_ ∨ _))

/-- The paths that lead from the host to a Service: rule by rule, each with the position of the
rule, and the default backend behind those of the empty host. -/
def pathsOn (i : Ingress) (host : String) : List RoutePath :=
  ((i.spec.rules.zipIdx.filter fun r => r.1.host = host).flatMap fun r => i.rulePaths r.2 r.1) ++
    if host = "" then i.defaultPath?.toList else []

/-- The secrets that TLS blocks name for the host, block by block. A block with an empty name gives
none, and no block gives one to the empty host. -/
def secretsOn (i : Ingress) (host : String) : List String :=
  if host = "" then []
  else (i.spec.tls.filter fun t => host ∈ t.hosts).filterMap fun t => t.secretName.filter (· ≠ "")

theorem groupKey_eq_iff {i : Ingress} {host : String} {k : GroupKey} : i.groupKey host = k ↔
    i.metadata.space = k.space ∧ i.className = k.ingressClass ∧ host = k.host := by
  cases k
  simp [groupKey]

theorem hasHost_iff {i : Ingress} {host : String} : i.HasHost host ↔ host ∈ i.hosts := by
  unfold HasHost hosts contributions defaultPath?
  simp only [List.map_append, List.map_map, List.mem_append, List.mem_map, Function.comp_apply,
    Option.mem_toList, Option.map_eq_some_iff, Prod.exists, List.mk_mem_zipIdx_iff_getElem?]
  apply or_congr
  · simp only [List.mem_iff_getElem?]
    constructor
    · rintro ⟨rule, ⟨r, there⟩, named⟩
      exact ⟨rule, r, there, named⟩
    · rintro ⟨rule, r, there, named⟩
      exact ⟨rule, ⟨r, there⟩, named⟩
  · rw [Option.isSome_iff_exists]
    constructor
    · rintro ⟨rfl, s, given⟩
      exact ⟨_, ⟨s, given, rfl⟩, rfl⟩
    · rintro ⟨_, ⟨s, given, -⟩, rfl⟩
      exact ⟨rfl, s, given⟩

/-- The hosts of an Ingress that are this one, each with the paths that come with it. -/
def sharesOf (i : Ingress) (host : String) : List (Ingress × String × List RoutePath) :=
  (i.contributions.filter (·.1 = host)).map fun c => (i, c)

theorem sharesOf_ne_nil {i : Ingress} {host : String} (has : i.HasHost host) :
    i.sharesOf host ≠ [] := by
  obtain ⟨c, mem, named⟩ := List.mem_map.mp (hasHost_iff.mp has)
  refine List.ne_nil_of_mem (List.mem_map_of_mem (List.mem_filter.mpr ⟨mem, ?_⟩))
  exact decide_eq_true named

theorem flatMap_paths_sharesOf (i : Ingress) (host : String) :
    (i.sharesOf host).flatMap (·.2.2) = i.pathsOn host := by
  unfold sharesOf pathsOn contributions
  rw [List.flatMap_map, List.filter_append, List.flatMap_append, List.filter_map, List.flatMap_map]
  congr 1
  cases i.defaultPath? with
  | none => simp
  | some p =>
    by_cases all : host = ""
    · simp [all]
    · simp [all, Ne.symm all]

theorem filterMap_secretFor? (i : Ingress) (host : String) :
    i.spec.tls.filterMap (RuleGroup.secretFor? host) = i.secretsOn host := by
  unfold secretsOn
  split
  · rename_i all
    rw [List.filterMap_eq_nil_iff]
    intro t _
    unfold RuleGroup.secretFor?
    cases t.secretName with
    | none => rfl
    | some s => simp [all]
  · rename_i one
    rw [List.filterMap_filter]
    apply List.filterMap_congr
    intro t _
    unfold RuleGroup.secretFor?
    cases t.secretName with
    | none => simp
    | some s =>
      by_cases listed : host ∈ t.hosts
      · by_cases empty : s = ""
        · simp [empty, Option.filter]
        · simp [one, listed, empty, Option.filter]
      · simp [listed]

end Ingress

/-! ## How a group is filled -/

/-- The Ingresses that a group is about: those of its namespace and class that have its host. -/
def contributors (is : List Ingress) (k : GroupKey) : List Ingress :=
  is.filter fun i => i.metadata.space = k.space ∧ i.className = k.ingressClass ∧ i.HasHost k.host

/-- All that Ingresses have for hosts, in the order in which it is read. -/
def allShares (is : List Ingress) : List (Ingress × String × List RoutePath) :=
  is.flatMap fun i => i.contributions.map fun c => (i, c)

/-- The part of it that falls to one group. -/
def sharesIn (is : List Ingress) (k : GroupKey) : List (Ingress × String × List RoutePath) :=
  (allShares is).filter fun s => s.1.groupKey s.2.1 = k

namespace RuleGroup

/-- A group that an Ingress opens. -/
def opened (k : GroupKey) (i : Ingress) : RuleGroup where
  space := k.space
  name := i.metadata.name
  host := k.host
  ingressClass := k.ingressClass

def take (g : RuleGroup) (s : Ingress × String × List RoutePath) : RuleGroup :=
  (g.addSource s.1).addPaths s.2.2

theorem foldl_take (g : RuleGroup) (ss : List (Ingress × String × List RoutePath)) :
    ss.foldl take g = { g with
      paths := g.paths ++ ss.flatMap (·.2.2)
      sources := (ss.map (·.1.key)).foldl addNew g.sources
      tlsSecrets := (ss.flatMap (·.1.secretsOn g.host)).foldl addNew g.tlsSecrets } := by
  induction ss generalizing g with
  | nil => simp
  | cons s ss ih =>
    rw [List.foldl_cons, ih]
    simp [take, addSource, addPaths, Ingress.filterMap_secretFor?]

end RuleGroup

/-- What a share makes of the group that it falls to, which it opens if there is none yet. -/
def fill (k : GroupKey) (g : Option RuleGroup) (s : Ingress × String × List RoutePath) :
    Option RuleGroup :=
  some ((g.getD (.opened k s.1)).take s)

theorem GroupTable.get?_add (t : GroupTable) (i : Ingress) (c : String × List RoutePath)
    (k : GroupKey) :
    (t.add i c).get? k = if i.groupKey c.1 = k then fill k (t.get? k) (i, c) else t.get? k := by
  unfold add
  rw [OrderedMap.get?_insert]
  by_cases own : i.groupKey c.1 = k
  · subst own
    rfl
  · have other : ¬ (⟨i.metadata.space, i.className, c.1⟩ : GroupKey) = k := own
    rw [if_neg own, if_neg other]

/-- A group is opened by the first share that falls to it, and takes all of them in their order. -/
theorem get?_groupTable (is : List Ingress) (k : GroupKey) :
    (groupTable is).get? k =
      (sharesIn is k).head?.map fun s => (sharesIn is k).foldl RuleGroup.take (.opened k s.1) := by
  have run : (groupTable is).get? k = (sharesIn is k).foldl (fill k) none := by
    have read : groupTable is = (allShares is).foldl (fun t s => t.add s.1 s.2) .empty := by
      unfold allShares groupTable GroupTable.addIngress
      rw [List.foldl_flatMap]
      simp only [List.foldl_map]
    rw [read]
    apply foldl_filter_hom (fun t : GroupTable => t.get? k)
      fun s : Ingress × String × List RoutePath => s.1.groupKey s.2.1 = k
    · intro t s _ other
      rw [GroupTable.get?_add, if_neg (by simpa using other)]
    · intro t s _ own
      rw [GroupTable.get?_add, if_pos (by simpa using own)]
  rw [run]
  cases sharesIn is k with
  | nil => rfl
  | cons s ss => exact List.foldl_hom some fun _ _ => rfl

/-- The shares of a group are those of its contributors, Ingress by Ingress. -/
theorem sharesIn_eq (is : List Ingress) (k : GroupKey) :
    sharesIn is k = (contributors is k).flatMap (·.sharesOf k.host) := by
  unfold sharesIn allShares contributors
  rw [List.filter_flatMap, flatMap_filter]
  congr 1
  funext i
  rw [List.filter_map]
  split
  · rename_i own
    obtain ⟨space, class', -⟩ := of_decide_eq_true own
    unfold Ingress.sharesOf
    congr 2
    funext c
    simp [Ingress.groupKey_eq_iff, space, class']
  · rename_i other
    rw [List.map_eq_nil_iff, List.filter_eq_nil_iff]
    rintro c mem falls
    obtain rfl := of_decide_eq_true falls
    apply other
    exact decide_eq_true ⟨rfl, rfl, Ingress.hasHost_iff.mpr (List.mem_map_of_mem mem)⟩

theorem head?_sharesIn (is : List Ingress) (k : GroupKey) :
    (sharesIn is k).head?.map (·.1) = (contributors is k).head? := by
  rw [sharesIn_eq]
  cases split : contributors is k with
  | nil => rfl
  | cons i rest =>
    have has : i.HasHost k.host := by
      have mem : i ∈ contributors is k := by simp [split]
      exact (of_decide_eq_true (List.mem_filter.mp mem).2).2.2
    obtain ⟨s, more, shares⟩ := List.exists_cons_of_ne_nil (Ingress.sharesOf_ne_nil has)
    have own : s ∈ i.sharesOf k.host := by simp [shares]
    obtain ⟨c, -, rfl⟩ := List.mem_map.mp own
    rw [List.flatMap_cons, shares]
    rfl

/-- What contributors add, each time they come to the group, is there once. -/
theorem foldl_addNew_sharesIn {α : Type} [DecidableEq α] (is : List Ingress) (k : GroupKey)
    (f : Ingress → List α) :
    ((sharesIn is k).flatMap fun s => f s.1).foldl addNew [] =
      ((contributors is k).flatMap f).eraseDups := by
  have present : ∀ i ∈ contributors is k, i.sharesOf k.host ≠ [] := fun i mem =>
    Ingress.sharesOf_ne_nil (of_decide_eq_true (List.mem_filter.mp mem).2).2.2
  rw [sharesIn_eq, List.flatMap_assoc, ← foldl_addNew_nil, ← foldl_addNew_flatMap_copies present f]
  congr 1
  apply List.flatMap_congr
  intro i _
  unfold Ingress.sharesOf
  rw [List.flatMap_map, List.flatMap_map]

/-! ## What a group is made of -/

/-- The parts of a group, as its contributors determine them. -/
structure RuleGroup.IsMadeOf (is : List Ingress) (g : RuleGroup) : Prop where
  /-- The first of them gives the name. -/
  name : ∃ first, (contributors is g.groupKey).head? = some first ∧ g.name = first.metadata.name
  paths : g.paths = (contributors is g.groupKey).flatMap (·.pathsOn g.host)
  /-- Ingresses of one key count as one source. -/
  sources : g.sources = ((contributors is g.groupKey).map (·.key)).eraseDups
  secrets : g.tlsSecrets = ((contributors is g.groupKey).flatMap (·.secretsOn g.host)).eraseDups

theorem isMadeOf_groupTable {is : List Ingress} {k : GroupKey} {g : RuleGroup}
    (found : (groupTable is).get? k = some g) : g.IsMadeOf is := by
  have filed : g.groupKey = k := filed_groupTable is k g found
  rw [get?_groupTable, Option.map_eq_some_iff] at found
  obtain ⟨s, head, made⟩ := found
  have first := head?_sharesIn is k
  rw [head] at first
  have sources := foldl_addNew_sharesIn is k fun i => [i.key]
  rw [← List.map_eq_flatMap, ← List.map_eq_flatMap] at sources
  subst made
  rw [RuleGroup.foldl_take] at filed ⊢
  constructor
  · exact ⟨s.1, by rw [filed]; exact first.symm, rfl⟩
  · rw [filed]
    show [] ++ (sharesIn is k).flatMap (·.2.2) = _
    rw [List.nil_append, sharesIn_eq, List.flatMap_assoc]
    simp only [Ingress.flatMap_paths_sharesOf]
    rfl
  · rw [filed]
    exact sources
  · rw [filed]
    exact foldl_addNew_sharesIn is k fun i => i.secretsOn k.host

/-! ## Groups under their keys -/

theorem contains_ruleGroups {is : List Ingress} {k : GroupKey} {g : RuleGroup}
    (found : (groupTable is).get? k = some g) : (ruleGroups is).contains g.key = true := by
  have opened : g ∈ (groupTable is).values := OrderedMap.mem_values_iff.mpr ⟨k, found⟩
  unfold ruleGroups OrderedMap.contains
  rw [OrderedMap.get?_ofList, OrderedMap.lookup_isSome_iff_mem, List.map_reverse, List.mem_reverse]
  exact List.mem_map.mpr ⟨(g.key, g), List.mem_map_of_mem opened, rfl⟩

/-- Every group stands under the key that it makes, and its contributors determine it. Where there
are contributors, there is a group under the key that they make (of this host and class, unless one
that makes the same key is opened later). -/
theorem groups_sound (is : List Ingress) :
    (∀ k g, (ruleGroups is).get? k = some g →
      k = ⟨g.space, routeName g.name g.host⟩ ∧ g.IsMadeOf is) ∧
    ∀ k first, (contributors is k).head? = some first →
      (ruleGroups is).contains ⟨k.space, routeName first.metadata.name k.host⟩ = true := by
  constructor
  · intro k g kept
    exact ⟨(key_of_ruleGroups kept).symm, isMadeOf_groupTable (get?_groupTable_of_ruleGroups kept)⟩
  · intro k first head
    rw [← head?_sharesIn, Option.map_eq_some_iff] at head
    obtain ⟨s, head, rfl⟩ := head
    have found := get?_groupTable is k
    rw [head, Option.map_some, RuleGroup.foldl_take] at found
    exact contains_ruleGroups found

/-- Two Ingresses of one key and a third one. The first has a rule without paths, a path that does
not lead to a Service and a default backend; all of them name secrets for the host that they
share. -/
def mixed : List Ingress :=
  let web := Ingress.plain ⟨"shop", "web"⟩ []
  [{ web with spec := { web.spec with
      defaultBackend := some ⟨some ⟨"one", ⟨some "http", none⟩⟩, none⟩
      rules :=
        [⟨"a.b", none⟩,
         ⟨"a.b", some ⟨[⟨"/files", "Prefix", ⟨none, some .empty⟩⟩,
           ⟨"", "Exact", ⟨some ⟨"one", ⟨some "http", none⟩⟩, none⟩⟩]⟩⟩]
      tls := [⟨["a.b"], some "old"⟩, ⟨["a.b"], some ""⟩] } },
   { web with spec := { web.spec with
      rules :=
        [⟨"", some ⟨[⟨"/x", "Prefix", ⟨some ⟨"two", ⟨none, some 80⟩⟩, none⟩⟩]⟩⟩,
         ⟨"a.b", some ⟨[⟨"/y", "Prefix", ⟨some ⟨"two", ⟨some "grpc", none⟩⟩, none⟩⟩]⟩⟩]
      tls := [⟨["a.b"], some "old"⟩, ⟨["a.b"], some "new"⟩] } },
   .plain ⟨"shop", "api"⟩ [("a.b", "three")] [⟨["a.b"], some "new"⟩]]

/-- The group that all of them share. -/
theorem mixed_group_sound :
    ∃ g, (ruleGroups mixed).get? ⟨"shop", "web-a-b"⟩ = some g ∧
      g.paths.map (·.path) = ["/", "/y", "/"] ∧ g.sources = [⟨"shop", "web"⟩, ⟨"shop", "api"⟩] ∧
      g.tlsSecrets = ["old", "new"] ∧
      ⟨"shop", "web-a-b"⟩ = (⟨g.space, routeName g.name g.host⟩ : ObjectKey) ∧
      g.IsMadeOf mixed := by
  have parts : ∃ e ∈ (ruleGroups mixed).toList, e.1 = ⟨"shop", "web-a-b"⟩ ∧
      e.2.paths.map (·.path) = ["/", "/y", "/"] ∧
      e.2.sources = [⟨"shop", "web"⟩, ⟨"shop", "api"⟩] ∧ e.2.tlsSecrets = ["old", "new"] := by
    decide +kernel
  obtain ⟨⟨_, g⟩, mem, rfl, paths, sources, secrets⟩ := parts
  have kept := OrderedMap.mem_toList.mp mem
  exact ⟨g, kept, paths, sources, secrets, (groups_sound mixed).1 _ _ kept⟩

end GatewayMigration
