import GatewayMigration.Proofs.Lowering.Gateways
import Mathlib.Data.List.Nodup
/-!
# Listeners for hosts

Listeners are told apart by their names, which know of a host its slug only. The groups that one
Gateway serves and whose hosts have one slug share the listeners that the first of them asks for.
Main statements:

* `listenerAt?_http_lower`, `listenerAt?_https_lower`: the first group decides what stands under a
  name;
* `heard_iff`: the groups that have listeners for exactly their host, with all their secrets.

`dashed_host_unheard` is a group without a listener for its host.
-/

namespace GatewayMigration

/-- The listener is for this host and no other one; the empty host means all of them. -/
def Listener.IsFor (l : Listener) (host : String) : Prop :=
  l.hostname = if host = "" then none else some host

/-- The Gateway listens to the host of the group in plain text, and with the group's secrets if it
has any. -/
structure RuleGroup.IsHeard (g : RuleGroup) (gateway : Gateway) : Prop where
  http : ∃ l ∈ gateway.spec.listeners, l.port = 80 ∧ l.protocol = "HTTP" ∧ l.IsFor g.host
  https : g.tlsSecrets ≠ [] → ∃ l ∈ gateway.spec.listeners, l.port = 443 ∧ l.protocol = "HTTPS" ∧
    l.IsFor g.host ∧ ∀ s ∈ g.tlsSecrets, { name := s } ∈ l.certificates

/-- The groups on the Gateway of this one whose hosts have the slug of its host, in the order of
their routes. -/
def namesakes (is : List Ingress) (g : RuleGroup) : List RuleGroup :=
  (ruleGroups is).values.filter fun h =>
    groupGatewayKey h = groupGatewayKey g ∧ hostSlug h.host = hostSlug g.host

/-! ## The listener of a name -/

theorem listenerName_eq_iff {a b protocol : String} :
    listenerName a protocol = listenerName b protocol ↔ hostSlug a = hostSlug b := by
  unfold listenerName
  rw [String.append_left_inj, String.append_left_inj]

/-- What stands under a name at the Gateway of a key. -/
def listenerAt? (gs : Catalog Gateway) (k : ObjectKey) (n : String) : Option Listener :=
  (gs.get? k).bind fun gateway => gateway.spec.listeners.find? (·.name = n)

/-- A listener that is there stays, and otherwise the group's own is added. -/
theorem find?_addListeners (gateway : Gateway) (g : RuleGroup) (n : String) :
    (addListeners gateway g).spec.listeners.find? (·.name = n) =
      (gateway.spec.listeners.find? (·.name = n)).or ((groupListeners g).find? (·.name = n)) := by
  unfold addListeners
  dsimp only
  rw [List.find?_append, List.find?_filter]
  cases old : gateway.spec.listeners.find? (·.name = n) with
  | some l => rfl
  | none =>
    have free : n ∉ gateway.spec.listeners.map (·.name) := by
      simpa using old
    rw [Option.none_or, Option.none_or]
    congr 1
    funext l
    by_cases named : l.name = n
    · simp [named, free]
    · simp [named]

theorem listenerAt?_putListeners (gs : Catalog Gateway) (g : RuleGroup) (k : ObjectKey)
    (n : String) :
    listenerAt? (putListeners gs g) k n = (listenerAt? gs k n).or
      (if groupGatewayKey g = k then (groupListeners g).find? (·.name = n) else none) := by
  unfold listenerAt? putListeners
  rw [OrderedMap.get?_insert]
  by_cases own : groupGatewayKey g = k
  · subst own
    rw [if_pos rfl, if_pos rfl, Option.bind_some, find?_addListeners]
    cases gs.get? (groupGatewayKey g) with
    | none => rfl
    | some gateway => rfl
  · rw [if_neg own, if_neg own, Option.or_none]

/-- Of all listeners that the groups of a Gateway ask for, the first of a name is there. -/
theorem listenerAt?_lower (is : List Ingress) (ports : Catalog PortLookup) (k : ObjectKey)
    (n : String) :
    listenerAt? (lower is ports).1.gateways k n =
      (((ruleGroups is).values.filter (groupGatewayKey · = k)).flatMap groupListeners).find?
        (·.name = n) := by
  have run : ∀ (gs : Catalog Gateway) (groups : List RuleGroup),
      listenerAt? (groups.foldl putListeners gs) k n = (listenerAt? gs k n).or
        (((groups.filter (groupGatewayKey · = k)).flatMap groupListeners).find? (·.name = n)) := by
    intro gs groups
    induction groups generalizing gs with
    | nil => exact (Option.or_none).symm
    | cons g groups ih =>
      rw [List.foldl_cons, ih, listenerAt?_putListeners, Option.or_assoc]
      by_cases own : groupGatewayKey g = k
      · rw [if_pos own, List.filter_cons_of_pos (by simpa using own), List.flatMap_cons,
          List.find?_append]
      · rw [if_neg own, List.filter_cons_of_neg (by simpa using own), Option.none_or]
  rw [gateways_lower, run]
  rfl

/-! ## Groups with one slug -/

theorem find?_http_groupListeners (g : RuleGroup) (host : String) :
    (groupListeners g).find? (·.name = listenerName host "http") =
      if hostSlug g.host = hostSlug host then some (httpListener g) else none := by
  have other : (httpsListener g).name ≠ listenerName host "http" :=
    fun same => listenerName_http_ne_https host g.host same.symm
  have own : (httpListener g).name = listenerName host "http" ↔ hostSlug g.host = hostSlug host :=
    listenerName_eq_iff
  unfold groupListeners
  by_cases slug : hostSlug g.host = hostSlug host
  · rw [if_pos slug, List.find?_cons_of_pos (by simpa using own.mpr slug)]
  · rw [if_neg slug, List.find?_cons_of_neg (by simpa using fun same => slug (own.mp same))]
    split
    · rfl
    · simp [other]

theorem find?_https_groupListeners (g : RuleGroup) (host : String) :
    (groupListeners g).find? (·.name = listenerName host "https") =
      if hostSlug g.host = hostSlug host ∧ g.tlsSecrets ≠ [] then some (httpsListener g)
      else none := by
  have other : (httpListener g).name ≠ listenerName host "https" :=
    listenerName_http_ne_https g.host host
  have own : (httpsListener g).name = listenerName host "https" ↔
      hostSlug g.host = hostSlug host := listenerName_eq_iff
  unfold groupListeners
  rw [List.find?_cons_of_neg (by simpa using other)]
  by_cases tls : g.tlsSecrets = []
  · simp [tls]
  · by_cases slug : hostSlug g.host = hostSlug host
    · simp [tls, slug, own]
    · simp [tls, slug, own]

/-- What is found first in what the groups ask for is asked for by the first group that asks. -/
theorem find?_flatMap_groupListeners {n : String} {asks : RuleGroup → Prop} [DecidablePred asks]
    {made : RuleGroup → Listener}
    (own : ∀ g, (groupListeners g).find? (·.name = n) = if asks g then some (made g) else none)
    (groups : List RuleGroup) :
    (groups.flatMap groupListeners).find? (·.name = n) =
      (groups.find? (asks ·)).map made := by
  induction groups with
  | nil => rfl
  | cons g groups ih =>
    rw [List.flatMap_cons, List.find?_append, own, ih]
    by_cases first : asks g
    · rw [if_pos first, List.find?_cons_of_pos (by simpa using first)]
      rfl
    · rw [if_neg first, List.find?_cons_of_neg (by simpa using first), Option.none_or]

section
variable (is : List Ingress) (ports : Catalog PortLookup) (g : RuleGroup)

theorem listenerAt?_http_lower :
    listenerAt? (lower is ports).1.gateways (groupGatewayKey g) (listenerName g.host "http") =
      (namesakes is g).head?.map httpListener := by
  rw [listenerAt?_lower, find?_flatMap_groupListeners fun h => find?_http_groupListeners h g.host,
    namesakes, List.head?_filter, List.find?_filter]
  simp

theorem listenerAt?_https_lower :
    listenerAt? (lower is ports).1.gateways (groupGatewayKey g) (listenerName g.host "https") =
      ((namesakes is g).find? (·.tlsSecrets ≠ [])).map httpsListener := by
  rw [listenerAt?_lower, find?_flatMap_groupListeners fun h => find?_https_groupListeners h g.host,
    namesakes, List.find?_filter, List.find?_filter]
  congr 2
  funext h
  simp [and_assoc]

end

/-! ## Who is heard -/

section
variable {is : List Ingress} {ports : Catalog PortLookup} {g : RuleGroup} {gateway : Gateway}

theorem Listener.isFor_iff {l : Listener} {host other : String}
    (made : l.hostname = hostname? host) : l.IsFor other ↔ host = other := by
  unfold IsFor
  rw [made, hostname?]
  by_cases all : host = ""
  · by_cases every : other = ""
    · simp [all, every]
    · simp [all, every, Ne.symm every]
  · by_cases every : other = ""
    · simp [all, every]
    · simp [all, every]

/-- A listener of a lowered Gateway is looked for under its name. -/
theorem exists_listener_iff {k : ObjectKey}
    (found : (lower is ports).1.gateways.get? k = some gateway) {n : String}
    {P : Listener → Prop} (named : ∀ l ∈ gateway.spec.listeners, P l → l.name = n) :
    (∃ l ∈ gateway.spec.listeners, P l) ↔
      ∃ l, listenerAt? (lower is ports).1.gateways k n = some l ∧ P l := by
  unfold listenerAt?
  rw [found, Option.bind_some]
  constructor
  · rintro ⟨l, mem, holds⟩
    have there : (gateway.spec.listeners.find? (·.name = n)).isSome := by
      rw [List.find?_isSome]
      exact ⟨l, mem, by simpa using named l mem holds⟩
    obtain ⟨first, taken⟩ := Option.isSome_iff_exists.mp there
    have same : first.name = n := by simpa using List.find?_some taken
    obtain rfl : first = l := List.inj_on_of_nodup_map (nodup_name_lower found)
      (List.mem_of_find?_eq_some taken) mem (same.trans (named l mem holds).symm)
    exact ⟨first, taken, holds⟩
  · rintro ⟨l, taken, holds⟩
    exact ⟨l, List.mem_of_find?_eq_some taken, holds⟩

/-- There is a plain listener for the host of a group exactly if the first of the namesakes has this
host. -/
theorem heard_http_iff
    (found : (lower is ports).1.gateways.get? (groupGatewayKey g) = some gateway) :
    (∃ l ∈ gateway.spec.listeners, l.port = 80 ∧ l.protocol = "HTTP" ∧ l.IsFor g.host) ↔
      ∃ first, (namesakes is g).head? = some first ∧ first.host = g.host := by
  rw [exists_listener_iff found (n := listenerName g.host "http"), listenerAt?_http_lower]
  · simp only [Option.map_eq_some_iff, ↓existsAndEq, and_true]
    refine exists_congr fun first => and_congr_right fun _ => ?_
    have own : (httpListener first).IsFor g.host ↔ first.host = g.host := Listener.isFor_iff rfl
    exact ⟨fun ⟨_, _, here⟩ => own.mp here, fun same => ⟨rfl, rfl, own.mpr same⟩⟩
  · rintro l mem ⟨port, -, own⟩
    obtain ⟨j, h, -, -, asked⟩ := group_of_mem_listeners_lower found mem
    rcases mem_groupListeners_iff.mp asked with rfl | ⟨-, rfl⟩
    · rw [← (Listener.isFor_iff rfl).mp own]
      rfl
    · cases port

/-- With TLS it is the first of the namesakes with secrets that decides. -/
theorem heard_https_iff
    (found : (lower is ports).1.gateways.get? (groupGatewayKey g) = some gateway) :
    (∃ l ∈ gateway.spec.listeners, l.port = 443 ∧ l.protocol = "HTTPS" ∧ l.IsFor g.host ∧
      ∀ s ∈ g.tlsSecrets, { name := s } ∈ l.certificates) ↔
      ∃ first, (namesakes is g).find? (·.tlsSecrets ≠ []) = some first ∧ first.host = g.host ∧
        g.tlsSecrets ⊆ first.tlsSecrets := by
  have certified : ∀ (h : RuleGroup) s,
      ({ name := s } : SecretRef) ∈ (httpsListener h).certificates ↔ s ∈ h.tlsSecrets := by
    intro h s
    simp [httpsListener, Listener.certificates]
  rw [exists_listener_iff found (n := listenerName g.host "https"), listenerAt?_https_lower]
  · simp only [Option.map_eq_some_iff, ↓existsAndEq, and_true]
    refine exists_congr fun first => and_congr_right fun _ => ?_
    have own : (httpsListener first).IsFor g.host ↔ first.host = g.host := Listener.isFor_iff rfl
    simp only [certified]
    constructor
    · rintro ⟨-, -, here, all⟩
      exact ⟨own.mp here, all⟩
    · rintro ⟨same, all⟩
      exact ⟨rfl, rfl, own.mpr same, all⟩
  · rintro l mem ⟨port, -, own, -⟩
    obtain ⟨j, h, -, -, asked⟩ := group_of_mem_listeners_lower found mem
    rcases mem_groupListeners_iff.mp asked with rfl | ⟨-, rfl⟩
    · cases port
    · rw [← (Listener.isFor_iff rfl).mp own]
      rfl

/-- A kept group is heard at its Gateway exactly if its host is that of the first group there with
the slug of the host, and, if it has secrets, the first such group with secrets has its host too and
all its secrets. -/
theorem heard_iff {k : ObjectKey} (kept : (ruleGroups is).get? k = some g) :
    (∃ gateway, (lower is ports).1.gateways.get? ⟨g.space, gatewayNameFor g.ingressClass⟩ =
        some gateway ∧ g.IsHeard gateway) ↔
      (∃ first, (namesakes is g).head? = some first ∧ first.host = g.host) ∧
      (g.tlsSecrets ≠ [] → ∃ first, (namesakes is g).find? (·.tlsSecrets ≠ []) = some first ∧
        first.host = g.host ∧ g.tlsSecrets ⊆ first.tlsSecrets) := by
  have made : (lower is ports).1.gateways.contains (groupGatewayKey g) = true :=
    contains_gateways_lower kept
  obtain ⟨gateway, found⟩ := Option.isSome_iff_exists.mp made
  constructor
  · rintro ⟨other, same, http, https⟩
    obtain rfl : gateway = other := Option.some.inj (found.symm.trans same)
    exact ⟨(heard_http_iff found).mp http, fun tls => (heard_https_iff found).mp (https tls)⟩
  · rintro ⟨http, https⟩
    exact ⟨gateway, found, (heard_http_iff found).mpr http,
      fun tls => (heard_https_iff found).mpr (https tls)⟩

end

/-- Two Ingresses with a secret each for the host that they share. -/
def shared : List Ingress :=
  [.plain ⟨"shop", "web"⟩ [("a.b", "one")] [⟨["a.b"], some "old"⟩],
   .plain ⟨"shop", "api"⟩ [("a.b", "two"), ("c.d", "two")] [⟨["a.b", "c.d"], some "new"⟩]]

/-- The group that they make has both secrets and is heard with them. -/
theorem shared_heard :
    ∃ g, (ruleGroups shared).get? ⟨"shop", "web-a-b"⟩ = some g ∧ g.tlsSecrets = ["old", "new"] ∧
      ∃ gateway, (lower shared .empty).1.gateways.get?
          ⟨g.space, gatewayNameFor g.ingressClass⟩ = some gateway ∧ g.IsHeard gateway := by
  have secrets : ((ruleGroups shared).get? ⟨"shop", "web-a-b"⟩).map (·.tlsSecrets) =
      some ["old", "new"] := by decide +kernel
  have alone : ∀ e ∈ (ruleGroups shared).toList, namesakes shared e.2 = [e.2] := by decide +kernel
  obtain ⟨g, kept, both⟩ := Option.map_eq_some_iff.mp secrets
  have own : namesakes shared g = [g] := alone _ (OrderedMap.mem_toList.mpr kept)
  refine ⟨g, kept, both, (heard_iff kept).mpr ⟨⟨g, by rw [own]; rfl, rfl⟩, fun tls => ?_⟩⟩
  refine ⟨g, ?_, rfl, List.Subset.refl _⟩
  rw [own, List.find?_cons_of_pos (by simpa using tls)]

/-- A host with a dash where the host of another Ingress has a dot. -/
def dashed : List Ingress :=
  [.plain ⟨"shop", "web"⟩ [("a.b", "one")], .plain ⟨"shop", "api"⟩ [("a-b", "two")]]

/-- The second host has its group, and no Gateway that listens to it. -/
theorem dashed_host_unheard :
    ∃ g, (ruleGroups dashed).get? ⟨"shop", "api-a-b"⟩ = some g ∧ g.host = "a-b" ∧
      ¬ ∃ gateway, (lower dashed .empty).1.gateways.get?
          ⟨g.space, gatewayNameFor g.ingressClass⟩ = some gateway ∧ g.IsHeard gateway := by
  have host : ((ruleGroups dashed).get? ⟨"shop", "api-a-b"⟩).map (·.host) = some "a-b" := by
    decide +kernel
  have others : ∀ e ∈ (ruleGroups dashed).toList,
      (namesakes dashed e.2).head?.map (·.host) = some "a.b" := by decide +kernel
  obtain ⟨g, kept, own⟩ := Option.map_eq_some_iff.mp host
  refine ⟨g, kept, own, ?_⟩
  rintro ⟨gateway, found, heard⟩
  obtain ⟨first, head, same⟩ := (heard_http_iff found).mp heard.http
  have other := others _ (OrderedMap.mem_toList.mpr kept)
  rw [head, Option.map_some, same, own] at other
  exact absurd other (by decide)

end GatewayMigration
