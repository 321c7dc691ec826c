import GatewayMigration.Proofs.Lowering.Routes
/-!
# Which requests a lowered plan serves

An Ingress asks that the requests for a path of a host go to a Service. Groups of rules are kept
apart by namespace, class and host, but their routes only by namespace and name, and the slug in the
name tells fewer hosts apart than there are. Main statement: `serves_iff`, a request that is asked
for is served exactly if one of the groups that ask for it keeps its route. `dotted_host_lost` is a
request that is lost.
-/

namespace GatewayMigration

/-! ## Requests -/

/-- An Ingress asks that the requests for a path of a host go to a Service: in one of its rules, or
as its default backend, which serves all paths of all hosts. -/
inductive Ingress.Asks (i : Ingress) : (host : String) → PathMatch → ServiceBackend → Prop
  | rule {rule : IngressRule} {http : IngressPaths} {p : IngressPath} {s : ServiceBackend}
      (mem : rule ∈ i.spec.rules) (paths : rule.http = some http) (path : p ∈ http.paths)
      (service : p.backend.service = some s) :
      i.Asks rule.host ⟨gatewayPathType p.pathType, if p.path.isEmpty then "/" else p.path⟩ s
  | default {b : Backend} {s : ServiceBackend} (given : i.spec.defaultBackend = some b)
      (service : b.service = some s) : i.Asks "" ⟨"PathPrefix", "/"⟩ s

/-- What the port of a backend means in a namespace: a number itself, no port none, and a name the
number that the Service has under it. -/
inductive ServiceBackend.HasPort (ports : Catalog PortLookup) (space : String)
    (s : ServiceBackend) : Option Int → Prop
  | number {n : Int} (given : s.port.number = some n) : s.HasPort ports space (some n)
  | absent (number : s.port.number = none) (name : s.port.name = none) : s.HasPort ports space none
  | named {name : String} {lookup : PortLookup} {n : Int} (number : s.port.number = none)
      (given : s.port.name = some name) (known : ports.get? ⟨space, s.name⟩ = some lookup)
      (found : lookup.get? name = some n) : s.HasPort ports space (some n)

def RouteRule.Sends (r : RouteRule) (path : PathMatch) (service : String) (port : Option Int) :
    Prop :=
  (∃ ms, r.pathMatches = some ms ∧ ⟨some path⟩ ∈ ms) ∧
    ∃ bs, r.backendRefs = some bs ∧ { name := service, port := port } ∈ bs

/-- A route of the namespace for exactly this host sends the path to the port of the Service. The
route for all hosts has no hostname. -/
def Plan.Serves (p : Plan) (space host : String) (path : PathMatch) (service : String)
    (port : Option Int) : Prop :=
  ∃ k r, p.routes.get? k = some r ∧ k.space = space ∧ r.route.metadata.space = space ∧
    r.route.spec.hostnames = (if host = "" then [] else [host]) ∧
    ∃ rule ∈ r.route.spec.rules, rule.Sends path service port

/-- A group is opened, and no group that is opened later has the key of its route. -/
def KeepsRoute (is : List Ingress) (k : GroupKey) : Prop :=
  ∃ before g after, openedGroups is = before ++ (k, g) :: after ∧
    ∀ later ∈ after, later.2.key ≠ g.key

/-! ## Paths of groups as requests -/

def RoutePath.pathMatch (p : RoutePath) : PathMatch := ⟨gatewayPathType p.pathType, p.path⟩

theorem mem_pathsFor_iff {i : Ingress} {k : GroupKey} {p : RoutePath} :
    p ∈ i.pathsFor k ↔ ∃ c ∈ i.contributions, i.groupKey c.1 = k ∧ p ∈ c.2 := by
  unfold Ingress.pathsFor
  rw [List.mem_flatMap]
  constructor
  · rintro ⟨c, mem, held⟩
    split at held
    · rename_i same
      exact ⟨c, mem, same, held⟩
    · cases held
  · rintro ⟨c, mem, same, held⟩
    exact ⟨c, mem, by rw [if_pos same]; exact held⟩

theorem mem_rulePaths_iff {i : Ingress} {r : Nat} {rule : IngressRule} {q : RoutePath} :
    q ∈ i.rulePaths r rule ↔ ∃ http, rule.http = some http ∧
      ∃ j p, http.paths[j]? = some p ∧ i.rulePath? r j p = some q := by
  unfold Ingress.rulePaths
  cases rule.http with
  | none => simp
  | some http =>
    simp only [List.mem_filterMap, Prod.exists, List.mk_mem_zipIdx_iff_getElem?,
      Option.some.injEq, exists_eq_left']
    constructor
    · rintro ⟨p, j, there, made⟩
      exact ⟨j, p, there, made⟩
    · rintro ⟨j, p, there, made⟩
      exact ⟨p, j, there, made⟩

theorem mem_contributions_iff {i : Ingress} {c : String × List RoutePath} :
    c ∈ i.contributions ↔
      (∃ (r : Nat) (rule : IngressRule), i.spec.rules[r]? = some rule ∧
        c = (rule.host, i.rulePaths r rule)) ∨
      ∃ p, i.defaultPath? = some p ∧ c = ("", [p]) := by
  unfold Ingress.contributions
  simp only [List.mem_append, List.mem_map, Prod.exists, List.mk_mem_zipIdx_iff_getElem?,
    Option.mem_toList]
  constructor
  · rintro (⟨rule, r, there, rfl⟩ | ⟨p, given, rfl⟩)
    · exact .inl ⟨r, rule, there, rfl⟩
    · exact .inr ⟨p, given, rfl⟩
  · rintro (⟨r, rule, there, rfl⟩ | ⟨p, given, rfl⟩)
    · exact .inl ⟨rule, r, there, rfl⟩
    · exact .inr ⟨p, given, rfl⟩

theorem pathMatch_of_rulePath {i : Ingress} {r j : Nat} {p : IngressPath} {q : RoutePath}
    (made : i.rulePath? r j p = some q) :
    q.source = i.key ∧ p.backend.service = some q.backend ∧
      q.pathMatch = ⟨gatewayPathType p.pathType, if p.path.isEmpty then "/" else p.path⟩ := by
  obtain ⟨s, service, rfl⟩ := Option.map_eq_some_iff.mp made
  exact ⟨rfl, service, rfl⟩

/-- Every path in a group is one that an Ingress of the group asks for. -/
theorem asks_of_mem_pathsFor {i : Ingress} {k : GroupKey} {q : RoutePath}
    (held : q ∈ i.pathsFor k) :
    i.groupKey k.host = k ∧ q.source = i.key ∧ i.Asks k.host q.pathMatch q.backend := by
  obtain ⟨c, mem, rfl, inside⟩ := mem_pathsFor_iff.mp held
  refine ⟨rfl, ?_⟩
  rcases mem_contributions_iff.mp mem with ⟨r, rule, there, rfl⟩ | ⟨p, given, rfl⟩
  · obtain ⟨http, paths, j, p, path, made⟩ := mem_rulePaths_iff.mp inside
    obtain ⟨source, service, shape⟩ := pathMatch_of_rulePath made
    refine ⟨source, ?_⟩
    rw [shape]
    exact .rule (List.mem_of_getElem? there) paths (List.mem_of_getElem? path) service
  · obtain rfl := List.mem_singleton.mp inside
    obtain ⟨s, service, rfl⟩ := Option.map_eq_some_iff.mp given
    obtain ⟨b, backend, service⟩ := Option.bind_eq_some_iff.mp service
    exact ⟨rfl, .default backend service⟩

theorem mem_pathsFor_of_asks {i : Ingress} {host : String} {path : PathMatch} {s : ServiceBackend}
    (asks : i.Asks host path s) :
    ∃ q ∈ i.pathsFor (i.groupKey host), q.source = i.key ∧ q.pathMatch = path ∧ q.backend = s := by
  cases asks with
  | @rule rule http p s mem paths path service =>
    obtain ⟨r, there⟩ := List.getElem?_of_mem mem
    obtain ⟨j, path⟩ := List.getElem?_of_mem path
    obtain ⟨q, made⟩ : ∃ q, i.rulePath? r j p = some q := by simp [Ingress.rulePath?, service]
    obtain ⟨source, backend, shape⟩ := pathMatch_of_rulePath made
    refine ⟨q, ?_, source, shape, Option.some.inj (backend.symm.trans service)⟩
    exact mem_pathsFor_iff.mpr ⟨_, mem_contributions_iff.mpr (.inl ⟨r, rule, there, rfl⟩), rfl,
      mem_rulePaths_iff.mpr ⟨http, paths, j, p, path, made⟩⟩
  | default given service =>
    obtain ⟨q, made⟩ : ∃ q, i.defaultPath? = some q := by
      simp [Ingress.defaultPath?, given, service]
    have contributes := mem_contributions_iff.mpr (.inr ⟨q, made, rfl⟩)
    obtain ⟨t, backend, rfl⟩ := Option.map_eq_some_iff.mp made
    refine ⟨_, mem_pathsFor_iff.mpr ⟨_, contributes, rfl, List.mem_singleton.mpr rfl⟩, rfl, rfl, ?_⟩
    simpa [given, service] using backend.symm

theorem resolvePort_eq_ok_iff {ports : Catalog PortLookup} {p : RoutePath} {port : Option Int} :
    resolvePort ports p = .ok port ↔ p.backend.HasPort ports p.source.space port := by
  unfold resolvePort
  constructor
  · intro resolved
    split at resolved
    · rename_i number
      cases resolved
      exact .number number
    · rename_i number name
      cases resolved
      exact .absent number name
    · rename_i name number given
      dsimp only at resolved
      split at resolved
      · rename_i n found
        cases resolved
        unfold portsOf at found
        cases known : ports.get? ⟨p.source.space, p.backend.name⟩ with
        | none => simp [known] at found
        | some lookup => exact .named number given known (by simpa [known] using found)
      · cases resolved
  · intro means
    cases means with
    | number given => rw [given]
    | absent number name => rw [number, name]
    | named number given known found =>
      rw [number, given]
      simp only [portsOf, known, Option.getD_some, found]

theorem sends_ruleFor_iff {p : RoutePath} {port port' : Option Int} {path : PathMatch}
    {service : String} :
    (ruleFor p port).Sends path service port' ↔
      path = p.pathMatch ∧ service = p.backend.name ∧ port' = port := by
  simp [RouteRule.Sends, ruleFor, RoutePath.pathMatch]

theorem hostnames_inj {a b : String} :
    (if a.isEmpty then [] else [a]) = (if b = "" then [] else [b]) ↔ a = b := by
  simp only [String.isEmpty_iff]
  by_cases ha : a = ""
  · rw [if_pos ha, ha]
    by_cases hb : b = ""
    · rw [if_pos hb, hb]
      exact iff_of_true rfl rfl
    · rw [if_neg hb]
      exact iff_of_false (by simp) fun same => hb same.symm
  · rw [if_neg ha]
    by_cases hb : b = ""
    · rw [if_pos hb, hb]
      exact iff_of_false (by simp) ha
    · rw [if_neg hb, List.cons.injEq, and_iff_left rfl]

/-! ## What is served -/

/-- The group of an opened entry is the one in the table, which stands under its own key. -/
theorem get?_groupTable_of_opened {is : List Ingress} {e : GroupKey × RuleGroup}
    (opened : e ∈ openedGroups is) :
    (groupTable is).get? e.1 = some e.2 ∧ e.2.groupKey = e.1 := by
  have found := OrderedMap.mem_toList.mp (show (e.1, e.2) ∈ (groupTable is).toList from opened)
  exact ⟨found, filed_groupTable is _ _ found⟩

/-- A plan serves what the groups that keep their routes ask for, and nothing else. -/
theorem serves_lower_iff_kept (is : List Ingress) (ports : Catalog PortLookup)
    (space host : String) (path : PathMatch) (service : String) (port : Option Int) :
    (lower is ports).1.Serves space host path service port ↔
      ∃ k g, KeepsRoute is k ∧ (groupTable is).get? k = some g ∧ k.space = space ∧ k.host = host ∧
        ∃ p ∈ g.paths, p.pathMatch = path ∧ p.backend.name = service ∧
          resolvePort ports p = .ok port := by
  constructor
  · rintro ⟨k, r, found, rfl, _, hosts, rule, mem, sends⟩
    obtain ⟨g, kept, rfl⟩ := get?_routes_lower_iff.mp found
    obtain ⟨before, e, after, opened, rfl, named, free⟩ := get?_ruleGroups_iff.mp kept
    have listed : e ∈ openedGroups is := by simp [opened]
    obtain ⟨there, filed⟩ := get?_groupTable_of_opened listed
    obtain ⟨p, inside, port', resolved, rfl⟩ := mem_groupRules_iff.mp mem
    obtain ⟨rfl, rfl, rfl⟩ := sends_ruleFor_iff.mp sends
    refine ⟨e.1, e.2, ⟨before, e.2, after, opened, by rw [named]; exact free⟩, there, ?_, ?_,
      p, inside, rfl, rfl, resolved⟩
    · rw [← filed, ← named]
      rfl
    · rw [← filed]
      exact hostnames_inj.mp hosts
  · rintro ⟨k, g, ⟨before, g', after, opened, free⟩, there, rfl, rfl, p, inside, rfl, rfl, resolved⟩
    have listed : (k, g') ∈ openedGroups is := by simp [opened]
    obtain ⟨there', filed⟩ := get?_groupTable_of_opened listed
    obtain rfl : g' = g := Option.some.inj (there'.symm.trans there)
    have kept : (ruleGroups is).get? g'.key = some g' :=
      get?_ruleGroups_iff.mpr ⟨before, (k, g'), after, opened, rfl, rfl, free⟩
    have sameSpace : g'.space = k.space := congrArg GroupKey.space filed
    refine ⟨g'.key, routePlanFor ports g', get?_routes_lower_iff.mpr ⟨g', kept, rfl⟩, sameSpace,
      sameSpace, hostnames_inj.mpr (congrArg GroupKey.host filed), ruleFor p port, ?_, ?_⟩
    · exact mem_groupRules_iff.mpr ⟨p, inside, port, resolved, rfl⟩
    · exact sends_ruleFor_iff.mpr ⟨rfl, rfl, rfl⟩

/-- A request is served exactly if an Ingress of the namespace asks for it whose group of this host
keeps its route. A group keeps its route unless a group of another host or class, opened later in
the same namespace, has the same route name. -/
theorem serves_iff (is : List Ingress) (ports : Catalog PortLookup) (space host : String)
    (path : PathMatch) (service : String) (port : Option Int) :
    (lower is ports).1.Serves space host path service port ↔
      ∃ i ∈ is, i.metadata.space = space ∧ KeepsRoute is (i.groupKey host) ∧
        ∃ s : ServiceBackend, s.name = service ∧ s.HasPort ports space port ∧
          i.Asks host path s := by
  rw [serves_lower_iff_kept]
  constructor
  · rintro ⟨k, g, keeps, there, rfl, rfl, p, inside, rfl, rfl, resolved⟩
    obtain ⟨i, mem, held⟩ := (mem_paths_iff there p).mp inside
    obtain ⟨same, source, asks⟩ := asks_of_mem_pathsFor held
    have means := resolvePort_eq_ok_iff.mp resolved
    rw [source] at means
    have space : i.metadata.space = k.space := congrArg GroupKey.space same
    exact ⟨i, mem, space, by rw [same]; exact keeps, p.backend, rfl,
      by rw [← space]; exact means, asks⟩
  · rintro ⟨i, mem, rfl, keeps, s, rfl, means, asks⟩
    obtain ⟨q, held, source, shape, rfl⟩ := mem_pathsFor_of_asks asks
    obtain ⟨before, g, after, opened, free⟩ := keeps
    have listed : (i.groupKey host, g) ∈ openedGroups is := by simp [opened]
    obtain ⟨there, _⟩ := get?_groupTable_of_opened listed
    refine ⟨i.groupKey host, g, ⟨before, g, after, opened, free⟩, there, rfl, rfl, q,
      (mem_paths_iff there q).mpr ⟨i, mem, held⟩, shape, rfl, ?_⟩
    rw [resolvePort_eq_ok_iff, source]
    exact means

/-- The requests for the host with a dot are asked for and not served: the route of the host with a
dash takes the place of theirs. -/
theorem dotted_host_lost :
    let is := [Ingress.plain ⟨"shop", "web"⟩ [("a.b", "one"), ("a-b", "two")]]
    let one : ServiceBackend := ⟨"one", ⟨none, some 80⟩⟩
    (∃ i ∈ is, i.metadata.space = "shop" ∧ i.Asks "a.b" ⟨"PathPrefix", "/"⟩ one) ∧
      one.HasPort .empty "shop" (some 80) ∧
      ¬ (lower is .empty).1.Serves "shop" "a.b" ⟨"PathPrefix", "/"⟩ "one" (some 80) := by
  intro is one
  refine ⟨⟨_, .head _, rfl, ?_⟩, .number rfl, ?_⟩
  · let rule : IngressRule := ⟨"a.b", some ⟨[⟨"/", "Prefix", ⟨some one, none⟩⟩]⟩⟩
    exact .rule (show rule ∈ _ from .head _) rfl (.head _) rfl
  · rintro ⟨k, r, found, -, -, hosts, -⟩
    have others : ∀ e ∈ (lower is .empty).1.routes.toList,
        e.2.route.spec.hostnames ≠ if "a.b" = "" then [] else ["a.b"] := by decide +kernel
    exact others (k, r) (OrderedMap.mem_toList.mpr found) hosts

end GatewayMigration
