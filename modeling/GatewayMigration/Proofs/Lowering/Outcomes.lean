import GatewayMigration.Proofs.Lowering.Contributors
import GatewayMigration.Proofs.Lowering.Delivery
/-!
# What becomes of a path

A path of a group becomes a rule of its route, or an error if its port is only named and the Service
has no such port. Errors say where the name is written. The positions in them are taken when groups
are filled, and count rules and paths that no group has. Main statements:

* `backendAt_of_mem_pathsFor`: the field of a path leads back to its backend;
* `yields_group`: the paths of a group become rules and errors, in their order (`Yields.unique`:
  which ones is not left open);
* `paths_partitioned`: this is so group by group, and every error names the port that it points to.
-/

namespace GatewayMigration

/-! ## Where a backend is written -/

/-- A field of the Ingress holds the backend: that of a path in one of its rules, by the positions
of the rule and of the path, or the default one. -/
inductive Ingress.BackendAt (i : Ingress) : FieldPath → ServiceBackend → Prop
  | rule {r j : Nat} {rule : IngressRule} {http : IngressPaths} {p : IngressPath}
      {s : ServiceBackend} (there : i.spec.rules[r]? = some rule) (paths : rule.http = some http)
      (path : http.paths[j]? = some p) (service : p.backend.service = some s) :
      i.BackendAt ⟨["ingress", i.metadata.space, i.metadata.name, "spec",
        "rules[" ++ toString r ++ "]", "http", "paths[" ++ toString j ++ "]", "backend"]⟩ s
  | default {b : Backend} {s : ServiceBackend} (given : i.spec.defaultBackend = some b)
      (service : b.service = some s) :
      i.BackendAt ⟨["ingress", i.metadata.space, i.metadata.name, "spec", "defaultBackend"]⟩ s

/-- The path of the error leads to the name of the port in a backend of the Ingress, and its value
is that name. -/
def Ingress.NamesPort (i : Ingress) (e : FieldError) : Prop :=
  ∃ field s name, i.BackendAt field s ∧ s.port.name = some name ∧
    e.path = field.child ["service", "port", "name"] ∧ e.value = .string name

theorem backendAt_of_mem_pathsFor {i : Ingress} {k : GroupKey} {q : RoutePath}
    (held : q ∈ i.pathsFor k) : i.BackendAt q.field q.backend := by
  obtain ⟨c, mem, -, inside⟩ := mem_pathsFor_iff.mp held
  rcases mem_contributions_iff.mp mem with ⟨r, rule, there, rfl⟩ | ⟨p, given, rfl⟩
  · obtain ⟨http, paths, j, p, path, made⟩ := mem_rulePaths_iff.mp inside
    obtain ⟨s, service, rfl⟩ := Option.map_eq_some_iff.mp made
    exact .rule there paths path service
  · obtain rfl := List.mem_singleton.mp inside
    obtain ⟨s, service, rfl⟩ := Option.map_eq_some_iff.mp given
    obtain ⟨b, backend, service⟩ := Option.bind_eq_some_iff.mp service
    exact .default backend service

/-! ## Ports that are missing -/

/-- The port is given by its name alone, and the Service of the namespace has no port of this name.
A Service that is not known has no ports. -/
structure ServiceBackend.Lacks (ports : Catalog PortLookup) (space : String) (s : ServiceBackend)
    (name : String) : Prop where
  number : s.port.number = none
  named : s.port.name = some name
  unknown : ∀ lookup, ports.get? ⟨space, s.name⟩ = some lookup → lookup.get? name = none

section Ports
variable {ports : Catalog PortLookup} {space : String} {s : ServiceBackend}

theorem ServiceBackend.HasPort.not_lacks {port : Option Int} (means : s.HasPort ports space port)
    (name : String) : ¬ s.Lacks ports space name := by
  intro lacks
  cases means with
  | number given => cases given.symm.trans lacks.number
  | absent _ absent => cases absent.symm.trans lacks.named
  | named _ given known found =>
    cases given.symm.trans lacks.named
    cases found.symm.trans (lacks.unknown _ known)

theorem ServiceBackend.HasPort.unique {port other : Option Int}
    (means : s.HasPort ports space port) (means' : s.HasPort ports space other) :
    port = other := by
  cases means with
  | number given =>
    cases means' with
    | number given' => rw [← given, ← given']
    | absent number _ => cases given.symm.trans number
    | named number => cases given.symm.trans number
  | absent number absent =>
    cases means' with
    | number given => cases number.symm.trans given
    | absent => rfl
    | named _ given => cases absent.symm.trans given
  | named number given known found =>
    cases means' with
    | number given' => cases number.symm.trans given'
    | absent _ absent => cases given.symm.trans absent
    | named _ given' known' found' =>
      cases given.symm.trans given'
      cases known.symm.trans known'
      rw [← found, ← found']

/-- The error about a port that is missing. -/
def RoutePath.portError (space : String) (p : RoutePath) (name : String) : FieldError where
  kind := .invalid
  path := p.field.child ["service", "port", "name"]
  value := .string name
  message := "named port not found on Service " ++ (space ++ "/" ++ p.backend.name)

theorem lacks_of_resolvePort_error {p : RoutePath} {why : FieldError}
    (failed : resolvePort ports p = .error why) : ∃ name,
      p.backend.Lacks ports p.source.space name ∧ why = p.portError p.source.space name := by
  unfold resolvePort at failed
  split at failed
  · cases failed
  · cases failed
  · rename_i name number named
    dsimp only at failed
    split at failed
    · cases failed
    · rename_i unknown
      cases failed
      refine ⟨name, ⟨number, named, fun lookup known => ?_⟩, rfl⟩
      rwa [portsOf, known] at unknown

end Ports

/-! ## Rules and errors -/

/-- Paths become rules and errors, each path one of them, in the order of the paths. A rule matches
the path in the way that its type says, and sends it to the port of its backend. -/
inductive Yields (ports : Catalog PortLookup) (space : String) :
    List RoutePath → List RouteRule → List FieldError → Prop
  | nil : Yields ports space [] [] []
  | rule {p : RoutePath} {port : Option Int} {ps : List RoutePath} {rules : List RouteRule}
      {errors : List FieldError} (means : p.backend.HasPort ports space port)
      (rest : Yields ports space ps rules errors) :
      Yields ports space (p :: ps)
        ({ pathMatches :=
            some [⟨some ⟨if p.pathType = "Exact" then "Exact" else "PathPrefix", p.path⟩⟩]
           backendRefs := some [{ name := p.backend.name, port := port }] } :: rules) errors
  | error {p : RoutePath} {name : String} {ps : List RoutePath} {rules : List RouteRule}
      {errors : List FieldError} (lacks : p.backend.Lacks ports space name)
      (rest : Yields ports space ps rules errors) :
      Yields ports space (p :: ps) rules (p.portError space name :: errors)

section Outcomes
variable {ports : Catalog PortLookup} {space : String}

/-- What becomes of paths is determined. -/
theorem Yields.unique {ps : List RoutePath} {rules rules' : List RouteRule}
    {errors errors' : List FieldError} (yields : Yields ports space ps rules errors)
    (yields' : Yields ports space ps rules' errors') : rules = rules' ∧ errors = errors' := by
  induction yields generalizing rules' errors' with
  | nil =>
    cases yields'
    exact ⟨rfl, rfl⟩
  | rule means _ ih =>
    cases yields' with
    | rule means' rest' =>
      obtain ⟨rfl, rfl⟩ := ih rest'
      rw [means.unique means']
      exact ⟨rfl, rfl⟩
    | error lacks' => exact absurd lacks' (means.not_lacks _)
  | error lacks _ ih =>
    cases yields' with
    | rule means' => exact absurd lacks (means'.not_lacks _)
    | error lacks' rest' =>
      obtain ⟨rfl, rfl⟩ := ih rest'
      cases lacks.named.symm.trans lacks'.named
      exact ⟨rfl, rfl⟩

theorem Yields.exists_of_mem {ps : List RoutePath} {rules : List RouteRule}
    {errors : List FieldError} (yields : Yields ports space ps rules errors) {e : FieldError}
    (mem : e ∈ errors) :
    ∃ p ∈ ps, ∃ name, p.backend.Lacks ports space name ∧ e = p.portError space name := by
  induction yields with
  | nil => cases mem
  | rule _ _ ih =>
    obtain ⟨p, later, made⟩ := ih mem
    exact ⟨p, .tail _ later, made⟩
  | @error p name _ _ _ lacks _ ih =>
    rcases List.mem_cons.mp mem with rfl | later
    · exact ⟨p, .head _, name, lacks, rfl⟩
    · obtain ⟨q, there, made⟩ := ih later
      exact ⟨q, .tail _ there, made⟩

/-- The paths of a group in one namespace become its rules and its errors. -/
theorem yields_group {g : RuleGroup} (own : ∀ p ∈ g.paths, p.source.space = g.space) :
    Yields ports g.space g.paths (groupRules ports g) (groupErrors ports g) := by
  unfold groupRules groupErrors
  generalize g.space = space, g.paths = paths at own ⊢
  induction paths with
  | nil => exact .nil
  | cons p ps ih =>
    have rest := ih fun q mem => own q (.tail _ mem)
    have here := own p (.head _)
    cases resolved : resolvePort ports p with
    | ok port =>
      simp only [List.filterMap_cons, resolved]
      have means := resolvePort_eq_ok_iff.mp resolved
      rw [here] at means
      exact .rule means rest
    | error why =>
      simp only [List.filterMap_cons, resolved]
      obtain ⟨name, lacks, made⟩ := lacks_of_resolvePort_error resolved
      rw [here] at lacks made
      rw [made]
      exact .error lacks rest

end Outcomes

/-! ## All groups -/

section
variable {is : List Ingress} {ports : Catalog PortLookup} {k : ObjectKey} {g : RuleGroup}

/-- Every path of a kept group is from an Ingress of its namespace, where its field leads to its
backend. -/
theorem origin_of_mem_paths (kept : (ruleGroups is).get? k = some g) {p : RoutePath}
    (mem : p ∈ g.paths) :
    ∃ i ∈ is, p.source = i.key ∧ p.source.space = g.space ∧ i.BackendAt p.field p.backend := by
  obtain ⟨i, listed, held⟩ := (mem_paths_iff (get?_groupTable_of_ruleGroups kept) p).mp mem
  obtain ⟨same, source, -⟩ := asks_of_mem_pathsFor held
  refine ⟨i, listed, source, ?_, backendAt_of_mem_pathsFor held⟩
  rw [source]
  exact congrArg GroupKey.space same

theorem yields_ruleGroups (ports : Catalog PortLookup) (kept : (ruleGroups is).get? k = some g) :
    Yields ports g.space g.paths (groupRules ports g) (groupErrors ports g) := by
  apply yields_group
  intro p mem
  obtain ⟨-, -, -, own, -⟩ := origin_of_mem_paths kept mem
  exact own

end

/-- Group by group, each path becomes a rule of the group's route or an error, in their order. The
path of an error leads to the name of a port in an Ingress, and that name is its value. -/
theorem paths_partitioned (is : List Ingress) (ports : Catalog PortLookup) :
    (∃ errors : List (List FieldError), (lower is ports).2 = errors.flatten ∧
      List.Forall₂ (fun e es => ∃ r, (lower is ports).1.routes.get? e.1 = some r ∧
        Yields ports e.2.space e.2.paths r.route.spec.rules es) (ruleGroups is).toList errors) ∧
    ∀ e ∈ (lower is ports).2, ∃ i ∈ is, i.NamesPort e := by
  constructor
  · refine ⟨(ruleGroups is).values.map (groupErrors ports), List.flatMap_def .., ?_⟩
    rw [OrderedMap.values, List.map_map, List.forall₂_map_right_iff, List.forall₂_same]
    intro e mem
    have kept := OrderedMap.mem_toList.mp mem
    exact ⟨_, get?_routes_lower_iff.mpr ⟨e.2, kept, rfl⟩, yields_ruleGroups ports kept⟩
  · intro e mem
    obtain ⟨g, listed, own⟩ := List.mem_flatMap.mp mem
    obtain ⟨k, kept⟩ := OrderedMap.mem_values_iff.mp listed
    obtain ⟨p, held, name, lacks, rfl⟩ := (yields_ruleGroups ports kept).exists_of_mem own
    obtain ⟨i, there, -, -, field⟩ := origin_of_mem_paths kept held
    exact ⟨i, there, p.field, p.backend, name, field, lacks.named, rfl, rfl⟩

/-- Without any Service all named ports are missing. The first error is about a path behind one that
does not lead to a Service, in a rule behind one without paths; the last one is about a default
backend. -/
theorem mixed_errors_named :
    (lower mixed .empty).2.map (fun e => (e.path.segments.drop 4, e.value)) =
      [(["rules[1]", "http", "paths[1]", "backend", "service", "port", "name"], .string "http"),
       (["rules[1]", "http", "paths[0]", "backend", "service", "port", "name"], .string "grpc"),
       (["defaultBackend", "service", "port", "name"], .string "http")] ∧
      ∀ e ∈ (lower mixed .empty).2, ∃ i ∈ mixed, i.NamesPort e :=
  ⟨by decide +kernel, (paths_partitioned mixed .empty).2⟩

end GatewayMigration
