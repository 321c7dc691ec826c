import GatewayMigration.Proofs.Emission.Materialize
import GatewayMigration.Proofs.Planning.LastWriter
import GatewayMigration.Proofs.Url
/-!
# When emission is interrupted

The URL of an authorization service is stored as it is written, and read only when filters are made.
Main statement: `emit_completes_iff`, a planned migration is emitted unless the URL that decides
about one of the routes is refused. `bracket_interrupts` is a migration that is not.
-/

namespace GatewayMigration

/-- The URL that decides about a route: that of the last of its Ingresses with more than blanks
for one. -/
def authUrl? (is : List Ingress) (k : ObjectKey) : Option String :=
  (is.filterMap fun i =>
    if k ∈ (PassContext.ofIngresses is).routesOf i then i.given? AnnotationKey.authUrl
    else none).getLast?

namespace ExternalAuthorization

theorem url_of_parse (i : Ingress) :
    (parse i).value.map (·.url) = i.given? AnnotationKey.authUrl := by
  rw [value_parse, Option.map_map]
  exact Option.map_id'

theorem value?_externalAuth (i : Ingress) :
    i.value? .externalAuth = (parse i).value.map .externalAuth := by
  have listed : i.value? .externalAuth = (value? i).toList.find? (·.field = .externalAuth) := rfl
  rw [listed, value?]
  cases (parse i).value <;> rfl

end ExternalAuthorization

/-- The authorization services that the Ingresses of a route ask for. -/
def authorizations (is : List Ingress) (k : ObjectKey) : List ExternalAuth :=
  is.filterMap fun i =>
    if k ∈ (PassContext.ofIngresses is).routesOf i then (ExternalAuthorization.parse i).value
    else none

theorem authUrl?_eq (is : List Ingress) (k : ObjectKey) :
    authUrl? is k = (authorizations is k).getLast?.map (·.url) := by
  unfold authUrl? authorizations
  rw [← List.getLast?_map, List.map_filterMap]
  congr 2
  funext i
  rw [← ExternalAuthorization.url_of_parse]
  split <;> rfl

theorem Plan.namesClusters_iff {s : PlanState} :
    s.plan.NamesClusters ↔ ∀ k a, s.setting? k .externalAuth = some (.externalAuth a) →
      ∃ cluster, EnvoyFilter.authCluster a.url = .ok cluster := by
  unfold PlanState.setting? RoutePlan.currentSettings
  constructor
  · intro named k a found
    obtain ⟨r, there, value⟩ := Option.bind_eq_some_iff.mp found
    cases given : r.settings with
    | none =>
      rw [given] at value
      cases value
    | some settings =>
      rw [given] at value
      obtain ⟨b, auth, same⟩ := Option.map_eq_some_iff.mp value
      cases same
      exact named k r settings a there given auth
  · intro named k r settings a there given auth
    refine named k a (Option.bind_eq_some_iff.mpr ⟨r, there, ?_⟩)
    rw [given]
    exact Option.map_eq_some_iff.mpr ⟨a, auth, rfl⟩

namespace IngressNginx

theorem setting?_externalAuth {s : Sources} (planned : (plan s).stop = none) (k : ObjectKey) :
    (plan s).state.setting? k .externalAuth =
      (authorizations s.ingresses k).getLast?.map .externalAuth := by
  have services : authorizations s.ingresses k =
      givenFor s.ingresses k fun i => (ExternalAuthorization.parse i).value := rfl
  rw [plan_eq_planFor] at planned ⊢
  rw [setting?_planFor planned, services, ← List.getLast?_map, ← givenFor_map]
  simp only [ExternalAuthorization.value?_externalAuth]

theorem emit_completes_iff_named {l : GatewayLayout} {p : Plan} :
    (emit l p).stop = none ↔ p.NamesClusters := by
  rw [← Emission.materialize_completes_iff (l := l) (e := { resources := p.resources })]
  unfold emit
  dsimp only
  split
  · rename_i why stopped
    rw [stopped]
  · rename_i complete
    exact iff_of_true rfl complete

/-- A migration that could be planned is emitted exactly if no URL that decides about a route is
refused. -/
theorem emit_completes_iff (l : GatewayLayout) {s : Sources} (planned : (plan s).stop = none) :
    (emit l (plan s).state.plan).stop = none ↔
      ∀ k url, authUrl? s.ingresses k = some url → ¬ Url.IsRefused url := by
  rw [emit_completes_iff_named, Plan.namesClusters_iff]
  constructor
  · intro named k url decides
    rw [authUrl?_eq] at decides
    obtain ⟨a, last, rfl⟩ := Option.map_eq_some_iff.mp decides
    rw [← EnvoyFilter.authCluster_ok_iff]
    apply named k a
    rw [setting?_externalAuth planned, last]
    rfl
  · intro fine k a found
    rw [setting?_externalAuth planned] at found
    obtain ⟨b, last, same⟩ := Option.map_eq_some_iff.mp found
    cases same
    rw [EnvoyFilter.authCluster_ok_iff]
    apply fine k a.url
    rw [authUrl?_eq, last]
    rfl

/-- An Ingress with one host, whose requests another service decides about. -/
def guarded (url : String) : Sources where
  ingresses := [.plain ⟨"shop", "web"⟩ [("a.b", "one")] [] (.ofList [(AnnotationKey.authUrl, url)])]

theorem plan_guarded_completes :
    (plan (guarded "http://auth:9000/check")).stop = none := by decide +kernel

theorem emit_guarded_completes :
    (emit {} (plan (guarded "http://auth:9000/check")).state.plan).stop = none := by
  refine (emit_completes_iff {} plan_guarded_completes).mpr ?_
  intro k url decides refused
  obtain ⟨i, mem, given⟩ := List.mem_filterMap.mp (List.mem_of_getLast? decides)
  obtain rfl := List.mem_singleton.mp mem
  split at given
  · have same : some "http://auth:9000/check" = some url :=
      (show _ = some "http://auth:9000/check" by decide).symm.trans given
    cases same
    exact EnvoyFilter.authCluster_ok_iff.mp ⟨"outbound|9000||auth", rfl⟩ refused
  · cases given

/-- A URL with half a pair of brackets can be planned, and emission is interrupted. -/
theorem bracket_interrupts :
    (plan (guarded "http://[::1/auth")).stop = none ∧
      (emit {} (plan (guarded "http://[::1/auth")).state.plan).stop =
        some (.badValue "Invalid IPv6 URL") := by
  constructor
  · decide +kernel
  · decide +kernel

end IngressNginx

end GatewayMigration
