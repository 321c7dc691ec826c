import GatewayMigration.Proofs.Emission.FirstFilter
import GatewayMigration.Proofs.Planning.FilterNotice
import GatewayMigration.Proofs.Topology.Output
/-!
# What the notice of filters promises

The notice goes by the annotations that an Ingress has. Which filters a route has goes by the last
values that its Ingresses give. Main statements:

* `isActive_iff_wants`: the concerns of a route in the plan are those that its Ingresses want;
* `promise_kept_iff`: when the filter is there that was promised.

`zone_without_rate_promised` is a promise of a filter that is not there.
-/

namespace GatewayMigration

open EnvoyFilter

namespace IngressNginx

variable {l : GatewayLayout} {is : List Ingress} {ports : Catalog PortLookup} {r : Resources}
  {k : ObjectKey} {c : Concern}

/-- The Ingresses of a route ask for a filter in the end: for a rate, for a size of bodies, for no
buffering, or for authorization. -/
def Wants (is : List Ingress) (k : ObjectKey) : Concern → Prop
  | .rateLimit => ∃ rate, GivesLast is k (.requestRate rate)
  | .bodySize => ∃ size, GivesLast is k (.bodySize size)
  | .noBuffer => GivesLast is k (.buffering false)
  | .externalAuth => ∃ auth, GivesLast is k (.externalAuth auth)

/-- The concerns of a planned route are those that its Ingresses want. -/
theorem isActive_iff_wants (complete : (planFor is ports).stop = none) :
    (planFor is ports).state.plan.IsActive k c ↔ Wants is k c := by
  rw [Plan.IsActive, ← Plan.exists_settings_iff]
  cases c with
  | rateLimit =>
    constructor
    · rintro ⟨s, given, rate, limit, -⟩
      exact ⟨rate, (givesLast_iff complete).mpr ⟨s, given, congrArg (Option.map _) limit⟩⟩
    · rintro ⟨rate, last⟩
      obtain ⟨i, -, -, gives⟩ := last.exists_gives
      obtain ⟨s, given, limit⟩ := (givesLast_iff complete).mp last
      exact ⟨s, given, rate, by simpa [RouteSettings.get, Setting.field] using limit,
        gives.rate_pos⟩
  | bodySize =>
    simp only [Wants, givesLast_iff complete, Setting.field, RouteSettings.get, Concern.IsActive]
    rw [exists_comm]
    simp [Option.ne_none_iff_exists']
  | noBuffer =>
    simp [Wants, givesLast_iff complete, Setting.field, RouteSettings.get, Concern.IsActive]
  | externalAuth =>
    simp only [Wants, givesLast_iff complete, Setting.field, RouteSettings.get, Concern.IsActive]
    rw [exists_comm]
    simp [Option.ne_none_iff_exists']

/-- A URL of an authorization service is understood whatever it is. -/
theorem wants_of_raises_externalAuth (complete : (planFor is ports).stop = none) {i : Ingress}
    (mem : i ∈ is) (routed : k ∈ (PassContext.ofIngresses is).routesOf i)
    (raises : i.Raises .externalAuth) : Wants is k .externalAuth := by
  obtain ⟨key, anchor, url, given⟩ := raises
  cases List.mem_singleton.mp anchor
  obtain ⟨w, field, last⟩ := exists_givesLast complete mem routed (.externalAuth given)
  cases w with
  | externalAuth auth => exact ⟨auth, last⟩
  | _ => cases field

namespace Migrates

variable (m : Migrates l is ports r)

include m

theorem isActive_iff : (annotate is ports).state.plan.IsActive k c ↔ Wants is k c :=
  isActive_iff_wants (show (planFor is ports).stop = none from m.planned)

/-- Under the key of a route's filter there is one exactly if a route with this key wants it. -/
theorem exists_extension_iff :
    (∃ x, r.extensions.get? (EnvoyFilter.key l k c) = some x) ↔
      ∃ j, EnvoyFilter.key l j c = EnvoyFilter.key l k c ∧ Wants is j c := by
  have entries := m.get?_extensions (EnvoyFilter.key l k c)
  simp only [← m.isActive_iff, Plan.isActive_iff_asksFilter m.namesClusters]
  constructor
  · rintro ⟨x, found⟩
    obtain ⟨j, d, ps, asks, same, -⟩ := entries.1 x found
    obtain ⟨rfl, -, -⟩ := key_eq_iff.mp same
    exact ⟨j, same, ps, asks⟩
  · rintro ⟨j, same, ps, asks⟩
    exact entries.2 j c ps asks same

/-- It is the filter of this route if no route before it with this key wants one. -/
theorem exists_own_extension_iff :
    (∃ x, r.extensions.get? (EnvoyFilter.key l k c) = some x ∧
        x.source? = some ("HTTPRoute/" ++ toString k)) ↔
      Wants is k c ∧ ∃ before after, (ruleGroups is).keys = before ++ k :: after ∧
        ∀ j ∈ before, EnvoyFilter.key l j c = EnvoyFilter.key l k c → ¬ Wants is j c := by
  rw [m.extensions]
  simp only [← m.isActive_iff, ← keys_routes_annotate is ports]
  exact Emission.has_own_filter_iff m.namesClusters rfl k c

end Migrates

/-- A concern is promised to an Ingress, in a complete run. For each of its routes there is a filter
exactly if a route with the key of the filter wants one, and the filter is for this route exactly if
the route wants it, and no route before it with the key does. With authorization the route does. -/
theorem promise_kept_iff (m : Migrates l is ports r) {n : Notification}
    (noticed : n ∈ (annotate is ports).state.notices) {i : Ingress} (promises : n.Promises i.key c)
    (routed : k ∈ (PassContext.ofIngresses is).routesOf i) :
    ((∃ x, r.extensions.get? (EnvoyFilter.key l k c) = some x) ↔
      ∃ j, EnvoyFilter.key l j c = EnvoyFilter.key l k c ∧ Wants is j c) ∧
    ((∃ x, r.extensions.get? (EnvoyFilter.key l k c) = some x ∧
        x.source? = some ("HTTPRoute/" ++ toString k)) ↔
      Wants is k c ∧ ∃ before after, (ruleGroups is).keys = before ++ k :: after ∧
        ∀ j ∈ before, EnvoyFilter.key l j c = EnvoyFilter.key l k c → ¬ Wants is j c) ∧
    (c = .externalAuth → Wants is k c) := by
  refine ⟨m.exists_extension_iff, m.exists_own_extension_iff, ?_⟩
  rintro rfl
  have complete : (planFor is ports).stop = none := m.planned
  obtain ⟨j, mem, same, raises⟩ := origin_of_promise complete noticed promises
  obtain ⟨g, kept, own⟩ := mem_routesOf_iff.mp routed
  rw [← same] at own
  exact wants_of_raises_externalAuth complete mem (mem_routesOf_iff.mpr ⟨g, kept, own⟩) raises

/-- The promised limit of the rate is there, and it is for the route. -/
theorem limited_promise_kept :
    FilterNotice.noticeFor ⟨"shop", "web"⟩ [.rateLimit] ∈
        (annotate limited .empty).state.notices ∧
      ∃ x, (emit {} (annotate limited .empty).state.plan).state.resources.extensions.get?
          (EnvoyFilter.key {} ⟨"shop", "web-a-b"⟩ .rateLimit) = some x ∧
        x.source? = some "HTTPRoute/shop/web-a-b" := by
  have noticed : FilterNotice.noticeFor ⟨"shop", "web"⟩ [.rateLimit] ∈
      (annotate limited .empty).state.notices := by decide +kernel
  have given : (planFor limited .empty).state.plan.settings? ⟨"shop", "web-a-b"⟩ =
      some { sslRedirect := some true, requestRate := some 5 } := by decide +kernel
  have promises : (FilterNotice.noticeFor ⟨"shop", "web"⟩ [.rateLimit]).Promises
      (limited.head nofun).key .rateLimit := ⟨_, by decide, rfl, .head _⟩
  have m := migrates_limited .centralized
  have complete : (planFor limited .empty).stop = none := m.planned
  have wants : Wants limited ⟨"shop", "web-a-b"⟩ .rateLimit :=
    ⟨5, (givesLast_iff complete).mpr ⟨_, given, rfl⟩⟩
  have routed : ⟨"shop", "web-a-b"⟩ ∈
      (PassContext.ofIngresses limited).routesOf (limited.head nofun) := by decide +kernel
  have text : "HTTPRoute/" ++ toString (⟨"shop", "web-a-b"⟩ : ObjectKey) =
      "HTTPRoute/shop/web-a-b" := by decide
  obtain ⟨-, own, -⟩ := promise_kept_iff m noticed promises routed
  rw [text] at own
  exact ⟨noticed, own.mpr ⟨wants, [], [], by decide +kernel, nofun⟩⟩

/-- An Ingress with a zone that has no rate. -/
def rateless : List Ingress :=
  [.plain ⟨"shop", "web"⟩ [("a.b", "one")] []
    (.ofList [(AnnotationKey.limitReqZone, "zone=one:10m")])]

/-- The filter for it is promised, and although nothing is reported as wrong, it is not there. -/
theorem zone_without_rate_promised :
    (annotate rateless .empty).stop = none ∧ (annotate rateless .empty).errors = [] ∧
      (emit {} (annotate rateless .empty).state.plan).stop = none ∧
      (∃ n ∈ (annotate rateless .empty).state.notices,
        n.Promises ⟨"shop", "web"⟩ .rateLimit) ∧
      (∀ i ∈ rateless, i.key = ⟨"shop", "web"⟩ ∧
        ⟨"shop", "web-a-b"⟩ ∈ (PassContext.ofIngresses rateless).routesOf i) ∧
      (emit {} (annotate rateless .empty).state.plan).state.resources.extensions.contains
        (EnvoyFilter.key {} ⟨"shop", "web-a-b"⟩ .rateLimit) = false := by
  refine ⟨by decide +kernel, by decide +kernel, by decide +kernel, ?_, by decide +kernel,
    by decide +kernel⟩
  exact ⟨FilterNotice.noticeFor ⟨"shop", "web"⟩ [.rateLimit], by decide +kernel, _, by decide, rfl,
    .head _⟩

end IngressNginx

end GatewayMigration
