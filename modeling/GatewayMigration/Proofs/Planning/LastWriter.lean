import GatewayMigration.Proofs.Annotations.Completion
import GatewayMigration.Proofs.Annotations.Frame
import GatewayMigration.Proofs.Annotations.Values
/-!
# The last writer wins

The Ingresses of a route set its fields one after the other. Main statements:

* `setting?_planFor`: a field of a route has the last value that was written into it;
* `setting?_eq_some_iff`, `setting?_planFor_iff`: this is what the last of its Ingresses gives that
  gives anything.
-/

namespace GatewayMigration.IngressNginx

variable {is : List Ingress} {ports : Catalog PortLookup}

/-- Of what the Ingresses of a route give, the last value is that of the last of them that gives
one. -/
theorem getLast?_givenFor_iff {α : Type} {k : ObjectKey} {value : Ingress → Option α} {a : α} :
    (givenFor is k value).getLast? = some a ↔
      ∃ before i after, is = before ++ i :: after ∧
        (k ∈ (PassContext.ofIngresses is).routesOf i ∧ value i = some a) ∧
        ∀ j ∈ after, k ∈ (PassContext.ofIngresses is).routesOf j → value j = none := by
  unfold givenFor
  rw [List.getLast?_filterMap, List.findSome?_eq_some_iff]
  simp only [Option.ite_none_right_eq_some, ite_eq_right_iff]
  constructor
  · rintro ⟨after, i, before, reversed, own, later⟩
    refine ⟨before.reverse, i, after.reverse, ?_, own, ?_⟩
    · have split := congrArg List.reverse reversed
      simpa using split
    · intro j mem
      exact later j (List.mem_reverse.mp mem)
  · rintro ⟨before, i, after, rfl, own, later⟩
    refine ⟨after.reverse, i, before.reverse, by simp, own, ?_⟩
    intro j mem
    exact later j (List.mem_reverse.mp mem)

/-- A field of a planned route has what the Ingress wrote that came last. -/
theorem setting?_planFor (complete : (planFor is ports).stop = none) (k : ObjectKey)
    (f : RouteField) :
    (planFor is ports).state.setting? k f = (givenFor is k (·.value? f)).getLast? := by
  obtain ⟨state, made⟩ := planFor_eq_edits complete
  by_cases present : k ∈ (ruleGroups is).keys
  · have start : PlanState.HasRoute { plan := (lower is ports).1 } k := by
      rw [PlanState.HasRoute, keys_routes_lower]
      exact present
    rw [state, PlanState.setting?_edits made start, setting?_lower, Option.or_none,
      written?_allEdits, allWrites_eq_givenFor]
  · rw [givenFor_eq_nil present]
    apply Option.eq_none_iff_forall_ne_some.mpr
    intro v found
    have there : k ∈ (annotate is ports).state.plan.routes.keys :=
      PlanState.hasRoute_of_setting? found
    rw [keys_routes_annotate] at there
    exact present there

theorem exists_rate_of_complete (complete : (planFor is ports).stop = none) {i : Ingress}
    (mem : i ∈ is) : ∃ r, RateLimit.rate i = .ok r := by
  have short := (readable_iff.mp (readable_of_complete complete)).2 i mem
  rw [← RateLimit.rate_error_iff] at short
  cases rate : RateLimit.rate i with
  | error why => exact absurd ⟨why, rate⟩ short
  | ok r => exact ⟨r, rfl⟩

/-- An Ingress of the route gives this setting, and none after it gives one for the same field. -/
def GivesLast (is : List Ingress) (k : ObjectKey) (v : Setting) : Prop :=
  ∃ before i after, is = before ++ i :: after ∧
    (k ∈ (PassContext.ofIngresses is).routesOf i ∧ i.Gives v) ∧
    ∀ j ∈ after, k ∈ (PassContext.ofIngresses is).routesOf j → ∀ w, j.Gives w → w.field ≠ v.field

theorem GivesLast.exists_gives {k : ObjectKey} {v : Setting} (last : GivesLast is k v) :
    ∃ i ∈ is, k ∈ (PassContext.ofIngresses is).routesOf i ∧ i.Gives v := by
  obtain ⟨before, i, after, rfl, own, -⟩ := last
  exact ⟨i, List.mem_append_right _ (.head _), own⟩

theorem setting?_eq_some_iff (complete : (planFor is ports).stop = none) {k : ObjectKey}
    {v : Setting} :
    (planFor is ports).state.setting? k v.field = some v ↔ GivesLast is k v := by
  have given : ∀ i ∈ is, ∀ w, i.value? v.field = some w ↔ i.Gives w ∧ w.field = v.field :=
    fun i mem w => Ingress.value?_eq_some_iff (exists_rate_of_complete complete mem)
  rw [setting?_planFor complete, getLast?_givenFor_iff]
  refine exists₃_congr fun before i after => and_congr_right fun split => ?_
  have own : ∀ j ∈ i :: after, j ∈ is := fun j there => split ▸ List.mem_append_right _ there
  rw [given i (own i (.head _)), and_iff_left rfl]
  refine and_congr_right fun _ => forall₂_congr fun j there => imp_congr_right fun _ => ?_
  rw [Option.eq_none_iff_forall_ne_some]
  refine forall_congr' fun w => ?_
  rw [ne_eq, given j (own j (.tail _ there)), not_and]

theorem givesLast_iff (complete : (planFor is ports).stop = none) {k : ObjectKey} {v : Setting} :
    GivesLast is k v ↔
      ∃ s, (planFor is ports).state.plan.settings? k = some s ∧ s.get v.field = some v := by
  rw [← setting?_eq_some_iff complete, PlanState.setting?_eq_bind, Option.bind_eq_some_iff]

/-- If one of the Ingresses of a route gives a field a value, the field has one in the end. -/
theorem exists_givesLast (complete : (planFor is ports).stop = none) {i : Ingress} (mem : i ∈ is)
    {k : ObjectKey} (routed : k ∈ (PassContext.ofIngresses is).routesOf i) {v : Setting}
    (gives : i.Gives v) : ∃ w, w.field = v.field ∧ GivesLast is k w := by
  have there : v ∈ givenFor is k (·.value? v.field) := by
    refine List.mem_filterMap.mpr ⟨i, mem, ?_⟩
    rw [if_pos routed]
    exact (Ingress.value?_eq_some_iff (exists_rate_of_complete complete mem)).mpr ⟨gives, rfl⟩
  obtain ⟨w, last⟩ :=
    Option.isSome_iff_exists.mp (List.getLast?_isSome.mpr (List.ne_nil_of_mem there))
  rw [← setting?_planFor complete] at last
  obtain ⟨r, -, got⟩ := Option.bind_eq_some_iff.mp last
  have field : w.field = v.field := RouteSettings.field_of_get got
  rw [← field] at last
  exact ⟨w, field, (setting?_eq_some_iff complete).mp last⟩

/-- What a field of a route is in the end: the value of the last of its Ingresses that gives one,
and nothing if none of them does. -/
theorem setting?_planFor_iff (complete : (planFor is ports).stop = none) (k : ObjectKey) :
    (∀ v : Setting, (planFor is ports).state.setting? k v.field = some v ↔
      ∃ before i after, is = before ++ i :: after ∧
        (k ∈ (PassContext.ofIngresses is).routesOf i ∧ i.Gives v) ∧
        ∀ j ∈ after, k ∈ (PassContext.ofIngresses is).routesOf j →
          ∀ w, j.Gives w → w.field ≠ v.field) ∧
    ∀ f, (planFor is ports).state.setting? k f = none ↔
      ∀ i ∈ is, k ∈ (PassContext.ofIngresses is).routesOf i → ∀ w, i.Gives w → w.field ≠ f := by
  have given : ∀ i ∈ is, ∀ f v, i.value? f = some v ↔ i.Gives v ∧ v.field = f :=
    fun i mem f v => Ingress.value?_eq_some_iff (exists_rate_of_complete complete mem)
  have missing : ∀ i ∈ is, ∀ f, i.value? f = none ↔ ∀ w, i.Gives w → w.field ≠ f := by
    intro i mem f
    rw [Option.eq_none_iff_forall_ne_some]
    refine forall_congr' fun w => ?_
    rw [ne_eq, given i mem f w, not_and]
  constructor
  · intro v
    rw [setting?_planFor complete, getLast?_givenFor_iff]
    refine exists_congr fun before => exists_congr fun i => exists_congr fun after =>
      and_congr_right fun split => ?_
    have mem : ∀ j ∈ i :: after, j ∈ is := by
      intro j there
      rw [split]
      exact List.mem_append_right _ there
    rw [given i (mem i (.head _)), and_iff_left rfl]
    refine and_congr_right fun _ => forall₂_congr fun j there => ?_
    rw [missing j (mem j (.tail _ there))]
  · intro f
    rw [setting?_planFor complete, List.getLast?_eq_none_iff, givenFor,
      List.filterMap_eq_nil_iff]
    refine forall₂_congr fun i mem => ?_
    rw [ite_eq_right_iff, missing i mem f]

/-- Three Ingresses of one route, of which the last one says nothing about bodies. -/
def sized : List Ingress :=
  [.plain ⟨"shop", "web"⟩ [("a.b", "one")] [] (.ofList [(AnnotationKey.proxyBodySize, "8m")]),
   .plain ⟨"shop", "api"⟩ [("a.b", "two")] [] (.ofList [(AnnotationKey.proxyBodySize, " 9k ")]),
   .plain ⟨"shop", "docs"⟩ [("a.b", "three")] [] (.ofList [(AnnotationKey.proxyBuffering, "off"),
     (AnnotationKey.proxyBodySize, "ten")])]

/-- The second Ingress decides about bodies, although the third one says something about them that
is not understood. -/
theorem setting?_sized :
    (planFor sized .empty).stop = none ∧
      (planFor sized .empty).state.setting? ⟨"shop", "web-a-b"⟩ .bodySize =
        some (.bodySize ⟨"9k", 9216⟩) := by
  have complete : (planFor sized .empty).stop = none := by decide +kernel
  have second : (ProxySettings.bodySize sized[1]).value = some ⟨"9k", 9216⟩ := by decide +kernel
  have third : (ProxySettings.bodySize sized[2]).value = none := by decide +kernel
  have gives : Ingress.Gives sized[1] (.bodySize ⟨"9k", 9216⟩) := by
    obtain ⟨given, size⟩ := ProxySettings.bodySize_eq_some_iff.mp second
    exact .bodySize given size
  refine ⟨complete, ((setting?_planFor_iff complete ⟨"shop", "web-a-b"⟩).1
    (.bodySize ⟨"9k", 9216⟩)).mpr ?_⟩
  refine ⟨[sized[0]], sized[1], [sized[2]], rfl, ⟨by decide +kernel, gives⟩, ?_⟩
  intro j mem contributes w gives same
  cases List.mem_singleton.mp mem
  cases gives with
  | @bodySize raw n given size =>
    have sized : (ProxySettings.bodySize sized[2]).value = some ⟨raw, n⟩ :=
      ProxySettings.bodySize_eq_some_iff.mpr ⟨given, size⟩
    cases third.symm.trans sized
  | sslRedirect => cases same
  | requestRate => cases same
  | burst => cases same
  | connections => cases same
  | buffering => cases same
  | requestBuffering => cases same
  | clientCert => cases same
  | externalAuth => cases same

end GatewayMigration.IngressNginx
