import GatewayMigration.Proofs.Emission.Promises
/-!
# Filters are announced

A filter goes by a value that the passes understood, the notice goes by the annotations alone. Main
statements:

* `Ingress.Gives.raises`: a setting that asks for a filter is read off annotations that raise the
  filter's concern;
* `promised_of_raises`: an Ingress is told about each concern that it raises;
* `filter_announced`: so for every filter, an Ingress of its route was told that it would come.
-/

namespace GatewayMigration

open EnvoyFilter

/-! ## Values and what raised them -/

theorem RateLimit.HasRate.raises {i : Ingress} {r : Int} (has : HasRate i r) :
    i.Raises .rateLimit := by
  cases has with
  | bySecond held _ =>
    obtain ⟨raw, there, -⟩ := held
    exact ⟨_, .head _, raw, there⟩
  | byMinute _ held _ =>
    obtain ⟨raw, there, -⟩ := held
    exact ⟨_, .tail _ (.head _), raw, there⟩
  | inZone _ _ there _ _ => exact ⟨_, .tail _ (.tail _ (.head _)), _, there⟩

/-- The concern of a route that has this setting. -/
def Setting.concern? : Setting → Option Concern
  | .requestRate _ => some .rateLimit
  | .bodySize _ => some .bodySize
  | .buffering false => some .noBuffer
  | .externalAuth _ => some .externalAuth
  | _ => none

theorem Ingress.Gives.raises {i : Ingress} {v : Setting} (gives : i.Gives v) {c : Concern}
    (asks : v.concern? = some c) : i.Raises c := by
  cases gives with
  | requestRate _ rate =>
    cases asks
    exact rate.raises
  | bodySize given _ =>
    cases asks
    exact ⟨_, .head _, _, given⟩
  | @buffering on flag =>
    cases on with
    | false =>
      cases asks
      exact flag
    | true => cases asks
  | externalAuth given =>
    cases asks
    exact ⟨_, .head _, _, given⟩
  | sslRedirect => cases asks
  | burst => cases asks
  | connections => cases asks
  | requestBuffering => cases asks
  | clientCert => cases asks

namespace IngressNginx

variable {l : GatewayLayout} {is : List Ingress} {ports : Catalog PortLookup} {r : Resources}
  {k : ObjectKey} {c : Concern}

theorem Wants.exists_givesLast (wants : Wants is k c) :
    ∃ v : Setting, v.concern? = some c ∧ GivesLast is k v := by
  cases c with
  | rateLimit =>
    obtain ⟨rate, last⟩ := wants
    exact ⟨_, rfl, last⟩
  | bodySize =>
    obtain ⟨size, last⟩ := wants
    exact ⟨_, rfl, last⟩
  | noBuffer => exact ⟨_, rfl, wants⟩
  | externalAuth =>
    obtain ⟨auth, last⟩ := wants
    exact ⟨_, rfl, last⟩

/-- What a route wants, one of its Ingresses raised. -/
theorem Wants.exists_raises (wants : Wants is k c) :
    ∃ i ∈ is, k ∈ (PassContext.ofIngresses is).routesOf i ∧ i.Raises c := by
  obtain ⟨v, asks, last⟩ := wants.exists_givesLast
  obtain ⟨i, listed, routed, gives⟩ := last.exists_gives
  exact ⟨i, listed, routed, gives.raises asks⟩

/-! ## What Ingresses are told -/

theorem promised_of_raises (complete : (planFor is ports).stop = none) {i : Ingress}
    (listed : i ∈ is) (routed : k ∈ (PassContext.ofIngresses is).routesOf i)
    (raises : i.Raises c) : ∃ n ∈ (planFor is ports).state.notices, n.Promises i.key c := by
  obtain ⟨state, made⟩ := planFor_eq_edits complete
  have looked : i ∈ is.filter FilterNotice.pass.isTriggered :=
    List.mem_filter.mpr ⟨listed, FilterNotice.isTriggered_of_raises raises⟩
  have edit : .notify (FilterNotice.noticeFor i.key (FilterNotice.raisedConcerns i)) ∈
      editsOf { ingresses := is } FilterNotice.pass i :=
    FilterNotice.mem_edits_of_raises raises (List.ne_nil_of_mem routed)
  refine ⟨FilterNotice.noticeFor i.key (FilterNotice.raisedConcerns i), ?_, _,
    List.filter_sublist, rfl, FilterNotice.mem_raisedConcerns_iff.mpr raises⟩
  rw [state]
  apply PlanState.mem_notices_of_notify made
  exact List.mem_flatMap.mpr ⟨FilterNotice.pass, by simp [annotationPasses],
    List.mem_flatMap.mpr ⟨i, looked, edit⟩⟩

/-! ## Filters -/

/-- What is kept under the key is a filter that was made for this concern of this route. -/
def IsFilterFor (l : GatewayLayout) (k : ObjectKey) (c : Concern) (key : ObjectKey)
    (x : Extension) : Prop :=
  key = EnvoyFilter.key l k c ∧ x.source? = some ("HTTPRoute/" ++ toString k)

theorem Migrates.exists_isFilterFor (m : Migrates l is ports r) {key : ObjectKey} {x : Extension}
    (found : r.extensions.get? key = some x) : ∃ k c, IsFilterFor l k c key x := by
  obtain ⟨k, c, ps, -, same, rfl⟩ := (m.get?_extensions key).1 x found
  exact ⟨k, c, same.symm, source?_wrap l k c ps⟩

/-- Every filter in the output was made for a concern of a route, and an Ingress of this route was
told that a filter for the concern would be generated. -/
theorem filter_announced (m : Migrates l is ports r) {key : ObjectKey} {x : Extension}
    (found : r.extensions.get? key = some x) :
    (∃ k c, IsFilterFor l k c key x) ∧
      ∀ k c, IsFilterFor l k c key x →
        ∃ i ∈ is, k ∈ (PassContext.ofIngresses is).routesOf i ∧
          ∃ n ∈ (annotate is ports).state.notices, n.Promises i.key c := by
  refine ⟨m.exists_isFilterFor found, ?_⟩
  rintro k c ⟨rfl, source⟩
  have complete : (planFor is ports).stop = none := m.planned
  obtain ⟨wants, -⟩ := m.exists_own_extension_iff.mp ⟨x, found, source⟩
  obtain ⟨i, listed, routed, raises⟩ := wants.exists_raises
  exact ⟨i, listed, routed, promised_of_raises complete listed routed raises⟩

/-- The filter that limits the rate, and the Ingress that was told about it. -/
theorem limit_announced :
    ∃ x, (emit {} (annotate limited .empty).state.plan).state.resources.extensions.get?
        (EnvoyFilter.key {} ⟨"shop", "web-a-b"⟩ .rateLimit) = some x ∧
      IsFilterFor {} ⟨"shop", "web-a-b"⟩ .rateLimit
        (EnvoyFilter.key {} ⟨"shop", "web-a-b"⟩ .rateLimit) x ∧
      ∃ i ∈ limited, ⟨"shop", "web-a-b"⟩ ∈ (PassContext.ofIngresses limited).routesOf i ∧
        ∃ n ∈ (annotate limited .empty).state.notices, n.Promises i.key .rateLimit := by
  have m := migrates_limited .centralized
  have complete : (planFor limited .empty).stop = none := m.planned
  have given : (planFor limited .empty).state.plan.settings? ⟨"shop", "web-a-b"⟩ =
      some { sslRedirect := some true, requestRate := some 5 } := by decide +kernel
  have wants : Wants limited ⟨"shop", "web-a-b"⟩ .rateLimit :=
    ⟨5, (givesLast_iff complete).mpr ⟨_, given, rfl⟩⟩
  obtain ⟨x, found, source⟩ :=
    m.exists_own_extension_iff.mpr ⟨wants, [], [], by decide +kernel, nofun⟩
  obtain ⟨-, announced⟩ := filter_announced m found
  exact ⟨x, found, ⟨rfl, source⟩, announced _ _ ⟨rfl, source⟩⟩

end IngressNginx

end GatewayMigration
