import GatewayMigration.Proofs.Annotations.Order
/-!
# Running the passes again

The last write into a field wins and the first policy of a Service stays, so running the passes on
their own result changes nothing, although the first writers write their values again. Main
statements:

* `Edit.onRoute_absorbs`, `Edit.onService_absorbs`: an edit makes an equal one before it void;
* `Edit.onPolicies_stays`: a policy that is there is kept;
* `PlanState.edits_complete_again`: the values that were written can be written once more;
* `run_again`: so a second run completes, leaves the plan as it is, and finds the same errors.
-/

namespace GatewayMigration

/-! ## Settings -/

theorem or_absorbs {α : Type} (a b c : Option α) : a.or (b.or (a.or c)) = a.or (b.or c) := by
  cases a with
  | none => rfl
  | some x => rfl

theorem RouteSettings.write_absorbs (s : RouteSettings) (v w : Setting) :
    ((s.write v).write w).write v = (s.write w).write v := by
  apply ext_get
  intro f
  simp only [get_write_eq]
  by_cases own : v.field = f
  · simp only [if_pos own]
  · simp only [if_neg own]

theorem RouteSettings.write_repeats (s : RouteSettings) (v : Setting) :
    (s.write v).write v = s.write v := by
  apply ext_get
  intro f
  simp only [get_write_eq]
  by_cases own : v.field = f
  · simp only [if_pos own]
  · simp only [if_neg own]

theorem RouteTimeouts.overlay_absorbs (old t u : RouteTimeouts) :
    ((old.overlay t).overlay u).overlay t = (old.overlay u).overlay t := by
  simp only [overlay, orElse_eq_or, or_absorbs]

theorem RouteTimeouts.overlay_repeats (old t : RouteTimeouts) :
    (old.overlay t).overlay t = old.overlay t := by
  simp only [overlay, orElse_eq_or, ← Option.or_assoc, Option.or_self]

theorem ServiceSettings.overlay_absorbs (old v w : ServiceSettings) :
    ((old.overlay v).overlay w).overlay v = (old.overlay w).overlay v := by
  simp only [overlay, orElse_eq_or, or_absorbs]

theorem ServiceSettings.overlay_repeats (old v : ServiceSettings) :
    (old.overlay v).overlay v = old.overlay v := by
  simp only [overlay, orElse_eq_or, ← Option.or_assoc, Option.or_self]

namespace RoutePlan

theorem withTimeouts_absorbs (r : RoutePlan) (t u : RouteTimeouts) :
    ((r.withTimeouts t).withTimeouts u).withTimeouts t = (r.withTimeouts u).withTimeouts t := by
  have rules : ∀ rule : RouteRule, ((rule.withTimeouts t).withTimeouts u).withTimeouts t =
      (rule.withTimeouts u).withTimeouts t := by
    intro rule
    simp only [RouteRule.withTimeouts, Option.getD_some, RouteTimeouts.overlay_absorbs]
  simp only [withTimeouts, List.map_map, Function.comp_def, rules]

theorem withTimeouts_repeats (r : RoutePlan) (t : RouteTimeouts) :
    (r.withTimeouts t).withTimeouts t = r.withTimeouts t := by
  have rules : ∀ rule : RouteRule, (rule.withTimeouts t).withTimeouts t = rule.withTimeouts t := by
    intro rule
    simp only [RouteRule.withTimeouts, Option.getD_some, RouteTimeouts.overlay_repeats]
  simp only [withTimeouts, List.map_map, Function.comp_def, rules]

end RoutePlan

/-! ## Single edits -/

namespace Edit

theorem onRoute_repeats (e : Edit) (k : ObjectKey) (r : RoutePlan) :
    e.onRoute k (e.onRoute k r) = e.onRoute k r := by
  cases e with
  | setting j v source =>
    unfold onRoute
    dsimp only
    by_cases here : j = k
    · simp only [if_pos here, RoutePlan.currentSettings, Option.getD_some,
        RouteSettings.write_repeats]
    · simp only [if_neg here]
  | timeouts j t =>
    unfold onRoute
    dsimp only
    by_cases here : j = k
    · simp only [if_pos here, RoutePlan.withTimeouts_repeats]
    · simp only [if_neg here]
  | _ => rfl

theorem onRoute_absorbs (d e : Edit) (k : ObjectKey) (r : RoutePlan) :
    d.onRoute k (e.onRoute k (d.onRoute k r)) = d.onRoute k (e.onRoute k r) := by
  cases d with
  | setting i v source =>
    cases e with
    | setting j w source' =>
      unfold onRoute
      dsimp only
      by_cases first : i = k
      · by_cases second : j = k
        · simp only [if_pos first, if_pos second, RoutePlan.currentSettings, Option.getD_some,
            RouteSettings.write_absorbs]
        · simp only [if_pos first, if_neg second, RoutePlan.currentSettings, Option.getD_some,
            RouteSettings.write_repeats]
      · simp only [if_neg first]
    | timeouts j t => rw [onRoute_setting_timeouts, onRoute_repeats]
    | _ => exact onRoute_repeats (setting i v source) k r
  | timeouts i t =>
    cases e with
    | setting j w source => rw [← onRoute_setting_timeouts, onRoute_repeats]
    | timeouts j u =>
      unfold onRoute
      dsimp only
      by_cases first : i = k
      · by_cases second : j = k
        · simp only [if_pos first, if_pos second, RoutePlan.withTimeouts_absorbs]
        · simp only [if_pos first, if_neg second, RoutePlan.withTimeouts_repeats]
      · simp only [if_neg first]
    | _ => exact onRoute_repeats (timeouts i t) k r
  | _ => rfl

theorem onService_repeats (e : Edit) (k : ObjectKey) (p : Option ServicePlan) :
    e.onService k (e.onService k p) = e.onService k p := by
  cases e with
  | service j v =>
    unfold onService
    dsimp only
    by_cases here : j = k
    · simp only [if_pos here, ServicePlan.overlay, Option.getD_some,
        ServiceSettings.overlay_repeats]
    · simp only [if_neg here]
  | _ => rfl

theorem onService_absorbs (d e : Edit) (k : ObjectKey) (p : Option ServicePlan) :
    d.onService k (e.onService k (d.onService k p)) = d.onService k (e.onService k p) := by
  cases d with
  | service i v =>
    cases e with
    | service j w =>
      unfold onService
      dsimp only
      by_cases first : i = k
      · by_cases second : j = k
        · simp only [if_pos first, if_pos second, ServicePlan.overlay, Option.getD_some,
            ServiceSettings.overlay_absorbs]
        · simp only [if_pos first, if_neg second, ServicePlan.overlay, Option.getD_some,
            ServiceSettings.overlay_repeats]
      · simp only [if_neg first]
    | _ => exact onService_repeats (service i v) k p
  | _ => rfl

end Edit

theorem OrderedMap.insertNew_eq_self_iff {κ α : Type} [DecidableEq κ] {m : OrderedMap κ α} {k : κ}
    {a : α} : m.insertNew k a = m ↔ m.contains k = true := by
  constructor
  · intro same
    have written := m.get?_insertNew k k a
    rw [same, if_pos rfl] at written
    exact contains_of_get? written
  · exact fun present => if_pos present

namespace Edit

theorem onPolicies_repeats (e : Edit) (ps : Catalog BackendTlsPolicy) :
    e.onPolicies (e.onPolicies ps) = e.onPolicies ps := by
  cases e with
  | tlsPolicy k p n =>
    have written := ps.get?_insertNew k k p
    rw [if_pos rfl] at written
    exact OrderedMap.insertNew_eq_self_iff.mpr (OrderedMap.contains_of_get? written)
  | _ => rfl

theorem onPolicies_stays {d : Edit} {ps : Catalog BackendTlsPolicy} (same : d.onPolicies ps = ps)
    (e : Edit) : d.onPolicies (e.onPolicies ps) = e.onPolicies ps := by
  cases d with
  | tlsPolicy k p n =>
    have present := OrderedMap.insertNew_eq_self_iff.mp same
    obtain ⟨added, entries⟩ := e.toList_onPolicies ps
    refine OrderedMap.insertNew_eq_self_iff.mpr (OrderedMap.contains_iff.mpr ?_)
    unfold OrderedMap.keys
    rw [entries, List.map_append]
    exact List.mem_append_left _ (OrderedMap.contains_iff.mp present)
  | _ => rfl

theorem keys_foldl_onServices (es : List Edit) (ps : Catalog ServicePlan) :
    (es.foldl (fun ps e => e.onServices ps) ps).keys =
      (es.flatMap fun e => e.service?.toList).foldl addNew ps.keys := by
  rw [List.foldl_flatMap]
  exact (List.foldl_hom OrderedMap.keys fun ps e => (e.keys_onServices ps).symm).symm

theorem get?_foldl_onServices (es : List Edit) (ps : Catalog ServicePlan) (k : ObjectKey) :
    (es.foldl (fun ps e => e.onServices ps) ps).get? k =
      es.foldl (fun p e => e.onService k p) (ps.get? k) :=
  (List.foldl_hom (fun ps : Catalog ServicePlan => ps.get? k)
    fun ps e => (e.get?_onServices ps k).symm).symm

end Edit

/-! ## All edits -/

namespace Setting

theorem MayPrecede.symm {v w : Setting} (may : v.MayPrecede w) : w.MayPrecede v := by
  rcases may with same | ⟨first, second⟩
  · exact .inl same.symm
  · exact .inr ⟨second, first⟩

theorem MayPrecede.trans {u v w : Setting} (first : u.MayPrecede v) (second : v.MayPrecede w) :
    u.MayPrecede w := by
  rcases first with rfl | ⟨shown, shown'⟩
  · exact second
  · rcases second with rfl | ⟨-, shown''⟩
    · exact .inr ⟨shown, shown'⟩
    · exact .inr ⟨shown, shown''⟩

/-- Values that could be written one after the other can be written once more after the last. -/
theorem isChain_again {old : Option Setting} {vs : List Setting}
    (chain : (old.toList ++ vs).IsChain MayPrecede) :
    ((vs.getLast?.or old).toList ++ vs).IsChain MayPrecede := by
  cases vs with
  | nil => exact chain
  | cons v vs =>
    have values := chain.right_of_append
    have transitive : Trans MayPrecede MayPrecede MayPrecede := ⟨MayPrecede.trans⟩
    have last : ((v :: vs).getLast (List.cons_ne_nil v vs)).MayPrecede v := by
      rcases List.mem_cons.mp (List.getLast_mem (List.cons_ne_nil v vs)) with same | later
      · exact .inl same
      · exact (List.rel_of_pairwise_cons values.pairwise later).symm
    rw [List.getLast?_eq_some_getLast (List.cons_ne_nil v vs), Option.some_or]
    exact .cons_cons last values

end Setting

attribute [ext] Plan

namespace PlanState

variable {s : PlanState} {es : List Edit} (complete : (Progress.each edit s es).stop = none)

include complete

theorem edits_complete_again :
    (Progress.each edit (Progress.each edit s es).state es).stop = none := by
  have keys : (Progress.each edit s es).state.plan.routes.keys = s.plan.routes.keys :=
    congrArg PlanOutline.routeKeys (Progress.each_preserves (·.plan.outline) outline_edit s es)
  rw [edits_complete_iff]
  intro k f present
  rw [HasRoute, keys] at present
  rw [setting?_edits complete present]
  exact Setting.isChain_again (edits_complete_iff.mp complete k f present)

/-- Making all edits once more changes nothing. -/
theorem plan_edits_again :
    (Progress.each edit (Progress.each edit s es).state es).state.plan =
      (Progress.each edit s es).state.plan := by
  have again := edits_complete_again complete
  have outline := Progress.each_preserves (fun s : PlanState => s.plan.outline) outline_edit
    (Progress.each edit s es).state es
  have routes : (Progress.each edit (Progress.each edit s es).state es).state.plan.routes =
      (Progress.each edit s es).state.plan.routes := by
    rw [routes_edits again, routes_edits complete, OrderedMap.mapValues_mapValues]
    congr 1
    funext k r
    exact foldl_twice_of_last (fun r e => e.onRoute_repeats k r)
      (fun r d e => d.onRoute_absorbs e k r) r es
  have services : (Progress.each edit (Progress.each edit s es).state es).state.plan.services =
      (Progress.each edit s es).state.plan.services := by
    rw [services_edits again, services_edits complete]
    apply OrderedMap.ext_get?
    · rw [Edit.keys_foldl_onServices, Edit.keys_foldl_onServices, foldl_addNew_twice]
    · intro k
      rw [Edit.get?_foldl_onServices, Edit.get?_foldl_onServices]
      exact foldl_twice_of_last (fun p e => e.onService_repeats k p)
        (fun p d e => d.onService_absorbs e k p) _ es
  have policies : (Progress.each edit (Progress.each edit s es).state es).state.plan.tlsPolicies =
      (Progress.each edit s es).state.plan.tlsPolicies := by
    rw [tlsPolicies_edits again, tlsPolicies_edits complete]
    exact foldl_twice_of_first (fun ps e => e.onPolicies_repeats ps)
      (fun ps d e same => Edit.onPolicies_stays same e) _ es
  exact Plan.ext (congrArg PlanOutline.gateways outline) routes services policies
    (congrArg PlanOutline.grants outline)

end PlanState

/-! ## All passes -/

/-- What the annotations ask for is the same after the passes have run. -/
theorem askedEdits_congr {s t : PlanState} (same : s.plan.outline = t.plan.outline)
    (c : PassContext) : askedEdits c s = askedEdits c t := by
  unfold askedEdits
  congr 1
  funext p
  exact p.asks_congr same c

/-- A second run of the passes completes if the first one did, leaves the plan exactly as it is, and
finds the same errors. -/
theorem run_again {c : PassContext} {s : PlanState}
    (complete : (annotationRunner.run c s).stop = none) :
    let first := annotationRunner.run c s
    let second := annotationRunner.run c first.state
    second.stop = none ∧ second.state.plan = first.state.plan ∧ second.errors = first.errors := by
  intro first second
  obtain ⟨readable, made⟩ := run_completes_iff.mp complete
  have asked : askedEdits c first.state = askedEdits c s :=
    askedEdits_congr (run_keeps (fun s => s.plan.outline) PlanState.outline_edit c s) c
  have outcome : first = _ := run_eq_edits complete
  have complete' : second.stop = none := by
    rw [run_completes_iff, asked, outcome]
    exact ⟨readable, PlanState.edits_complete_again made⟩
  have outcome' : second = _ := run_eq_edits complete'
  refine ⟨complete', ?_, ?_⟩
  · rw [outcome', asked, outcome]
    exact PlanState.plan_edits_again made
  · rw [outcome', outcome]

namespace IngressNginx

/-- The second Ingress has the last word about the route, and still has it after a second run, in
which the first one writes its rate again. -/
theorem rivals_again :
    let first := annotate rivals .empty
    let second := annotationRunner.run (.ofIngresses rivals) first.state
    first.stop = none ∧
      first.state.setting? ⟨"shop", "web-a-b"⟩ .requestRate = some (.requestRate 9) ∧
      second.stop = none ∧ second.state.plan = first.state.plan ∧
      second.errors = first.errors := by
  obtain ⟨complete, last⟩ := annotated_rivals
  exact ⟨complete, last, run_again complete⟩

end IngressNginx

end GatewayMigration
