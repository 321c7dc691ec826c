import GatewayMigration.Proofs.Annotations.Effects
import Mathlib.Data.Multiset.AddSub
/-!
# The order of passes

No aspect of a plan belongs to two passes, so edits of different passes can change places. Main
statements:

* `Edit.onRoute_comm`, `Edit.onService_comm`, `Edit.onPolicies_comm`, `Edit.reports_of_apart`: edits
  that touch nothing that is the same do not disturb each other;
* `PlanView.after_comm`: they change places, up to the orders that a `PlanView` forgets;
* `runnerOf_perm`: so the passes come to the same end in any order.
-/

namespace GatewayMigration

/-! ## Settings of routes -/

namespace RouteSettings

theorem get_write_eq (s : RouteSettings) (v : Setting) (f : RouteField) :
    (s.write v).get f = if v.field = f then some v else s.get f := by
  split
  · rename_i own
    rw [← own, get_write]
  · rename_i other
    rw [get_write_other s other]

theorem write_comm (s : RouteSettings) {v w : Setting} (other : v.field ≠ w.field) :
    (s.write v).write w = (s.write w).write v := by
  apply ext_get
  intro f
  simp only [get_write_eq]
  by_cases first : v.field = f
  · have second : w.field ≠ f := fun same => other (first.trans same.symm)
    simp only [if_pos first, if_neg second]
  · simp only [if_neg first]

end RouteSettings

/-! ## Settings of Services -/

/-- Of two values that are not both there, it does not matter which one goes first. -/
theorem or_comm_of_apart {α : Type} {a b : Option α} (apart : a.isSome = true → b.isSome ≠ true)
    (c : Option α) : b.or (a.or c) = a.or (b.or c) := by
  cases a with
  | none => rw [Option.none_or, Option.none_or]
  | some x =>
    cases b with
    | none => rw [Option.none_or, Option.none_or]
    | some y => exact absurd rfl (apart rfl)

theorem ServiceSettings.overlay_comm (s : ServiceSettings) {v w : ServiceSettings}
    (apart : ∀ f, v.isSet f = true → w.isSet f ≠ true) :
    (s.overlay v).overlay w = (s.overlay w).overlay v := by
  simp only [overlay, orElse_eq_or, mk.injEq]
  exact ⟨or_comm_of_apart (apart .protocol) _, or_comm_of_apart (apart .sslSecret) _,
    or_comm_of_apart (apart .sslVerify) _, or_comm_of_apart (apart .sslName) _,
    or_comm_of_apart (apart .sslProtocols) _, or_comm_of_apart (apart .sslCiphers) _,
    or_comm_of_apart (apart .loadBalancing) _⟩

/-! ## Edits that are apart -/

namespace Edit

variable {d e : Edit}

theorem touches_of_written? {k : ObjectKey} {f : RouteField} {v : Setting}
    (wrote : e.written? k f = some v) : e.Touches (.field f) := by
  cases e with
  | setting j w source =>
    rw [written?_setting] at wrote
    split at wrote
    · rename_i here
      exact congrArg Aspect.field here.2.symm
    · cases wrote
  | timeouts => cases wrote
  | service => cases wrote
  | tlsPolicy => cases wrote
  | notify => cases wrote

theorem get_onRoute_of_spared {f : RouteField} (spared : ¬ e.Touches (.field f)) (k : ObjectKey)
    (r : RoutePlan) : (e.onRoute k r).currentSettings.get f = r.currentSettings.get f := by
  have nothing : e.written? k f = none :=
    Option.eq_none_iff_forall_ne_some.mpr fun _ wrote => spared (touches_of_written? wrote)
  rw [get_onRoute, nothing, Option.none_or]

theorem key_onRoute (e : Edit) (k : ObjectKey) (r : RoutePlan) :
    (e.onRoute k r).route.metadata.key = r.route.metadata.key := by
  have named : (e.onRoute k r).shell.route.metadata.key = r.shell.route.metadata.key := by
    rw [shell_onRoute]
  exact named

theorem onRoute_setting_timeouts (i j k : ObjectKey) (v : Setting) (source : ObjectKey)
    (t : RouteTimeouts) (r : RoutePlan) :
    (timeouts j t).onRoute k ((setting i v source).onRoute k r) =
      (setting i v source).onRoute k ((timeouts j t).onRoute k r) := by
  unfold onRoute
  dsimp only
  by_cases first : i = k
  · by_cases second : j = k
    · simp only [if_pos first, if_pos second]
      rfl
    · simp only [if_neg second]
  · simp only [if_neg first]

theorem onRoute_comm (apart : d.Apart e) (k : ObjectKey) (r : RoutePlan) :
    e.onRoute k (d.onRoute k r) = d.onRoute k (e.onRoute k r) := by
  cases d with
  | setting i v source =>
    cases e with
    | setting j w source' =>
      have other : v.field ≠ w.field := fun same =>
        apart (.field v.field) rfl (congrArg Aspect.field same)
      unfold onRoute
      dsimp only
      by_cases first : i = k
      · by_cases second : j = k
        · simp only [if_pos first, if_pos second, RoutePlan.currentSettings, Option.getD_some,
            RouteSettings.write_comm _ other]
        · simp only [if_neg second]
      · simp only [if_neg first]
    | timeouts j t => exact onRoute_setting_timeouts i j k v source t r
    | _ => rfl
  | timeouts i t =>
    cases e with
    | setting j w source => exact (onRoute_setting_timeouts j i k w source t r).symm
    | timeouts j u => exact absurd rfl (apart .timeouts rfl)
    | _ => rfl
  | _ => rfl

theorem onService_comm (apart : d.Apart e) (k : ObjectKey) (p : Option ServicePlan) :
    e.onService k (d.onService k p) = d.onService k (e.onService k p) := by
  cases d with
  | service i v =>
    cases e with
    | service j w =>
      have others : ∀ f, v.isSet f = true → w.isSet f ≠ true :=
        fun f first second => apart (.service f) ⟨f, first, rfl⟩ ⟨f, second, rfl⟩
      unfold onService
      dsimp only
      by_cases first : i = k
      · by_cases second : j = k
        · simp only [if_pos first, if_pos second, ServicePlan.overlay, Option.getD_some,
            ServiceSettings.overlay_comm _ others]
        · simp only [if_neg second]
      · simp only [if_neg first]
    | _ => rfl
  | _ => rfl

/-- Of edits that are apart, only one is about policies. -/
theorem onPolicies_comm (apart : d.Apart e) (ps : Catalog BackendTlsPolicy) :
    e.onPolicies (d.onPolicies ps) = d.onPolicies (e.onPolicies ps) := by
  cases d with
  | tlsPolicy j p n =>
    cases e with
    | tlsPolicy j' q n' => exact absurd rfl (apart .policies rfl)
    | _ => rfl
  | _ => rfl

theorem onPolicies_of_spared (spared : ¬ e.Touches .policies) (ps : Catalog BackendTlsPolicy) :
    e.onPolicies ps = ps := by
  cases e with
  | tlsPolicy => exact absurd rfl spared
  | _ => rfl

/-- An edit reports what it would have without the other one. -/
theorem reports_of_apart (apart : d.Apart e) (routes : Catalog RoutePlan)
    (policies : Catalog BackendTlsPolicy) :
    e.reports (routes.mapValues fun k r => d.onRoute k r) (d.onPolicies policies) =
      e.reports routes policies := by
  cases e with
  | setting k v source =>
    have spared : ¬ d.Touches (.field v.field) := fun touches => apart _ touches rfl
    rw [reports_setting, reports_setting, OrderedMap.get?_mapValues]
    cases routes.get? k with
    | none => rfl
    | some r =>
      rw [Option.map_some, Option.bind_some, Option.bind_some]
      unfold RoutePlan.conflict? conflictNotice?
      rw [get_onRoute_of_spared spared, key_onRoute]
  | tlsPolicy k p n =>
    have spared : ¬ d.Touches .policies := fun touches => apart _ touches rfl
    unfold reports
    dsimp only
    rw [onPolicies_of_spared spared]
  | timeouts => rfl
  | service => rfl
  | notify => rfl

end Edit

/-! ## Plans without some of their orders -/

/-- A plan and what was reported, without the order of the Services and of the notifications. -/
@[ext] structure PlanView where
  gateways : Catalog Gateway
  grants : Catalog ReferenceGrant
  routes : Catalog RoutePlan
  tlsPolicies : Catalog BackendTlsPolicy
  services : ObjectKey → Option ServicePlan
  notices : Multiset Notification

def PlanState.view (s : PlanState) : PlanView where
  gateways := s.plan.gateways
  grants := s.plan.grants
  routes := s.plan.routes
  tlsPolicies := s.plan.tlsPolicies
  services := s.plan.services.get?
  notices := s.notices

namespace PlanView

def after (v : PlanView) (e : Edit) : PlanView :=
  { v with
    routes := v.routes.mapValues fun k r => e.onRoute k r
    tlsPolicies := e.onPolicies v.tlsPolicies
    services := fun k => e.onService k (v.services k)
    notices := v.notices + e.reports v.routes v.tlsPolicies }

theorem after_comm {d e : Edit} (apart : d.Apart e) (v : PlanView) :
    (v.after d).after e = (v.after e).after d := by
  ext1
  · rfl
  · rfl
  · unfold after
    dsimp only
    rw [OrderedMap.mapValues_mapValues, OrderedMap.mapValues_mapValues]
    congr 1
    funext k r
    exact Edit.onRoute_comm apart k r
  · exact Edit.onPolicies_comm apart v.tlsPolicies
  · exact funext fun k => Edit.onService_comm apart k (v.services k)
  · have first := Edit.reports_of_apart apart v.routes v.tlsPolicies
    have second := Edit.reports_of_apart apart.symm v.routes v.tlsPolicies
    have notices : ∀ d e : Edit, ((v.after d).after e).notices =
        v.notices + d.reports v.routes v.tlsPolicies +
          e.reports (v.routes.mapValues fun k r => d.onRoute k r) (d.onPolicies v.tlsPolicies) :=
      fun d e => rfl
    rw [notices, notices, first, second, Multiset.add_assoc, Multiset.add_assoc,
      Multiset.add_comm (e.reports v.routes v.tlsPolicies : Multiset Notification)]

end PlanView

namespace PlanState

theorem view_after (s : PlanState) (e : Edit) : (s.after e).view = s.view.after e := by
  ext1
  · rfl
  · rfl
  · rfl
  · rfl
  · exact funext (e.get?_onServices s.plan.services)
  · exact (Multiset.coe_add _ _).symm

theorem view_edits {s : PlanState} {es : List Edit}
    (complete : (Progress.each edit s es).stop = none) :
    (Progress.each edit s es).state.view = es.foldl PlanView.after s.view := by
  rw [edits_of_complete complete]
  exact (List.foldl_hom view fun s e => (view_after s e).symm).symm

end PlanState

/-! ## Passes in another order -/

/-- Two outcomes are the same, up to the order of Services, of errors and of notifications. -/
structure PassOutcome.Alike (o o' : PassOutcome PlanState) : Prop where
  gateways : o.state.plan.gateways = o'.state.plan.gateways
  grants : o.state.plan.grants = o'.state.plan.grants
  routes : o.state.plan.routes = o'.state.plan.routes
  tlsPolicies : o.state.plan.tlsPolicies = o'.state.plan.tlsPolicies
  services : ∀ k, o.state.plan.services.get? k = o'.state.plan.services.get? k
  errors : o.errors.Perm o'.errors
  notices : o.state.notices.Perm o'.state.notices

section Orders
variable {ps : List AnnotationPass} {c : PassContext} {s : PlanState}

theorem apart_of_mem_asks {p q : AnnotationPass} (first : p ∈ annotationPasses)
    (second : q ∈ annotationPasses) (other : p ≠ q) {d e : Edit} (mem : d ∈ p.asks c s)
    (mem' : e ∈ q.asks c s) : d.Apart e := by
  obtain ⟨i, -, asked⟩ := List.mem_flatMap.mp mem
  obtain ⟨j, -, asked'⟩ := List.mem_flatMap.mp mem'
  exact apart_of_ne first second other asked asked'

/-- What is written into a field of a route is the same in any order of the passes. -/
theorem written?_perm (perm : ps.Perm annotationPasses) (k : ObjectKey) (f : RouteField) :
    (ps.flatMap fun p => p.asks c s).filterMap (·.written? k f) =
      (askedEdits c s).filterMap (·.written? k f) := by
  rw [askedEdits, List.filterMap_flatMap, List.filterMap_flatMap]
  refine flatMap_eq_of_perm perm fun p mem q mem' other => ?_
  by_contra both
  rw [not_or] at both
  obtain ⟨v, wrote⟩ := List.exists_mem_of_ne_nil _ both.1
  obtain ⟨w, wrote'⟩ := List.exists_mem_of_ne_nil _ both.2
  obtain ⟨d, asked, wrote⟩ := List.mem_filterMap.mp wrote
  obtain ⟨e, asked', wrote'⟩ := List.mem_filterMap.mp wrote'
  have apart := apart_of_mem_asks (perm.subset mem) (perm.subset mem') other asked asked'
  exact apart _ (Edit.touches_of_written? wrote) (Edit.touches_of_written? wrote')

theorem edits_complete_perm (perm : ps.Perm annotationPasses) :
    (Progress.each PlanState.edit s (ps.flatMap fun p => p.asks c s)).stop = none ↔
      (Progress.each PlanState.edit s (askedEdits c s)).stop = none := by
  rw [PlanState.edits_complete_iff, PlanState.edits_complete_iff]
  simp only [written?_perm perm]

theorem view_perm (perm : ps.Perm annotationPasses) (v : PlanView) :
    (ps.flatMap fun p => p.asks c s).foldl PlanView.after v =
      (askedEdits c s).foldl PlanView.after v := by
  rw [askedEdits, List.foldl_flatMap, List.foldl_flatMap]
  refine perm.foldl_eq' (fun p mem q mem' v => ?_) v
  by_cases same : p = q
  · rw [same]
  · refine foldl_comm_of (fun d asked e asked' v => ?_) v
    exact PlanView.after_comm
      (apart_of_mem_asks (perm.subset mem) (perm.subset mem') same asked asked') v

/-- The order of the passes does not matter: in any other order they complete just as well, and the
outcomes are alike then. -/
theorem runnerOf_perm (perm : ps.Perm annotationPasses) (c : PassContext) (s : PlanState) :
    (((runnerOf ps).run c s).stop = none ↔ (annotationRunner.run c s).stop = none) ∧
      ((annotationRunner.run c s).stop = none →
        ((runnerOf ps).run c s).Alike (annotationRunner.run c s)) := by
  have distinct : (ps.map AnnotationPass.name).Nodup :=
    (perm.map AnnotationPass.name).nodup_iff.mpr nodup_names
  have completes : ((runnerOf ps).run c s).stop = none ↔
      (annotationRunner.run c s).stop = none := by
    rw [runnerOf_completes_iff distinct, run_completes_iff, edits_complete_perm perm]
    exact and_congr_left fun _ => ⟨fun readable p mem => readable p (perm.symm.subset mem),
      fun readable p mem => readable p (perm.subset mem)⟩
  refine ⟨completes, fun complete => ?_⟩
  have complete' := completes.mpr complete
  have view : ((runnerOf ps).run c s).state.view = (annotationRunner.run c s).state.view := by
    rw [runnerOf_of_complete distinct complete', run_eq_edits complete,
      PlanState.view_edits ((runnerOf_completes_iff distinct).mp complete').2,
      PlanState.view_edits (run_completes_iff.mp complete).2, view_perm perm]
  have errors : ((runnerOf ps).run c s).errors.Perm (annotationRunner.run c s).errors := by
    rw [runnerOf_of_complete distinct complete', run_eq_edits complete]
    exact perm.flatMap_right _
  exact
    { gateways := congrArg PlanView.gateways view
      grants := congrArg PlanView.grants view
      routes := congrArg PlanView.routes view
      tlsPolicies := congrArg PlanView.tlsPolicies view
      services := congrFun (congrArg PlanView.services view)
      errors := errors
      notices := Multiset.coe_eq_coe.mp (congrArg PlanView.notices view) }

end Orders

namespace IngressNginx

/-- Two Ingresses that ask for different things of one route and one Service. -/
def rivals : List Ingress :=
  [.plain ⟨"shop", "web"⟩ [("a.b", "one")] []
    (.ofList [(AnnotationKey.backendProtocol, "HTTPS"), (AnnotationKey.loadBalance, "ewma"),
      (AnnotationKey.limitRps, "5"), (AnnotationKey.proxyReadTimeout, "30")]),
   .plain ⟨"shop", "api"⟩ [("a.b", "one")] []
    (.ofList [(AnnotationKey.backendProtocol, "GRPCS"), (AnnotationKey.loadBalance, "round_robin"),
      (AnnotationKey.limitRps, "9"), (AnnotationKey.proxyReadTimeout, "soon")])]

/-- The second one has the last word about the route. -/
theorem annotated_rivals :
    (annotate rivals .empty).stop = none ∧
      (annotate rivals .empty).state.setting? ⟨"shop", "web-a-b"⟩ .requestRate =
        some (.requestRate 9) := by
  decide +kernel

/-- In the opposite order, the passes come to the same end. -/
theorem reversed_alike :
    annotationPasses.reverse.Perm annotationPasses ∧
      (annotate rivals .empty).stop = none ∧
      ((runnerOf annotationPasses.reverse).run (.ofIngresses rivals)
        { plan := (lower rivals .empty).1 }).stop = none ∧
      ((runnerOf annotationPasses.reverse).run (.ofIngresses rivals)
        { plan := (lower rivals .empty).1 }).Alike (annotate rivals .empty) := by
  have perm : annotationPasses.reverse.Perm annotationPasses := List.reverse_perm _
  have complete := annotated_rivals.1
  obtain ⟨completes, alike⟩ :=
    runnerOf_perm perm (.ofIngresses rivals) { plan := (lower rivals .empty).1 }
  exact ⟨perm, complete, completes.mpr complete, alike complete⟩

end IngressNginx

end GatewayMigration
