import GatewayMigration.Proofs.Annotations.Aspects
import GatewayMigration.Proofs.Annotations.Conflicts
import GatewayMigration.Proofs.Annotations.Frame
/-!
# What an edit does

An edit that is made changes every route and every Service by a function of its own, adds a policy
or not, and reports something or not. Main statements:

* `PlanState.edit_of_complete`: what an edit does that is made, part by part;
* `PlanState.edit_of_stop`: an edit that is interrupted does nothing;
* `PlanState.get?_services_after`, `keys_services_after`: what becomes of Services;
* `PlanState.routes_edits` and its like: what all edits of a complete run do together.
-/

namespace GatewayMigration

theorem orElse_eq_or {α : Type} (a b : Option α) : orElse a b = a.or b := by
  cases a with
  | none => rfl
  | some x => rfl

theorem ServiceSettings.isSet_overlay (old new : ServiceSettings) (f : ServiceField) :
    (old.overlay new).isSet f = (new.isSet f || old.isSet f) := by
  cases f <;> simp only [overlay, isSet, orElse_eq_or, Option.isSome_or]

/-- A Service with these settings over the ones it had. -/
def ServicePlan.overlay (p : ServicePlan) (v : ServiceSettings) : ServicePlan :=
  { p with settings := some ((p.settings.getD {}).overlay v) }

namespace Edit

/-- What becomes of a route under its key. -/
def onRoute (k : ObjectKey) (r : RoutePlan) : Edit → RoutePlan
  | .setting j v _ =>
    if j = k then { r with settings := some (r.currentSettings.write v) } else r
  | .timeouts j t => if j = k then r.withTimeouts t else r
  | _ => r

/-- What becomes of a Service under its key, if there is one yet. -/
def onService (k : ObjectKey) (p : Option ServicePlan) : Edit → Option ServicePlan
  | .service j v => if j = k then some ((p.getD {}).overlay v) else p
  | _ => p

def onServices (ps : Catalog ServicePlan) : Edit → Catalog ServicePlan
  | .service k v => ps.insert k (((ps.get? k).getD {}).overlay v)
  | _ => ps

def onPolicies (ps : Catalog BackendTlsPolicy) : Edit → Catalog BackendTlsPolicy
  | .tlsPolicy k p _ => ps.insertNew k p
  | _ => ps

/-- What the edit reports of a plan with these routes and policies. -/
def reports (routes : Catalog RoutePlan) (policies : Catalog BackendTlsPolicy) : Edit → Notices
  | .setting k v source =>
    ((routes.get? k).bind fun r =>
      (r.conflict? v).bind fun old => conflictNotice? r old v source).toList
  | .tlsPolicy k _ n => if policies.contains k then [] else [n]
  | .notify n => [n]
  | _ => []

/-- The Service that the edit is about. -/
def service? : Edit → Option ObjectKey
  | .service k _ => some k
  | _ => none

/-- Only an edit of this route changes it, one of its settings or its timeouts. -/
theorem onRoute_cases (e : Edit) (k : ObjectKey) (r : RoutePlan) :
    e.onRoute k r = r ∨
      (∃ v source, e = .setting k v source ∧
        e.onRoute k r = { r with settings := some (r.currentSettings.write v) }) ∨
      ∃ t, e = .timeouts k t ∧ e.onRoute k r = r.withTimeouts t := by
  cases e with
  | setting j v source =>
    by_cases here : j = k
    · subst here
      exact .inr (.inl ⟨v, source, rfl, if_pos rfl⟩)
    · exact .inl (if_neg here)
  | timeouts j t =>
    by_cases here : j = k
    · subst here
      exact .inr (.inr ⟨t, rfl, if_pos rfl⟩)
    · exact .inl (if_neg here)
  | service => exact .inl rfl
  | tlsPolicy => exact .inl rfl
  | notify => exact .inl rfl

theorem shell_onRoute (e : Edit) (k : ObjectKey) (r : RoutePlan) :
    (e.onRoute k r).shell = r.shell := by
  rcases e.onRoute_cases k r with same | ⟨v, source, -, made⟩ | ⟨t, -, made⟩
  · rw [same]
  · rw [made]
    rfl
  · rw [made, RoutePlan.shell_withTimeouts]

/-- A field of a route is as it was, unless the edit writes it. -/
theorem get_onRoute (e : Edit) (k : ObjectKey) (r : RoutePlan) (f : RouteField) :
    (e.onRoute k r).currentSettings.get f = (e.written? k f).or (r.currentSettings.get f) := by
  cases e with
  | setting j v source =>
    unfold onRoute
    rw [written?_setting]
    dsimp only
    by_cases here : j = k
    · rw [if_pos here]
      by_cases own : v.field = f
      · rw [if_pos ⟨here, own⟩, ← own]
        exact RouteSettings.get_write _ v
      · rw [if_neg fun both => own both.2, Option.none_or]
        exact RouteSettings.get_write_other _ own
    · rw [if_neg here, if_neg fun both => here both.1, Option.none_or]
  | timeouts j t =>
    unfold onRoute
    dsimp only
    split
    · rfl
    · rfl
  | service => rfl
  | tlsPolicy => rfl
  | notify => rfl

theorem reports_setting (routes : Catalog RoutePlan) (policies : Catalog BackendTlsPolicy)
    (k : ObjectKey) (v : Setting) (source : ObjectKey) :
    (Edit.setting k v source).reports routes policies =
      ((routes.get? k).bind fun r =>
        (r.conflict? v).bind fun old => conflictNotice? r old v source).toList := rfl

theorem get?_onServices (e : Edit) (ps : Catalog ServicePlan) (k : ObjectKey) :
    (e.onServices ps).get? k = e.onService k (ps.get? k) := by
  cases e with
  | service j v =>
    unfold onServices onService
    dsimp only
    rw [OrderedMap.get?_insert]
    by_cases here : j = k
    · rw [if_pos here, if_pos here, here]
    · rw [if_neg here, if_neg here]
  | _ => rfl

theorem keys_onServices (e : Edit) (ps : Catalog ServicePlan) :
    (e.onServices ps).keys = e.service?.toList.foldl addNew ps.keys := by
  cases e with
  | service j v => exact OrderedMap.keys_insert ps j _
  | _ => rfl

/-- Policies that are there stay as they are. -/
theorem toList_onPolicies (e : Edit) (ps : Catalog BackendTlsPolicy) :
    ∃ added, (e.onPolicies ps).toList = ps.toList ++ added := by
  cases e with
  | tlsPolicy k p n =>
    obtain ⟨added, entries, -⟩ := ps.toList_foldl_insertNew [(k, p)]
    exact ⟨added, entries⟩
  | setting => exact ⟨[], (List.append_nil _).symm⟩
  | timeouts => exact ⟨[], (List.append_nil _).symm⟩
  | service => exact ⟨[], (List.append_nil _).symm⟩
  | notify => exact ⟨[], (List.append_nil _).symm⟩

end Edit

namespace PlanState

variable {s : PlanState} {e : Edit}

/-! ## One edit -/

/-- The state after an edit that is made. -/
def after (s : PlanState) (e : Edit) : PlanState where
  plan :=
    { s.plan with
      routes := s.plan.routes.mapValues fun k r => e.onRoute k r
      services := e.onServices s.plan.services
      tlsPolicies := e.onPolicies s.plan.tlsPolicies }
  notices := s.notices ++ e.reports s.plan.routes s.plan.tlsPolicies

theorem after_setting (s : PlanState) (k : ObjectKey) (v : Setting) (source : ObjectKey) :
    s.after (.setting k v source) =
      { plan := { s.plan with routes := s.plan.routes.modify k fun r =>
          { r with settings := some (r.currentSettings.write v) } }
        notices := s.notices ++
          (Edit.setting k v source).reports s.plan.routes s.plan.tlsPolicies } := by
  rw [OrderedMap.modify_eq_mapValues]
  rfl

theorem after_timeouts (s : PlanState) (k : ObjectKey) (t : RouteTimeouts) :
    s.after (.timeouts k t) =
      { s with plan := { s.plan with routes := s.plan.routes.modify k (·.withTimeouts t) } } := by
  rw [OrderedMap.modify_eq_mapValues]
  simp [after, Edit.onRoute, Edit.onServices, Edit.onPolicies, Edit.reports]

theorem writeSetting_of_complete {k : ObjectKey} {v : Setting} {source : ObjectKey}
    (complete : (s.writeSetting k v source).stop = none) :
    (s.writeSetting k v source).state = s.after (.setting k v source) := by
  rw [after_setting, Edit.reports_setting]
  unfold OrderedMap.modify
  unfold writeSetting at complete ⊢
  cases there : s.plan.routes.get? k with
  | none => simp
  | some r =>
    rw [there] at complete
    dsimp only at complete ⊢
    cases conflict : r.conflict? v with
    | none => simp [updateRoute, conflict]
    | some old =>
      rw [conflict] at complete
      dsimp only at complete ⊢
      cases noticed : conflictNotice? r old v source with
      | none =>
        rw [noticed] at complete
        cases complete
      | some n => simp [updateRoute, notify, conflict, noticed]

theorem edit_of_complete (complete : (s.edit e).stop = none) : (s.edit e).state = s.after e := by
  cases e with
  | setting k v source => exact writeSetting_of_complete complete
  | timeouts k t =>
    rw [after_timeouts]
    unfold edit writeTimeouts OrderedMap.modify
    dsimp only
    cases s.plan.routes.get? k with
    | none => rfl
    | some r => rfl
  | service k v => simp [edit, writeService, after, Edit.onRoute, Edit.onServices, Edit.onPolicies,
      Edit.reports, ServicePlan.overlay]
  | tlsPolicy k p n =>
    unfold edit addPolicy
    by_cases taken : s.plan.tlsPolicies.contains k = true
    · simp [after, Edit.onRoute, Edit.onServices, Edit.onPolicies, Edit.reports,
        OrderedMap.insertNew, taken]
    · simp [after, Edit.onRoute, Edit.onServices, Edit.onPolicies, Edit.reports, notify,
        OrderedMap.insertNew, taken]
  | notify n => simp [edit, notify, after, Edit.onRoute, Edit.onServices, Edit.onPolicies,
      Edit.reports]

theorem edit_of_stop {why : Interruption} (stopped : (s.edit e).stop = some why) :
    (s.edit e).state = s := by
  cases e with
  | setting k v source =>
    unfold edit writeSetting at stopped ⊢
    dsimp only at stopped ⊢
    cases there : s.plan.routes.get? k with
    | none => rfl
    | some r =>
      rw [there] at stopped
      dsimp only at stopped ⊢
      cases conflict : r.conflict? v with
      | none =>
        rw [conflict] at stopped
        cases stopped
      | some old =>
        rw [conflict] at stopped
        dsimp only at stopped ⊢
        cases noticed : conflictNotice? r old v source with
        | none => rfl
        | some n =>
          rw [noticed] at stopped
          cases stopped
  | timeouts => cases stopped
  | service => cases stopped
  | tlsPolicy => cases stopped
  | notify => cases stopped

theorem edit_cases (s : PlanState) (e : Edit) :
    (s.edit e).state = s.after e ∨ (s.edit e).state = s := by
  cases stopped : (s.edit e).stop with
  | none => exact .inl (edit_of_complete stopped)
  | some why => exact .inr (edit_of_stop stopped)

/-! ## Complete runs -/

section Runs
variable {es : List Edit} (complete : (Progress.each edit s es).stop = none)

include complete

theorem edits_of_complete : (Progress.each edit s es).state = es.foldl after s :=
  Progress.observe_each id after (fun _ _ => edit_of_complete) complete

theorem routes_edits :
    (Progress.each edit s es).state.plan.routes =
      s.plan.routes.mapValues fun k r => es.foldl (fun r e => e.onRoute k r) r := by
  rw [edits_of_complete complete, ← OrderedMap.foldl_mapValues fun e k r => Edit.onRoute k r e]
  exact (List.foldl_hom (fun s : PlanState => s.plan.routes) fun _ _ => rfl).symm

theorem services_edits :
    (Progress.each edit s es).state.plan.services =
      es.foldl (fun ps e => e.onServices ps) s.plan.services := by
  rw [edits_of_complete complete]
  exact (List.foldl_hom (fun s : PlanState => s.plan.services) fun _ _ => rfl).symm

theorem tlsPolicies_edits :
    (Progress.each edit s es).state.plan.tlsPolicies =
      es.foldl (fun ps e => e.onPolicies ps) s.plan.tlsPolicies := by
  rw [edits_of_complete complete]
  exact (List.foldl_hom (fun s : PlanState => s.plan.tlsPolicies) fun _ _ => rfl).symm

end Runs

end PlanState

end GatewayMigration
