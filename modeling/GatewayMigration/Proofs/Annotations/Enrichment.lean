import GatewayMigration.Proofs.Annotations.Effects
import GatewayMigration.Proofs.Annotations.Scope
/-!
# Annotations enrich a plan

Passes put settings into the routes of a plan, add Services and policies to it, and take nothing
back. Main statements:

* `RoutePlan.Enriches`, `ServicePlan.Enriches`, `Plan.Enriches`: a plan with more settings, Services
  and policies, and otherwise the same;
* `enriches_after`: an edit that is asked for enriches the plan;
* `enriches_run`: so do all passes, on any plan, interrupted or not.
-/

namespace GatewayMigration

/-! ## More settings -/

/-- The route with more settings and other timeouts. No setting is taken back. -/
structure RoutePlan.Enriches (new old : RoutePlan) : Prop where
  shell : new.shell = old.shell
  settings : old.settings.isSome = true → new.settings.isSome = true
  fields : ∀ f, (old.currentSettings.get f).isSome = true →
    (new.currentSettings.get f).isSome = true

/-- The Service with more settings. -/
structure ServicePlan.Enriches (new old : ServicePlan) : Prop where
  ports : new.ports = old.ports
  settings : old.settings.isSome = true → new.settings.isSome = true
  fields : ∀ f, (old.settings.getD {}).isSet f = true → (new.settings.getD {}).isSet f = true

/-- The plan with more settings, with Services that Ingresses of the context send requests to, and
with more policies. -/
structure Plan.Enriches (c : PassContext) (new old : Plan) : Prop where
  gateways : new.gateways = old.gateways
  grants : new.grants = old.grants
  routeKeys : new.routes.keys = old.routes.keys
  routes : ∀ k r, old.routes.get? k = some r →
    ∃ r', new.routes.get? k = some r' ∧ r'.Enriches r
  serviceKeys : ∃ added, new.services.keys = old.services.keys ++ added ∧
    ∀ k ∈ added, ∃ i ∈ c.ingresses, i.LeadsTo k
  services : ∀ k p, old.services.get? k = some p →
    ∃ p', new.services.get? k = some p' ∧ p'.Enriches p
  policies : ∃ added, new.tlsPolicies.toList = old.tlsPolicies.toList ++ added

theorem RoutePlan.Enriches.refl (r : RoutePlan) : r.Enriches r := ⟨rfl, id, fun _ => id⟩

theorem RoutePlan.Enriches.trans {a b c : RoutePlan} (second : a.Enriches b)
    (first : b.Enriches c) : a.Enriches c where
  shell := second.shell.trans first.shell
  settings := fun set => second.settings (first.settings set)
  fields := fun f set => second.fields f (first.fields f set)

theorem ServicePlan.Enriches.refl (p : ServicePlan) : p.Enriches p := ⟨rfl, id, fun _ => id⟩

theorem ServicePlan.Enriches.trans {a b c : ServicePlan} (second : a.Enriches b)
    (first : b.Enriches c) : a.Enriches c where
  ports := second.ports.trans first.ports
  settings := fun set => second.settings (first.settings set)
  fields := fun f set => second.fields f (first.fields f set)

namespace Plan.Enriches

variable {c : PassContext}

theorem refl (p : Plan) : p.Enriches c p where
  gateways := rfl
  grants := rfl
  routeKeys := rfl
  routes := fun _ r found => ⟨r, found, .refl r⟩
  serviceKeys := ⟨[], (List.append_nil _).symm, nofun⟩
  services := fun _ q found => ⟨q, found, .refl q⟩
  policies := ⟨[], (List.append_nil _).symm⟩

theorem trans {p q r : Plan} (second : r.Enriches c q) (first : q.Enriches c p) :
    r.Enriches c p where
  gateways := second.gateways.trans first.gateways
  grants := second.grants.trans first.grants
  routeKeys := second.routeKeys.trans first.routeKeys
  routes := by
    intro k a found
    obtain ⟨b, there, early⟩ := first.routes k a found
    obtain ⟨d, kept, late⟩ := second.routes k b there
    exact ⟨d, kept, late.trans early⟩
  serviceKeys := by
    obtain ⟨early, keys, own⟩ := first.serviceKeys
    obtain ⟨late, keys', own'⟩ := second.serviceKeys
    refine ⟨early ++ late, by rw [keys', keys, List.append_assoc], fun k mem => ?_⟩
    rcases List.mem_append.mp mem with before | after
    · exact own k before
    · exact own' k after
  services := by
    intro k a found
    obtain ⟨b, there, early⟩ := first.services k a found
    obtain ⟨d, kept, late⟩ := second.services k b there
    exact ⟨d, kept, late.trans early⟩
  policies := by
    obtain ⟨early, entries⟩ := first.policies
    obtain ⟨late, entries'⟩ := second.policies
    exact ⟨early ++ late, by rw [entries', entries, List.append_assoc]⟩

end Plan.Enriches

/-! ## Single edits -/

theorem ServicePlan.enriches_overlay (p : ServicePlan) (v : ServiceSettings) :
    (p.overlay v).Enriches p where
  ports := rfl
  settings := fun _ => rfl
  fields := by
    intro f set
    have layered : ((p.overlay v).settings.getD {}) = (p.settings.getD {}).overlay v := rfl
    rw [layered, ServiceSettings.isSet_overlay, set, Bool.or_true]

theorem RoutePlan.enriches_onRoute (e : Edit) (k : ObjectKey) (r : RoutePlan) :
    (e.onRoute k r).Enriches r where
  shell := e.shell_onRoute k r
  settings := by
    intro set
    rcases e.onRoute_cases k r with same | ⟨v, source, -, made⟩ | ⟨t, -, made⟩
    · rw [same]
      exact set
    · rw [made]
      rfl
    · rw [made]
      exact set
  fields := by
    intro f set
    rw [e.get_onRoute, Option.isSome_or, set, Bool.or_true]

theorem ServicePlan.enriches_onService (e : Edit) (k : ObjectKey) (p : ServicePlan) :
    ∃ p', e.onService k (some p) = some p' ∧ p'.Enriches p := by
  cases e with
  | service j v =>
    unfold Edit.onService
    dsimp only
    split
    · exact ⟨_, rfl, p.enriches_overlay v⟩
    · exact ⟨p, rfl, .refl p⟩
  | setting => exact ⟨p, rfl, .refl p⟩
  | timeouts => exact ⟨p, rfl, .refl p⟩
  | tlsPolicy => exact ⟨p, rfl, .refl p⟩
  | notify => exact ⟨p, rfl, .refl p⟩

theorem leadsTo_of_isAsked {c : PassContext} {e : Edit} (asked : IsAsked c e) {k : ObjectKey}
    (own : e.service? = some k) : ∃ i ∈ c.ingresses, i.LeadsTo k := by
  obtain ⟨p, mem, i, listed, routes, present, made⟩ := asked
  cases e with
  | service j v =>
    cases own
    exact ⟨i, listed, leadsTo_of_service mem made⟩
  | setting => cases own
  | timeouts => cases own
  | tlsPolicy => cases own
  | notify => cases own

theorem enriches_after {c : PassContext} {e : Edit} (asked : IsAsked c e) (s : PlanState) :
    (s.after e).plan.Enriches c s.plan where
  gateways := rfl
  grants := rfl
  routeKeys := OrderedMap.keys_mapValues _ _
  routes := by
    intro k r found
    refine ⟨e.onRoute k r, ?_, r.enriches_onRoute e k⟩
    exact (OrderedMap.get?_mapValues _ _ k).trans (congrArg _ found)
  serviceKeys := by
    obtain ⟨added, keys, own⟩ := foldl_addNew_eq_append s.plan.services.keys e.service?.toList
    refine ⟨added, (e.keys_onServices s.plan.services).trans keys, fun k mem => ?_⟩
    exact leadsTo_of_isAsked asked (Option.mem_toList.mp (own k mem))
  services := by
    intro k p found
    obtain ⟨p', made, more⟩ := p.enriches_onService e k
    refine ⟨p', ?_, more⟩
    rw [← made, ← found]
    exact e.get?_onServices s.plan.services k
  policies := e.toList_onPolicies s.plan.tlsPolicies

/-! ## All passes -/

/-- Passes enrich a plan, whatever it holds, and however far they come. Gateways, grants, the keys
of routes and their order, and all of a route but timeouts and settings stay as they are; ports of
Services and policies are kept; what is added are Services that Ingresses of the context send
requests to, policies, and settings; and no setting is taken back. -/
theorem enriches_run (c : PassContext) (s : PlanState) :
    (annotationRunner.run c s).state.plan.Enriches c s.plan := by
  refine @run_maintains (fun t => t.plan.Enriches c s.plan) c s ?_ (.refl s.plan)
  intro t e asked sofar
  rcases PlanState.edit_cases t e with made | stopped
  · rw [made]
    exact (enriches_after asked t).trans sofar
  · rw [stopped]
    exact sofar

end GatewayMigration
