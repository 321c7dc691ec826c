import GatewayMigration.Proofs.Annotations.Effects
import GatewayMigration.Proofs.Annotations.Scope
import Mathlib.Data.List.Basic
/-!
# Planning, Ingress by Ingress

Other annotations of an Ingress change what it contributes to, and nothing else. Main statements:

* `PlanState.plan_edit_cases`: an edit writes at most one entry of the plan;
* `PlanState.get?_routes_edit_congr` and its like: what it writes there depends on this entry alone;
* `filter_allEdits_annotated`: edits that do not come from the Ingress are asked for either way;
* `agreeBeyond_annotated`: so two plans agree wherever the Ingress does not contribute.
-/

namespace GatewayMigration

/-! ## What a single edit writes -/

namespace Edit

def route? : Edit → Option ObjectKey
  | .setting k _ _ => some k
  | .timeouts k _ => some k
  | _ => none

def policy? : Edit → Option ObjectKey
  | .tlsPolicy k _ _ => some k
  | _ => none

end Edit

namespace PlanState

variable {k : ObjectKey} {s t : PlanState} {e : Edit}

/-- An edit writes at most one entry of a plan, and under its own key. -/
theorem plan_edit_cases (s : PlanState) (e : Edit) :
    (s.edit e).state.plan = s.plan ∨
      (∃ k r, e.route? = some k ∧
        (s.edit e).state.plan = { s.plan with routes := s.plan.routes.insert k r }) ∨
      (∃ k v, e.service? = some k ∧
        (s.edit e).state.plan = { s.plan with services := s.plan.services.insert k v }) ∨
      ∃ k p, e.policy? = some k ∧
        (s.edit e).state.plan = { s.plan with tlsPolicies := s.plan.tlsPolicies.insert k p } := by
  cases e with
  | setting j v source =>
    unfold edit writeSetting
    dsimp only
    split
    · exact .inl rfl
    · split
      · exact .inr (.inl ⟨j, _, rfl, rfl⟩)
      · split
        · exact .inr (.inl ⟨j, _, rfl, rfl⟩)
        · exact .inl rfl
  | timeouts j v =>
    unfold edit writeTimeouts
    dsimp only
    split
    · exact .inl rfl
    · exact .inr (.inl ⟨j, _, rfl, rfl⟩)
  | service j v => exact .inr (.inr (.inl ⟨j, _, rfl, rfl⟩))
  | tlsPolicy j p n =>
    unfold edit addPolicy
    dsimp only
    split
    · exact .inl rfl
    · exact .inr (.inr (.inr ⟨j, p, rfl, rfl⟩))
  | notify n => exact .inl rfl

theorem get?_routes_edit_of_ne (other : e.route? ≠ some k) :
    (s.edit e).state.plan.routes.get? k = s.plan.routes.get? k := by
  rcases plan_edit_cases s e with made | ⟨j, r, own, made⟩ | ⟨j, v, -, made⟩ | ⟨j, p, -, made⟩
  · rw [made]
  · have apart : j ≠ k := fun same => other (own.trans (congrArg some same))
    rw [made, OrderedMap.get?_insert, if_neg apart]
  · rw [made]
  · rw [made]

theorem get?_services_edit_of_ne (other : e.service? ≠ some k) :
    (s.edit e).state.plan.services.get? k = s.plan.services.get? k := by
  rcases plan_edit_cases s e with made | ⟨j, r, -, made⟩ | ⟨j, v, own, made⟩ | ⟨j, p, -, made⟩
  · rw [made]
  · rw [made]
  · have apart : j ≠ k := fun same => other (own.trans (congrArg some same))
    rw [made, OrderedMap.get?_insert, if_neg apart]
  · rw [made]

theorem get?_tlsPolicies_edit_of_ne (other : e.policy? ≠ some k) :
    (s.edit e).state.plan.tlsPolicies.get? k = s.plan.tlsPolicies.get? k := by
  rcases plan_edit_cases s e with made | ⟨j, r, -, made⟩ | ⟨j, v, -, made⟩ | ⟨j, p, own, made⟩
  · rw [made]
  · rw [made]
  · rw [made]
  · have apart : j ≠ k := fun same => other (own.trans (congrArg some same))
    rw [made, OrderedMap.get?_insert, if_neg apart]

/-- What becomes of a route depends on this route alone. -/
theorem get?_routes_edit_congr (same : s.plan.routes.get? k = t.plan.routes.get? k) :
    (s.edit e).state.plan.routes.get? k = (t.edit e).state.plan.routes.get? k := by
  by_cases own : e.route? = some k
  · have written (s : PlanState) (new : RoutePlan) :
        (s.updateRoute k new).plan.routes.get? k = some new :=
      (OrderedMap.get?_insert _ k k new).trans (if_pos rfl)
    cases e with
    | setting j v source =>
      cases own
      unfold edit writeSetting
      dsimp only
      rw [← same]
      split
      · exact same
      · split
        · rw [written, written]
        · split
          · exact (written s _).trans (written t _).symm
          · exact same
    | timeouts j v =>
      cases own
      unfold edit writeTimeouts
      dsimp only
      rw [← same]
      split
      · exact same
      · rw [written, written]
    | service => cases own
    | tlsPolicy => cases own
    | notify => cases own
  · rw [get?_routes_edit_of_ne own, get?_routes_edit_of_ne own, same]

theorem get?_services_edit_congr (same : s.plan.services.get? k = t.plan.services.get? k) :
    (s.edit e).state.plan.services.get? k = (t.edit e).state.plan.services.get? k := by
  by_cases own : e.service? = some k
  · cases e with
    | service j v =>
      cases own
      unfold edit writeService
      dsimp only
      rw [OrderedMap.get?_insert, OrderedMap.get?_insert, same]
    | setting => cases own
    | timeouts => cases own
    | tlsPolicy => cases own
    | notify => cases own
  · rw [get?_services_edit_of_ne own, get?_services_edit_of_ne own, same]

theorem get?_tlsPolicies_edit_congr
    (same : s.plan.tlsPolicies.get? k = t.plan.tlsPolicies.get? k) :
    (s.edit e).state.plan.tlsPolicies.get? k = (t.edit e).state.plan.tlsPolicies.get? k := by
  by_cases own : e.policy? = some k
  · cases e with
    | tlsPolicy j p n =>
      cases own
      have taken : s.plan.tlsPolicies.contains k = t.plan.tlsPolicies.contains k :=
        congrArg Option.isSome same
      have written (m : Catalog BackendTlsPolicy) : (m.insert k p).get? k = some p :=
        (OrderedMap.get?_insert m k k p).trans (if_pos rfl)
      unfold edit addPolicy
      dsimp only
      rw [← taken]
      split
      · exact same
      · exact (written _).trans (written _).symm
    | setting => cases own
    | timeouts => cases own
    | service => cases own
    | notify => cases own
  · rw [get?_tlsPolicies_edit_of_ne own, get?_tlsPolicies_edit_of_ne own, same]

end PlanState

/-- An edit of an Ingress is of its own routes, Services and policies. -/
theorem Edit.mem_of_isFrom {i : Ingress} {routes : List ObjectKey} {e : Edit}
    (own : e.IsFrom i routes) {k : ObjectKey} (named : e.route? = some k) : k ∈ routes := by
  cases e with
  | setting j v source =>
    cases named
    exact own.1
  | timeouts j t =>
    cases named
    exact own
  | service => cases named
  | tlsPolicy => cases named
  | notify => cases named

theorem Edit.leadsTo_of_isFrom {i : Ingress} {routes : List ObjectKey} {e : Edit}
    (own : e.IsFrom i routes) {k : ObjectKey} (named : e.service? = some k) : i.LeadsTo k := by
  cases e with
  | service j v =>
    cases named
    exact own
  | setting => cases named
  | timeouts => cases named
  | tlsPolicy => cases named
  | notify => cases named

theorem Edit.policy_of_isFrom {i : Ingress} {routes : List ObjectKey} {e : Edit}
    (own : e.IsFrom i routes) {k : ObjectKey} (named : e.policy? = some k) :
    ∃ b ∈ i.backends, k = BackendTls.policyKey i b := by
  cases e with
  | tlsPolicy j p n =>
    cases named
    exact own.1
  | setting => cases named
  | timeouts => cases named
  | service => cases named
  | notify => cases named

/-! ## Lowering reads no annotations -/

/-- An Ingress with other annotations. -/
def Ingress.annotated (i : Ingress) (a : Labels) : Ingress :=
  { i with metadata := { i.metadata with annotations := a } }

namespace IngressNginx

variable {before after : List Ingress} {i : Ingress} {a : Labels}

theorem ruleGroups_annotated (same : (i.annotated a).className = i.className) :
    ruleGroups (before ++ i.annotated a :: after) = ruleGroups (before ++ i :: after) := by
  have add : GroupTable.add (i.annotated a) = GroupTable.add i := by
    funext t c
    unfold GroupTable.add GroupTable.groupFor RuleGroup.addSource
    rw [same]
    rfl
  have addIngress : ∀ t : GroupTable, t.addIngress (i.annotated a) = t.addIngress i := by
    intro t
    unfold GroupTable.addIngress
    rw [add]
    rfl
  unfold ruleGroups
  rw [List.foldl_append, List.foldl_append, List.foldl_cons, List.foldl_cons, addIngress]

theorem lower_annotated (same : (i.annotated a).className = i.className)
    (ports : Catalog PortLookup) :
    lower (before ++ i.annotated a :: after) ports = lower (before ++ i :: after) ports := by
  unfold lower
  rw [ruleGroups_annotated same]

theorem routesOf_annotated (same : (i.annotated a).className = i.className) (j : Ingress) :
    (PassContext.ofIngresses (before ++ i.annotated a :: after)).routesOf j =
      (PassContext.ofIngresses (before ++ i :: after)).routesOf j := by
  unfold PassContext.routesOf PassContext.ofIngresses
  rw [ruleGroups_annotated same]

/-! ## What comes from one Ingress -/

/-- What does not come from an Ingress is the same without it. -/
theorem filter_passes_without {α : Type} {q : α → Bool} {f : AnnotationPass → Ingress → List α}
    (own : ∀ p ∈ annotationPasses, ∀ x ∈ f p i, q x = false) :
    (annotationPasses.flatMap fun p =>
        ((before ++ i :: after).filter p.isTriggered).flatMap (f p)).filter q =
      (annotationPasses.flatMap fun p =>
        ((before ++ after).filter p.isTriggered).flatMap (f p)).filter q := by
  rw [List.filter_flatMap, List.filter_flatMap]
  apply List.flatMap_congr
  intro p listed
  have none : (f p i).filter q = [] := by
    apply List.filter_eq_nil_iff.mpr
    intro x mem
    rw [own p listed x mem]
    exact Bool.false_ne_true
  rw [List.filter_append, List.filter_append, List.flatMap_append, List.flatMap_append,
    List.filter_append, List.filter_append, List.filter_cons]
  congr 1
  split
  · rw [List.flatMap_cons, List.filter_append, none, List.nil_append]
  · rfl

theorem filter_allEdits_annotated (same : (i.annotated a).className = i.className)
    {q : Edit → Bool}
    (own : ∀ e, e.IsFrom i ((PassContext.ofIngresses (before ++ i :: after)).routesOf i) →
      q e = false) :
    (allEdits (before ++ i.annotated a :: after)).filter q =
      (allEdits (before ++ i :: after)).filter q := by
  have edits : editsOf { ingresses := before ++ i.annotated a :: after } =
      editsOf { ingresses := before ++ i :: after } := by
    funext p j
    unfold editsOf
    dsimp only
    rw [routesOf_annotated same]
  unfold allEdits
  rw [edits, filter_passes_without, filter_passes_without]
  · intro p listed e mem
    exact own e ((isConfined_of_mem_annotationPasses listed).edits i _ e mem)
  · intro p listed e mem
    -- The Ingress has its key, its backends and its routes whatever its annotations are.
    exact own e ((isConfined_of_mem_annotationPasses listed).edits (i.annotated a) _ e mem)

theorem filter_passErrors_annotated :
    (passErrors (before ++ i.annotated a :: after)).filter (·.path.owner? != some i.key) =
      (passErrors (before ++ i :: after)).filter (·.path.owner? != some i.key) := by
  have own : ∀ p ∈ annotationPasses, ∀ j : Ingress, j.key = i.key → ∀ e ∈ (p.read j).errors,
      (e.path.owner? != some i.key) = false := by
    intro p listed j named e mem
    rw [(isConfined_of_mem_annotationPasses listed).errors j e mem, named]
    exact bne_self_eq_false _
  unfold passErrors
  rw [filter_passes_without fun p listed => own p listed (i.annotated a) rfl,
    filter_passes_without fun p listed => own p listed i rfl]

/-! ## Two runs -/

/-- Two plans agree on all that an Ingress does not contribute to, and on what is said about other
Ingresses. -/
structure AgreeBeyond (i : Ingress) (o o' : PassOutcome PlanState) : Prop where
  gateways : o.state.plan.gateways = o'.state.plan.gateways
  /-- Routes that the Ingress is no source of. -/
  routes : ∀ k, (∀ r, o.state.plan.routes.get? k = some r → i.key ∉ r.sources) →
    o.state.plan.routes.get? k = o'.state.plan.routes.get? k
  /-- Services that the Ingress sends no requests to. -/
  services : ∀ k, ¬ i.LeadsTo k → o.state.plan.services.get? k = o'.state.plan.services.get? k
  /-- The policies of such Services, or that there are none. -/
  policies : ∀ k, ¬ i.LeadsTo k →
    o.state.plan.tlsPolicies.get? ⟨k.space, BackendTls.policyName k.name⟩ =
      o'.state.plan.tlsPolicies.get? ⟨k.space, BackendTls.policyName k.name⟩
  errors : o.errors.filter (·.path.owner? != some i.key) =
    o'.errors.filter (·.path.owner? != some i.key)

theorem observed_annotated {γ : Type} (observe : PlanState → γ) (seen : Edit → Bool)
    {ports : Catalog PortLookup}
    (respects : ∀ s e, seen e = false → observe (s.edit e).state = observe s)
    (consistent : ∀ s t e, observe s = observe t →
      observe (s.edit e).state = observe (t.edit e).state)
    (same : (i.annotated a).className = i.className)
    (own : ∀ e, e.IsFrom i ((PassContext.ofIngresses (before ++ i :: after)).routesOf i) →
      seen e = false)
    (complete : (planFor (before ++ i :: after) ports).stop = none)
    (complete' : (planFor (before ++ i.annotated a :: after) ports).stop = none) :
    observe (planFor (before ++ i :: after) ports).state =
      observe (planFor (before ++ i.annotated a :: after) ports).state := by
  rw [planFor_of_complete complete, planFor_of_complete complete', lower_annotated same]
  exact foldl_observed observe seen respects consistent (filter_allEdits_annotated same own).symm _

/-- Other annotations of an Ingress change only what it contributes to. -/
theorem agreeBeyond_annotated {ports : Catalog PortLookup}
    (same : (i.annotated a).className = i.className)
    (complete : (planFor (before ++ i :: after) ports).stop = none)
    (complete' : (planFor (before ++ i.annotated a :: after) ports).stop = none) :
    AgreeBeyond i (planFor (before ++ i :: after) ports)
      (planFor (before ++ i.annotated a :: after) ports) where
  gateways := by
    have kept : (lower (before ++ i.annotated a :: after) ports).1.gateways =
        (lower (before ++ i :: after) ports).1.gateways := by
      rw [lower_annotated same]
    exact (gateways_annotate _ ports).trans (kept.symm.trans (gateways_annotate _ ports).symm)
  routes := by
    intro k foreign
    have absent : k ∉ (PassContext.ofIngresses (before ++ i :: after)).routesOf i := by
      intro mem
      obtain ⟨g, kept, source⟩ := mem_routesOf_iff.mp mem
      have present : k ∈ (annotate (before ++ i :: after) ports).state.plan.routes.keys := by
        rw [keys_routes_annotate]
        exact OrderedMap.mem_keys_iff.mpr ⟨g, kept⟩
      obtain ⟨r, found⟩ := OrderedMap.mem_keys_iff.mp present
      obtain ⟨g', kept', shell⟩ := get?_routes_annotate found
      obtain rfl : g' = g := Option.some.inj (kept'.symm.trans kept)
      have sources : r.sources = g'.sources := congrArg RoutePlan.sources shell
      exact foreign r found (sources ▸ source)
    refine observed_annotated (fun s => s.plan.routes.get? k) (fun e => e.route? == some k)
      ?_ (fun _ _ _ => PlanState.get?_routes_edit_congr) same ?_ complete complete'
    · intro s e other
      exact PlanState.get?_routes_edit_of_ne (by simpa using other)
    · intro e own
      have other : e.route? ≠ some k := fun named => absent (Edit.mem_of_isFrom own named)
      simpa using other
  services := by
    intro k foreign
    refine observed_annotated (fun s => s.plan.services.get? k) (fun e => e.service? == some k)
      ?_ (fun _ _ _ => PlanState.get?_services_edit_congr) same ?_ complete complete'
    · intro s e other
      exact PlanState.get?_services_edit_of_ne (by simpa using other)
    · intro e own
      have other : e.service? ≠ some k := fun named => foreign (Edit.leadsTo_of_isFrom own named)
      simpa using other
  policies := by
    intro k foreign
    let key : ObjectKey := ⟨k.space, BackendTls.policyName k.name⟩
    refine observed_annotated (fun s => s.plan.tlsPolicies.get? key)
      (fun e => e.policy? == some key) ?_ (fun _ _ _ => PlanState.get?_tlsPolicies_edit_congr)
      same ?_ complete complete'
    · intro s e other
      exact PlanState.get?_tlsPolicies_edit_of_ne (by simpa using other)
    · intro e own
      have other : e.policy? ≠ some key := by
        intro named
        obtain ⟨b, mem, policy⟩ := Edit.policy_of_isFrom own named
        obtain ⟨space, name⟩ := ObjectKey.mk.inj policy
        exact foreign ⟨b, mem, by rw [← space, ← BackendTls.policyName_injective name]⟩
      simpa using other
  errors := by
    rw [planFor_of_complete complete, planFor_of_complete complete', lower_annotated same,
      List.filter_append, List.filter_append, filter_passErrors_annotated]

/-- The first Ingress asks for TLS towards its Service instead of a rate limit. -/
theorem agreeBeyond_limited :
    let web := Ingress.plain ⟨"shop", "web"⟩ [("a.b", "one")] []
      (.ofList [(AnnotationKey.limitRps, "5")])
    let api := Ingress.plain ⟨"shop", "api"⟩ [("c.d", "two")] []
      (.ofList [(AnnotationKey.proxyBodySize, "8m")])
    let secured : Labels := .ofList [(AnnotationKey.proxySslSecret, "shop/ca")]
    (web.annotated secured).className = web.className ∧
      (planFor [web, api] .empty).stop = none ∧
      (planFor [web.annotated secured, api] .empty).stop = none ∧
      AgreeBeyond web (planFor [web, api] .empty)
        (planFor [web.annotated secured, api] .empty) := by
  intro web api secured
  have same : (web.annotated secured).className = web.className := by decide +kernel
  have complete : (planFor [web, api] .empty).stop = none := by decide +kernel
  have complete' : (planFor [web.annotated secured, api] .empty).stop = none := by decide +kernel
  have agree : AgreeBeyond web (planFor ([] ++ web :: [api]) .empty)
      (planFor ([] ++ web.annotated secured :: [api]) .empty) :=
    agreeBeyond_annotated same complete complete'
  exact ⟨same, complete, complete', agree⟩

end IngressNginx

end GatewayMigration
