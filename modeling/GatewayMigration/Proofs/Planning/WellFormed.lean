import GatewayMigration.Proofs.Annotations.BodySize
import GatewayMigration.Proofs.Planning.Burst
import GatewayMigration.Proofs.Planning.Services
/-!
# Plans stay well-formed

Nothing checks the values that passes write into a plan. What the schema of plans asks for holds all
the same, because every pass writes only such values. Main statements:

* `Ingress.Gives.wellFormed`: whatever an Ingress gives its routes is a value of the right kind;
* `writesWell_of_mem`: so every edit that some pass asks for writes such values;
* `PlanState.wellFormed_edit`: an edit of this kind keeps a plan well-formed;
* `wellFormed_planFor`: so all plans are well-formed.
-/

namespace GatewayMigration

/-! ## Values of the right kind -/

/-- A value that the schema allows: limits of requests are positive, other numbers are not negative,
no secret, URL or method is empty, and redirects are only ever turned on. -/
def Setting.WellFormed : Setting → Prop
  | .sslRedirect on => on = true
  | .requestRate n | .burst n => 1 ≤ n
  | .connections n => 0 ≤ n
  | .bodySize b => 0 ≤ b.bytes
  | .buffering _ | .requestBuffering _ => True
  | .clientCert c => c.secret ≠ "" ∧ 0 ≤ c.verifyDepth
  | .externalAuth a => a.url ≠ "" ∧ a.method ≠ ""

/-- Some field is set, and all that are set have values of the right kind. -/
def RouteSettings.WellFormed (s : RouteSettings) : Prop :=
  (∃ f v, s.get f = some v) ∧ ∀ f v, s.get f = some v → v.WellFormed

/-- A positive number of seconds. -/
def IsSecondsText (text : String) : Prop := ∃ n : Int, 0 < n ∧ text = toString n ++ "s"

namespace RouteTimeouts

/-- One of the two timeouts. -/
def Has (t : RouteTimeouts) (text : String) : Prop :=
  t.request = some text ∨ t.backendRequest = some text

def WellFormed (t : RouteTimeouts) : Prop :=
  (∃ text, t.Has text) ∧ ∀ text, t.Has text → IsSecondsText text

end RouteTimeouts

def ServiceSettings.WellFormed (s : ServiceSettings) : Prop :=
  ∀ a, s.loadBalancing = some a → a = "round_robin" ∨ a = "ewma"

structure RoutePlan.WellFormed (r : RoutePlan) : Prop where
  settings : ∀ s, r.settings = some s → s.WellFormed
  timeouts : ∀ rule ∈ r.route.spec.rules, ∀ t, rule.timeouts = some t → t.WellFormed

structure Plan.WellFormed (p : Plan) : Prop where
  routes : ∀ k r, p.routes.get? k = some r → r.WellFormed
  services : ∀ k s, p.serviceSettings? k = some s → s.WellFormed

/-- An edit that writes values of the right kind. -/
def Edit.WellFormed : Edit → Prop
  | .setting _ v _ => v.WellFormed
  | .timeouts _ t => t.WellFormed
  | .service _ s => s.WellFormed
  | .tlsPolicy _ _ _ | .notify _ => True

/-! ## Single edits -/

theorem RouteSettings.wellFormed_write {s : RouteSettings} {v : Setting}
    (old : ∀ f w, s.get f = some w → w.WellFormed) (new : v.WellFormed) :
    (s.write v).WellFormed := by
  refine ⟨⟨v.field, v, get_write s v⟩, fun f w found => ?_⟩
  rw [get_write_eq] at found
  split at found
  · cases found
    exact new
  · exact old f w found

namespace RouteTimeouts

theorem has_overlay {old new : RouteTimeouts} {text : String}
    (has : (old.overlay new).Has text) : new.Has text ∨ old.Has text := by
  unfold Has overlay at has
  simp only [orElse_eq_or, Option.or_eq_some_iff] at has
  rcases has with (request | ⟨-, request⟩) | (backend | ⟨-, backend⟩)
  · exact .inl (.inl request)
  · exact .inr (.inl request)
  · exact .inl (.inr backend)
  · exact .inr (.inr backend)

theorem Has.overlay {new : RouteTimeouts} {text : String} (has : new.Has text)
    (old : RouteTimeouts) : (old.overlay new).Has text := by
  unfold Has RouteTimeouts.overlay
  simp only [orElse_eq_or]
  rcases has with request | backend
  · exact .inl (by rw [request, Option.some_or])
  · exact .inr (by rw [backend, Option.some_or])

theorem wellFormed_overlay {old new : RouteTimeouts}
    (kept : ∀ text, old.Has text → IsSecondsText text) (wf : new.WellFormed) :
    (old.overlay new).WellFormed := by
  obtain ⟨⟨text, has⟩, all⟩ := wf
  refine ⟨⟨text, has.overlay old⟩, fun text has => ?_⟩
  rcases has_overlay has with new | old
  · exact all text new
  · exact kept text old

end RouteTimeouts

theorem ServiceSettings.wellFormed_overlay {old new : ServiceSettings} (kept : old.WellFormed)
    (wf : new.WellFormed) : (old.overlay new).WellFormed := by
  intro a given
  unfold overlay at given
  dsimp only at given
  rw [orElse_eq_or, Option.or_eq_some_iff] at given
  rcases given with new | ⟨-, old⟩
  · exact wf a new
  · exact kept a old

namespace Edit

variable {e : Edit}

theorem wellFormed_onRoute (wf : e.WellFormed) {r : RoutePlan} (kept : r.WellFormed)
    (k : ObjectKey) : (e.onRoute k r).WellFormed := by
  rcases e.onRoute_cases k r with same | ⟨v, source, rfl, made⟩ | ⟨t, rfl, made⟩
  · rw [same]
    exact kept
  · rw [made]
    refine ⟨fun s given => ?_, kept.timeouts⟩
    cases given
    refine RouteSettings.wellFormed_write (fun f w found => ?_) wf
    unfold RoutePlan.currentSettings at found
    cases given : r.settings with
    | none =>
      rw [given] at found
      cases f <;> cases found
    | some s =>
      rw [given] at found
      exact (kept.settings s given).2 f w found
  · rw [made]
    refine ⟨kept.settings, fun rule mem u given => ?_⟩
    obtain ⟨old, listed, rfl⟩ := List.mem_map.mp mem
    cases given
    refine RouteTimeouts.wellFormed_overlay (fun text has => ?_) wf
    cases before : old.timeouts with
    | none =>
      rw [before] at has
      rcases has with request | backend
      · cases request
      · cases backend
    | some u =>
      rw [before] at has
      exact (kept.timeouts old listed u before).2 text has

theorem wellFormed_onService (wf : e.WellFormed) {p : Option ServicePlan}
    (kept : ∀ s, p.bind (·.settings) = some s → s.WellFormed) {k : ObjectKey}
    {s : ServiceSettings} (found : (e.onService k p).bind (·.settings) = some s) :
    s.WellFormed := by
  cases e with
  | service j v =>
    unfold onService at found
    dsimp only at found
    split at found
    · cases found
      refine ServiceSettings.wellFormed_overlay ?_ wf
      cases p with
      | none => exact nofun
      | some old =>
        cases given : old.settings with
        | none => simpa [given] using nofun
        | some t => simpa [given] using kept t given
    · exact kept s found
  | _ => exact kept s found

end Edit

/-- An edit that writes values of the right kind keeps a plan well-formed, whether it is made or
interrupted. -/
theorem PlanState.wellFormed_edit {s : PlanState} {e : Edit} (wf : e.WellFormed)
    (kept : s.plan.WellFormed) : (s.edit e).state.plan.WellFormed := by
  rcases s.edit_cases e with made | same
  · rw [made]
    refine ⟨fun k r found => ?_, fun k v found => ?_⟩
    · obtain ⟨old, there, rfl⟩ := Option.map_eq_some_iff.mp
        ((OrderedMap.get?_mapValues _ s.plan.routes k).symm.trans found)
      exact Edit.wellFormed_onRoute wf (kept.routes k old there) k
    · unfold Plan.serviceSettings? after at found
      rw [Edit.get?_onServices] at found
      exact Edit.wellFormed_onService wf (kept.services k) found
  · rw [same]
    exact kept

/-! ## Texts and numbers -/

theorem normalMethod_ne_empty (s : String) : normalMethod s ≠ "" := by
  unfold normalMethod
  split
  · decide
  · rename_i filled
    exact Text.upper_ne_empty (by simpa using filled)

theorem ClientCert.depth_nonneg (i : Ingress) : 0 ≤ (depth i).1 := by
  have standard : 0 ≤ defaultDepth := by decide
  unfold depth
  split
  · exact standard
  · split
    · rename_i n kept
      exact of_decide_eq_true (Option.filter_eq_some_iff.mp kept).2
    · exact standard

/-! ## What Ingresses ask for -/

/-- Whatever an Ingress gives its routes is a value of the right kind. -/
theorem Ingress.Gives.wellFormed {i : Ingress} {v : Setting} (gives : i.Gives v) :
    v.WellFormed := by
  cases gives with
  | sslRedirect => rfl
  | requestRate sound rate => exact rate.pos
  | burst sound rate multiplier => exact (Gives.burst sound rate multiplier).burst_pos
  | connections sound given =>
    obtain ⟨raw, -, -, least⟩ := given
    exact least
  | bodySize given size => exact (ProxySettings.standsFor_of_parseBodySize size).nonneg
  | buffering => trivial
  | requestBuffering => trivial
  | clientCert given => exact ⟨ne_empty_of_given? given, ClientCert.depth_nonneg i⟩
  | externalAuth given => exact ⟨ne_empty_of_given? given, normalMethod_ne_empty _⟩

namespace Timeouts

theorem isSecondsText_of_positive? {n : Int} {text : String} (given : positive? n = some text) :
    IsSecondsText text := by
  unfold positive? at given
  split at given
  · rename_i positive
    cases given
    exact ⟨n, positive, rfl⟩
  · cases given

theorem wellFormed_timeouts {i : Ingress} (some : timeouts i ≠ {}) :
    (timeouts i).WellFormed := by
  constructor
  · by_contra nothing
    have request : (timeouts i).request = none :=
      Option.eq_none_iff_forall_ne_some.mpr fun text given => nothing ⟨text, .inl given⟩
    have backend : (timeouts i).backendRequest = none :=
      Option.eq_none_iff_forall_ne_some.mpr fun text given => nothing ⟨text, .inr given⟩
    cases made : timeouts i with
    | mk r b =>
      rw [made] at request backend
      cases request
      cases backend
      exact some made
  · rintro text (request | backend)
    · exact isSecondsText_of_positive? request
    · exact isSecondsText_of_positive? backend

end Timeouts

namespace Edit

variable {i : Ingress} {e : Edit}

theorem wellFormed_of_mem_settings {routes : List ObjectKey} {vs : List Setting}
    (gives : ∀ v ∈ vs, i.Gives v)
    (mem : e ∈ routes.flatMap fun k => vs.map fun v => .setting k v i.key) : e.WellFormed := by
  obtain ⟨k, -, inside⟩ := List.mem_flatMap.mp mem
  obtain ⟨v, listed, rfl⟩ := List.mem_map.mp inside
  exact (gives v listed).wellFormed

end Edit

/-- The edits of the pass write values of the right kind. -/
def AnnotationPass.WritesWell (p : AnnotationPass) : Prop :=
  ∀ i routes present, ∀ e ∈ (p.read i).edits routes present, e.WellFormed

theorem Blockers.writesWell : pass.WritesWell := by
  intro i routes present e mem
  obtain ⟨n, -, rfl⟩ := List.mem_map.mp mem
  trivial

theorem BackendTls.writesWell : pass.WritesWell := by
  intro i routes present e mem
  dsimp only [pass, reading] at mem
  split at mem
  · rcases List.mem_append.mp mem with service | policy
    · obtain ⟨b, -, rfl⟩ := List.mem_map.mp service
      exact nofun
    · split at policy
      · obtain ⟨b, -, rfl⟩ := List.mem_map.mp policy
        trivial
      · cases policy
  · cases mem

theorem Timeouts.writesWell : pass.WritesWell := by
  intro i routes present e mem
  dsimp only [pass, edits] at mem
  split at mem
  · rename_i asked
    obtain ⟨k, -, rfl⟩ := List.mem_map.mp mem
    exact wellFormed_timeouts (bne_iff_ne.mp (Bool.and_eq_true_iff.mp asked).2)
  · cases mem

theorem SslRedirect.writesWell : pass.WritesWell := by
  intro i routes present e mem
  dsimp only [pass, edits] at mem
  split at mem
  · obtain ⟨k, -, inside⟩ := List.mem_flatMap.mp mem
    rcases List.mem_cons.mp inside with rfl | notice
    · rfl
    · cases List.mem_singleton.mp notice
      trivial
  · cases mem

theorem RateLimit.writesWell : pass.WritesWell := by
  intro i routes present e mem
  dsimp only [pass, reading] at mem
  split at mem
  · cases mem
  · rename_i r found
    dsimp only at mem
    split at mem
    · rename_i fine
      have offered : settings i r = given i := by
        unfold given
        rw [found]
        exact (if_pos fine).symm
      exact Edit.wellFormed_of_mem_settings
        (fun v listed => gives_of_mem ⟨r, found⟩ (offered ▸ listed)) mem
    · cases mem

theorem ProxySettings.writesWell : pass.WritesWell := by
  intro i routes present e mem
  rcases List.mem_append.mp mem with setting | service
  · exact Edit.wellFormed_of_mem_settings (fun v listed => gives_of_mem listed) setting
  · split at service
    · rename_i a balanced
      obtain ⟨b, -, rfl⟩ := List.mem_map.mp service
      have known : a ∈ algorithms := by
        unfold algorithm at balanced
        split at balanced
        · cases balanced
        · split at balanced
          · rename_i listed
            cases balanced
            exact List.contains_iff_mem.mp listed
          · cases balanced
      intro other same
      cases same
      simpa [algorithms] using known
    · cases service

theorem ClientCert.writesWell : pass.WritesWell := by
  intro i routes present e mem
  dsimp only [pass, edits] at mem
  split at mem
  · rename_i c parsed
    obtain ⟨k, -, rfl⟩ := List.mem_map.mp mem
    rw [value_parse] at parsed
    obtain ⟨secret, given, rfl⟩ := Option.map_eq_some_iff.mp parsed
    exact (Ingress.Gives.clientCert given).wellFormed
  · cases mem

theorem ExternalAuthorization.writesWell : pass.WritesWell := by
  intro i routes present e mem
  dsimp only [pass, edits] at mem
  split at mem
  · rename_i a parsed
    obtain ⟨k, -, rfl⟩ := List.mem_map.mp mem
    rw [value_parse] at parsed
    obtain ⟨url, given, rfl⟩ := Option.map_eq_some_iff.mp parsed
    exact (Ingress.Gives.externalAuth given).wellFormed
  · cases mem

theorem FilterNotice.writesWell : pass.WritesWell := by
  intro i routes present e mem
  dsimp only [pass, edits] at mem
  split at mem
  · cases mem
  · cases List.mem_singleton.mp mem
    trivial

theorem writesWell_of_mem {p : AnnotationPass} (passed : p ∈ annotationPasses) :
    p.WritesWell := by
  simp only [annotationPasses, List.mem_cons, List.not_mem_nil, or_false] at passed
  rcases passed with rfl | rfl | rfl | rfl | rfl | rfl | rfl | rfl | rfl
  · exact Blockers.writesWell
  · exact BackendTls.writesWell
  · exact Timeouts.writesWell
  · exact SslRedirect.writesWell
  · exact RateLimit.writesWell
  · exact ProxySettings.writesWell
  · exact ClientCert.writesWell
  · exact ExternalAuthorization.writesWell
  · exact FilterNotice.writesWell

/-! ## All plans -/

namespace IngressNginx

/-- Lowering writes no settings and no timeouts. -/
theorem wellFormed_lower (is : List Ingress) (ports : Catalog PortLookup) :
    (lower is ports).1.WellFormed := by
  refine ⟨fun k r found => ?_, fun k s found => ?_⟩
  · obtain ⟨g, -, rfl⟩ := get?_routes_lower_iff.mp found
    have unset : (routePlanFor ports g).settings = none := rfl
    refine ⟨fun s given => ?_, fun rule mem t timed => ?_⟩
    · cases unset.symm.trans given
    · obtain ⟨p, -, port, -, rfl⟩ := mem_groupRules_iff.mp mem
      cases timed
  · cases (serviceSettings?_lower is ports k).symm.trans found

/-- However many Ingresses there are and whatever their annotations say, every setting of the plan
is one that the schema allows, also if planning is interrupted. -/
theorem wellFormed_planFor (is : List Ingress) (ports : Catalog PortLookup) :
    (planFor is ports).state.plan.WellFormed := by
  have keeps : ∀ (s : PlanState) e, IsAsked (.ofIngresses is) e → s.plan.WellFormed →
      (s.edit e).state.plan.WellFormed := by
    rintro s e ⟨p, passed, i, -, routes, present, mem⟩ kept
    exact PlanState.wellFormed_edit (writesWell_of_mem passed i routes present e mem) kept
  exact @run_maintains (fun s => s.plan.WellFormed) _ { plan := (lower is ports).1 } keeps
    (wellFormed_lower is ports)

end IngressNginx

end GatewayMigration
