import GatewayMigration.Proofs.Annotations.Aspects
import GatewayMigration.Proofs.Annotations.Edits
/-!
# Who decides about a setting

Main statements:

* `setting?_edits`: a field of a route has the value that was written last;
* `fields_sound`: each pass writes only the fields that `passFields` lists for it;
* `flatMap_writes`: so a field of a route is decided by the Ingresses of one pass;
* `filterMap_allEdits`: and so is every other aspect of the plan.
-/

namespace GatewayMigration

/-- What an edit writes into a field of a route. -/
def Edit.written? (k : ObjectKey) (f : RouteField) : Edit → Option Setting
  | .setting j v _ => if j = k ∧ v.field = f then some v else none
  | _ => none

theorem Edit.written?_setting (j k : ObjectKey) (v : Setting) (source : ObjectKey)
    (f : RouteField) :
    (Edit.setting j v source).written? k f = if j = k ∧ v.field = f then some v else none := rfl

theorem Edit.written?_settings (j k : ObjectKey) (f : RouteField) (vs : List Setting)
    (source : ObjectKey) :
    (vs.map fun v => Edit.setting j v source).filterMap (·.written? k f) =
      if j = k then vs.filter (·.field = f) else [] := by
  induction vs with
  | nil => simp
  | cons v vs ih =>
    rw [List.map_cons, List.filterMap_cons, ih, written?_setting]
    by_cases same : j = k
    · by_cases field : v.field = f
      · simp [same, field]
      · simp [same, field]
    · simp [same]

/-- Values for several routes are written once for each of them. -/
theorem Edit.written?_flatMap_settings {routes : List ObjectKey} (distinct : routes.Nodup)
    (k : ObjectKey) (f : RouteField) (vs : List Setting) (source : ObjectKey) :
    (routes.flatMap fun j => vs.map fun v => Edit.setting j v source).filterMap (·.written? k f) =
      if k ∈ routes then vs.filter (·.field = f) else [] := by
  induction routes with
  | nil => rfl
  | cons j routes ih =>
    obtain ⟨fresh, others⟩ := List.nodup_cons.mp distinct
    rw [List.flatMap_cons, List.filterMap_append, written?_settings, ih others]
    by_cases same : j = k
    · subst same
      rw [if_pos rfl, if_neg fresh, if_pos (.head _), List.append_nil]
    · have other : k ∈ j :: routes ↔ k ∈ routes := by
        rw [List.mem_cons, or_iff_right fun here => same here.symm]
      rw [if_neg same, List.nil_append]
      simp only [other]

theorem PassContext.nodup_routesOf (c : PassContext) (i : Ingress) : (c.routesOf i).Nodup := by
  have sub : (c.routesOf i).Sublist c.groups.keys := by
    unfold routesOf OrderedMap.keys
    induction c.groups.toList with
    | nil => exact .slnil
    | cons e es ih =>
      rw [List.filterMap_cons, List.map_cons]
      by_cases source : i.key ∈ e.2.sources
      · rw [if_pos source]
        exact ih.cons_cons _
      · rw [if_neg source]
        exact ih.cons _
  exact c.groups.keys_nodup.sublist sub

/-! ## Edits one after the other -/

/-- The settings of a route, once an annotation gave one. -/
def Plan.settings? (p : Plan) (k : ObjectKey) : Option RouteSettings :=
  (p.routes.get? k).bind (·.settings)

theorem Plan.exists_settings_iff {p : Plan} {k : ObjectKey} {holds : RouteSettings → Prop} :
    (∃ s, p.settings? k = some s ∧ holds s) ↔
      ∃ r s, p.routes.get? k = some r ∧ r.settings = some s ∧ holds s := by
  simp only [settings?, Option.bind_eq_some_iff]
  constructor
  · rintro ⟨s, ⟨r, there, given⟩, held⟩
    exact ⟨r, s, there, given, held⟩
  · rintro ⟨r, s, there, given, held⟩
    exact ⟨s, ⟨r, there, given⟩, held⟩

namespace PlanState

def setting? (s : PlanState) (k : ObjectKey) (f : RouteField) : Option Setting :=
  (s.plan.routes.get? k).bind fun r => r.currentSettings.get f

theorem setting?_eq_bind (s : PlanState) (k : ObjectKey) (f : RouteField) :
    s.setting? k f = (s.plan.settings? k).bind (·.get f) := by
  unfold setting? Plan.settings? RoutePlan.currentSettings
  rw [Option.bind_assoc]
  congr 1
  funext r
  cases r.settings with
  | none => cases f <;> rfl
  | some t => rfl

def HasRoute (s : PlanState) (k : ObjectKey) : Prop := k ∈ s.plan.routes.keys

theorem hasRoute_edit_iff {s : PlanState} {e : Edit} {k : ObjectKey} :
    (s.edit e).state.HasRoute k ↔ s.HasRoute k := by
  have keys : (s.edit e).state.plan.routes.keys = s.plan.routes.keys :=
    congrArg PlanOutline.routeKeys (outline_edit s e)
  rw [HasRoute, keys, HasRoute]

theorem hasRoute_of_setting? {s : PlanState} {k : ObjectKey} {f : RouteField} {v : Setting}
    (found : s.setting? k f = some v) : s.HasRoute k := by
  obtain ⟨r, there, -⟩ := Option.bind_eq_some_iff.mp found
  exact OrderedMap.mem_keys_iff.mpr ⟨r, there⟩

theorem setting?_updateRoute (s : PlanState) (j k : ObjectKey) (r : RoutePlan) (f : RouteField) :
    (s.updateRoute j r).setting? k f =
      if j = k then r.currentSettings.get f else s.setting? k f := by
  unfold setting? updateRoute
  dsimp only
  rw [OrderedMap.get?_insert]
  split
  · rfl
  · rfl

theorem setting?_writeSetting {s : PlanState} {j k : ObjectKey} {v : Setting} {source : ObjectKey}
    (complete : (s.writeSetting j v source).stop = none) (present : s.HasRoute k)
    (f : RouteField) :
    (s.writeSetting j v source).state.setting? k f =
      ((Edit.setting j v source).written? k f).or (s.setting? k f) := by
  rw [Edit.written?_setting]
  cases there : s.plan.routes.get? j with
  | none =>
    have other : j ≠ k := by
      rintro rfl
      obtain ⟨r, found⟩ := OrderedMap.mem_keys_iff.mp present
      cases there.symm.trans found
    rw [if_neg (fun both => other both.1), Option.none_or]
    unfold writeSetting
    rw [there]
  | some r =>
    let new : RoutePlan := { r with settings := some (r.currentSettings.write v) }
    have written : (s.updateRoute j new).setting? k f =
        (if j = k ∧ v.field = f then some v else none).or (s.setting? k f) := by
      rw [setting?_updateRoute]
      by_cases same : j = k
      · subst same
        rw [if_pos rfl, setting?, there, Option.bind_some]
        by_cases field : v.field = f
        · subst field
          rw [if_pos ⟨rfl, rfl⟩, Option.some_or]
          exact RouteSettings.get_write _ v
        · rw [if_neg (fun both => field both.2), Option.none_or]
          exact RouteSettings.get_write_other _ field
      · rw [if_neg same, if_neg (fun both => same both.1), Option.none_or]
    unfold writeSetting at complete ⊢
    rw [there] at complete ⊢
    dsimp only at complete ⊢
    split
    · exact written
    · split
      · exact written
      · rename_i conflict _ unshown
        rw [conflict] at complete
        dsimp only at complete
        rw [unshown] at complete
        cases complete

theorem setting?_edit {s : PlanState} {e : Edit} (complete : (s.edit e).stop = none)
    {k : ObjectKey} (present : s.HasRoute k) (f : RouteField) :
    (s.edit e).state.setting? k f = (e.written? k f).or (s.setting? k f) := by
  cases e with
  | setting j v source => exact setting?_writeSetting complete present f
  | timeouts j t =>
    unfold edit writeTimeouts
    dsimp only
    split
    · rfl
    · rename_i r there
      have spared : (Edit.timeouts j t).written? k f = none := rfl
      rw [setting?_updateRoute, spared, Option.none_or]
      split
      · rename_i same
        rw [setting?, ← same, there]
        rfl
      · rfl
  | service j v => rfl
  | tlsPolicy j p n =>
    unfold edit addPolicy
    dsimp only
    split
    · rfl
    · rfl
  | notify n => rfl

theorem setting?_edits {s : PlanState} {es : List Edit}
    (complete : (Progress.each edit s es).stop = none) {k : ObjectKey} (present : s.HasRoute k)
    (f : RouteField) :
    (Progress.each edit s es).state.setting? k f =
      ((es.filterMap (·.written? k f)).getLast?).or (s.setting? k f) := by
  induction es generalizing s with
  | nil => rfl
  | cons e es ih =>
    obtain ⟨first, rest⟩ := Progress.each_completes_cons.mp complete
    -- What the other edits write goes before what this one writes.
    rw [Progress.each_cons, Progress.andThen_complete _ first,
      ih rest (hasRoute_edit_iff.mpr present), setting?_edit first present]
    cases wrote : e.written? k f with
    | none => rw [List.filterMap_cons_none wrote, Option.none_or]
    | some v =>
      rw [List.filterMap_cons_some wrote, Option.some_or, List.getLast?_cons]
      cases (es.filterMap (·.written? k f)).getLast? <;> rfl

end PlanState

/-! ## The fields of a pass -/

def Aspect.field? : Aspect → Option RouteField
  | .field f => some f
  | _ => none

namespace AnnotationPass

/-- The edits of a pass write no other fields than these. -/
def WritesOnly (p : AnnotationPass) (fs : List RouteField) : Prop :=
  ∀ i routes present, ∀ e ∈ (p.read i).edits routes present,
    ∀ k v source, e = .setting k v source → v.field ∈ fs

theorem TouchesOnly.writesOnly {p : AnnotationPass} {as : List Aspect} (only : p.TouchesOnly as) :
    p.WritesOnly (as.filterMap Aspect.field?) := by
  rintro i routes present e mem k v source rfl
  exact List.mem_filterMap.mpr ⟨.field v.field, only i _ _ _ mem _ rfl, rfl⟩

theorem isTriggered_of_annotation? {p : AnnotationPass} {i : Ingress} {key raw : String}
    (own : key ∈ p.triggers) (there : i.annotation? key = some raw) : p.isTriggered i = true :=
  List.any_eq_true.mpr ⟨key, own, OrderedMap.contains_of_get? there⟩

theorem isTriggered_of_given? {p : AnnotationPass} {i : Ingress} {key value : String}
    (own : key ∈ p.triggers) (given : i.given? key = some value) : p.isTriggered i = true := by
  obtain ⟨trimmed, -⟩ := Option.filter_eq_some_iff.mp given
  obtain ⟨raw, there, -⟩ := Option.map_eq_some_iff.mp trimmed
  exact isTriggered_of_annotation? own there

end AnnotationPass

/-- The passes with the fields that they write. -/
def passFields : List (AnnotationPass × List RouteField) :=
  [(Blockers.pass, []), (BackendTls.pass, []), (Timeouts.pass, []),
   (SslRedirect.pass, [.sslRedirect]),
   (RateLimit.pass, [.requestRate, .burst, .connections]),
   (ProxySettings.pass, [.bodySize, .buffering, .requestBuffering]),
   (ClientCert.pass, [.clientCert]), (ExternalAuthorization.pass, [.externalAuth]),
   (FilterNotice.pass, [])]

/-- The fields of a pass are those among its aspects. -/
theorem passFields_eq :
    passFields = passAspects.map fun e => (e.1, e.2.filterMap Aspect.field?) := rfl

theorem passes_passFields : passFields.map Prod.fst = annotationPasses := rfl

theorem fields_sound : ∀ e ∈ passFields, e.1.WritesOnly e.2 := by
  intro e mem
  rw [passFields_eq] at mem
  obtain ⟨⟨p, as⟩, listed, rfl⟩ := List.mem_map.mp mem
  exact (aspects_sound _ listed).writesOnly

/-- No field is written by two passes. -/
theorem fields_disjoint : (passFields.flatMap Prod.snd).Nodup := by decide

/-! ## The settings of a plan -/

namespace IngressNginx

/-- What the Ingresses write into a field of a route in one pass, one after the other. -/
def writes (s : Sources) (k : ObjectKey) (f : RouteField) (p : AnnotationPass) : List Setting :=
  ((s.ingresses.filter p.isTriggered).flatMap (editsOf s p)).filterMap (·.written? k f)

theorem writes_eq_nil {s : Sources} {k : ObjectKey} {f : RouteField} {p : AnnotationPass}
    {fs : List RouteField} (only : p.WritesOnly fs) (other : f ∉ fs) : writes s k f p = [] := by
  apply List.filterMap_eq_nil_iff.mpr
  intro e mem
  obtain ⟨i, -, asked⟩ := List.mem_flatMap.mp mem
  cases e with
  | setting j v source =>
    rw [Edit.written?_setting, if_neg]
    rintro ⟨-, rfl⟩
    exact other (only i _ _ _ asked j v source rfl)
  | timeouts => rfl
  | service => rfl
  | tlsPolicy => rfl
  | notify => rfl

/-- What the Ingresses of a route give, one after the other. -/
def givenFor {α : Type} (is : List Ingress) (k : ObjectKey) (value : Ingress → Option α) : List α :=
  is.filterMap fun i => if k ∈ (PassContext.ofIngresses is).routesOf i then value i else none

/-- If every Ingress writes at most one value for each of its routes, the writes are these values in
the order of the Ingresses. -/
theorem writes_eq_map_givenFor {s : Sources} {k : ObjectKey} {f : RouteField} {p : AnnotationPass}
    {α : Type} {value : Ingress → Option α} {setting : α → Setting}
    (triggers : ∀ i a, value i = some a → p.isTriggered i = true)
    (one : ∀ (i : Ingress) (routes : List ObjectKey), routes.Nodup →
      ((p.read i).edits routes routes).filterMap (·.written? k f) =
        (if k ∈ routes then (value i).map setting else none).toList) :
    writes s k f p = (givenFor s.ingresses k value).map setting := by
  have written : ∀ i, (editsOf s p i).filterMap (·.written? k f) =
      (if k ∈ (PassContext.ofIngresses s.ingresses).routesOf i then
        (value i).map setting else none).toList :=
    fun i => one i _ (PassContext.nodup_routesOf _ i)
  have all : ∀ is : List Ingress,
      (is.filter p.isTriggered).flatMap (fun i =>
        (editsOf s p i).filterMap (·.written? k f)) =
      (is.filterMap fun i => if k ∈ (PassContext.ofIngresses s.ingresses).routesOf i then
        value i else none).map setting := by
    intro is
    induction is with
    | nil => rfl
    | cons i is ih =>
      cases given : value i with
      | none =>
        -- The pass may or may not look at such an Ingress, which writes nothing.
        have nothing : (editsOf s p i).filterMap (·.written? k f) = [] := by
          rw [written, given]
          split <;> rfl
        rw [List.filterMap_cons_none (by rw [given]; split <;> rfl), ← ih, List.filter_cons]
        split
        · rw [List.flatMap_cons, nothing, List.nil_append]
        · rfl
      | some a =>
        rw [List.filter_cons, if_pos (triggers i a given), List.flatMap_cons, ih, written, given,
          List.filterMap_cons, given]
        split
        · rfl
        · rfl
  unfold writes
  rw [List.filterMap_flatMap]
  exact all s.ingresses

theorem flatMap_writes {s : Sources} {k : ObjectKey} {f : RouteField} {p : AnnotationPass}
    {fs : List RouteField} (listed : (p, fs) ∈ passFields) (own : f ∈ fs) :
    annotationPasses.flatMap (writes s k f) = writes s k f p := by
  rw [← passes_passFields]
  exact flatMap_of_owner fields_disjoint listed own fun e there other =>
    writes_eq_nil (fields_sound e there) other

/-- What edits say about an aspect of the plan is said by those of one pass. -/
theorem filterMap_allEdits {p : AnnotationPass} {as : List Aspect} {a : Aspect}
    (listed : (p, as) ∈ passAspects) (own : a ∈ as) {β : Type} {f : Edit → Option β}
    (touches : ∀ e b, f e = some b → e.Touches a) (is : List Ingress) :
    (allEdits is).filterMap f =
      is.flatMap fun i =>
        if p.isTriggered i then (editsOf { ingresses := is } p i).filterMap f else [] := by
  have passes : annotationPasses = passAspects.map Prod.fst := rfl
  unfold allEdits
  rw [List.filterMap_flatMap, passes, flatMap_of_owner aspects_disjoint listed own,
    List.filterMap_flatMap, flatMap_filter]
  intro e there other
  apply List.filterMap_eq_nil_iff.mpr
  intro d mem
  obtain ⟨i, -, asked⟩ := List.mem_flatMap.mp mem
  cases said : f d with
  | none => rfl
  | some b => exact absurd (aspects_sound e there i _ _ d asked a (touches d b said)) other

theorem setting?_lower (is : List Ingress) (ports : Catalog PortLookup) (k : ObjectKey)
    (f : RouteField) : PlanState.setting? { plan := (lower is ports).1 } k f = none := by
  unfold PlanState.setting?
  cases found : (lower is ports).1.routes.get? k with
  | none => rfl
  | some r =>
    obtain ⟨g, -, rfl⟩ := get?_routes_lower_iff.mp found
    cases f <;> rfl

end IngressNginx

end GatewayMigration
