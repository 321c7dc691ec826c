import GatewayMigration.Proofs.Annotations.Repetition
import GatewayMigration.Proofs.Annotations.Values
/-!
# Timeouts of routes

The Ingresses of a route write its two timeouts one after the other, into all of its rules. Each of
the two has a last writer of its own: an Ingress without a limit for it, or with a timeout that is
not understood, leaves it as it is. Main statements:

* `Timeouts.reads_iff`: what the three annotations of an Ingress say, if nothing is wrong with them;
* `RoutePlan.foldl_onRoute_timeouts`: timeouts for several routes reach each of them once;
* `Timeouts.foldl_asks`: so the rules of a route have what its Ingresses want, one over the other;
* `Timeouts.timeouts_decided`: which is what the last Ingress with a limit says, for each timeout.
-/

namespace GatewayMigration

/-! ## What an Ingress says -/

/-- What a timeout annotation says, in seconds. One that is absent or blank says zero. -/
def Ingress.HoldsSeconds (i : Ingress) (key : String) (n : Int) : Prop :=
  i.HoldsInteger 0 key n ∨ i.given? key = none ∧ n = 0

theorem Ingress.holdsSeconds_iff {i : Ingress} {key : String} {n : Int} :
    i.HoldsSeconds key n ↔
      (i.integerFrom 0 key).errors = [] ∧ (i.integerFrom 0 key).value.getD 0 = n := by
  rw [errors_integerFrom_eq_nil_iff]
  unfold HoldsSeconds IsMalformed
  cases value : (i.integerFrom 0 key).value with
  | some m =>
    have held := value_integerFrom_iff.mp value
    have only : ∀ n, i.HoldsInteger 0 key n → m = n := fun n other =>
      Option.some.inj (value.symm.trans (value_integerFrom_iff.mpr other))
    obtain ⟨raw, given, -⟩ := id held
    rw [given]
    constructor
    · rintro (other | absent)
      · exact ⟨fun malformed => malformed.2 m held, only n other⟩
      · cases absent.1
    · rintro ⟨-, same⟩
      exact .inl ((show m = n from same) ▸ held)
  | none =>
    have nothing : ∀ n, ¬ i.HoldsInteger 0 key n := fun n other =>
      nomatch value.symm.trans (value_integerFrom_iff.mpr other)
    constructor
    · rintro (other | ⟨absent, rfl⟩)
      · exact absurd other (nothing n)
      · rw [absent]
        exact ⟨fun malformed => (nomatch malformed.1), rfl⟩
    · rintro ⟨fine, rfl⟩
      have absent : i.given? key = none :=
        Option.not_isSome_iff_eq_none.mp fun given => fine ⟨given, nothing⟩
      exact .inr ⟨absent, rfl⟩

namespace Timeouts

variable {i : Ingress}

/-- The three timeouts of an Ingress. Nothing is wrong with any of them. -/
structure Reads (i : Ingress) (connect receive send : Int) : Prop where
  connect : i.HoldsSeconds AnnotationKey.proxyConnectTimeout connect
  receive : i.HoldsSeconds AnnotationKey.proxyReadTimeout receive
  send : i.HoldsSeconds AnnotationKey.proxySendTimeout send

theorem reads_iff {c r s : Int} :
    Reads i c r s ↔ errors i = [] ∧ (connect i).value.getD 0 = c ∧
      (receive i).value.getD 0 = r ∧ (send i).value.getD 0 = s := by
  unfold errors connect receive send
  simp only [List.append_eq_nil_iff]
  constructor
  · rintro ⟨first, second, third⟩
    obtain ⟨noError, rfl⟩ := Ingress.holdsSeconds_iff.mp first
    obtain ⟨noError', rfl⟩ := Ingress.holdsSeconds_iff.mp second
    obtain ⟨noError'', rfl⟩ := Ingress.holdsSeconds_iff.mp third
    exact ⟨⟨⟨noError, noError'⟩, noError''⟩, rfl, rfl, rfl⟩
  · rintro ⟨⟨⟨noError, noError'⟩, noError''⟩, first, second, third⟩
    exact ⟨Ingress.holdsSeconds_iff.mpr ⟨noError, first⟩,
      Ingress.holdsSeconds_iff.mpr ⟨noError', second⟩,
      Ingress.holdsSeconds_iff.mpr ⟨noError'', third⟩⟩

/-- The limit that an Ingress sets to whole requests: the longer one of two timeouts. -/
def LimitsRequest (i : Ingress) (n : Int) : Prop :=
  ∃ c r s, Reads i c r s ∧ max r s = n ∧ 0 < n

/-- The limit that an Ingress sets to requests to the backend. -/
def LimitsBackend (i : Ingress) (n : Int) : Prop := ∃ r s, Reads i n r s ∧ 0 < n

/-- What an Ingress wants its routes to have; nothing if it has errors. -/
def wanted (i : Ingress) : RouteTimeouts := if (errors i).isEmpty then timeouts i else {}

theorem positive?_eq_some_iff {n : Int} {text : String} :
    positive? n = some text ↔ 0 < n ∧ secondsText n = text := by
  unfold positive?
  rw [Option.ite_none_right_eq_some, Option.some.injEq]

/-- A part of what an Ingress wants is that part of what its annotations say. -/
theorem wanted_iff (part : RouteTimeouts → Option String) (start : part {} = none) {text : String} :
    part (wanted i) = some text ↔ ∃ c r s, Reads i c r s ∧
      part { request := positive? (max r s), backendRequest := positive? c } = some text := by
  unfold wanted
  simp only [reads_iff]
  split
  · rename_i fine
    constructor
    · intro given
      exact ⟨_, _, _, ⟨List.isEmpty_iff.mp fine, rfl, rfl, rfl⟩, given⟩
    · rintro ⟨c, r, s, ⟨-, rfl, rfl, rfl⟩, given⟩
      exact given
  · rename_i wrong
    rw [start]
    refine iff_of_false nofun ?_
    rintro ⟨c, r, s, ⟨sound, -⟩, -⟩
    exact wrong (List.isEmpty_iff.mpr sound)

theorem request_wanted_iff {text : String} :
    (wanted i).request = some text ↔ ∃ n, LimitsRequest i n ∧ secondsText n = text := by
  rw [wanted_iff (·.request) rfl]
  simp only [positive?_eq_some_iff]
  constructor
  · rintro ⟨c, r, s, reads, positive, shown⟩
    exact ⟨_, ⟨c, r, s, reads, rfl, positive⟩, shown⟩
  · rintro ⟨_, ⟨c, r, s, reads, rfl, positive⟩, shown⟩
    exact ⟨c, r, s, reads, positive, shown⟩

theorem backendRequest_wanted_iff {text : String} :
    (wanted i).backendRequest = some text ↔ ∃ n, LimitsBackend i n ∧ secondsText n = text := by
  rw [wanted_iff (·.backendRequest) rfl]
  simp only [positive?_eq_some_iff]
  constructor
  · rintro ⟨c, r, s, reads, positive, shown⟩
    exact ⟨c, ⟨r, s, reads, positive⟩, shown⟩
  · rintro ⟨c, ⟨r, s, reads, positive⟩, shown⟩
    exact ⟨c, r, s, reads, positive, shown⟩

theorem exists_wanted (filled : wanted i ≠ {}) :
    ∃ text, (wanted i).request = some text ∨ (wanted i).backendRequest = some text := by
  by_contra nothing
  cases made : wanted i with
  | mk request backendRequest =>
    rw [made] at nothing filled
    cases request with
    | some text => exact nothing ⟨text, .inl rfl⟩
    | none =>
      cases backendRequest with
      | some text => exact nothing ⟨text, .inr rfl⟩
      | none => exact filled rfl

theorem exists_given_of_holdsSeconds {key : String} {n : Int} (held : i.HoldsSeconds key n)
    (positive : 0 < n) : ∃ value, i.given? key = some value := by
  rcases held with ⟨raw, given, -⟩ | ⟨-, rfl⟩
  · exact ⟨raw, given⟩
  · exact absurd positive (Int.lt_irrefl 0)

/-- An Ingress that wants something has one of the annotations. -/
theorem isTriggered_of_wanted (filled : wanted i ≠ {}) : pass.isTriggered i = true := by
  have own : ∀ key ∈ pass.triggers, ∀ n, i.HoldsSeconds key n → 0 < n →
      pass.isTriggered i = true := by
    intro key listed n held positive
    obtain ⟨value, given⟩ := exists_given_of_holdsSeconds held positive
    exact AnnotationPass.isTriggered_of_given? listed given
  obtain ⟨text, request | backend⟩ := exists_wanted filled
  · obtain ⟨n, ⟨c, r, s, reads, rfl, positive⟩, -⟩ := request_wanted_iff.mp request
    have either : 0 < r ∨ 0 < s := by omega
    rcases either with longer | longer
    · exact own _ (by simp [pass]) r reads.receive longer
    · exact own _ (by simp [pass]) s reads.send longer
  · obtain ⟨n, ⟨r, s, reads, positive⟩, -⟩ := backendRequest_wanted_iff.mp backend
    exact own _ (by simp [pass]) n reads.connect positive

theorem edits_eq (i : Ingress) (present : List ObjectKey) :
    edits i present =
      if wanted i = {} then [] else present.map fun k => .timeouts k (wanted i) := by
  unfold edits wanted
  by_cases fine : (errors i).isEmpty = true
  · by_cases nothing : timeouts i = {}
    · simp [fine, nothing]
    · simp [fine, nothing]
  · simp [fine]

end Timeouts

/-! ## What becomes of a route -/

theorem RouteTimeouts.overlay_empty (t : RouteTimeouts) : t.overlay {} = t := by
  simp only [overlay, orElse_eq_or, Option.none_or]

theorem RouteTimeouts.overlay_ne_empty (old : RouteTimeouts) {t : RouteTimeouts} (filled : t ≠ {}) :
    old.overlay t ≠ {} := by
  intro nothing
  obtain ⟨request, backendRequest⟩ := RouteTimeouts.mk.inj nothing
  rw [orElse_eq_or, Option.or_eq_none_iff] at request backendRequest
  cases t with
  | mk r b =>
    obtain ⟨rfl, -⟩ := request
    obtain ⟨rfl, -⟩ := backendRequest
    exact filled rfl

namespace RoutePlan

/-- The route whose rules all have these timeouts. Without a limit they have none at all. -/
def timed (r : RoutePlan) (t : RouteTimeouts) : RoutePlan :=
  { r with route := { r.route with spec := { r.route.spec with
      rules := r.route.spec.rules.map fun rule =>
        { rule with timeouts := if t = {} then none else some t } } } }

def IsUntimed (r : RoutePlan) : Prop := ∀ rule ∈ r.route.spec.rules, rule.timeouts = none

theorem timeouts_of_mem_timed {r : RoutePlan} {t : RouteTimeouts} {rule : RouteRule}
    (mem : rule ∈ (r.timed t).route.spec.rules) :
    rule.timeouts = if t = {} then none else some t := by
  obtain ⟨old, -, rfl⟩ := List.mem_map.mp mem
  rfl

theorem timed_empty {r : RoutePlan} (untimed : r.IsUntimed) : r.timed {} = r := by
  have rules : (r.route.spec.rules.map fun rule => { rule with timeouts := none }) =
      r.route.spec.rules := by
    refine (List.map_congr_left fun rule mem => ?_).trans (List.map_id _)
    have bare := untimed rule mem
    cases rule
    cases bare
    rfl
  unfold timed
  rw [if_pos rfl, rules]

theorem withTimeouts_timed (r : RoutePlan) (old : RouteTimeouts) {t : RouteTimeouts}
    (filled : t ≠ {}) : (r.timed old).withTimeouts t = r.timed (old.overlay t) := by
  have rules : ∀ rule : RouteRule,
      RouteRule.withTimeouts { rule with timeouts := if old = {} then none else some old } t =
        { rule with timeouts := some (old.overlay t) } := by
    intro rule
    unfold RouteRule.withTimeouts
    split
    · rename_i empty
      rw [empty]
      rfl
    · rfl
  unfold withTimeouts timed
  rw [if_neg (old.overlay_ne_empty filled)]
  simp only [List.map_map, Function.comp_def, rules]

/-- Timeouts for several routes reach each of them, however often it is among them. -/
theorem foldl_onRoute_timeouts (ks : List ObjectKey) (t : RouteTimeouts) (k : ObjectKey)
    (r : RoutePlan) :
    (ks.map fun j => Edit.timeouts j t).foldl (fun r e => e.onRoute k r) r =
      if k ∈ ks then r.withTimeouts t else r := by
  induction ks generalizing r with
  | nil => rfl
  | cons j ks ih =>
    have first : (Edit.timeouts j t).onRoute k r = if j = k then r.withTimeouts t else r := rfl
    rw [List.map_cons, List.foldl_cons, ih, first]
    by_cases here : j = k
    · subst here
      rw [if_pos rfl, withTimeouts_repeats, ite_self, if_pos (.head _)]
    · have later : k ∈ j :: ks ↔ k ∈ ks := by
        rw [List.mem_cons, or_iff_right fun same => here same.symm]
      rw [if_neg here]
      simp only [later]

end RoutePlan

namespace Timeouts

variable {c : PassContext} {s : PlanState} {k : ObjectKey}

/-- The timeouts of a route after those that one more Ingress wants it to have. -/
def addWanted (c : PassContext) (k : ObjectKey) (t : RouteTimeouts) (i : Ingress) : RouteTimeouts :=
  if k ∈ c.routesOf i then t.overlay (wanted i) else t

/-- The edits for one Ingress put what it wants into all rules of its routes. -/
theorem foldl_edits (there : s.HasRoute k) (i : Ingress) (r : RoutePlan) (t : RouteTimeouts) :
    (pass.editsFor c s i).foldl (fun r e => e.onRoute k r) (r.timed t) =
      r.timed (addWanted c k t i) := by
  have asked : pass.editsFor c s i = edits i (c.presentRoutesOf i s.plan) := rfl
  have present : k ∈ c.presentRoutesOf i s.plan ↔ k ∈ c.routesOf i := by
    unfold PassContext.presentRoutesOf
    rw [List.mem_filter, and_iff_left (OrderedMap.contains_iff.mpr there)]
  rw [asked, edits_eq]
  unfold addWanted
  by_cases nothing : wanted i = {}
  · rw [if_pos nothing, nothing, RouteTimeouts.overlay_empty, ite_self]
    rfl
  · rw [if_neg nothing, RoutePlan.foldl_onRoute_timeouts, RoutePlan.withTimeouts_timed _ _ nothing]
    simp only [present, apply_ite r.timed]

/-- All rules of a route have what its Ingresses want, one over the other. -/
theorem foldl_asks (there : s.HasRoute k) {r : RoutePlan} (untimed : r.IsUntimed) :
    (pass.asks c s).foldl (fun r e => e.onRoute k r) r =
      r.timed (c.ingresses.foldl (addWanted c k) {}) := by
  have untriggered : ∀ t i, ¬ pass.isTriggered i = true → addWanted c k t i = t := by
    intro t i looked
    have nothing : wanted i = {} := by
      by_contra filled
      exact looked (isTriggered_of_wanted filled)
    unfold addWanted
    rw [nothing, RouteTimeouts.overlay_empty, ite_self]
  have steps : ∀ t i,
      (if pass.isTriggered i = true then
        (pass.editsFor c s i).foldl (fun r e => e.onRoute k r) (r.timed t) else r.timed t) =
      r.timed (addWanted c k t i) := by
    intro t i
    split
    · exact foldl_edits there i r t
    · rename_i looked
      rw [untriggered t i looked]
  unfold AnnotationPass.asks AnnotationPass.triggered
  rw [List.foldl_flatMap, List.foldl_filter]
  calc
    _ = c.ingresses.foldl (fun r i => if pass.isTriggered i = true then
          (pass.editsFor c s i).foldl (fun r e => e.onRoute k r) r else r) (r.timed {}) := by
        rw [RoutePlan.timed_empty untimed]
    _ = r.timed (c.ingresses.foldl (addWanted c k) {}) := List.foldl_hom r.timed steps

/-! ## The pass -/

theorem edits_complete (c : PassContext) (s : PlanState) :
    (Progress.each PlanState.edit s (pass.asks c s)).stop = none := by
  have written : ∀ k f, (pass.asks c s).filterMap (·.written? k f) = [] := by
    intro k f
    apply List.filterMap_eq_nil_iff.mpr
    intro e mem
    obtain ⟨i, -, asked⟩ := List.mem_flatMap.mp mem
    have asked : e ∈ edits i (c.presentRoutesOf i s.plan) := asked
    rw [edits_eq] at asked
    split at asked
    · cases asked
    · obtain ⟨j, -, rfl⟩ := List.mem_map.mp asked
      rfl
  rw [PlanState.edits_complete_iff]
  intro k f _
  rw [written, List.append_nil]
  cases s.setting? k f with
  | none => exact .nil
  | some v => exact .singleton v

theorem progress_apply (c : PassContext) (s : PlanState) :
    (pass.apply c s).progress = Progress.each PlanState.edit s (pass.asks c s) :=
  AnnotationPass.apply_eq_edits rfl fun _ _ => rfl

theorem get?_routes_apply {r : RoutePlan} (found : s.plan.routes.get? k = some r)
    (untimed : r.IsUntimed) :
    (pass.apply c s).state.plan.routes.get? k =
      some (r.timed (c.ingresses.foldl (addWanted c k) {})) := by
  have there : s.HasRoute k := OrderedMap.mem_keys_iff.mpr ⟨r, found⟩
  have state : (pass.apply c s).state = (Progress.each PlanState.edit s (pass.asks c s)).state :=
    congrArg Progress.state (progress_apply c s)
  rw [state, PlanState.routes_edits (edits_complete c s), OrderedMap.get?_mapValues, found,
    Option.map_some, foldl_asks there untimed]

/-- No rule of a lowered plan has timeouts. -/
theorem untimed_lower {is : List Ingress} {ports : Catalog PortLookup} {k : ObjectKey}
    {r : RoutePlan} (found : (lower is ports).1.routes.get? k = some r) : r.IsUntimed := by
  obtain ⟨g, -, rfl⟩ := get?_routes_lower_iff.mp found
  intro rule mem
  obtain ⟨p, -, port, -, rfl⟩ := mem_groupRules_iff.mp mem
  rfl

/-- A timeout is what the last of the Ingresses of a route says that limit it, and absent if none
of them does. -/
inductive Decided (c : PassContext) (k : ObjectKey) (limits : Ingress → Int → Prop) :
    Option String → Prop
  | absent (unlimited : ∀ i ∈ c.ingresses, k ∈ c.routesOf i → ∀ n, ¬ limits i n) :
      Decided c k limits none
  | last {i : Ingress} {n : Int}
      (last : IsLast (fun j => k ∈ c.routesOf j ∧ ∃ m, limits j m) c.ingresses i)
      (own : limits i n) : Decided c k limits (some (secondsText n))

/-- Where one part of the timeouts is what Ingresses limit, it is decided by the last of them. -/
theorem decided_foldl {limits : Ingress → Int → Prop} (part : RouteTimeouts → Option String)
    (overlay : ∀ old t : RouteTimeouts, part (old.overlay t) = (part t).or (part old))
    (start : part {} = none)
    (reads : ∀ i text, part (wanted i) = some text ↔ ∃ n, limits i n ∧ secondsText n = text) :
    Decided c k limits (part (c.ingresses.foldl (addWanted c k) {})) := by
  have writes : ∀ t i, part (addWanted c k t i) =
      (if k ∈ c.routesOf i then part (wanted i) else none).or (part t) := by
    intro t i
    unfold addWanted
    split
    · exact overlay t _
    · rfl
  have given : ∀ i, (if k ∈ c.routesOf i then part (wanted i) else none).isSome = true ↔
      k ∈ c.routesOf i ∧ ∃ n, limits i n := by
    intro i
    simp only [Option.isSome_iff_exists, Option.ite_none_right_eq_some, reads]
    constructor
    · rintro ⟨text, own, n, limit, -⟩
      exact ⟨own, n, limit⟩
    · rintro ⟨own, n, limit⟩
      exact ⟨_, own, n, limit, rfl⟩
  rw [foldl_last part writes, start, Option.or_none]
  cases found : (c.ingresses.filterMap fun i =>
      if k ∈ c.routesOf i then part (wanted i) else none).getLast? with
  | none =>
    rw [List.getLast?_eq_none_iff, List.filterMap_eq_nil_iff] at found
    refine .absent fun i mem own n limit => ?_
    have limited := (given i).mpr ⟨own, n, limit⟩
    rw [found i mem] at limited
    cases limited
  | some text =>
    rw [List.getLast?_filterMap, findSome?_eq_some_iff_isFirst] at found
    obtain ⟨i, last, read⟩ := found
    rw [isFirst_reverse_iff, isLast_congr fun j _ => given j] at last
    rw [if_pos last.holds.1, reads] at read
    obtain ⟨n, limit, rfl⟩ := read
    exact .last last limit

/-- The pass completes, and all rules of a route have the same timeouts then: the limit of requests
from the last Ingress of the route that limits them, and that of requests to the backend from the
last one that limits those. -/
theorem timeouts_decided (c : PassContext) (s : PlanState)
    (untimed : ∀ k r, s.plan.routes.get? k = some r → r.IsUntimed) :
    (pass.apply c s).stop = none ∧
      ∀ k r, s.plan.routes.get? k = some r →
        ∃ t : RouteTimeouts, (pass.apply c s).state.plan.routes.get? k = some (r.timed t) ∧
          Decided c k LimitsRequest t.request ∧ Decided c k LimitsBackend t.backendRequest := by
  constructor
  · have stop : (pass.apply c s).stop = _ := congrArg Progress.stop (progress_apply c s)
    rw [stop]
    exact edits_complete c s
  · intro k r found
    refine ⟨_, get?_routes_apply found (untimed k r found), ?_, ?_⟩
    · exact decided_foldl (·.request) (fun _ _ => orElse_eq_or _ _) rfl
        fun i text => request_wanted_iff
    · exact decided_foldl (·.backendRequest) (fun _ _ => orElse_eq_or _ _) rfl
        fun i text => backendRequest_wanted_iff

/-- Three Ingresses of one route. The second one sets no limit to requests to the backend, and a
timeout of the third one is not understood. -/
def waits : List Ingress :=
  [.plain ⟨"shop", "web"⟩ [("a.b", "one")] [] (.ofList [(AnnotationKey.proxyReadTimeout, "10"),
     (AnnotationKey.proxyConnectTimeout, "5")]),
   .plain ⟨"shop", "api"⟩ [("a.b", "two")] [] (.ofList [(AnnotationKey.proxyReadTimeout, " 20 "),
     (AnnotationKey.proxySendTimeout, "30"), (AnnotationKey.proxyConnectTimeout, "0")]),
   .plain ⟨"shop", "docs"⟩ [("a.b", "three")] [] (.ofList [(AnnotationKey.proxyReadTimeout, "ten"),
     (AnnotationKey.proxyConnectTimeout, "7")])]

/-- The second Ingress decides about requests, the first one about requests to the backend. -/
theorem waits_decided :
    let c := PassContext.ofIngresses waits
    let s : PlanState := { plan := (lower waits .empty).1 }
    (∀ k r, s.plan.routes.get? k = some r → r.IsUntimed) ∧ (pass.apply c s).stop = none ∧
      ∃ r, s.plan.routes.get? ⟨"shop", "web-a-b"⟩ = some r ∧
        (pass.apply c s).state.plan.routes.get? ⟨"shop", "web-a-b"⟩ =
          some (r.timed { request := some "30s", backendRequest := some "5s" }) ∧
        Decided c ⟨"shop", "web-a-b"⟩ LimitsRequest (some "30s") ∧
        Decided c ⟨"shop", "web-a-b"⟩ LimitsBackend (some "5s") := by
  intro c s
  have untimed : ∀ k r, s.plan.routes.get? k = some r → r.IsUntimed := fun k r => untimed_lower
  obtain ⟨complete, decided⟩ := timeouts_decided c s untimed
  refine ⟨untimed, complete, ?_⟩
  have there : (s.plan.routes.get? ⟨"shop", "web-a-b"⟩).isSome = true := by decide +kernel
  obtain ⟨r, found⟩ := Option.isSome_iff_exists.mp there
  obtain ⟨t, after, request, backend⟩ := decided _ r found
  have rules : ((pass.apply c s).state.plan.routes.get? ⟨"shop", "web-a-b"⟩).map
      (fun r => r.route.spec.rules.map (·.timeouts)) = some (List.replicate 3
        (some { request := some "30s", backendRequest := some "5s" })) := by decide +kernel
  rw [after, Option.map_some, Option.some.injEq] at rules
  have mem := rules ▸ List.mem_replicate.mpr ⟨(by decide : 3 ≠ 0), rfl⟩
  obtain ⟨rule, listed, given⟩ := List.mem_map.mp mem
  rw [RoutePlan.timeouts_of_mem_timed listed] at given
  split at given
  · cases given
  · cases given
    exact ⟨r, found, after, request, backend⟩

end Timeouts

end GatewayMigration
