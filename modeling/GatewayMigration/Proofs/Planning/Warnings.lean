import GatewayMigration.Proofs.Annotations.Scope
import GatewayMigration.Proofs.Planning.LastWriter
/-!
# Warnings about replaced values

A field of a route that gets a different value is reported, with the route and both values. A
timeout of its rules is replaced without a word. Main statements:

* `PlanState.warns_edit`: a different value in a field is reported;
* `PlanState.isChain_of_silent`: if none is reported, all values written into a field are the same;
* `field_of_warns`: timeouts are never reported;
* `warned_iff`: which of two different values in one place are reported;
* `timeout_replaced_silently`: two timeouts that are not.
-/

namespace GatewayMigration

/-! ## Settings and their warnings -/

/-- A place of a route for a value: a field that annotations set, or a timeout of its rules. -/
inductive RouteSlot
  | field (f : RouteField)
  | request
  | backendRequest
deriving DecidableEq

def RouteSlot.name : RouteSlot → String
  | .field f => f.name
  | .request => "request"
  | .backendRequest => "backendRequest"

/-- A value for one of these places. -/
inductive RouteValue
  | setting (v : Setting)
  | request (limit : String)
  | backendRequest (limit : String)
deriving DecidableEq

def RouteValue.slot : RouteValue → RouteSlot
  | .setting v => .field v.field
  | .request _ => .request
  | .backendRequest _ => .backendRequest

/-- An Ingress writes the value into each of its routes. -/
inductive Ingress.Puts (i : Ingress) : RouteValue → Prop
  | setting {v : Setting} (gives : i.Gives v) : i.Puts (.setting v)
  | request {limit : String} (sound : Timeouts.errors i = [])
      (given : (Timeouts.timeouts i).request = some limit) : i.Puts (.request limit)
  | backendRequest {limit : String} (sound : Timeouts.errors i = [])
      (given : (Timeouts.timeouts i).backendRequest = some limit) : i.Puts (.backendRequest limit)

namespace Notification

/-- A warning that a value of this place of the route took the place of another one. -/
def Warns (slot : RouteSlot) (route : ObjectKey) (n : Notification) : Prop :=
  n.severity = .warning ∧
    ∃ values, n.message = "conflicting values for '" ++ slot.name ++ "' on HTTPRoute " ++
      toString route ++ ": " ++ values

/-- A warning names one place: no name has the quotation mark that ends it. -/
theorem name_of_warns {a b : RouteSlot} {j k : ObjectKey} {n : Notification} (first : n.Warns a j)
    (second : n.Warns b k) : a.name = b.name := by
  have plain : ∀ slot : RouteSlot, slot.name.toList.all (· != '\u0027') = true := by
    intro slot
    cases slot with
    | field f => cases f <;> rfl
    | request => rfl
    | backendRequest => rfl
  have quoted : ∀ (slot : RouteSlot) (rest : String),
      (slot.name ++ ("' on HTTPRoute " ++ rest)).toList.takeWhile (· != '\u0027') =
        slot.name.toList := by
    intro slot rest
    rw [String.toList_append, List.takeWhile_append_of_pos (List.all_eq_true.mp (plain slot)),
      String.toList_append]
    exact List.append_nil _
  obtain ⟨-, xs, made⟩ := first
  obtain ⟨-, ys, made'⟩ := second
  simp only [String.append_assoc] at made made'
  have same := (String.append_right_inj _).mp (made.symm.trans made')
  rw [← String.toList_inj, ← quoted a, ← quoted b, same]

theorem not_isAboutRewriting_of_warns {slot : RouteSlot} {k : ObjectKey} {n : Notification}
    (warns : n.Warns slot k) : ¬ n.IsAboutRewriting := by
  rintro ⟨rest, rewriting⟩
  obtain ⟨-, values, made⟩ := warns
  simp only [String.append_assoc] at made
  have first := congrArg (fun s : String => s.toList.head?) (made.symm.trans rewriting)
  simp only [String.toList_append] at first
  cases first

end Notification

theorem warns_of_conflictNotice? {r : RoutePlan} {old new : Setting} {source : ObjectKey}
    {n : Notification} (noticed : conflictNotice? r old new source = some n) :
    n.Warns (.field new.field) r.route.metadata.key := by
  unfold conflictNotice? at noticed
  simp only [Option.bind_eq_bind, Option.bind_eq_some_iff] at noticed
  obtain ⟨before, -, after, -, made⟩ := noticed
  cases made
  refine ⟨rfl, before ++ " replaced by " ++ after, ?_⟩
  simp only [String.append_assoc]
  rfl

/-! ## What edits report -/

/-- What an edit says in any case, or if it changes something. -/
def Edit.notice? : Edit → Option Notification
  | .tlsPolicy _ _ n => some n
  | .notify n => some n
  | _ => none

namespace PlanState

/-- All routes stand under their own keys. -/
def IsKeyed (s : PlanState) : Prop :=
  ∀ k r, s.plan.routes.get? k = some r → r.route.metadata.key = k

theorem isKeyed_edit {s : PlanState} (keyed : s.IsKeyed) (e : Edit) :
    (s.edit e).state.IsKeyed := by
  intro k r found
  have kept := congrArg (fun m => m.get? k) (shells_edit s e)
  simp only [shells, OrderedMap.get?_mapValues, found, Option.map_some] at kept
  obtain ⟨old, there, same⟩ := Option.map_eq_some_iff.mp kept.symm
  have named : old.shell.route.metadata.key = r.shell.route.metadata.key := by rw [same]
  exact named.symm.trans (keyed k old there)

/-- What is reported is kept, and what an edit reports itself is a conflict or its own notice. -/
theorem notices_edit (s : PlanState) (e : Edit) :
    ∃ new, (s.edit e).state.notices = s.notices ++ new ∧
      ∀ n ∈ new, (∃ f k, n.Warns (.field f) k) ∨ e.notice? = some n := by
  have nothing : ∃ new, s.notices = s.notices ++ new ∧
      ∀ n ∈ new, (∃ f k, n.Warns (.field f) k) ∨ e.notice? = some n :=
    ⟨[], (List.append_nil _).symm, nofun⟩
  cases e with
  | setting k v source =>
    unfold edit writeSetting
    dsimp only
    split
    · exact nothing
    · split
      · exact nothing
      · split
        · rename_i n noticed
          refine ⟨[n], rfl, fun m mem => ?_⟩
          cases List.mem_singleton.mp mem
          exact .inl ⟨_, _, warns_of_conflictNotice? noticed⟩
        · exact nothing
  | timeouts k t =>
    unfold edit writeTimeouts
    dsimp only
    split
    · exact nothing
    · exact nothing
  | service k v => exact nothing
  | tlsPolicy k p n =>
    unfold edit addPolicy
    dsimp only
    split
    · exact nothing
    · refine ⟨[n], rfl, fun m mem => ?_⟩
      cases List.mem_singleton.mp mem
      exact .inr rfl
  | notify n =>
    refine ⟨[n], rfl, fun m mem => ?_⟩
    cases List.mem_singleton.mp mem
    exact .inr rfl

/-- A different value in the same place is reported. -/
theorem warns_edit {s : PlanState} (keyed : s.IsKeyed) {e : Edit}
    (complete : (s.edit e).stop = none) {k : ObjectKey} {f : RouteField} {old new : Setting}
    (before : s.setting? k f = some old) (wrote : e.written? k f = some new) (differ : old ≠ new) :
    ∃ n ∈ (s.edit e).state.notices, n.Warns (.field f) k := by
  cases e with
  | setting j v source =>
    rw [Edit.written?_setting] at wrote
    split at wrote
    · rename_i here
      obtain ⟨rfl, rfl⟩ := here
      cases wrote
      obtain ⟨r, there, present⟩ := Option.bind_eq_some_iff.mp before
      have conflict : r.conflict? new = some old := by
        unfold RoutePlan.conflict?
        rw [present, Option.filter_some_pos (by simpa using differ)]
      unfold edit writeSetting at complete ⊢
      dsimp only at complete ⊢
      rw [there] at complete ⊢
      dsimp only at complete ⊢
      rw [conflict] at complete ⊢
      dsimp only at complete ⊢
      split
      · rename_i n noticed
        have warns := warns_of_conflictNotice? noticed
        rw [keyed j r there] at warns
        exact ⟨n, List.mem_append_right _ (.head _), warns⟩
      · rename_i unshown
        rw [unshown] at complete
        cases complete
    · cases wrote
  | timeouts => cases wrote
  | service => cases wrote
  | tlsPolicy => cases wrote
  | notify => cases wrote

theorem isKeyed_lower (is : List Ingress) (ports : Catalog PortLookup) :
    IsKeyed { plan := (lower is ports).1 } := by
  intro k r found
  obtain ⟨g, kept, rfl⟩ := get?_routes_lower_iff.mp found
  exact key_of_ruleGroups kept

/-! ## Runs of edits -/

theorem mem_notices_edits {s : PlanState} {es : List Edit} {n : Notification}
    (mem : n ∈ s.notices) : n ∈ (Progress.each edit s es).state.notices := by
  induction es generalizing s with
  | nil => exact mem
  | cons e es ih =>
    obtain ⟨new, grown, -⟩ := notices_edit s e
    have kept : n ∈ (s.edit e).state.notices := by
      rw [grown]
      exact List.mem_append_left new mem
    rw [Progress.each_cons]
    unfold Progress.andThen
    split
    · exact ih kept
    · exact kept

/-- A notification that a complete run is asked for is made. -/
theorem mem_notices_of_notify {s : PlanState} {es : List Edit} {n : Notification}
    (complete : (Progress.each edit s es).stop = none) (mem : .notify n ∈ es) :
    n ∈ (Progress.each edit s es).state.notices := by
  induction es generalizing s with
  | nil => cases mem
  | cons e es ih =>
    obtain ⟨first, rest⟩ := Progress.each_completes_cons.mp complete
    rw [Progress.each_cons, Progress.andThen_complete _ first]
    rcases List.mem_cons.mp mem with rfl | later
    · have made : n ∈ (s.edit (.notify n)).state.notices := List.mem_append_right _ (.head _)
      exact mem_notices_edits made
    · exact ih rest later

/-- If no value is reported as replaced, all values that are written are the same. -/
theorem isChain_of_silent {s : PlanState} {es : List Edit} (keyed : s.IsKeyed)
    (complete : (Progress.each edit s es).stop = none) {k : ObjectKey} (present : s.HasRoute k)
    {f : RouteField}
    (silent : ∀ n ∈ (Progress.each edit s es).state.notices, ¬ n.Warns (.field f) k) :
    ((s.setting? k f).toList ++ es.filterMap (·.written? k f)).IsChain (· = ·) := by
  induction es generalizing s with
  | nil =>
    rw [List.filterMap_nil, List.append_nil]
    cases s.setting? k f with
    | none => exact .nil
    | some v => exact .singleton v
  | cons e es ih =>
    obtain ⟨first, rest⟩ := Progress.each_completes_cons.mp complete
    rw [Progress.each_cons, Progress.andThen_complete _ first] at silent
    rw [filterMap_cons_eq_append, isChain_write_iff]
    constructor
    · intro old before new wrote
      by_contra differ
      obtain ⟨n, mem, warns⟩ := warns_edit keyed first before wrote differ
      exact silent n (mem_notices_edits mem) warns
    · rw [← setting?_edit first present]
      exact ih (isKeyed_edit keyed e) rest (hasRoute_edit_iff.mpr present) silent

/-- Whatever is reported was reported before, is a conflict, or is the notice of an edit. -/
theorem mem_notices_edits_cases {s : PlanState} {es : List Edit} {n : Notification}
    (mem : n ∈ (Progress.each edit s es).state.notices) :
    n ∈ s.notices ∨ (∃ f k, n.Warns (.field f) k) ∨ ∃ e ∈ es, e.notice? = some n := by
  induction es generalizing s with
  | nil => exact .inl mem
  | cons e es ih =>
    have first : ∀ m ∈ (s.edit e).state.notices,
        m ∈ s.notices ∨ (∃ f k, m.Warns (.field f) k) ∨ ∃ d ∈ e :: es, d.notice? = some m := by
      intro m there
      obtain ⟨new, grown, origin⟩ := notices_edit s e
      rw [grown] at there
      rcases List.mem_append.mp there with old | new
      · exact .inl old
      · rcases origin m new with conflict | own
        · exact .inr (.inl conflict)
        · exact .inr (.inr ⟨e, .head _, own⟩)
    rw [Progress.each_cons] at mem
    unfold Progress.andThen at mem
    split at mem
    · rcases ih mem with before | conflict | ⟨d, later, own⟩
      · exact first n before
      · exact .inr (.inl conflict)
      · exact .inr (.inr ⟨d, .tail _ later, own⟩)
    · exact first n mem

end PlanState

theorem Edit.isFrom_of_notice? {i : Ingress} {routes : List ObjectKey} {e : Edit}
    (own : e.IsFrom i routes) {n : Notification} (named : e.notice? = some n) :
    n.IsFrom i.key := by
  cases e with
  | tlsPolicy k p m =>
    cases named
    exact own.2
  | notify m =>
    cases named
    exact own
  | setting => cases named
  | timeouts => cases named
  | service => cases named

/-! ## Whole plans -/

namespace IngressNginx

variable {is : List Ingress} {ports : Catalog PortLookup}

/-- Only fields are warned about, never timeouts. -/
theorem field_of_warns (complete : (planFor is ports).stop = none) {n : Notification}
    (mem : n ∈ (planFor is ports).state.notices) {slot : RouteSlot} {k : ObjectKey}
    (warns : n.Warns slot k) : ∃ f, slot = .field f := by
  obtain ⟨state, -⟩ := planFor_eq_edits complete
  rw [state] at mem
  have origin := PlanState.mem_notices_edits_cases mem
  rcases origin with start | ⟨f, j, conflict⟩ | ⟨e, asked, own⟩
  · cases start
  · have same : slot.name = f.name := Notification.name_of_warns warns conflict
    cases slot with
    | field g => exact ⟨g, rfl⟩
    | request => cases f <;> exact absurd same (by decide)
    | backendRequest => cases f <;> exact absurd same (by decide)
  · obtain ⟨p, passed, inside⟩ := List.mem_flatMap.mp asked
    obtain ⟨i, -, edits⟩ := List.mem_flatMap.mp inside
    have confined := (isConfined_of_mem_annotationPasses passed).edits i _ e edits
    have rewriting := (Edit.isFrom_of_notice? confined own).rewriting warns.1
    exact absurd rewriting (Notification.not_isAboutRewriting_of_warns warns)

theorem mem_allWrites_of_gives (complete : (planFor is ports).stop = none) {i : Ingress}
    (listed : i ∈ is) {k : ObjectKey} (routed : k ∈ (PassContext.ofIngresses is).routesOf i)
    {v : Setting} (gives : i.Gives v) : v ∈ allWrites is k v.field := by
  have value : i.value? v.field = some v :=
    (Ingress.value?_eq_some_iff (exists_rate_of_complete complete listed)).mpr ⟨gives, rfl⟩
  rw [allWrites_eq_givenFor]
  exact List.mem_filterMap.mpr ⟨i, listed, (if_pos routed).trans value⟩

theorem exists_warning (complete : (planFor is ports).stop = none) {i j : Ingress} (listed : i ∈ is)
    (listed' : j ∈ is) {k : ObjectKey} (routed : k ∈ (PassContext.ofIngresses is).routesOf i)
    (routed' : k ∈ (PassContext.ofIngresses is).routesOf j) {v w : Setting} (gives : i.Gives v)
    (gives' : j.Gives w) (field : v.field = w.field) (differ : v ≠ w) :
    ∃ n ∈ (planFor is ports).state.notices, n.Warns (.field v.field) k := by
  by_contra silent
  obtain ⟨state, made⟩ := planFor_eq_edits complete
  have present : PlanState.HasRoute { plan := (lower is ports).1 } k := by
    obtain ⟨g, kept, -⟩ := mem_routesOf_iff.mp routed
    rw [PlanState.HasRoute, keys_routes_lower]
    exact OrderedMap.mem_keys_iff.mpr ⟨g, kept⟩
  have chain := PlanState.isChain_of_silent (PlanState.isKeyed_lower is ports) made present
    (f := v.field) (by
      intro n mem warns
      rw [← state] at mem
      exact silent ⟨n, mem, warns⟩)
  rw [setting?_lower, Option.toList_none, List.nil_append, written?_allEdits] at chain
  have equal := List.isChain_iff_pairwise.mp chain
  have first := mem_allWrites_of_gives complete listed routed gives
  have second := mem_allWrites_of_gives complete listed' routed' gives'
  rw [← field] at second
  exact differ (equal.forall first second differ)

/-- Two Ingresses of one route that put different values into one place of it: this is reported
exactly if the place is a field, and never if it is a timeout. -/
theorem warned_iff (complete : (planFor is ports).stop = none) {i j : Ingress} (listed : i ∈ is)
    (listed' : j ∈ is) {k : ObjectKey} (routed : k ∈ (PassContext.ofIngresses is).routesOf i)
    (routed' : k ∈ (PassContext.ofIngresses is).routesOf j) {v w : RouteValue} (puts : i.Puts v)
    (puts' : j.Puts w) (place : v.slot = w.slot) (differ : v ≠ w) :
    (∃ n ∈ (planFor is ports).state.notices, n.Warns v.slot k) ↔ ∃ f, v.slot = .field f := by
  constructor
  · rintro ⟨n, mem, warns⟩
    exact field_of_warns complete mem warns
  · rintro ⟨f, field⟩
    cases puts with
    | setting gives =>
      cases puts' with
      | setting gives' =>
        exact exists_warning complete listed listed' routed routed' gives gives'
          (RouteSlot.field.inj place) fun same => differ (congrArg RouteValue.setting same)
      | request => cases place
      | backendRequest => cases place
    | request => cases field
    | backendRequest => cases field

/-- The sizes that two Ingresses of one route ask for are different, and this is reported. -/
theorem exists_warning_sized :
    (planFor sized .empty).stop = none ∧
      ∃ n ∈ (planFor sized .empty).state.notices,
        n.Warns (.field .bodySize) ⟨"shop", "web-a-b"⟩ := by
  have complete : (planFor sized .empty).stop = none := by decide +kernel
  have first : (ProxySettings.bodySize sized[0]).value = some ⟨"8m", 8388608⟩ := by decide +kernel
  have second : (ProxySettings.bodySize sized[1]).value = some ⟨"9k", 9216⟩ := by decide +kernel
  have gives : Ingress.Gives sized[0] (.bodySize ⟨"8m", 8388608⟩) := by
    obtain ⟨given, size⟩ := ProxySettings.bodySize_eq_some_iff.mp first
    exact .bodySize given size
  have gives' : Ingress.Gives sized[1] (.bodySize ⟨"9k", 9216⟩) := by
    obtain ⟨given, size⟩ := ProxySettings.bodySize_eq_some_iff.mp second
    exact .bodySize given size
  have routed : ∀ i ∈ sized,
      ⟨"shop", "web-a-b"⟩ ∈ (PassContext.ofIngresses sized).routesOf i := by decide +kernel
  have listed : sized[0] ∈ sized := .head _
  have listed' : sized[1] ∈ sized := .tail _ (.head _)
  exact ⟨complete, (warned_iff complete listed listed' (routed _ listed) (routed _ listed')
    (.setting gives) (.setting gives') rfl (by decide)).mpr ⟨_, rfl⟩⟩

/-- Two Ingresses of one route that ask for different timeouts. -/
def timed : List Ingress :=
  [.plain ⟨"shop", "web"⟩ [("a.b", "one")] [] (.ofList [(AnnotationKey.proxyReadTimeout, "10")]),
   .plain ⟨"shop", "api"⟩ [("a.b", "two")] [] (.ofList [(AnnotationKey.proxyReadTimeout, "20")])]

/-- The timeout of the first Ingress is replaced in all rules of the route, and nobody is told. -/
theorem timeout_replaced_silently :
    (planFor timed .empty).stop = none ∧
      (∀ i ∈ timed, ⟨"shop", "web-a-b"⟩ ∈ (PassContext.ofIngresses timed).routesOf i) ∧
      Ingress.Puts timed[0] (.request "10s") ∧ Ingress.Puts timed[1] (.request "20s") ∧
      ((planFor timed .empty).state.plan.routes.get? ⟨"shop", "web-a-b"⟩).map
        (fun r => r.route.spec.rules.map (·.timeouts)) =
          some [some { request := some "20s" }, some { request := some "20s" }] ∧
      (planFor timed .empty).state.notices = [] := by
  refine ⟨by decide +kernel, by decide +kernel, .request ?_ ?_, .request ?_ ?_, ?_, ?_⟩
  · decide +kernel
  · decide +kernel
  · decide +kernel
  · decide +kernel
  · decide +kernel
  · decide +kernel

end IngressNginx

end GatewayMigration
