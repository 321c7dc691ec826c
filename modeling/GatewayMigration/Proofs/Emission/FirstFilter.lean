import GatewayMigration.Proofs.Emission.Extensions
/-!
# Which route a filter is for

Of the filters with one key the one for the first route is kept, in the order of the plan. Main
statements:

* `get?_extensions_first`: what is kept under the key of a route's filter;
* `eq_of_key_of_toString`: the key of a filter and the route that it names as its source tell the
  route;
* `has_own_filter_iff`: the routes that have a filter of their own.
-/

namespace GatewayMigration

/-- Two pairs that look the same with either of two marks in between are the same. -/
theorem eq_of_append_marks {α : Type} {x y : α} (differ : x ≠ y) {as bs cs ds : List α}
    (first : as ++ x :: bs = cs ++ x :: ds) (second : as ++ y :: bs = cs ++ y :: ds) :
    as = cs ∧ bs = ds := by
  induction as generalizing cs with
  | nil =>
    cases cs with
    | nil => exact ⟨rfl, (List.cons.inj first).2⟩
    | cons c cs => exact absurd ((List.cons.inj first).1.trans (List.cons.inj second).1.symm) differ
  | cons a as ih =>
    cases cs with
    | nil => exact absurd ((List.cons.inj first).1.symm.trans (List.cons.inj second).1) differ
    | cons c cs =>
      obtain ⟨head, first⟩ := List.cons.inj first
      obtain ⟨tail, rest⟩ := ih first (List.cons.inj second).2
      rw [head, tail, rest]
      exact ⟨rfl, rfl⟩

namespace EnvoyFilter

/-- A dash is in the key where a slash is in the text of the route. -/
theorem eq_of_key_of_toString {l : GatewayLayout} {j k : ObjectKey} {c d : Concern}
    (keys : key l j c = key l k d) (texts : toString j = toString k) : j = k ∧ c = d := by
  obtain ⟨rfl, -, names⟩ := key_eq_iff.mp keys
  have texts : j.space ++ "/" ++ j.name = k.space ++ "/" ++ k.name := texts
  simp only [← String.toList_inj, String.toList_append, List.append_assoc] at names texts
  obtain ⟨spaces, names⟩ := eq_of_append_marks (by decide : '-' ≠ '/') names texts
  refine ⟨?_, rfl⟩
  cases j
  cases k
  cases String.toList_inj.mp spaces
  cases String.toList_inj.mp names
  rfl

/-- The filter that a route asks for about a concern. -/
def filterOf? (l : GatewayLayout) (c : Concern) (r : ObjectKey × RoutePlan) : Option Extension :=
  match r.2.settings.bind (Concern.patches? · c) with
  | some (.ok ps) => some (wrap l r.1 c ps)
  | _ => none

theorem filterOf?_eq_some_iff {l : GatewayLayout} {c : Concern} {r : ObjectKey × RoutePlan}
    {x : Extension} :
    filterOf? l c r = some x ↔
      ∃ s ps, r.2.settings = some s ∧ c.patches? s = some (.ok ps) ∧ wrap l r.1 c ps = x := by
  unfold filterOf?
  cases r.2.settings with
  | none => simp
  | some s =>
    rw [Option.bind_some]
    cases asked : c.patches? s with
    | none => simp [asked]
    | some made =>
      cases made with
      | error why => simp [asked]
      | ok ps => simp [asked]

end EnvoyFilter

namespace Emission

open EnvoyFilter

variable {l : GatewayLayout} {plan : Plan} {e : Emission}

/-- Of the filters of one route, the one with a key is the one about the key's concern. -/
theorem lookup_filtersOf {r : ObjectKey × RoutePlan} {fs : List (ObjectKey × Extension)}
    (made : filtersOf l r = .ok fs) (k : ObjectKey) (c : Concern) :
    List.lookup (key l k c) fs =
      if key l r.1 c = key l k c then filterOf? l c r else none := by
  have listed : ∀ x, (key l k c, x) ∈ fs ↔ key l r.1 c = key l k c ∧ filterOf? l c r = some x := by
    intro x
    rw [filterOf?_eq_some_iff]
    unfold filtersOf at made
    cases given : r.2.settings with
    | none =>
      rw [given] at made
      cases made
      simp
    | some s =>
      rw [given] at made
      rw [mem_forRoute_iff made]
      constructor
      · rintro ⟨d, ps, asks, entry⟩
        obtain ⟨same, rfl⟩ := Prod.mk.inj entry
        obtain ⟨rfl, -, -⟩ := key_eq_iff.mp same
        exact ⟨same.symm, s, ps, rfl, asks, rfl⟩
      · rintro ⟨same, _, ps, ⟨⟩, asks, rfl⟩
        exact ⟨c, ps, asks, by rw [same]⟩
  apply Option.ext
  intro x
  rw [OrderedMap.lookup_eq_some_iff_mem, listed]
  · simp [Option.ite_none_right_eq_some]
  · intro a b first second
    exact Option.some.inj (((listed a).mp first).2.symm.trans ((listed b).mp second).2)

theorem lookup_filters {rs : List (ObjectKey × RoutePlan)}
    {fss : List (List (ObjectKey × Extension))} (made : rs.mapM (filtersOf l) = .ok fss)
    (k : ObjectKey) (c : Concern) :
    List.lookup (key l k c) fss.flatten =
      rs.findSome? fun r => if key l r.1 c = key l k c then filterOf? l c r else none := by
  induction rs generalizing fss with
  | nil =>
    cases made
    rfl
  | cons r rs ih =>
    obtain ⟨fs, rest, first, others, rfl⟩ := mapM_cons_ok_iff.mp made
    rw [List.flatten_cons, List.lookup_append, lookup_filtersOf first, ih others,
      List.findSome?_cons]
    cases (if key l r.1 c = key l k c then filterOf? l c r else none) with
    | none => rfl
    | some x => rfl

/-- In a complete run, what an empty output has under the key of a filter is for the first route
that asks for a filter with this key. -/
theorem get?_extensions_first (named : plan.NamesClusters)
    (fresh : e.resources.extensions = .empty) (k : ObjectKey) (c : Concern) :
    (materialize l plan e).state.resources.extensions.get? (key l k c) =
      plan.routes.toList.findSome? fun r =>
        if key l r.1 c = key l k c then filterOf? l c r else none := by
  obtain ⟨fss, made⟩ := exists_filters (l := l) named
  rw [resources_materialize made, fresh]
  dsimp only
  rw [OrderedMap.get?_foldl_insertNew, OrderedMap.get?_empty, Option.none_or]
  exact lookup_filters made k c

/-- A route of the plan has a concern exactly if it asks for a filter about it. -/
theorem isActive_iff_filterOf? (named : plan.NamesClusters) {r : ObjectKey × RoutePlan}
    (listed : r ∈ plan.routes.toList) {c : Concern} :
    plan.IsActive r.1 c ↔ ∃ x, filterOf? l c r = some x := by
  have there : plan.routes.get? r.1 = some r.2 := OrderedMap.mem_toList.mp listed
  rw [Plan.isActive_iff_asksFilter named]
  simp only [filterOf?_eq_some_iff]
  constructor
  · rintro ⟨ps, q, s, found, given, asks⟩
    cases there.symm.trans found
    exact ⟨_, s, ps, given, asks, rfl⟩
  · rintro ⟨_, s, ps, given, asks, -⟩
    exact ⟨ps, r.2, s, there, given, asks⟩

theorem filterOf?_eq_none_iff (named : plan.NamesClusters) {r : ObjectKey × RoutePlan}
    (listed : r ∈ plan.routes.toList) {c : Concern} :
    filterOf? l c r = none ↔ ¬ plan.IsActive r.1 c := by
  rw [isActive_iff_filterOf? named listed, not_exists, Option.eq_none_iff_forall_ne_some]

/-- The filter of a route for a concern is there exactly if the route has the concern, and no route
before it that has it has a filter with this key. -/
theorem has_own_filter_iff (named : plan.NamesClusters)
    (fresh : e.resources.extensions = .empty) (k : ObjectKey) (c : Concern) :
    (∃ x, (materialize l plan e).state.resources.extensions.get? (key l k c) = some x ∧
        x.source? = some ("HTTPRoute/" ++ toString k)) ↔
      plan.IsActive k c ∧ ∃ before after, plan.routes.keys = before ++ k :: after ∧
        ∀ j ∈ before, key l j c = key l k c → ¬ plan.IsActive j c := by
  simp only [get?_extensions_first named fresh, List.findSome?_eq_some_iff,
    Option.ite_none_right_eq_some, ite_eq_right_iff]
  constructor
  · rintro ⟨x, ⟨before, r, after, split, ⟨same, own⟩, free⟩, source⟩
    have listed : ∀ q ∈ before ++ r :: after, q ∈ plan.routes.toList := by simp [split]
    obtain ⟨s, ps, -, -, rfl⟩ := filterOf?_eq_some_iff.mp own
    rw [source?_wrap, Option.some.injEq, String.append_right_inj] at source
    obtain ⟨rfl, -⟩ := eq_of_key_of_toString same source
    refine ⟨(isActive_iff_filterOf? named (listed r (by simp))).mpr ⟨_, own⟩,
      before.map Prod.fst, after.map Prod.fst, by simp [OrderedMap.keys, split], ?_⟩
    intro j mem shared
    obtain ⟨q, inside, rfl⟩ := List.mem_map.mp mem
    rw [← filterOf?_eq_none_iff named (listed q (by simp [inside]))]
    exact free q inside shared
  · rintro ⟨active, before, after, split, free⟩
    obtain ⟨front, back, entries, rfl, rest⟩ := List.map_eq_append_iff.mp split
    obtain ⟨r, tail, rfl, rfl, rfl⟩ := List.map_eq_cons_iff.mp rest
    have listed : ∀ q ∈ front ++ r :: tail, q ∈ plan.routes.toList := by simp [entries]
    obtain ⟨x, own⟩ := (isActive_iff_filterOf? (l := l) named (listed r (by simp))).mp active
    obtain ⟨s, ps, -, -, rfl⟩ := filterOf?_eq_some_iff.mp own
    refine ⟨_, ⟨front, r, tail, entries, ⟨rfl, own⟩, ?_⟩, source?_wrap l r.1 c ps⟩
    intro q inside shared
    rw [filterOf?_eq_none_iff named (listed q (by simp [inside]))]
    exact free q.1 (List.mem_map_of_mem inside) shared

end Emission

end GatewayMigration
