import GatewayMigration.Proofs.Lowering.Routes
import GatewayMigration.Proofs.Run.Progress
import GatewayMigration.Run.IngressNginx
/-!
# Planning as a list of edits

Planning lowers the Ingresses and edits the lowered plan, pass by pass, Ingress by Ingress. Main
statements:

* `runnerOf_completes_iff`, `runnerOf_of_complete`: passes in any order complete if they can read
  the Ingresses and make the edits, and then they make all edits and find what each of them finds;
* `run_maintains`, `annotate_keeps`: what every edit preserves holds in the end, and what no edit
  changes is as lowering left it, interrupted or not;
* `planFor_eq_edits`: without an interruption, the plan is the lowered one after all edits that the
  annotations ask for;
* `planFor_of_complete`: then the errors are those of lowering and of all passes.
-/

namespace GatewayMigration

theorem OrderedMap.contains_eq_of_keys {κ α β : Type} [DecidableEq κ] {m : OrderedMap κ α}
    {n : OrderedMap κ β} (same : m.keys = n.keys) : m.contains = n.contains := by
  funext k
  rw [Bool.eq_iff_iff, contains_iff, contains_iff, same]

/-! ## One pass -/

namespace AnnotationPass

theorem progress_apply (p : AnnotationPass) (c : PassContext) (s : PlanState) :
    (p.apply c s).progress = Progress.each (p.applyTo c) s (p.triggered c) := rfl

/-- Which routes a plan has is all that an Ingress's edits need to know of it. -/
theorem editsFor_congr {s t : PlanState} (same : s.plan.outline = t.plan.outline)
    (p : AnnotationPass) (c : PassContext) (i : Ingress) : p.editsFor c s i = p.editsFor c t i := by
  have keys : s.plan.routes.keys = t.plan.routes.keys := congrArg PlanOutline.routeKeys same
  unfold editsFor PassContext.presentRoutesOf
  rw [OrderedMap.contains_eq_of_keys keys]

theorem applyTo_eq_edits {p : AnnotationPass} {i : Ingress} (readable : (p.read i).stop = none)
    (c : PassContext) (s : PlanState) :
    p.applyTo c s i = Progress.each PlanState.edit s (p.editsFor c s i) := by
  unfold applyTo
  rw [readable]

/-- What the triggered Ingresses ask for, in the order in which the pass makes the edits. -/
def asks (p : AnnotationPass) (c : PassContext) (s : PlanState) : List Edit :=
  (p.triggered c).flatMap (p.editsFor c s)

/-- The pass is stopped by no Ingress that it looks at. -/
def CanRead (p : AnnotationPass) (c : PassContext) : Prop :=
  ∀ i ∈ p.triggered c, (p.read i).stop = none

/-- What is wrong with the triggered Ingresses. -/
def finds (p : AnnotationPass) (c : PassContext) : List FieldError :=
  (p.triggered c).flatMap fun i => (p.read i).errors

theorem asks_congr {s t : PlanState} (same : s.plan.outline = t.plan.outline)
    (p : AnnotationPass) (c : PassContext) : p.asks c s = p.asks c t := by
  unfold asks
  congr 1
  funext i
  exact editsFor_congr same p c i

theorem apply_eq_edits {p : AnnotationPass} {c : PassContext} {s t : PlanState}
    (same : s.plan.outline = t.plan.outline) (readable : p.CanRead c) :
    (p.apply c s).progress = Progress.each PlanState.edit s (p.asks c t) := by
  rw [progress_apply, asks, ← Progress.each_flatMap]
  -- No edit adds or removes a route, so the edits of all Ingresses can be read off the state `t`.
  refine Progress.each_congr (fun s => s.plan.outline = t.plan.outline) ?_ ?_ same
  · intro s i invariant
    rw [p.outline_applyTo, invariant]
  · intro s invariant i mem
    rw [applyTo_eq_edits (readable i mem), editsFor_congr invariant]

theorem canRead_of_apply {p : AnnotationPass} {c : PassContext} {s : PlanState}
    (complete : (p.apply c s).progress.stop = none) : p.CanRead c := by
  intro i mem
  rw [progress_apply] at complete
  obtain ⟨t, applied⟩ := Progress.exists_completes_of_mem complete mem
  unfold applyTo at applied
  split at applied
  · cases applied
  · assumption

end AnnotationPass

/-! ## Passes in any order -/

/-- The runner with these passes, in this order. -/
def runnerOf (ps : List AnnotationPass) : FeatureRunner PassContext PlanState :=
  ps.foldl (fun r p => FeatureRunner.register r p.toFeature) .empty

section Orders
variable {ps : List AnnotationPass} {c : PassContext} {s : PlanState}

theorem passes_runnerOf (distinct : (ps.map AnnotationPass.name).Nodup) :
    (runnerOf ps).passes = ps.map AnnotationPass.toFeature := by
  have names : ((ps.map fun p => (p.name, p.toFeature)).map Prod.fst).Nodup := by
    rw [List.map_map]
    exact distinct
  have registered : runnerOf ps = .ofList (ps.map fun p => (p.name, p.toFeature)) := by
    rw [OrderedMap.ofList, List.foldl_map]
    rfl
  rw [FeatureRunner.passes, registered, OrderedMap.values, OrderedMap.toList_ofList names,
    List.map_map]
  rfl

theorem progress_runnerOf (distinct : (ps.map AnnotationPass.name).Nodup) (c : PassContext)
    (s : PlanState) :
    ((runnerOf ps).run c s).progress =
      Progress.each (fun s p => (AnnotationPass.apply p c s).progress) s ps := by
  rw [FeatureRunner.progress_run, passes_runnerOf distinct, Progress.each, List.foldl_map]
  rfl

theorem progress_runnerOf_of_canRead (distinct : (ps.map AnnotationPass.name).Nodup)
    (readable : ∀ p ∈ ps, p.CanRead c) (s : PlanState) :
    ((runnerOf ps).run c s).progress =
      Progress.each PlanState.edit s (ps.flatMap fun p => p.asks c s) := by
  rw [progress_runnerOf distinct, ← Progress.each_flatMap]
  refine Progress.each_congr (fun t => t.plan.outline = s.plan.outline) ?_ ?_ rfl
  · intro t p invariant
    exact (p.outline_apply c t).trans invariant
  · intro t invariant p mem
    exact AnnotationPass.apply_eq_edits invariant (readable p mem)

theorem canRead_of_runnerOf (distinct : (ps.map AnnotationPass.name).Nodup)
    (complete : ((runnerOf ps).run c s).stop = none) : ∀ p ∈ ps, p.CanRead c := by
  intro p mem
  have complete : ((runnerOf ps).run c s).progress.stop = none := complete
  rw [progress_runnerOf distinct] at complete
  obtain ⟨t, applied⟩ := Progress.exists_completes_of_mem complete mem
  exact AnnotationPass.canRead_of_apply applied

/-- All passes complete if they can read the Ingresses and make the edits. -/
theorem runnerOf_completes_iff (distinct : (ps.map AnnotationPass.name).Nodup) :
    ((runnerOf ps).run c s).stop = none ↔
      (∀ p ∈ ps, p.CanRead c) ∧
        (Progress.each PlanState.edit s (ps.flatMap fun p => p.asks c s)).stop = none := by
  constructor
  · intro complete
    have readable := canRead_of_runnerOf distinct complete
    rw [← progress_runnerOf_of_canRead distinct readable]
    exact ⟨readable, complete⟩
  · rintro ⟨readable, made⟩
    rw [← progress_runnerOf_of_canRead distinct readable s] at made
    exact made

/-- A complete run makes all edits, and finds what all passes find. -/
theorem runnerOf_of_complete (distinct : (ps.map AnnotationPass.name).Nodup)
    (complete : ((runnerOf ps).run c s).stop = none) :
    (runnerOf ps).run c s =
      { state := (Progress.each PlanState.edit s (ps.flatMap fun p => p.asks c s)).state
        errors := ps.flatMap fun p => p.finds c } := by
  -- What passes find wrong is independent of the plan.
  have found : ∀ p ∈ (runnerOf ps).passes, ∀ t : PlanState,
      (p.apply c t).errors = (p.apply c {}).errors := by
    intro p mem t
    rw [passes_runnerOf distinct] at mem
    obtain ⟨q, -, rfl⟩ := List.mem_map.mp mem
    rfl
  have errors : (runnerOf ps).passes.flatMap (fun p => (p.apply c {}).errors) =
      ps.flatMap fun p => p.finds c := by
    rw [passes_runnerOf distinct, List.flatMap_map]
    rfl
  have state : ((runnerOf ps).run c s).state =
      (Progress.each PlanState.edit s (ps.flatMap fun p => p.asks c s)).state :=
    congrArg Progress.state
      (progress_runnerOf_of_canRead distinct (canRead_of_runnerOf distinct complete) s)
  rw [← errors, ← state]
  exact FeatureRunner.run_of_complete found complete

end Orders

/-! ## All passes -/

theorem nodup_names : (annotationPasses.map AnnotationPass.name).Nodup := by decide

/-- The edits that annotations ask for, in the order in which passes make them. -/
def askedEdits (c : PassContext) (s : PlanState) : List Edit :=
  annotationPasses.flatMap fun p => (p.triggered c).flatMap (p.editsFor c s)

/-- No pass is stopped by an Ingress that it looks at. -/
def Readable (c : PassContext) : Prop :=
  ∀ p ∈ annotationPasses, ∀ i ∈ p.triggered c, (p.read i).stop = none

theorem readable_of_complete {c : PassContext} {s : PlanState}
    (complete : (annotationRunner.run c s).stop = none) : Readable c :=
  canRead_of_runnerOf nodup_names complete

/-- All passes complete if they can read the Ingresses and make the edits. -/
theorem run_completes_iff {c : PassContext} {s : PlanState} :
    (annotationRunner.run c s).stop = none ↔
      Readable c ∧ (Progress.each PlanState.edit s (askedEdits c s)).stop = none :=
  runnerOf_completes_iff nodup_names

theorem run_eq_edits {c : PassContext} {s : PlanState}
    (complete : (annotationRunner.run c s).stop = none) :
    annotationRunner.run c s =
      { state := (Progress.each PlanState.edit s (askedEdits c s)).state
        errors := annotationPasses.flatMap fun p => p.finds c } :=
  runnerOf_of_complete nodup_names complete

/-- An Ingress of the context asks for the edit in one of the passes. -/
def IsAsked (c : PassContext) (e : Edit) : Prop :=
  ∃ p ∈ annotationPasses, ∃ i ∈ c.ingresses, ∃ routes present,
    e ∈ (p.read i).edits routes present

/-- What every edit preserves that is asked for holds after all passes, interrupted or not. -/
theorem run_maintains {inv : PlanState → Prop} {c : PassContext} {s : PlanState}
    (keeps : ∀ t e, IsAsked c e → inv t → inv (t.edit e).state) (start : inv s) :
    inv (annotationRunner.run c s).state := by
  have state : (annotationRunner.run c s).state = _ :=
    congrArg Progress.state (progress_runnerOf nodup_names c s)
  rw [state]
  refine Progress.each_maintains (fun s p mem start => ?_) start
  rw [AnnotationPass.progress_apply]
  refine Progress.each_maintains (fun s i looked start => ?_) start
  unfold AnnotationPass.applyTo
  split
  · exact start
  · exact Progress.each_maintains (fun t e asked => keeps t e
      ⟨p, mem, i, (List.mem_filter.mp looked).1, _, _, asked⟩) start

theorem run_keeps {γ : Type} (observe : PlanState → γ)
    (effect : ∀ s e, observe (s.edit e).state = observe s) (c : PassContext) (s : PlanState) :
    observe (annotationRunner.run c s).state = observe s :=
  @run_maintains (fun t => observe t = observe s) c s (fun t e _ same => (effect t e).trans same) rfl

/-! ## Routes of an Ingress -/

theorem mem_routesOf_iff {is : List Ingress} {i : Ingress} {k : ObjectKey} :
    k ∈ (PassContext.ofIngresses is).routesOf i ↔
      ∃ g, (ruleGroups is).get? k = some g ∧ i.key ∈ g.sources := by
  unfold PassContext.routesOf PassContext.ofIngresses
  simp only [List.mem_filterMap, Option.ite_none_right_eq_some, Option.some.injEq]
  constructor
  · rintro ⟨e, there, own, rfl⟩
    exact ⟨e.2, OrderedMap.mem_toList.mp there, own⟩
  · rintro ⟨g, kept, own⟩
    exact ⟨(k, g), OrderedMap.mem_toList.mpr kept, own, rfl⟩

theorem space_of_mem_routesOf {is : List Ingress} {i : Ingress} {k : ObjectKey}
    (mem : k ∈ (PassContext.ofIngresses is).routesOf i) : k.space = i.metadata.space := by
  obtain ⟨g, kept, own⟩ := mem_routesOf_iff.mp mem
  exact (space_of_mem_sources kept own).symm

/-! ## Planning -/

namespace IngressNginx

/-- Lowering and all passes, with any lookup of ports. -/
def annotate (is : List Ingress) (ports : Catalog PortLookup) : PassOutcome PlanState :=
  annotationRunner.run (.ofIngresses is) { plan := (lower is ports).1 }

theorem annotate_keeps {γ : Type} (observe : PlanState → γ)
    (effect : ∀ s e, observe (s.edit e).state = observe s) (is : List Ingress)
    (ports : Catalog PortLookup) :
    observe (annotate is ports).state = observe { plan := (lower is ports).1 } :=
  run_keeps observe effect (.ofIngresses is) _

theorem keys_routes_lower (is : List Ingress) (ports : Catalog PortLookup) :
    (lower is ports).1.routes.keys = (ruleGroups is).keys := by
  rw [routes_lower, OrderedMap.keys_mapValues]

/-- The routes of an Ingress are all in the lowered plan. -/
theorem presentRoutesOf_lower (is : List Ingress) (ports : Catalog PortLookup) (i : Ingress) :
    (PassContext.ofIngresses is).presentRoutesOf i (lower is ports).1 =
      (PassContext.ofIngresses is).routesOf i := by
  apply List.filter_eq_self.mpr
  intro k mem
  obtain ⟨g, kept, -⟩ := mem_routesOf_iff.mp mem
  rw [OrderedMap.contains_iff, keys_routes_lower]
  exact OrderedMap.mem_keys_iff.mpr ⟨g, kept⟩

/-- What an Ingress asks for in one pass, for all its routes. -/
def editsOf (s : Sources) (p : AnnotationPass) (i : Ingress) : List Edit :=
  let routes := (PassContext.ofIngresses s.ingresses).routesOf i
  (p.read i).edits routes routes

/-- All edits that the annotations of some Ingresses ask for. -/
def allEdits (is : List Ingress) : List Edit :=
  annotationPasses.flatMap fun p =>
    (is.filter p.isTriggered).flatMap (editsOf { ingresses := is } p)

theorem askedEdits_lower (is : List Ingress) (ports : Catalog PortLookup) :
    askedEdits (.ofIngresses is) { plan := (lower is ports).1 } = allEdits is := by
  unfold askedEdits allEdits editsOf
  congr 1
  funext p
  congr 1
  funext i
  rw [AnnotationPass.editsFor, presentRoutesOf_lower]

/-- Planning with any lookup of ports. -/
def planFor (is : List Ingress) (ports : Catalog PortLookup) : PassOutcome PlanState :=
  { annotate is ports with errors := (lower is ports).2 ++ (annotate is ports).errors }

theorem plan_eq_planFor (s : Sources) : plan s = planFor s.ingresses s.servicePorts := rfl

/-- The errors that passes find. -/
def passErrors (is : List Ingress) : List FieldError :=
  annotationPasses.flatMap fun p => (is.filter p.isTriggered).flatMap fun i => (p.read i).errors

theorem annotate_of_complete {is : List Ingress} {ports : Catalog PortLookup}
    (complete : (annotate is ports).stop = none) :
    annotate is ports =
      { state := (Progress.each PlanState.edit { plan := (lower is ports).1 } (allEdits is)).state
        errors := passErrors is } := by
  have outcome := run_eq_edits (show (annotationRunner.run _ _).stop = none from complete)
  rw [askedEdits_lower] at outcome
  exact outcome

/-- Without an interruption, all edits are made. -/
theorem planFor_eq_edits {is : List Ingress} {ports : Catalog PortLookup}
    (complete : (planFor is ports).stop = none) :
    let made := Progress.each PlanState.edit { plan := (lower is ports).1 } (allEdits is)
    (planFor is ports).state = made.state ∧ made.stop = none := by
  intro made
  have complete : (annotate is ports).stop = none := complete
  constructor
  · have state : (planFor is ports).state = (annotate is ports).state := rfl
    rw [state, annotate_of_complete complete]
  · have edits := (run_completes_iff.mp complete).2
    rw [askedEdits_lower] at edits
    exact edits

theorem planFor_of_complete {is : List Ingress} {ports : Catalog PortLookup}
    (complete : (planFor is ports).stop = none) :
    planFor is ports =
      { state := (allEdits is).foldl (fun s e => (s.edit e).state) { plan := (lower is ports).1 }
        errors := (lower is ports).2 ++ passErrors is } := by
  obtain ⟨-, made⟩ := planFor_eq_edits complete
  rw [← Progress.state_each_of_complete made]
  unfold planFor
  rw [annotate_of_complete complete]

end IngressNginx

end GatewayMigration
