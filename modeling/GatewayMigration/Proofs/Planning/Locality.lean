import GatewayMigration.Proofs.Annotations.Completion
import GatewayMigration.Proofs.Lowering.Locality
/-!
# Planning, namespace by namespace

An annotation reads and writes nothing outside the namespace of its Ingress. Main statements:

* `PlanState.inSpace_edit_of_isIn`, `PlanState.inSpace_edit_of_isIn_ne`: the part of a namespace
  follows the edits in it, and no others;
* `filter_allEdits`: the edits in a namespace are those that its own Ingresses ask for;
* `planFor_completes_iff`: the Ingresses can be planned together if those of each namespace can;
* `inSpace_planFor`: what is planned for a namespace depends on its own Ingresses only.
-/

namespace GatewayMigration

/-! ## Edits in a namespace -/

def Notification.isIn (space : String) (n : Notification) : Bool :=
  n.source.any fun k => k.space == space

/-- All that the edit touches is in this namespace. -/
def Edit.isIn (space : String) : Edit → Bool
  | .setting k _ source => k.space == space && source.space == space
  | .timeouts k _ => k.space == space
  | .service k _ => k.space == space
  | .tlsPolicy k _ n => k.space == space && n.isIn space
  | .notify n => n.isIn space

def PlanState.inSpace (space : String) (s : PlanState) : PlanState where
  plan := s.plan.inSpace space
  notices := s.notices.filter (·.isIn space)

theorem Notification.isIn_of_source {n : Notification} {k : ObjectKey} (source : n.source = some k)
    (space : String) : n.isIn space = (k.space == space) := by
  rw [isIn, source, Option.any_some]

theorem Edit.isIn_of_isFrom {i : Ingress} {routes : List ObjectKey} {e : Edit}
    (own : e.IsFrom i routes) (here : ∀ k ∈ routes, k.space = i.metadata.space) (space : String) :
    e.isIn space = (i.metadata.space == space) := by
  cases e with
  | setting k v source =>
    obtain ⟨mem, rfl⟩ := own
    simp [isIn, here k mem, Ingress.key]
  | timeouts k t => simp [isIn, here k own]
  | service k v =>
    obtain ⟨b, -, rfl⟩ := own
    rfl
  | tlsPolicy k p n =>
    obtain ⟨⟨b, -, rfl⟩, named⟩ := own
    simp [isIn, Notification.isIn_of_source named.source, BackendTls.policyKey, Ingress.key]
  | notify n => exact Notification.isIn_of_source own.source space

namespace Catalog

variable {α : Type} {space : String} {k : ObjectKey}

theorem get?_inSpace (own : k.space = space) (c : Catalog α) :
    (inSpace space c).get? k = c.get? k := OrderedMap.get?_filterKeys (by simpa using own) c

end Catalog

theorem source_of_conflictNotice? {r : RoutePlan} {old new : Setting} {source : ObjectKey}
    {n : Notification} (noticed : conflictNotice? r old new source = some n) :
    n.source = some source := by
  unfold conflictNotice? at noticed
  simp only [Option.bind_eq_bind, Option.bind_eq_some_iff] at noticed
  obtain ⟨before, -, after, -, made⟩ := noticed
  cases made
  rfl

namespace PlanState

variable {space : String}

theorem inSpace_notify (s : PlanState) (n : Notification) :
    (s.notify n).inSpace space =
      if n.isIn space then (s.inSpace space).notify n else s.inSpace space := by
  unfold notify inSpace
  dsimp only
  rw [List.filter_append]
  by_cases own : n.isIn space = true
  · simp [own]
  · simp [own]

theorem inSpace_updateRoute (s : PlanState) (k : ObjectKey) (r : RoutePlan) :
    (s.updateRoute k r).inSpace space =
      if k.space = space then (s.inSpace space).updateRoute k r else s.inSpace space := by
  unfold updateRoute inSpace Plan.inSpace
  dsimp only
  rw [Catalog.inSpace_insert]
  split
  · rfl
  · rfl

/-- Edits in a namespace read and write nothing outside it. -/
theorem inSpace_edit_of_isIn (s : PlanState) {e : Edit} (own : e.isIn space = true) :
    (s.edit e).state.inSpace space = ((s.inSpace space).edit e).state := by
  cases e with
  | setting k v source =>
    simp only [Edit.isIn, Bool.and_eq_true, beq_iff_eq] at own
    obtain ⟨here, named⟩ := own
    have same : (s.inSpace space).plan.routes.get? k = s.plan.routes.get? k :=
      Catalog.get?_inSpace here _
    unfold edit writeSetting
    dsimp only
    rw [same]
    split
    · rfl
    · rename_i r there
      split
      · rw [inSpace_updateRoute, if_pos here]
      · split
        · rename_i n noticed
          have mine : n.isIn space = true := by
            rw [Notification.isIn_of_source (source_of_conflictNotice? noticed), named]
            exact beq_self_eq_true space
          rw [inSpace_notify, if_pos mine, inSpace_updateRoute, if_pos here]
        · rfl
  | timeouts k t =>
    have here : k.space = space := by simpa [Edit.isIn] using own
    have same : (s.inSpace space).plan.routes.get? k = s.plan.routes.get? k :=
      Catalog.get?_inSpace here _
    unfold edit writeTimeouts
    dsimp only
    rw [same]
    split
    · rfl
    · rw [inSpace_updateRoute, if_pos here]
  | service k v =>
    have here : k.space = space := by simpa [Edit.isIn] using own
    have same : (s.inSpace space).plan.services.get? k = s.plan.services.get? k :=
      Catalog.get?_inSpace here _
    unfold edit writeService
    dsimp only
    rw [same]
    unfold inSpace Plan.inSpace
    dsimp only
    rw [Catalog.inSpace_insert, if_pos here]
  | tlsPolicy k p n =>
    simp only [Edit.isIn, Bool.and_eq_true, beq_iff_eq] at own
    obtain ⟨here, mine⟩ := own
    have same : (s.inSpace space).plan.tlsPolicies.contains k = s.plan.tlsPolicies.contains k :=
      congrArg Option.isSome (Catalog.get?_inSpace here _)
    unfold edit addPolicy
    dsimp only
    rw [same]
    split
    · rfl
    · rw [inSpace_notify, if_pos mine]
      unfold inSpace Plan.inSpace
      dsimp only
      rw [Catalog.inSpace_insert, if_pos here]
  | notify n =>
    have mine : n.isIn space = true := own
    exact (inSpace_notify s n).trans (if_pos mine)

/-- Edits in another namespace change nothing in this one. -/
theorem inSpace_edit_of_isIn_ne (s : PlanState) {e : Edit} {home : String}
    (own : e.isIn home = true) (apart : home ≠ space) :
    (s.edit e).state.inSpace space = s.inSpace space := by
  have other : ∀ n : Notification, n.isIn home = true → n.isIn space = false := by
    intro n there
    unfold Notification.isIn at there ⊢
    cases source : n.source with
    | none => rfl
    | some k =>
      rw [source] at there
      have named : k.space = home := by simpa using there
      simpa [named] using apart
  cases e with
  | setting k v source =>
    simp only [Edit.isIn, Bool.and_eq_true, beq_iff_eq] at own
    obtain ⟨there, named⟩ := own
    have elsewhere : ¬ k.space = space := fun here => apart (there.symm.trans here)
    unfold edit writeSetting
    dsimp only
    split
    · rfl
    · split
      · rw [inSpace_updateRoute, if_neg elsewhere]
      · split
        · rename_i n noticed
          have foreign : n.isIn space = false := by
            rw [Notification.isIn_of_source (source_of_conflictNotice? noticed), named]
            simpa using apart
          rw [inSpace_notify, foreign, inSpace_updateRoute, if_neg elsewhere]
          rfl
        · rfl
  | timeouts k t =>
    have there : k.space = home := by simpa [Edit.isIn] using own
    unfold edit writeTimeouts
    dsimp only
    split
    · rfl
    · rw [inSpace_updateRoute, if_neg (fun here => apart (there.symm.trans here))]
  | service k v =>
    have there : k.space = home := by simpa [Edit.isIn] using own
    unfold edit writeService inSpace Plan.inSpace
    dsimp only
    rw [Catalog.inSpace_insert, if_neg (fun here => apart (there.symm.trans here))]
  | tlsPolicy k p n =>
    simp only [Edit.isIn, Bool.and_eq_true, beq_iff_eq] at own
    obtain ⟨there, named⟩ := own
    unfold edit addPolicy
    dsimp only
    split
    · rfl
    · rw [inSpace_notify, other n named]
      unfold inSpace Plan.inSpace
      dsimp only
      rw [Catalog.inSpace_insert, if_neg (fun here => apart (there.symm.trans here))]
      rfl
  | notify n =>
    refine (inSpace_notify s n).trans ?_
    rw [other n own]
    rfl

end PlanState

/-! ## All edits -/

namespace IngressNginx

variable {is : List Ingress} {ports : Catalog PortLookup} {space : String}

theorem routesOf_filter {i : Ingress} (own : i.metadata.space = space) :
    (PassContext.ofIngresses (is.filter (·.metadata.space == space))).routesOf i =
      (PassContext.ofIngresses is).routesOf i := by
  unfold PassContext.routesOf PassContext.ofIngresses
  dsimp only
  rw [← inSpace_ruleGroups]
  unfold Catalog.inSpace OrderedMap.filterKeys
  dsimp only
  rw [List.filterMap_filter]
  apply List.filterMap_congr
  intro e mem
  by_cases source : i.key ∈ e.2.sources
  · have same := space_of_mem_sources (OrderedMap.mem_toList.mp mem) source
    have here : e.1.space = space := same.symm.trans own
    simp [here]
  · simp [source]

theorem isIn_of_mem_editsOf {p : AnnotationPass} (listed : p ∈ annotationPasses) {i : Ingress}
    {e : Edit} (asked : e ∈ editsOf { ingresses := is } p i) (space : String) :
    e.isIn space = (i.metadata.space == space) := by
  have confined := isConfined_of_mem_annotationPasses listed
  have own : e.IsFrom i _ := confined.edits i _ e asked
  exact Edit.isIn_of_isFrom own (fun k mem => space_of_mem_routesOf mem) space

theorem filter_allEdits (is : List Ingress) (space : String) :
    (allEdits is).filter (·.isIn space) =
      allEdits (is.filter (·.metadata.space == space)) := by
  unfold allEdits
  rw [List.filter_flatMap]
  apply List.flatMap_congr
  intro p listed
  rw [filter_flatMap_of _ (fun i : Ingress => i.metadata.space == space)
    (fun i _ e mem => isIn_of_mem_editsOf listed mem space), List.filter_filter,
    List.filter_filter]
  have order : (is.filter fun i => i.metadata.space == space && p.isTriggered i) =
      is.filter fun i => p.isTriggered i && i.metadata.space == space := by
    simp only [Bool.and_comm]
  rw [order]
  apply List.flatMap_congr
  intro i mem
  have own : i.metadata.space = space := by
    simpa using (Bool.and_eq_true_iff.mp (List.mem_filter.mp mem).2).2
  unfold editsOf
  dsimp only
  rw [routesOf_filter own]

end IngressNginx

/-! ## Outcomes -/

/-- The part of a namespace: its objects, the errors about its Ingresses and the notifications that
they are the source of. -/
def PassOutcome.inSpace (space : String) (o : PassOutcome PlanState) : PassOutcome PlanState where
  state := o.state.inSpace space
  errors := o.errors.filter (·.isIn space)
  stop := o.stop
  stoppedIn := o.stoppedIn

namespace IngressNginx

variable {is : List Ingress} {ports : Catalog PortLookup}

theorem filter_passErrors (is : List Ingress) (space : String) :
    (passErrors is).filter (·.isIn space) =
      passErrors (is.filter (·.metadata.space == space)) := by
  unfold passErrors
  rw [List.filter_flatMap]
  apply List.flatMap_congr
  intro p listed
  have own : ∀ i : Ingress, ∀ e ∈ (p.read i).errors,
      e.isIn space = (i.metadata.space == space) := by
    intro i e mem
    rw [FieldError.isIn, (isConfined_of_mem_annotationPasses listed).errors i e mem]
    rfl
  rw [filter_flatMap_of _ (fun i : Ingress => i.metadata.space == space) (fun i _ => own i),
    List.filter_filter, List.filter_filter]
  simp only [Bool.and_comm]

theorem givenFor_filter {α : Type} (is : List Ingress) (k : ObjectKey)
    (value : Ingress → Option α) :
    givenFor (is.filter (·.metadata.space == k.space)) k value = givenFor is k value := by
  unfold givenFor
  rw [List.filterMap_filter]
  apply List.filterMap_congr
  intro i _
  by_cases own : i.metadata.space = k.space
  · simp [own, routesOf_filter own]
  · have foreign : k ∉ (PassContext.ofIngresses is).routesOf i :=
      fun mem => own (space_of_mem_routesOf mem).symm
    simp [own, foreign]

theorem givenFor_filter_of_ne {α : Type} (is : List Ingress) {k : ObjectKey} {space : String}
    (apart : k.space ≠ space) (value : Ingress → Option α) :
    givenFor (is.filter (·.metadata.space == space)) k value = [] := by
  apply List.filterMap_eq_nil_iff.mpr
  intro i mem
  have own : i.metadata.space = space := by simpa using (List.mem_filter.mp mem).2
  rw [if_neg]
  intro there
  exact apart ((space_of_mem_routesOf there).trans own)

/-- All Ingresses can be planned together if those of each namespace can. -/
theorem planFor_completes_iff :
    (planFor is ports).stop = none ↔
      ∀ space, (planFor (is.filter (·.metadata.space == space)) ports).stop = none := by
  have annotated : ∀ is, (planFor is ports).stop = (annotate is ports).stop := fun _ => rfl
  simp only [annotated, annotate_completes_iff_readable, readable_iff]
  constructor
  · rintro ⟨⟨marked, short⟩, chains⟩ space
    refine ⟨⟨fun i mem => marked i (List.mem_filter.mp mem).1,
      fun i mem => short i (List.mem_filter.mp mem).1⟩, ?_⟩
    intro k f
    by_cases own : k.space = space
    · subst own
      rw [givenFor_filter]
      exact chains k f
    · rw [givenFor_filter_of_ne is own]
      exact .nil
  · intro parts
    have mem_part : ∀ i ∈ is, i ∈ is.filter (·.metadata.space == i.metadata.space) :=
      fun i mem => List.mem_filter.mpr ⟨mem, beq_self_eq_true _⟩
    refine ⟨⟨fun i mem => (parts i.metadata.space).1.1 i (mem_part i mem),
      fun i mem => (parts i.metadata.space).1.2 i (mem_part i mem)⟩, ?_⟩
    intro k f
    have chain := (parts k.space).2 k f
    rwa [givenFor_filter] at chain

theorem inSpace_planFor_of_complete (complete : (planFor is ports).stop = none) (space : String) :
    (planFor is ports).inSpace space =
      planFor (is.filter (·.metadata.space == space)) ports := by
  have part := planFor_completes_iff.mp complete space
  rw [planFor_of_complete complete, planFor_of_complete part, ← filter_allEdits,
    ← inSpace_lower, ← filter_passErrors, ← filter_errors_lower, ← List.filter_append]
  unfold PassOutcome.inSpace
  dsimp only
  congr 1
  have start : PlanState.inSpace space { plan := (lower is ports).1 } =
      { plan := (lower is ports).1.inSpace space } := rfl
  rw [← start]
  have home : ∀ e ∈ allEdits is, ∃ i : Ingress, ∀ space,
      e.isIn space = (i.metadata.space == space) := by
    intro e mem
    obtain ⟨p, listed, asked⟩ := List.mem_flatMap.mp mem
    obtain ⟨i, -, own⟩ := List.mem_flatMap.mp asked
    exact ⟨i, isIn_of_mem_editsOf listed own⟩
  apply foldl_filter_hom (PlanState.inSpace space) (Edit.isIn space)
  · intro s e mem other
    obtain ⟨i, isIn⟩ := home e mem
    have there : e.isIn i.metadata.space = true := (isIn _).trans (beq_self_eq_true _)
    refine s.inSpace_edit_of_isIn_ne there ?_
    rw [isIn] at other
    simpa using other
  · intro s e mem own
    exact s.inSpace_edit_of_isIn own

/-- The part of a namespace is what planning its own Ingresses alone gives. So it does not matter
which Ingresses of other namespaces there are, and where they stand between its own. -/
theorem inSpace_planFor (complete : (planFor is ports).stop = none) (space : String) :
    (planFor is ports).inSpace space = planFor (is.filter (·.metadata.space == space)) ports ∧
      ∀ js : List Ingress,
        (∀ n, js.filter (·.metadata.space == n) = is.filter (·.metadata.space == n)) →
          (planFor js ports).stop = none ∧
            (planFor js ports).inSpace space = (planFor is ports).inSpace space := by
  have own := inSpace_planFor_of_complete complete space
  refine ⟨own, fun js interleaved => ?_⟩
  have completes : (planFor js ports).stop = none := by
    rw [planFor_completes_iff]
    intro n
    rw [interleaved n]
    exact planFor_completes_iff.mp complete n
  refine ⟨completes, ?_⟩
  rw [own, inSpace_planFor_of_complete completes space, interleaved space]

/-- Ingresses of two namespaces, one after the other in turn. -/
def interleaved : List Ingress :=
  [.plain ⟨"a", "web"⟩ [("x.io", "one")] [] (.ofList [(AnnotationKey.limitRps, "10")]),
   .plain ⟨"b", "web"⟩ [("x.io", "two")] [] (.ofList [(AnnotationKey.limitRps, "twenty")]),
   .plain ⟨"a", "api"⟩ [("x.io", "three")] [] (.ofList [(AnnotationKey.limitRps, "30")]),
   .plain ⟨"b", "api"⟩ [("y.io", "four")] [] (.ofList [(AnnotationKey.sslRedirect, "true")])]

/-- The Ingresses of one namespace can as well come before those of the other. -/
theorem inSpace_interleaved :
    let sorted := interleaved.filter (·.metadata.space == "a") ++
      interleaved.filter (·.metadata.space == "b")
    (planFor interleaved .empty).stop = none ∧
      (planFor interleaved .empty).inSpace "b" =
        planFor (interleaved.filter (·.metadata.space == "b")) .empty ∧
      (planFor sorted .empty).inSpace "b" = (planFor interleaved .empty).inSpace "b" := by
  intro sorted
  have complete : (planFor interleaved .empty).stop = none := by decide +kernel
  have spaces : ∀ i ∈ interleaved ++ sorted, i.metadata.space = "a" ∨ i.metadata.space = "b" := by
    decide +kernel
  have same : ∀ n, sorted.filter (·.metadata.space == n) =
      interleaved.filter (·.metadata.space == n) := by
    intro n
    by_cases known : n = "a" ∨ n = "b"
    · rcases known with rfl | rfl
      · rfl
      · rfl
    · have none : ∀ i ∈ interleaved ++ sorted, ¬ (i.metadata.space == n) = true := by
        intro i mem own
        rw [beq_iff_eq] at own
        exact known (own ▸ spaces i mem)
      rw [List.filter_eq_nil_iff.mpr fun i mem => none i (List.mem_append_right _ mem),
        List.filter_eq_nil_iff.mpr fun i mem => none i (List.mem_append_left _ mem)]
  obtain ⟨own, others⟩ := inSpace_planFor complete "b"
  exact ⟨complete, own, (others sorted same).2⟩

end IngressNginx

end GatewayMigration
