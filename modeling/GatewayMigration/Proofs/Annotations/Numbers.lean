import GatewayMigration.Proofs.Annotations.Values
/-!
# Malformed numbers

The passes for timeouts and for rate limits read integers. A malformed one is reported where it
stands, and its Ingress is left out by the pass as a whole. Main statements:

* `Ingress.reports_integers`: one error for each malformed number, and no other one;
* `AnnotationPass.ReadsNumbers`: what the two passes have in common;
* `AnnotationPass.ReadsNumbers.applyTo_of_errors`: an Ingress with an error leaves every state as
  it is;
* `malformed_skipped`: so the pass does with the other Ingresses what it does without this one.
-/

namespace GatewayMigration

/-! ## The numbers of one Ingress -/

/-- The error says that the value of an annotation is invalid. It stands at the annotation and shows
the value without the blanks around it. -/
structure FieldError.Rejects (e : FieldError) (i : Ingress) (key : String) : Prop where
  kind : e.kind = .invalid
  path : e.path = i.annotationPath key
  value : ∃ raw, i.annotation? key = some raw ∧ e.value = .string (Text.strip raw)

namespace Ingress

variable {i : Ingress}

/-- For numbers with the smallest ones allowed, one error for each that is malformed, in their
order. -/
inductive Reports (i : Ingress) : List (String × Int) → List FieldError → Prop
  | nil : Reports i [] []
  | malformed {key : String} {least : Int} {numbers : List (String × Int)} {e : FieldError}
      {es : List FieldError} (bad : i.IsMalformed least key) (rejects : e.Rejects i key)
      (others : Reports i numbers es) : Reports i ((key, least) :: numbers) (e :: es)
  | fine {key : String} {least : Int} {numbers : List (String × Int)} {es : List FieldError}
      (sound : ¬ i.IsMalformed least key) (others : Reports i numbers es) :
      Reports i ((key, least) :: numbers) es

theorem errors_integerFrom_cases (i : Ingress) (least : Int) (key : String) :
    (i.integerFrom least key).errors = [] ∨
      ∃ e : FieldError, (i.integerFrom least key).errors = [e] ∧ e.Rejects i key := by
  unfold integerFrom
  cases given : i.given? key with
  | none => exact .inl rfl
  | some value =>
    obtain ⟨raw, there, rfl, -⟩ := given?_eq_some_iff.mp given
    dsimp only
    cases Text.readInteger (Text.strip raw) with
    | error why => exact .inr ⟨_, rfl, rfl, rfl, raw, there, rfl⟩
    | ok n =>
      dsimp only
      split
      · exact .inr ⟨_, rfl, rfl, rfl, raw, there, rfl⟩
      · exact .inl rfl

/-- What is wrong with numbers that are read one after the other. -/
theorem reports_integers (i : Ingress) (numbers : List (String × Int)) :
    i.Reports numbers (numbers.flatMap fun l => (i.integerFrom l.2 l.1).errors) := by
  induction numbers with
  | nil => exact .nil
  | cons l numbers ih =>
    obtain ⟨key, least⟩ := l
    rw [List.flatMap_cons]
    dsimp only
    rcases i.errors_integerFrom_cases least key with sound | ⟨e, one, rejects⟩
    · rw [sound]
      exact .fine (errors_integerFrom_eq_nil_iff.mp sound) ih
    · have bad : i.IsMalformed least key := by
        by_contra sound
        rw [errors_integerFrom_eq_nil_iff.mpr sound] at one
        cases one
      rw [one]
      exact .malformed bad rejects ih

end Ingress

/-! ## Passes that read numbers -/

/-- A context with some of the Ingresses of another one. They have the routes that they have
there. -/
structure PassContext.IsPart (d c : PassContext) (is : List Ingress) : Prop where
  ingresses : d.ingresses = is
  routes : ∀ i ∈ d.ingresses, d.routesOf i = c.routesOf i

namespace AnnotationPass

/-- Which routes an Ingress has is all that a pass takes from the groups. -/
theorem applyTo_congr {c d : PassContext} {i : Ingress} (p : AnnotationPass)
    (same : d.routesOf i = c.routesOf i) (s : PlanState) : p.applyTo d s i = p.applyTo c s i := by
  unfold applyTo editsFor PassContext.presentRoutesOf
  rw [same]

/-- The pass reports what is wrong with these numbers and nothing else, and asks for nothing where
it reports something. -/
structure ReadsNumbers (p : AnnotationPass) (numbers : List (String × Int)) : Prop where
  triggers : ∀ l ∈ numbers, l.1 ∈ p.triggers
  errors : ∀ i, (p.read i).errors = numbers.flatMap fun l => (i.integerFrom l.2 l.1).errors
  silent : ∀ i, (p.read i).errors ≠ [] → ∀ routes present, (p.read i).edits routes present = []

namespace ReadsNumbers

variable {p : AnnotationPass} {numbers : List (String × Int)} {c : PassContext} {s : PlanState}
  {i : Ingress} (reads : p.ReadsNumbers numbers)

include reads

theorem isTriggered_of_errors (wrong : (p.read i).errors ≠ []) : p.isTriggered i = true := by
  rw [reads.errors] at wrong
  obtain ⟨e, mem⟩ := List.exists_mem_of_ne_nil _ wrong
  obtain ⟨l, listed, own⟩ := List.mem_flatMap.mp mem
  have malformed : i.IsMalformed l.2 l.1 := by
    by_contra sound
    rw [Ingress.errors_integerFrom_eq_nil_iff.mpr sound] at own
    cases own
  obtain ⟨value, given⟩ := Option.isSome_iff_exists.mp malformed.1
  exact isTriggered_of_given? (reads.triggers l listed) given

/-- What the pass finds is what is wrong with any of the Ingresses. -/
theorem finds_eq (c : PassContext) :
    p.finds c = c.ingresses.flatMap fun i => (p.read i).errors := by
  unfold finds triggered
  rw [flatMap_filter]
  congr 1
  funext i
  split
  · rfl
  · rename_i untriggered
    by_contra wrong
    exact untriggered (reads.isTriggered_of_errors fun sound => wrong sound.symm)

/-- An Ingress with an error leaves every state as it is. -/
theorem applyTo_of_errors (wrong : (p.read i).errors ≠ []) (readable : (p.read i).stop = none)
    (c : PassContext) (s : PlanState) : p.applyTo c s i = ⟨s, none⟩ := by
  rw [applyTo_eq_edits readable, editsFor, reads.silent i wrong]
  rfl

/-- So does it in a pass that completes. -/
theorem applyTo_of_complete (complete : (p.apply c s).stop = none) (mem : i ∈ c.ingresses)
    (wrong : (p.read i).errors ≠ []) (t : PlanState) : p.applyTo c t i = ⟨t, none⟩ :=
  have looked : i ∈ p.triggered c :=
    List.mem_filter.mpr ⟨mem, reads.isTriggered_of_errors wrong⟩
  reads.applyTo_of_errors wrong (canRead_of_apply complete i looked) c t

/-- The pass does with the other Ingresses what it does without one that has an error. -/
theorem progress_without {d : PassContext} {before after : List Ingress}
    (split : c.ingresses = before ++ i :: after) (without : d.IsPart c (before ++ after))
    (wrong : (p.read i).errors ≠ []) (still : ∀ t, p.applyTo c t i = ⟨t, none⟩) :
    (p.apply d s).progress = (p.apply c s).progress := by
  have triggered : p.triggered c =
      before.filter p.isTriggered ++ i :: after.filter p.isTriggered := by
    unfold AnnotationPass.triggered
    rw [split, List.filter_append, List.filter_cons_of_pos (reads.isTriggered_of_errors wrong)]
  have others : p.triggered d = before.filter p.isTriggered ++ after.filter p.isTriggered := by
    unfold AnnotationPass.triggered
    rw [without.ingresses, List.filter_append]
  rw [progress_apply, progress_apply, triggered, Progress.each_skip still, ← others]
  refine Progress.each_congr (fun _ => True) (fun _ _ _ => trivial) ?_ trivial
  intro t _ j mem
  exact p.applyTo_congr (without.routes j (List.mem_filter.mp mem).1) t

end ReadsNumbers

end AnnotationPass

namespace Timeouts

def limits : List (String × Int) :=
  [(AnnotationKey.proxyConnectTimeout, 0), (AnnotationKey.proxyReadTimeout, 0),
   (AnnotationKey.proxySendTimeout, 0)]

theorem readsNumbers : pass.ReadsNumbers limits where
  triggers := by decide
  errors i := by simp [pass, errors, limits, connect, receive, send]
  silent i wrong routes present := by
    have wrong : errors i ≠ [] := wrong
    have nothing : edits i present = [] := by simp [edits, wrong]
    exact nothing

end Timeouts

namespace RateLimit

theorem errors_reading (i : Ingress) : (reading i).errors = errors i := by
  unfold reading
  split
  · rfl
  · rfl

theorem readsNumbers : pass.ReadsNumbers limits where
  triggers := by decide
  errors i := by
    have found : (pass.read i).errors = errors i := errors_reading i
    simp [found, errors, limits, rps, rpm, multiplier, connections]
  silent i wrong routes present := by
    have wrong : errors i ≠ [] := errors_reading i ▸ wrong
    have nothing : (reading i).edits routes present = [] := by
      unfold reading
      split
      · rfl
      · simp [wrong]
    exact nothing

end RateLimit

/-- The passes that read numbers, with the annotations that hold them and the smallest ones
allowed. -/
def numericPasses : List (AnnotationPass × List (String × Int)) :=
  [(Timeouts.pass, Timeouts.limits), (RateLimit.pass, RateLimit.limits)]

theorem readsNumbers_of_mem {p : AnnotationPass} {numbers : List (String × Int)}
    (listed : (p, numbers) ∈ numericPasses) : p.ReadsNumbers numbers := by
  simp only [numericPasses, List.mem_cons, List.not_mem_nil, or_false] at listed
  rcases listed with own | own
  · cases own
    exact Timeouts.readsNumbers
  · cases own
    exact RateLimit.readsNumbers

/-- Every malformed number is reported once, and nothing else is. An Ingress with an error leaves
plan and notifications as they are, and with the other Ingresses the pass does what it does where
this one is absent. -/
theorem malformed_skipped {p : AnnotationPass} {numbers : List (String × Int)}
    (listed : (p, numbers) ∈ numericPasses) {c : PassContext} {s : PlanState}
    (complete : (p.apply c s).stop = none) :
    (p.apply c s).errors = c.ingresses.flatMap (fun i => (p.read i).errors) ∧
      (∀ i : Ingress, i.Reports numbers (p.read i).errors) ∧
      ∀ before i after, c.ingresses = before ++ i :: after → (p.read i).errors ≠ [] →
        (∀ t, p.applyTo c t i = ⟨t, none⟩) ∧
          ∀ d : PassContext, d.IsPart c (before ++ after) →
            p.apply d s =
              { state := (p.apply c s).state
                errors := (before ++ after).flatMap fun j => (p.read j).errors } := by
  have reads := readsNumbers_of_mem listed
  refine ⟨reads.finds_eq c, fun i => ?_, fun before i after split wrong => ?_⟩
  · rw [reads.errors]
    exact i.reports_integers numbers
  · have mem : i ∈ c.ingresses := split ▸ List.mem_append_right before (.head after)
    have still := reads.applyTo_of_complete complete mem wrong
    refine ⟨still, fun d without => ?_⟩
    have same : (p.apply d s).progress = (p.apply c s).progress :=
      reads.progress_without split without wrong still
    have state : (p.apply d s).state = (p.apply c s).state := congrArg Progress.state same
    have stop : (p.apply d s).stop = none := (congrArg Progress.stop same).trans complete
    have errors : (p.apply d s).errors = _ := reads.finds_eq d
    rw [without.ingresses] at errors
    calc
      p.apply d s =
          { state := (p.apply d s).state
            errors := (p.apply d s).errors
            stop := (p.apply d s).stop } := rfl
      _ = _ := by rw [state, errors, stop]

/-- Three Ingresses of one route. Three numbers of the second one are malformed. -/
def rates : List Ingress :=
  [.plain ⟨"shop", "web"⟩ [("a.b", "one")] [] (.ofList [(AnnotationKey.limitRps, "5"),
     (AnnotationKey.limitBurstMultiplier, "2")]),
   .plain ⟨"shop", "api"⟩ [("a.b", "two")] [] (.ofList [(AnnotationKey.limitRps, "ten"),
     (AnnotationKey.limitRpm, "  "), (AnnotationKey.limitBurstMultiplier, "0"),
     (AnnotationKey.limitConnections, " -1 "), (AnnotationKey.limitReqZone, "rate=9r/s")]),
   .plain ⟨"shop", "docs"⟩ [("a.b", "three")] [] (.ofList [(AnnotationKey.limitConnections, "3")])]

/-- The limits are those of the two other Ingresses, with the second one or without. -/
theorem rates_skipped :
    let c := PassContext.ofIngresses rates
    let s : PlanState := { plan := (lower rates .empty).1 }
    (RateLimit.pass, RateLimit.limits) ∈ numericPasses ∧ (RateLimit.pass.apply c s).stop = none ∧
      ((RateLimit.pass.apply c s).errors.map fun e => (e.kind, e.value)) =
        [(.invalid, .string "ten"), (.invalid, .string "0"), (.invalid, .string "-1")] ∧
      (RateLimit.pass.apply c s).state ≠ s ∧
      RateLimit.pass.apply (.ofIngresses (rates.eraseIdx 1)) s =
        { state := (RateLimit.pass.apply c s).state, errors := [] } := by
  intro c s
  have listed : (RateLimit.pass, RateLimit.limits) ∈ numericPasses := .tail _ (.head _)
  have complete : (RateLimit.pass.apply c s).stop = none := by decide +kernel
  obtain ⟨found, reported, skipped⟩ := malformed_skipped listed complete
  have wrong : (RateLimit.pass.read rates[1]).errors ≠ [] := by decide +kernel
  obtain ⟨-, others⟩ := skipped [rates[0]] rates[1] [rates[2]] rfl wrong
  have without : (PassContext.ofIngresses (rates.eraseIdx 1)).IsPart c ([rates[0]] ++ [rates[2]]) :=
    ⟨rfl, by decide +kernel⟩
  refine ⟨listed, complete, ?_, by decide +kernel, ?_⟩
  · rw [found]
    decide +kernel
  · rw [others _ without]
    congr 1

end GatewayMigration
