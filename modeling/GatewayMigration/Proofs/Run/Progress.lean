import GatewayMigration.Run.FeatureRunner
import Mathlib.Data.List.Induction
/-!
# Runs of steps

When a run of steps comes to its end, and what it has done then. Main statements:

* `each_flatMap`: runs inside a run are one run;
* `each_completes_cons`: a run is complete if its first step and the run from there are;
* `each_completes_iff`: where interruptions do not depend on the state, no element interrupts;
* `each_maintains`: what every step preserves holds in the end, interrupted or not;
* `each_congr`: steps that do the same make the same run;
* `state_each_of_complete`, `observe_each`: a complete run does all its steps, and what is observed
  of it follows them;
* `progress_run`, `run_of_complete`: a runner runs its passes like steps, and a complete run has the
  errors of all of them.
-/

namespace GatewayMigration

namespace Progress

variable {σ τ υ : Type} {step : σ → τ → Progress σ}

theorem andThen_complete {p : Progress σ} (f : σ → Progress σ) (complete : p.stop = none) :
    p.andThen f = f p.state := by
  rw [andThen, complete]

theorem stop_andThen_eq_none_iff {p : Progress σ} {f : σ → Progress σ} :
    (p.andThen f).stop = none ↔ p.stop = none ∧ (f p.state).stop = none := by
  cases stopped : p.stop with
  | none => rw [andThen_complete f stopped, eq_self, true_and]
  | some why =>
    rw [andThen_of_stop f stopped, stopped]
    exact iff_of_false nofun (fun both => nomatch both.1)

theorem each_completes_cons {s : σ} {x : τ} {xs : List τ} :
    (each step s (x :: xs)).stop = none ↔
      (step s x).stop = none ∧ (each step (step s x).state xs).stop = none := by
  rw [each_cons, stop_andThen_eq_none_iff]

/-- Whether a step completes may not depend on the state for this. -/
theorem each_completes_iff {passes : τ → Prop} (free : ∀ s x, (step s x).stop = none ↔ passes x)
    {s : σ} {xs : List τ} : (each step s xs).stop = none ↔ ∀ x ∈ xs, passes x := by
  induction xs generalizing s with
  | nil => exact iff_of_true rfl nofun
  | cons x xs ih => rw [each_completes_cons, free, ih, List.forall_mem_cons]

theorem andThen_assoc (p : Progress σ) (f g : σ → Progress σ) :
    (p.andThen f).andThen g = p.andThen fun s => (f s).andThen g := by
  cases stopped : p.stop with
  | none => rw [andThen_complete _ stopped, andThen_complete _ stopped]
  | some why => rw [andThen_of_stop _ stopped, andThen_of_stop _ stopped, andThen_of_stop _ stopped]

theorem each_append (s : σ) (xs ys : List τ) :
    each step s (xs ++ ys) = (each step s xs).andThen fun t => each step t ys := by
  induction xs generalizing s with
  | nil => rfl
  | cons x xs ih =>
    rw [List.cons_append, each_cons, each_cons, andThen_assoc]
    congr 1
    exact funext ih

/-- A run whose steps are runs does the steps of all of them. -/
theorem each_flatMap (s : σ) (inner : υ → List τ) (ys : List υ) :
    each (fun s y => each step s (inner y)) s ys = each step s (ys.flatMap inner) := by
  induction ys generalizing s with
  | nil => rfl
  | cons y ys ih =>
    rw [each_cons, List.flatMap_cons, each_append]
    congr 1
    exact funext ih

/-- Every step of a complete run completes in some state. -/
theorem exists_completes_of_mem {s : σ} {x : τ} {xs : List τ}
    (complete : (each step s xs).stop = none) (mem : x ∈ xs) : ∃ t, (step t x).stop = none := by
  induction xs generalizing s with
  | nil => cases mem
  | cons y ys ih =>
    obtain ⟨first, rest⟩ := each_completes_cons.mp complete
    rcases List.mem_cons.mp mem with rfl | later
    · exact ⟨s, first⟩
    · exact ih rest later

/-- What every step preserves holds in the end, interrupted or not. -/
theorem each_maintains {inv : σ → Prop} {s : σ} {xs : List τ}
    (keeps : ∀ s, ∀ x ∈ xs, inv s → inv (step s x).state) (start : inv s) :
    inv (each step s xs).state := by
  induction xs generalizing s with
  | nil => exact start
  | cons x xs ih =>
    have first := keeps s x (.head _) start
    rw [each_cons]
    unfold andThen
    split
    · exact ih (fun t y mem => keeps t y (.tail _ mem)) first
    · exact first

/-- Steps that leave the state as it is make a run that does. -/
theorem each_of_still {s : σ} {xs : List τ} (still : ∀ x ∈ xs, step s x = ⟨s, none⟩) :
    each step s xs = ⟨s, none⟩ := by
  induction xs with
  | nil => rfl
  | cons x xs ih =>
    rw [each_cons, still x (.head _)]
    exact ih fun y mem => still y (.tail _ mem)

/-- A step that leaves every state as it is may be left out. -/
theorem each_skip {x : τ} (still : ∀ s, step s x = ⟨s, none⟩) (s : σ) (xs ys : List τ) :
    each step s (xs ++ x :: ys) = each step s (xs ++ ys) := by
  rw [each_append, each_append]
  congr 1
  funext t
  rw [each_cons, still t]
  rfl

/-- Runs of steps that do the same are the same. The invariant says in which states they have to. -/
theorem each_congr {step' : σ → τ → Progress σ} (inv : σ → Prop)
    (keeps : ∀ s x, inv s → inv (step s x).state) {s : σ} {xs : List τ}
    (agree : ∀ s, inv s → ∀ x ∈ xs, step s x = step' s x) (start : inv s) :
    each step s xs = each step' s xs := by
  induction xs generalizing s with
  | nil => rfl
  | cons x xs ih =>
    rw [each_cons, each_cons, ← agree s start x (.head _)]
    unfold andThen
    split
    · exact ih (fun t known y mem => agree t known y (.tail _ mem)) (keeps s x start)
    · rfl

theorem state_each_of_complete {σ τ : Type} {step : σ → τ → Progress σ} {s : σ}
    {xs : List τ} (complete : (each step s xs).stop = none) :
    (each step s xs).state = xs.foldl (fun s x => (step s x).state) s := by
  induction xs generalizing s with
  | nil => rfl
  | cons x xs ih =>
    obtain ⟨first, rest⟩ := each_completes_cons.mp complete
    rw [each_cons, andThen_complete _ first, ih rest, List.foldl_cons]

/-- What can be followed step by step can be followed along a complete run. -/
theorem observe_each {γ : Type} (observe : σ → γ) (follow : γ → τ → γ)
    (agree : ∀ s x, (step s x).stop = none → observe (step s x).state = follow (observe s) x) {s : σ}
    {xs : List τ} (complete : (each step s xs).stop = none) :
    observe (each step s xs).state = xs.foldl follow (observe s) := by
  induction xs generalizing s with
  | nil => rfl
  | cons x xs ih =>
    obtain ⟨first, rest⟩ := each_completes_cons.mp complete
    rw [each_cons, andThen_complete _ first, ih rest, agree s x first, List.foldl_cons]

end Progress

/-! ## Runners -/

/-- How far a pass came. -/
def PassOutcome.progress {σ : Type} (o : PassOutcome σ) : Progress σ := ⟨o.state, o.stop⟩

namespace FeatureRunner

variable {γ σ : Type}

theorem progress_runPass (context : γ) (o : PassOutcome σ) (p : FeaturePass γ σ) :
    (runPass context o p).progress =
      o.progress.andThen fun s => (p.apply context s).progress := by
  unfold runPass
  split
  · rename_i why stopped
    rw [Progress.andThen_of_stop _ (i := why) stopped]
  · rename_i running
    rw [Progress.andThen_complete _ running]
    unfold PassOutcome.progress
    dsimp only
    split
    · rename_i why stopped
      rw [stopped]
    · rename_i complete
      rw [complete]

theorem progress_run (r : FeatureRunner γ σ) (context : γ) (s : σ) :
    (r.run context s).progress =
      Progress.each (fun s p => (p.apply context s).progress) s r.passes :=
  (List.foldl_hom PassOutcome.progress fun o p => (progress_runPass context o p).symm).symm

theorem runPass_of_complete {o : PassOutcome σ} {p : FeaturePass γ σ}
    (complete : (runPass context o p).stop = none) :
    o.stop = none ∧ runPass context o p =
      { state := (p.apply context o.state).state
        errors := o.errors ++ (p.apply context o.state).errors } := by
  unfold runPass at complete ⊢
  cases running : o.stop with
  | some why =>
    rw [running] at complete
    exact absurd (running.symm.trans complete) nofun
  | none =>
    rw [running] at complete
    dsimp only at complete ⊢
    cases next : (p.apply context o.state).stop with
    | some why =>
      rw [next] at complete
      cases complete
    | none => exact ⟨rfl, rfl⟩

/-- Where the errors of passes do not depend on the state, a complete run has those of all of
them. -/
theorem run_of_complete {r : FeatureRunner γ σ} {errors : FeaturePass γ σ → List FieldError}
    (found : ∀ p ∈ r.passes, ∀ s, (p.apply context s).errors = errors p) {s : σ}
    (complete : (r.run context s).stop = none) :
    r.run context s = { state := (r.run context s).state, errors := r.passes.flatMap errors } := by
  unfold run at complete ⊢
  generalize r.passes = ps at found complete ⊢
  induction ps using List.reverseRecOn with
  | nil => rfl
  | append_singleton ps p ih =>
    rw [List.foldl_append, List.foldl_cons, List.foldl_nil] at complete ⊢
    obtain ⟨before, made⟩ := runPass_of_complete complete
    have earlier := ih (fun q mem => found q (List.mem_append_left [p] mem)) before
    rw [made, earlier, found p (by simp)]
    simp

end FeatureRunner

end GatewayMigration
