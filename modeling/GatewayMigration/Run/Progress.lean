import GatewayMigration.Report.Fault
/-!
# Progress

How far an operation came: the state it reached, and what interrupted it if something did. An
interrupted operation keeps what it did before (`andThen_of_stop`), and what no step changes stays
(`each_preserves`).
-/

namespace GatewayMigration

structure Progress (σ : Type) where
  state : σ
  stop : Option Interruption := none

namespace Progress

variable {σ τ : Type}

/-- Go on from the state that was reached, unless something interrupted. -/
def andThen (p : Progress σ) (f : σ → Progress σ) : Progress σ :=
  match p.stop with
  | none => f p.state
  | some _ => p

/-- One step for every element, up to the first interruption. -/
def each (step : σ → τ → Progress σ) (s : σ) (xs : List τ) : Progress σ :=
  xs.foldl (fun p x => p.andThen fun s => step s x) ⟨s, none⟩

def toExcept (p : Progress σ) : Except Interruption σ :=
  match p.stop with
  | none => .ok p.state
  | some i => .error i

theorem andThen_of_stop {p : Progress σ} {i : Interruption} (f : σ → Progress σ)
    (h : p.stop = some i) : p.andThen f = p := by simp [andThen, h]

theorem foldl_of_stop {p : Progress σ} {i : Interruption} (step : σ → τ → Progress σ) (xs : List τ)
    (h : p.stop = some i) : xs.foldl (fun p x => p.andThen fun s => step s x) p = p := by
  induction xs with
  | nil => rfl
  | cons x xs ih => rw [List.foldl_cons, andThen_of_stop _ h]; exact ih

theorem each_cons (step : σ → τ → Progress σ) (s : σ) (x : τ) (xs : List τ) :
    each step s (x :: xs) = (step s x).andThen fun t => each step t xs := by
  simp only [each, List.foldl_cons]
  cases h : (step s x).stop with
  | none =>
    have hp : ({ state := s, stop := none : Progress σ }.andThen fun s => step s x) = step s x :=
      rfl
    have : step s x = ⟨(step s x).state, none⟩ := by rw [← h]
    rw [hp, this]
    rfl
  | some i =>
    have hp : ({ state := s, stop := none : Progress σ }.andThen fun s => step s x) = step s x :=
      rfl
    rw [hp, foldl_of_stop _ _ h, andThen_of_stop _ h]

/-- What no step changes, all steps together leave as it is, interrupted or not. -/
theorem each_preserves {γ : Type} (observe : σ → γ) {step : σ → τ → Progress σ}
    (effect : ∀ s x, observe (step s x).state = observe s) (s : σ) (xs : List τ) :
    observe (each step s xs).state = observe s := by
  induction xs generalizing s with
  | nil => rfl
  | cons x xs ih =>
    rw [each_cons, andThen]
    cases (step s x).stop with
    | none => exact (ih _).trans (effect s x)
    | some _ => exact effect s x

end Progress

end GatewayMigration
