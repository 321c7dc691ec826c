import GatewayMigration.Proofs.Collections
import GatewayMigration.Proofs.Run.Progress
/-!
# Registration

A runner is made by registering passes, under names that may come again. What a run calls can be
written down by the passes themselves: a recorded pass does what the pass does and adds its call to
a list behind the state. Main statements:

* `names_registered`, `isLast_of_registered`: which passes are registered, and in which order;
* `forget_run_recorded`: recorded passes do what the passes do;
* `exists_leads`: the calls of a run, each on the state that the one before left;
* `registered_run`: a run makes these calls and no other ones, up to the first interruption.
-/

namespace GatewayMigration

variable {γ σ : Type} {c : γ} {s t : σ} {ps : List (FeaturePass γ σ)} {p : FeaturePass γ σ}

namespace FeatureRunner

/-! ## What is registered -/

/-- The runner after a history of registrations. -/
def registered (ps : List (FeaturePass γ σ)) : FeatureRunner γ σ := ps.foldl register .empty

theorem registered_eq_ofList (ps : List (FeaturePass γ σ)) :
    registered ps = .ofList (ps.map fun p => (p.name, p)) := by
  rw [OrderedMap.ofList, List.foldl_map]
  rfl

theorem get?_registered_iff {name : String} :
    (registered ps).get? name = some p ↔ p.name = name ∧ IsLast (·.name = p.name) ps p := by
  rw [registered_eq_ofList, OrderedMap.get?_ofList_iff]
  constructor
  · rintro ⟨before, after, split, fresh⟩
    obtain ⟨first, rest, rfl, rfl, behind⟩ := List.map_eq_append_iff.mp split
    obtain ⟨q, last, rfl, same, rfl⟩ := List.map_eq_cons_iff.mp behind
    cases same
    refine ⟨rfl, first, last, rfl, rfl, fun q mem own => fresh ?_⟩
    rw [List.map_map]
    exact List.mem_map.mpr ⟨q, mem, own⟩
  · rintro ⟨rfl, before, after, rfl, -, later⟩
    refine ⟨before.map fun p => (p.name, p), after.map fun p => (p.name, p), by simp, ?_⟩
    rw [List.map_map]
    rintro again
    obtain ⟨q, mem, own⟩ := List.mem_map.mp again
    exact later q mem own

/-- Of the passes that were registered under one name, the last one is there. -/
theorem isLast_of_registered (mem : p ∈ (registered ps).passes) :
    IsLast (·.name = p.name) ps p := by
  obtain ⟨name, found⟩ := OrderedMap.mem_values_iff.mp mem
  exact (get?_registered_iff.mp found).2

/-- There is one pass for each name, where the name was registered first. -/
theorem names_registered (ps : List (FeaturePass γ σ)) :
    (registered ps).passes.map (·.name) = (ps.map (·.name)).eraseDups := by
  have keys : (registered ps).keys = (ps.map (·.name)).eraseDups := by
    rw [registered_eq_ofList, OrderedMap.keys_ofList, List.map_map]
    rfl
  rw [← keys, passes, OrderedMap.values, OrderedMap.keys, List.map_map]
  apply List.map_congr_left
  intro e mem
  exact (get?_registered_iff.mp (OrderedMap.mem_toList.mp mem)).1

end FeatureRunner

/-! ## Calls -/

/-- The pass, on a state with the calls that were made: it adds its call, and the state it is
given. -/
def FeaturePass.recorded (p : FeaturePass γ σ) :
    FeaturePass γ (σ × List (FeaturePass γ σ × σ)) where
  name := p.name
  apply c s := { p.apply c s.1 with state := ((p.apply c s.1).state, s.2 ++ [(p, s.1)]) }

/-- Without the calls. -/
def PassOutcome.forget {τ : Type} (o : PassOutcome (σ × τ)) : PassOutcome σ :=
  { o with state := o.state.1 }

/-- The calls are complete, and each is made on the state that the one before left. -/
inductive Leads (c : γ) : σ → List (FeaturePass γ σ × σ) → σ → Prop
  | done {s : σ} : Leads c s [] s
  | call {s t : σ} {p : FeaturePass γ σ} {calls : List (FeaturePass γ σ × σ)}
      (complete : (p.apply c s).stop = none) (rest : Leads c (p.apply c s).state calls t) :
      Leads c s ((p, s) :: calls) t

/-- The errors of all calls. -/
def errorsOf (c : γ) (calls : List (FeaturePass γ σ × σ)) : List FieldError :=
  calls.flatMap fun call => (call.1.apply c call.2).errors

/-- Passes can be called in their order up to one that is interrupted, or up to the end. -/
theorem exists_leads (c : γ) (s : σ) (ps : List (FeaturePass γ σ)) :
    ∃ calls t, Leads c s calls t ∧ (calls.map Prod.fst = ps ∨
      ∃ p rest why, ps = calls.map Prod.fst ++ p :: rest ∧ (p.apply c t).stop = some why) := by
  induction ps generalizing s with
  | nil => exact ⟨[], s, .done, .inl rfl⟩
  | cons p ps ih =>
    cases stopped : (p.apply c s).stop with
    | some why => exact ⟨[], s, .done, .inr ⟨p, ps, why, rfl, stopped⟩⟩
    | none =>
      obtain ⟨calls, t, leads, ends⟩ := ih (p.apply c s).state
      refine ⟨(p, s) :: calls, t, .call stopped leads, ?_⟩
      rcases ends with rfl | ⟨q, rest, why, rfl, stopped⟩
      · exact .inl rfl
      · exact .inr ⟨q, rest, why, rfl, stopped⟩

namespace FeatureRunner

theorem runPass_of_stop {o : PassOutcome σ} {why : Interruption} (stopped : o.stop = some why)
    (c : γ) (p : FeaturePass γ σ) : runPass c o p = o := by
  rw [runPass, stopped]

theorem foldl_runPass_of_stop {o : PassOutcome σ} {why : Interruption}
    (stopped : o.stop = some why) (c : γ) (ps : List (FeaturePass γ σ)) :
    ps.foldl (runPass c) o = o := by
  induction ps with
  | nil => rfl
  | cons p ps ih => rw [List.foldl_cons, runPass_of_stop stopped, ih]

theorem runPass_recorded_of_complete (complete : (p.apply c s).stop = none)
    (calls : List (FeaturePass γ σ × σ)) (es : List FieldError) :
    runPass c { state := (s, calls), errors := es } p.recorded =
      { state := ((p.apply c s).state, calls ++ [(p, s)])
        errors := es ++ (p.apply c s).errors } := by
  unfold runPass FeaturePass.recorded
  dsimp only
  rw [complete]

theorem runPass_recorded_of_stop {why : Interruption} (stopped : (p.apply c s).stop = some why)
    (calls : List (FeaturePass γ σ × σ)) (es : List FieldError) :
    runPass c { state := (s, calls), errors := es } p.recorded =
      { state := ((p.apply c s).state, calls ++ [(p, s)])
        errors := es
        stop := some why
        stoppedIn := some p.name } := by
  unfold runPass FeaturePass.recorded
  dsimp only
  rw [stopped]

/-- Complete calls are made one after the other, and their errors are collected. -/
theorem foldl_recorded_of_leads {calls : List (FeaturePass γ σ × σ)} (leads : Leads c s calls t)
    (earlier : List (FeaturePass γ σ × σ)) (es : List FieldError) :
    ((calls.map Prod.fst).map (·.recorded)).foldl (runPass c)
        { state := (s, earlier), errors := es } =
      { state := (t, earlier ++ calls), errors := es ++ errorsOf c calls } := by
  induction leads generalizing earlier es with
  | done => simp [errorsOf]
  | call complete rest ih =>
    rw [List.map_cons, List.map_cons, List.foldl_cons, runPass_recorded_of_complete complete, ih]
    simp [errorsOf]

/-! ## Runs -/

/-- The same passes, recorded. -/
def recorded (r : FeatureRunner γ σ) : FeatureRunner γ (σ × List (FeaturePass γ σ × σ)) :=
  r.mapValues fun _ p => p.recorded

theorem passes_recorded (r : FeatureRunner γ σ) :
    r.recorded.passes = r.passes.map (·.recorded) := by
  unfold passes recorded OrderedMap.values OrderedMap.mapValues
  rw [List.map_map, List.map_map]
  rfl

theorem forget_runPass_recorded (c : γ) (o : PassOutcome (σ × List (FeaturePass γ σ × σ)))
    (p : FeaturePass γ σ) : (runPass c o p.recorded).forget = runPass c o.forget p := by
  obtain ⟨⟨s, calls⟩, es, stop, stoppedIn⟩ := o
  cases stop with
  | some why => rfl
  | none =>
    unfold runPass FeaturePass.recorded PassOutcome.forget
    dsimp only
    cases (p.apply c s).stop with
    | some why => rfl
    | none => rfl

/-- Recorded passes do what the passes do. -/
theorem forget_run_recorded (r : FeatureRunner γ σ) (c : γ) (s : σ) :
    (r.recorded.run c (s, [])).forget = r.run c s := by
  unfold run
  rw [passes_recorded, List.foldl_map]
  exact (List.foldl_hom PassOutcome.forget fun o p => (forget_runPass_recorded c o p).symm).symm

end FeatureRunner

/-- Of each name the pass that was registered last is there, at the place where the name came first.
A run calls these passes in their order, each once and on the state that the one before left. Either
all complete, and their errors are returned, or one is interrupted; then it is the last one that is
called, and the interruption comes out of the run with what was done up to it. -/
theorem registered_run (ps : List (FeaturePass γ σ)) :
    let r := FeatureRunner.registered ps
    r.passes.map (·.name) = (ps.map (·.name)).eraseDups ∧
      (∀ p ∈ r.passes, IsLast (·.name = p.name) ps p) ∧
      ∀ (c : γ) (s : σ), ∃ calls t, Leads c s calls t ∧
        ((calls.map Prod.fst = r.passes ∧
            r.run c s = { state := t, errors := errorsOf c calls } ∧
            (r.recorded.run c (s, [])).state.2 = calls) ∨
          ∃ p rest why, r.passes = calls.map Prod.fst ++ p :: rest ∧
            (p.apply c t).stop = some why ∧
            r.run c s =
              { state := (p.apply c t).state
                errors := errorsOf c calls
                stop := some why
                stoppedIn := some p.name } ∧
            (r.recorded.run c (s, [])).state.2 = calls ++ [(p, t)]) := by
  intro r
  refine ⟨FeatureRunner.names_registered ps, fun p => FeatureRunner.isLast_of_registered,
    fun c s => ?_⟩
  obtain ⟨calls, t, leads, ends⟩ := exists_leads c s r.passes
  have start : r.recorded.run c (s, []) =
      (r.passes.map (·.recorded)).foldl (FeatureRunner.runPass c) { state := (s, []) } := by
    rw [← FeatureRunner.passes_recorded]
    rfl
  have called := FeatureRunner.foldl_recorded_of_leads leads [] []
  rw [List.nil_append, List.nil_append] at called
  refine ⟨calls, t, leads, ?_⟩
  rw [← FeatureRunner.forget_run_recorded]
  rcases ends with all | ⟨p, rest, why, split, stopped⟩
  · left
    have made : r.recorded.run c (s, []) = { state := (t, calls), errors := errorsOf c calls } := by
      rw [start, ← all, called]
    exact ⟨all, congrArg PassOutcome.forget made, by rw [made]⟩
  · right
    have made : r.recorded.run c (s, []) =
        { state := ((p.apply c t).state, calls ++ [(p, t)])
          errors := errorsOf c calls
          stop := some why
          stoppedIn := some p.name } := by
      rw [start, split, List.map_append, List.foldl_append, called, List.map_cons, List.foldl_cons,
        FeatureRunner.runPass_recorded_of_stop stopped, FeatureRunner.foldl_runPass_of_stop rfl]
    exact ⟨p, rest, why, split, stopped, congrArg PassOutcome.forget made, by rw [made]⟩

/-- A pass that writes something down, and may be interrupted then. -/
def noting (name note : String) (stop : Option Interruption) : FeaturePass Unit (List String) :=
  ⟨name, fun _ notes => { state := notes ++ [note], stop := stop }⟩

/-- The first pass is replaced after the second one was registered. The third one is interrupted. -/
def history : List (FeaturePass Unit (List String)) :=
  [noting "tls" "old" none, noting "limit" "limit" none, noting "tls" "new" none,
   noting "auth" "auth" (some .longInteger), noting "late" "late" none]

/-- The replacement runs first, and the last pass is not called. -/
theorem history_run :
    let r := FeatureRunner.registered history
    r.passes.map (·.name) = ["tls", "limit", "auth", "late"] ∧
      ∃ calls p rest, Leads () [] calls ["new", "limit"] ∧
        r.passes = calls.map Prod.fst ++ p :: rest ∧ p.name = "auth" ∧
        calls.map (fun call => (call.1.name, call.2)) = [("tls", []), ("limit", ["new"])] ∧
        (r.run () []).state = ["new", "limit", "auth"] ∧
        (r.run () []).stop = some .longInteger := by
  intro r
  obtain ⟨names, -, runs⟩ := registered_run history
  obtain ⟨calls, t, leads, ⟨-, outcome, -⟩ | ⟨p, rest, why, split, -, -, log⟩⟩ := runs () []
  · cases congrArg PassOutcome.stop outcome
  · have called : (calls ++ [(p, t)]).map (fun call => (call.1.name, call.2)) =
        [("tls", []), ("limit", ["new"])] ++ [("auth", ["new", "limit"])] := by
      rw [← log]
      rfl
    rw [List.map_append] at called
    obtain ⟨earlier, last⟩ := List.append_inj' called rfl
    obtain ⟨own, rfl⟩ : p.name = "auth" ∧ t = ["new", "limit"] := by simpa using last
    exact ⟨names, calls, p, rest, leads, split, own, earlier, rfl, rfl⟩

end GatewayMigration
