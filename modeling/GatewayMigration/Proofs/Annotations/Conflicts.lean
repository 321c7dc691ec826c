import GatewayMigration.Proofs.Annotations.Settings
import Mathlib.Data.List.Chain
/-!
# When edits complete

A setting that takes the place of a different one is reported with both values, and a value with an
integer of too many digits has no text to report it with. Main statements:

* `stop_edit_eq_none_iff`: an edit is interrupted only by a value that it would have to report;
* `edits_complete_iff`: all edits are made exactly if the values that go into one field of one
  route, one after the other, are equal or can be shown.
-/

namespace GatewayMigration

namespace Setting

/-- A value that a message can show. -/
def IsShown (v : Setting) : Prop := v.diagnostic.isSome = true

/-- A value can be replaced by an equal one, and by another one if a message can show both. -/
def MayPrecede (v w : Setting) : Prop := v = w ∨ v.IsShown ∧ w.IsShown

end Setting

theorem filterMap_cons_eq_append {α β : Type} (f : α → Option β) (x : α) (xs : List α) :
    (x :: xs).filterMap f = (f x).toList ++ xs.filterMap f := by
  cases made : f x with
  | none => exact List.filterMap_cons_none made
  | some y => exact List.filterMap_cons_some made

/-- A value that is written comes after the one that was there, and the next one after what is there
now. -/
theorem isChain_write_iff {α : Type} {R : α → α → Prop} {before new : Option α} {later : List α} :
    (before.toList ++ (new.toList ++ later)).IsChain R ↔
      (∀ a, before = some a → ∀ b, new = some b → R a b) ∧
        ((new.or before).toList ++ later).IsChain R := by
  cases new with
  | none => simp
  | some b =>
    cases before with
    | none => simp
    | some a => simp [List.isChain_cons_cons]

theorem exists_conflictNotice?_iff (r : RoutePlan) (source : ObjectKey) {old new : Setting} :
    (∃ n, conflictNotice? r old new source = some n) ↔ old.IsShown ∧ new.IsShown := by
  unfold conflictNotice? Setting.IsShown
  cases old.diagnostic with
  | none => simp
  | some before =>
    cases new.diagnostic with
    | none => simp
    | some after => simp

namespace PlanState

theorem stop_writeSetting_eq_none_iff {s : PlanState} {k : ObjectKey} {v : Setting}
    {source : ObjectKey} :
    (s.writeSetting k v source).stop = none ↔
      ∀ old, s.setting? k v.field = some old → old.MayPrecede v := by
  unfold writeSetting setting?
  cases s.plan.routes.get? k with
  | none => exact iff_of_true rfl nofun
  | some r =>
    rw [Option.bind_some]
    unfold RoutePlan.conflict?
    dsimp only
    cases present : r.currentSettings.get v.field with
    | none => exact iff_of_true rfl nofun
    | some old =>
      simp only [Option.some.injEq, forall_eq']
      by_cases same : old = v
      · subst same
        rw [Option.filter_some_neg (by simp)]
        exact iff_of_true rfl (.inl rfl)
      · rw [Option.filter_some_pos (by simpa using same)]
        unfold Setting.MayPrecede
        rw [or_iff_right same, ← exists_conflictNotice?_iff r source]
        dsimp only
        cases conflictNotice? r old v source with
        | none => exact iff_of_false nofun nofun
        | some n => exact iff_of_true rfl ⟨n, rfl⟩

theorem stop_edit_eq_none_iff {s : PlanState} {e : Edit} :
    (s.edit e).stop = none ↔
      ∀ k f new, e.written? k f = some new →
        ∀ old, s.setting? k f = some old → old.MayPrecede new := by
  cases e with
  | setting j v source =>
    refine stop_writeSetting_eq_none_iff.trans ?_
    constructor
    · intro fine k f new wrote
      rw [Edit.written?_setting] at wrote
      split at wrote
      · rename_i here
        obtain ⟨rfl, rfl⟩ := here
        cases wrote
        exact fine
      · cases wrote
    · intro fine
      exact fine j v.field v (by rw [Edit.written?_setting, if_pos ⟨rfl, rfl⟩])
  | timeouts => exact iff_of_true rfl fun _ _ _ wrote => nomatch wrote
  | service => exact iff_of_true rfl fun _ _ _ wrote => nomatch wrote
  | tlsPolicy => exact iff_of_true rfl fun _ _ _ wrote => nomatch wrote
  | notify => exact iff_of_true rfl fun _ _ _ wrote => nomatch wrote

theorem edits_complete_iff {s : PlanState} {es : List Edit} :
    (Progress.each edit s es).stop = none ↔
      ∀ k f, s.HasRoute k →
        ((s.setting? k f).toList ++ es.filterMap (·.written? k f)).IsChain Setting.MayPrecede := by
  induction es generalizing s with
  | nil =>
    refine iff_of_true rfl fun k f _ => ?_
    rw [List.filterMap_nil, List.append_nil]
    cases s.setting? k f with
    | none => exact .nil
    | some v => exact .singleton v
  | cons e es ih =>
    rw [Progress.each_completes_cons, ih]
    simp only [filterMap_cons_eq_append, isChain_write_iff]
    constructor
    · rintro ⟨first, rest⟩ k f present
      rw [← setting?_edit first present]
      have fine := stop_edit_eq_none_iff.mp first k f
      exact ⟨fun old before new wrote => fine new wrote old before,
        rest k f (hasRoute_edit_iff.mpr present)⟩
    · intro chains
      have first : (s.edit e).stop = none := by
        rw [stop_edit_eq_none_iff]
        intro k f new wrote old before
        exact (chains k f (hasRoute_of_setting? before)).1 old before new wrote
      refine ⟨first, fun k f present => ?_⟩
      have present := hasRoute_edit_iff.mp present
      rw [setting?_edit first present]
      exact (chains k f present).2

end PlanState

end GatewayMigration
