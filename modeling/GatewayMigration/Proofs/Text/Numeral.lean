import GatewayMigration.Text.Integer
import Mathlib.Data.List.Induction
import Mathlib.Data.List.TakeWhile
/-!
# Numerals

Runs of decimal digits as they stand in longer texts. Main statements:

* `spells_iff`: a run of digits writes one number, the one that is computed;
* `Spells.readDigits`: the number is read unless there are too many digits;
* `span_isDigit_iff`: a text has one way to start with a run of digits that ends where it must.
-/

namespace GatewayMigration.Text

/-- The digits, of any script, write the number in base ten. There is at least one digit. -/
inductive Spells : List Char → Nat → Prop
  | digit {c : Char} {d : Nat} (value : digitValue? c = some d) : Spells [c] d
  | more {ds : List Char} {n : Nat} {c : Char} {d : Nat} (front : Spells ds n)
      (value : digitValue? c = some d) : Spells (ds ++ [c]) (10 * n + d)

theorem digitsValue_concat (ds : List Char) (c : Char) :
    digitsValue (ds ++ [c]) = 10 * digitsValue ds + (digitValue? c).getD 0 := by
  unfold digitsValue
  rw [List.foldl_append, List.foldl_cons, List.foldl_nil]

theorem isDigit_of_digitValue? {c : Char} {d : Nat} (value : digitValue? c = some d) :
    isDigit c = true := by
  rw [isDigit, value, Option.isSome_some]

theorem Spells.isRun {ds : List Char} {n : Nat} (spells : Spells ds n) :
    ds ≠ [] ∧ (∀ c ∈ ds, isDigit c = true) ∧ digitsValue ds = n := by
  induction spells with
  | @digit c d value =>
    refine ⟨List.cons_ne_nil _ _, fun a mem => ?_, ?_⟩
    · rw [List.mem_singleton.mp mem]
      exact isDigit_of_digitValue? value
    · simp [digitsValue, value]
  | @more ds n c d front value ih =>
    obtain ⟨-, digits, same⟩ := ih
    refine ⟨List.concat_ne_nil _ _, fun a mem => ?_, ?_⟩
    · rcases List.mem_append.mp mem with mem | mem
      · exact digits a mem
      · rw [List.mem_singleton.mp mem]
        exact isDigit_of_digitValue? value
    · rw [digitsValue_concat, same, value, Option.getD_some]

theorem spells_digitsValue {ds : List Char} (filled : ds ≠ [])
    (digits : ∀ c ∈ ds, isDigit c = true) : Spells ds (digitsValue ds) := by
  induction ds using List.reverseRecOn with
  | nil => exact absurd rfl filled
  | append_singleton ds c ih =>
    obtain ⟨d, value⟩ := Option.isSome_iff_exists.mp (digits c (by simp))
    rw [digitsValue_concat, value, Option.getD_some]
    by_cases first : ds = []
    · subst first
      rw [List.nil_append, digitsValue, List.foldl_nil, Nat.mul_zero, Nat.zero_add]
      exact .digit value
    · exact .more (ih first fun a mem => digits a (List.mem_append_left _ mem)) value

theorem spells_iff {ds : List Char} {n : Nat} :
    Spells ds n ↔ ds ≠ [] ∧ (∀ c ∈ ds, isDigit c = true) ∧ digitsValue ds = n := by
  constructor
  · exact Spells.isRun
  · rintro ⟨filled, digits, rfl⟩
    exact spells_digitsValue filled digits

theorem readDigits_of_short {ds : List Char} (short : ds.length ≤ maxIntegerDigits) :
    readDigits ds = .ok (digitsValue ds) := if_neg (Nat.not_lt.mpr short)

theorem readDigits_of_long {ds : List Char} (long : maxIntegerDigits < ds.length) :
    readDigits ds = .error (.tooLong ds.length) := if_pos long

/-- A run of digits that is not too long is read as the number that it writes. -/
theorem Spells.readDigits {ds : List Char} {n : Nat} (spells : Spells ds n)
    (short : ds.length ≤ maxIntegerDigits) : readDigits ds = .ok n := by
  rw [readDigits_of_short short, spells.isRun.2.2]

/-! ## Runs at the start of a text -/

/-- The run of digits at the start of a text is as long as it can be. -/
theorem span_isDigit_iff {cs ds rest : List Char} :
    cs.takeWhile isDigit = ds ∧ cs.dropWhile isDigit = rest ↔
      cs = ds ++ rest ∧ (∀ c ∈ ds, isDigit c = true) ∧ ∀ c ∈ rest.head?, isDigit c = false := by
  constructor
  · rintro ⟨rfl, rfl⟩
    refine ⟨List.takeWhile_append_dropWhile.symm, fun c => List.mem_takeWhile_imp, ?_⟩
    intro c next
    have stopped := List.head?_dropWhile_not isDigit cs
    rw [Option.mem_def.mp next] at stopped
    exact stopped
  · rintro ⟨rfl, digits, ends⟩
    have stays : rest.dropWhile isDigit = rest := dropWhile_eq_self ends
    have none : rest.takeWhile isDigit = [] := by
      have whole := List.takeWhile_append_dropWhile (p := isDigit) (l := rest)
      rw [stays] at whole
      exact List.append_left_eq_self.mp whole
    rw [List.takeWhile_append_of_pos digits, List.dropWhile_append_of_pos digits, stays, none,
      List.append_nil]
    exact ⟨rfl, rfl⟩

end GatewayMigration.Text
