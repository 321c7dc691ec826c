import GatewayMigration.Text.Integer
import Mathlib.Algebra.Group.Nat.Defs
/-!
# Integers that have a text

Main statements:

* `integerText?_isSome_iff`: an integer has a text if it has no more digits than the limit allows;
* `isShort_of_readInteger`: so every integer that was read from a text has one.
-/

namespace GatewayMigration.Text

/-- An integer of at most `maxIntegerDigits` digits. -/
def IsShort (i : Int) : Prop := i.natAbs < 10 ^ maxIntegerDigits

theorem integerText?_isSome_iff {i : Int} : (integerText? i).isSome = true ↔ IsShort i := by
  have digits : (toString i.natAbs).length ≤ maxIntegerDigits ↔ IsShort i :=
    Nat.length_repr_le_iff (by decide)
  unfold integerText?
  rw [← digits]
  dsimp only
  split
  · rename_i long
    exact iff_of_false nofun (Nat.not_le.mpr long)
  · rename_i fits
    exact iff_of_true rfl (Nat.not_lt.mp fits)

theorem digitsValue_lt (cs : List Char) : digitsValue cs < 10 ^ cs.length := by
  have run : ∀ (cs : List Char) (n : Nat),
      cs.foldl (fun n c => 10 * n + (digitValue? c).getD 0) n < (n + 1) * 10 ^ cs.length := by
    intro cs
    induction cs with
    | nil =>
      intro n
      simp
    | cons c cs ih =>
      intro n
      have digit : (digitValue? c).getD 0 < 10 := by
        cases value : digitValue? c with
        | none => simp
        | some d => exact digitValue?_lt value
      have step : 10 * n + (digitValue? c).getD 0 + 1 ≤ (n + 1) * 10 := by omega
      calc
        (c :: cs).foldl (fun n c => 10 * n + (digitValue? c).getD 0) n
          < (10 * n + (digitValue? c).getD 0 + 1) * 10 ^ cs.length := ih _
        _ ≤ (n + 1) * 10 * 10 ^ cs.length := Nat.mul_le_mul_right _ step
        _ = (n + 1) * 10 ^ (c :: cs).length := by
          rw [List.length_cons, Nat.pow_succ', Nat.mul_assoc]
  have bound := run cs 0
  rw [Nat.zero_add, Nat.one_mul] at bound
  exact bound

theorem isShort_of_readDigits {cs : List Char} {n : Nat} (read : readDigits cs = .ok n) :
    IsShort n := by
  unfold readDigits at read
  split at read
  · cases read
  · rename_i fits
    cases read
    calc
      (digitsValue cs : Int).natAbs = digitsValue cs := rfl
      _ < 10 ^ cs.length := digitsValue_lt cs
      _ ≤ 10 ^ maxIntegerDigits := Nat.pow_le_pow_right (by decide) (Nat.not_lt.mp fits)

theorem isShort_of_readInteger {s : String} {i : Int} (read : readInteger s = .ok i) :
    IsShort i := by
  unfold readInteger at read
  dsimp only at read
  split at read
  · cases read
  · rename_i ds _
    cases digits : readDigits ds with
    | error why =>
      rw [digits] at read
      cases read
    | ok n =>
      rw [digits] at read
      cases read
      have short := isShort_of_readDigits digits
      unfold signed
      split
      · unfold IsShort
        rw [Int.natAbs_neg]
        exact short
      · exact short

theorem isShort_of_le {i j : Int} (nonneg : 0 ≤ i) (le : i ≤ j) (short : IsShort j) :
    IsShort i := by
  have smaller : i.natAbs ≤ j.natAbs := by omega
  exact Nat.lt_of_le_of_lt smaller short

end GatewayMigration.Text
