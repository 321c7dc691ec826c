import GatewayMigration.Annotations.ProxySettings
import GatewayMigration.Plan.Schema
import GatewayMigration.Proofs.Text.Case
import GatewayMigration.Proofs.Text.Numeral
import Mathlib.Algebra.Group.Nat.Defs
/-!
# The grammar of body sizes

A size is one of three words that lift the limit, or a run of digits with at most one unit letter
behind it. The letter may be in any case: every character whose lower case is the letter stands for
the unit. Main statements:

* `StandsFor`: the grammar, with the bytes that a text stands for;
* `unitFactor?_eq_some_iff`: the factors are those of the unit letters, in whatever case;
* `standsFor_of_parseBodySize` and `parseBodySize_of_standsFor`: what is read belongs to the
  grammar, and what belongs to it is read unless there are too many digits;
* `sizes_recognized`: a text has its bytes or is refused, and the bytes make a valid size.
-/

namespace GatewayMigration

/-- A size as written and in bytes is valid exactly if the bytes are not negative. -/
theorem BodySize.read_eq_valid_iff {written : String} {n : Int} :
    BodySize.codec.read (Value.object [("raw", .string written), ("bytes", .int n)]) =
      .valid ⟨written, n⟩ ↔ 0 ≤ n := by
  have fields : BodySize.codec.read (Value.object [("raw", .string written), ("bytes", .int n)]) =
      Checked.along [] (Checked.seq (.valid (BodySize.mk written))
        (Checked.under (.field "bytes")
          (if n < 0 then .problem .greaterThanEqual else .valid n))) := rfl
  rw [fields]
  split
  · rename_i negative
    exact iff_of_false nofun (Int.not_le.mpr negative)
  · rename_i nonneg
    exact iff_of_true rfl (Int.not_lt.mp nonneg)

namespace ProxySettings

/-! ## The grammar -/

/-- The unit letters, with the powers of 1024 they stand for. -/
def unitLetters : List (Char × Nat) := [('k', 1), ('m', 2), ('g', 3)]

/-- What stands behind the digits, with its power of 1024: nothing, or one letter in any case. -/
inductive HasUnit : List Char → Nat → Prop
  | bytes : HasUnit [] 0
  | letter {c l : Char} {k : Nat} (listed : (l, k) ∈ unitLetters)
      (lower : Text.lowerChar c = [l]) : HasUnit [c] k

/-- The bytes that a text without blanks around it stands for. Without a limit they are zero. -/
inductive StandsFor (value : String) : Int → Prop
  | unlimited (word : Text.lower value ∈ ["0", "-1", "unlimited"]) : StandsFor value 0
  | sized {ds us : List Char} {d k : Nat} (split : value.toList = ds ++ us)
      (number : Text.Spells ds d) (unit : HasUnit us k) :
      StandsFor value ((d * 1024 ^ k : Nat) : Int)

theorem StandsFor.nonneg {value : String} {n : Int} (stands : StandsFor value n) : 0 ≤ n := by
  cases stands with
  | unlimited word => exact Int.le_refl 0
  | sized split number unit => exact Int.natCast_nonneg _

/-! ## Units -/

theorem lowerChar_eq_k_iff {c : Char} :
    Text.lowerChar c = ['k'] ↔ c = 'k' ∨ c = 'K' ∨ c = '\u212a' := by
  rw [Text.lowerChar_eq_singleton_iff ['k', 'K', '\u212a'] (by decide)
    (by decide +kernel) (by decide +kernel)]
  simp only [List.mem_cons, List.not_mem_nil, or_false]

theorem lowerChar_eq_m_iff {c : Char} : Text.lowerChar c = ['m'] ↔ c = 'm' ∨ c = 'M' := by
  rw [Text.lowerChar_eq_singleton_iff ['m', 'M'] (by decide) (by decide +kernel)
    (by decide +kernel)]
  simp only [List.mem_cons, List.not_mem_nil, or_false]

theorem lowerChar_eq_g_iff {c : Char} : Text.lowerChar c = ['g'] ↔ c = 'g' ∨ c = 'G' := by
  rw [Text.lowerChar_eq_singleton_iff ['g', 'G'] (by decide) (by decide +kernel)
    (by decide +kernel)]
  simp only [List.mem_cons, List.not_mem_nil, or_false]

theorem unitFactor?_of_lowerChar {c l : Char} {k : Nat} (listed : (l, k) ∈ unitLetters)
    (lower : Text.lowerChar c = [l]) : unitFactor? c = some ((1024 ^ k : Nat) : Int) := by
  simp only [unitLetters, List.mem_cons, Prod.mk.injEq, List.not_mem_nil, or_false] at listed
  rcases listed with ⟨rfl, rfl⟩ | ⟨rfl, rfl⟩ | ⟨rfl, rfl⟩
  · rcases lowerChar_eq_k_iff.mp lower with rfl | rfl | rfl
    · rfl
    · rfl
    · rfl
  · rcases lowerChar_eq_m_iff.mp lower with rfl | rfl
    · rfl
    · rfl
  · rcases lowerChar_eq_g_iff.mp lower with rfl | rfl
    · rfl
    · rfl

theorem exists_letter_of_unitFactor? {c : Char} {factor : Int}
    (found : unitFactor? c = some factor) :
    ∃ l k, (l, k) ∈ unitLetters ∧ Text.lowerChar c = [l] := by
  unfold unitFactor? at found
  split at found
  · rename_i kilo
    exact ⟨'k', 1, by decide, lowerChar_eq_k_iff.mpr (by simpa [or_assoc] using kilo)⟩
  · split at found
    · rename_i mega
      exact ⟨'m', 2, by decide, lowerChar_eq_m_iff.mpr (by simpa using mega)⟩
    · split at found
      · rename_i giga
        exact ⟨'g', 3, by decide, lowerChar_eq_g_iff.mpr (by simpa using giga)⟩
      · cases found

/-- The factors are the powers of 1024 that the unit letters stand for, and no other character has
one. -/
theorem unitFactor?_eq_some_iff {c : Char} {factor : Int} :
    unitFactor? c = some factor ↔ ∃ k, HasUnit [c] k ∧ factor = ((1024 ^ k : Nat) : Int) := by
  constructor
  · intro found
    obtain ⟨l, k, listed, lower⟩ := exists_letter_of_unitFactor? found
    have known := unitFactor?_of_lowerChar listed lower
    exact ⟨k, .letter listed lower, Option.some.inj (found.symm.trans known)⟩
  · rintro ⟨k, letter, rfl⟩
    cases letter with
    | letter listed lower => exact unitFactor?_of_lowerChar listed lower

/-- The digits of a size end where its unit starts. -/
theorem HasUnit.not_isDigit {us : List Char} {k : Nat} (unit : HasUnit us k) :
    ∀ c ∈ us.head?, Text.isDigit c = false := by
  cases unit with
  | bytes => nofun
  | @letter c l _ listed lower =>
    have plain : ∀ u ∈ unitLetters, Text.isDigit u.1 = false := by decide
    rintro _ ⟨⟩
    by_contra digit
    rw [Text.lowerChar_of_isDigit (Bool.not_eq_false _ ▸ digit)] at lower
    rw [List.singleton_inj.mp lower] at digit
    exact digit (plain _ listed)

/-! ## Digits and unit -/

theorem splitSize?_of_hasUnit {ds us : List Char} {d k : Nat} (number : Text.Spells ds d)
    (unit : HasUnit us k) : splitSize? (ds ++ us) = some (ds, ((1024 ^ k : Nat) : Int)) := by
  obtain ⟨filled, digits, -⟩ := Text.spells_iff.mp number
  obtain ⟨taken, dropped⟩ := Text.span_isDigit_iff.mpr ⟨rfl, digits, unit.not_isDigit⟩
  unfold splitSize?
  dsimp only
  rw [taken, dropped, if_neg (mt List.isEmpty_iff.mp filled)]
  cases unit with
  | bytes => rfl
  | letter listed lower =>
    dsimp only
    rw [unitFactor?_of_lowerChar listed lower, Option.map_some]

theorem hasUnit_of_splitSize? {cs ds : List Char} {factor : Int}
    (found : splitSize? cs = some (ds, factor)) :
    ∃ us k, cs = ds ++ us ∧ Text.Spells ds (Text.digitsValue ds) ∧ HasUnit us k ∧
      factor = ((1024 ^ k : Nat) : Int) := by
  obtain ⟨whole, digits, -⟩ := Text.span_isDigit_iff.mp
    (⟨rfl, rfl⟩ : cs.takeWhile Text.isDigit = _ ∧ cs.dropWhile Text.isDigit = _)
  unfold splitSize? at found
  dsimp only at found
  split at found
  · cases found
  · rename_i filled
    rw [Bool.not_eq_true, List.isEmpty_eq_false_iff] at filled
    have number := Text.spells_iff.mpr ⟨filled, digits, rfl⟩
    split at found
    · rename_i rest
      cases found
      rw [rest] at whole
      exact ⟨[], 0, whole, number, .bytes, rfl⟩
    · rename_i c rest
      obtain ⟨n, unit, same⟩ := Option.map_eq_some_iff.mp found
      cases same
      obtain ⟨k, letter, rfl⟩ := unitFactor?_eq_some_iff.mp unit
      rw [rest] at whole
      exact ⟨[c], k, whole, number, letter, rfl⟩
    · cases found

/-! ## Reading -/

/-- Of the words that lift the limit only the zero is a number too, and it writes zero. -/
theorem eq_zero_of_unlimited {value : String} {ds us : List Char} {d : Nat}
    (word : Text.lower value ∈ ["0", "-1", "unlimited"]) (split : value.toList = ds ++ us)
    (number : Text.Spells ds d) : d = 0 := by
  obtain ⟨filled, digits, rfl⟩ := Text.spells_iff.mp number
  obtain ⟨c, cs, rfl⟩ := List.exists_cons_of_ne_nil filled
  have digit := digits c (.head _)
  have lowered : (Text.lower value).toList = c :: Text.lowerFrom [c] (cs ++ us) := by
    rw [Text.lower, String.toList_ofList, split, List.cons_append,
      Text.lowerFrom_cons_of_isDigit digit]
  simp only [List.mem_cons, List.not_mem_nil, or_false] at word
  rcases word with zero | negative | unlimited
  · rw [zero] at lowered
    obtain ⟨rfl, rest⟩ := List.cons.inj lowered
    rw [(List.append_eq_nil_iff.mp (Text.lowerFrom_eq_nil_iff.mp rest.symm)).1]
    decide
  · rw [negative] at lowered
    rw [← (List.cons.inj lowered).1] at digit
    exact absurd digit (by decide)
  · rw [unlimited] at lowered
    rw [← (List.cons.inj lowered).1] at digit
    exact absurd digit (by decide)

theorem standsFor_of_parseBodySize {raw : String} {n : Int} (read : parseBodySize raw = .ok n) :
    StandsFor (Text.strip raw) n := by
  unfold parseBodySize at read
  dsimp only at read
  split at read
  · rename_i word
    cases read
    exact .unlimited (List.contains_iff_mem.mp word)
  · split at read
    · cases read
    · rename_i ds factor split
      obtain ⟨us, k, whole, number, unit, rfl⟩ := hasUnit_of_splitSize? split
      by_cases short : ds.length ≤ Text.maxIntegerDigits
      · rw [Text.readDigits_of_short short] at read
        cases read
        rw [← Int.natCast_mul]
        exact .sized whole number unit
      · rw [Text.readDigits_of_long (Nat.not_le.mp short)] at read
        cases read

theorem parseBodySize_of_standsFor {raw : String} {n : Int} (stands : StandsFor (Text.strip raw) n)
    (short : ((Text.strip raw).toList.takeWhile Text.isDigit).length ≤ Text.maxIntegerDigits) :
    parseBodySize raw = .ok n := by
  unfold parseBodySize
  dsimp only
  by_cases word : Text.lower (Text.strip raw) ∈ unlimitedTexts
  · rw [if_pos (List.contains_iff_mem.mpr word)]
    cases stands with
    | unlimited => rfl
    | sized split number unit =>
      rw [eq_zero_of_unlimited word split number, Nat.zero_mul]
      rfl
  · rw [if_neg (mt List.contains_iff_mem.mp word)]
    cases stands with
    | unlimited other => exact absurd other word
    | sized split number unit =>
      obtain ⟨-, digits, -⟩ := Text.spells_iff.mp number
      have run := (Text.span_isDigit_iff.mpr ⟨split, digits, unit.not_isDigit⟩).1
      rw [run] at short
      rw [split, splitSize?_of_hasUnit number unit]
      dsimp only
      rw [number.readDigits short]
      dsimp only
      rw [← Int.natCast_mul]

/-- A text that is no size is refused with a message that shows it. -/
theorem parseBodySize_refused {raw : String} (foreign : ∀ n, ¬ StandsFor (Text.strip raw) n) :
    parseBodySize raw = .error (.badValue ("invalid size " ++ Text.quoted raw)) := by
  have noWord : ¬ unlimitedTexts.contains (Text.lower (Text.strip raw)) = true := fun word =>
    foreign 0 (.unlimited (List.contains_iff_mem.mp word))
  have noSplit : splitSize? (Text.strip raw).toList = none := by
    rw [Option.eq_none_iff_forall_ne_some]
    rintro ⟨ds, factor⟩ split
    obtain ⟨us, k, whole, number, unit, -⟩ := hasUnit_of_splitSize? split
    exact foreign _ (.sized whole number unit)
  unfold parseBodySize
  dsimp only
  rw [if_neg noWord, noSplit]

/-- Sizes are recognized by their grammar: a text whose run of digits is not too long is read as the
bytes that it stands for, and refused if it stands for none. The bytes are never negative, so that
they make a valid size whatever text goes with them. -/
theorem sizes_recognized (raw : String)
    (short : ((Text.strip raw).toList.takeWhile Text.isDigit).length ≤ Text.maxIntegerDigits) :
    (∀ n, parseBodySize raw = .ok n ↔ StandsFor (Text.strip raw) n) ∧
    ((∀ n, ¬ StandsFor (Text.strip raw) n) →
      parseBodySize raw = .error (.badValue ("invalid size " ++ Text.quoted raw))) ∧
    ∀ n, parseBodySize raw = .ok n → 0 ≤ n ∧ ∀ written,
      BodySize.codec.read (Value.object [("raw", .string written), ("bytes", .int n)]) =
        .valid ⟨written, n⟩ := by
  refine ⟨fun n => ⟨standsFor_of_parseBodySize, fun stands => ?_⟩, parseBodySize_refused,
    fun n read => ?_⟩
  · exact parseBodySize_of_standsFor stands short
  · have nonneg := (standsFor_of_parseBodySize read).nonneg
    exact ⟨nonneg, fun written => BodySize.read_eq_valid_iff.mpr nonneg⟩

/-- Twelve kibibytes, in digits of another script, with the Kelvin sign for the letter and blanks
around. -/
def twelveKibibytes : String := "\u2003\u0661\u0662\u212a\n"

theorem twelveKibibytes_recognized :
    ((Text.strip twelveKibibytes).toList.takeWhile Text.isDigit).length ≤ Text.maxIntegerDigits ∧
      parseBodySize twelveKibibytes = .ok 12288 ∧
      StandsFor (Text.strip twelveKibibytes) 12288 := by
  have short : ((Text.strip twelveKibibytes).toList.takeWhile Text.isDigit).length ≤
      Text.maxIntegerDigits := by decide +kernel
  have read : parseBodySize twelveKibibytes = .ok 12288 := by decide +kernel
  exact ⟨short, read, ((sizes_recognized twelveKibibytes short).1 12288).mp read⟩

end ProxySettings

end GatewayMigration
