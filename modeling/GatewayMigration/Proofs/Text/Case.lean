import GatewayMigration.Text.Case
import GatewayMigration.Text.Digit
import Mathlib.Data.List.Basic
/-!
# Characters and their case

Main statements:

* `upper_ne_empty`: no text is lost when it is put into upper case;
* `lowerChar_eq_singleton_iff`: which characters have a given lower case, read off the runs of the
  case table backwards;
* `lowerChar_of_isDigit`: a digit is its own lower case.
-/

namespace GatewayMigration.Text

/-! ## Images -/

theorem mapCase_ne_nil {runs : List CaseRun} {long : List (Nat × List Nat)}
    (images : ∀ e ∈ long, e.2 ≠ []) (c : Char) : mapCase runs long c ≠ [] := by
  unfold mapCase
  split
  · rename_i image found
    obtain ⟨before, after, rfl, -⟩ := List.lookup_eq_some_iff.mp found
    simpa using images _ (List.mem_append_right before (.head after))
  · split
    · exact List.cons_ne_nil _ _
    · exact List.cons_ne_nil _ _

theorem upperChar_ne_nil (c : Char) : upperChar c ≠ [] := by
  have images : ∀ e ∈ upperLong, e.2 ≠ [] := by decide
  unfold upperChar
  split
  · exact List.cons_ne_nil _ _
  · exact mapCase_ne_nil images c

/-- No text is lost when it is put into upper case. -/
theorem upper_ne_empty {s : String} (filled : s ≠ "") : upper s ≠ "" := by
  have chars : s.toList ≠ [] := fun none => filled (String.toList_eq_nil_iff.mp none)
  obtain ⟨c, mem⟩ := List.exists_mem_of_ne_nil _ chars
  intro blank
  have none : (upper s).toList = [] := String.toList_eq_nil_iff.mpr blank
  rw [upper, String.toList_ofList, List.flatMap_eq_nil_iff] at none
  exact upperChar_ne_nil c (none c mem)

/-- The ASCII letters are the first run, and all other ones stand behind. -/
theorem mapCase_of_ascii {c : Char} (small : c.toNat < 0x80) :
    mapCase lowerRuns lowerLong c = mapCase (lowerRuns.take 1) [] c := by
  have long : lowerLong.lookup c.toNat = none := by
    have behind : ∀ e ∈ lowerLong, 0x80 ≤ e.1 := by decide
    rw [List.lookup_eq_none_iff]
    intro e mem
    have := behind e mem
    rw [bne_iff_ne]
    omega
  have later : (lowerRuns.drop 1).findSome? (·.image? c.toNat) = none := by
    have behind : ∀ r ∈ lowerRuns.drop 1, 0x80 ≤ r.first := by decide +kernel
    rw [List.findSome?_eq_none_iff]
    intro r mem
    have := behind r mem
    exact if_neg (by omega)
  have runs : lowerRuns.findSome? (·.image? c.toNat) =
      (lowerRuns.take 1).findSome? (·.image? c.toNat) := by
    conv_lhs => rw [← List.take_append_drop 1 lowerRuns]
    rw [List.findSome?_append, later, Option.or_none]
  rw [mapCase, mapCase, long, runs, List.lookup_nil]

/-- The table holds the ASCII letters too. -/
theorem lowerChar_eq_mapCase (c : Char) : lowerChar c = mapCase lowerRuns lowerLong c := by
  have ascii : ∀ n < 0x80, [(Char.ofNat n).toLower] =
      mapCase (lowerRuns.take 1) [] (Char.ofNat n) := by decide +kernel
  unfold lowerChar
  split
  · rename_i small
    have same := ascii c.toNat small
    rwa [Char.ofNat_toNat, ← mapCase_of_ascii small] at same
  · rfl

theorem lowerChar_ne_nil (c : Char) : lowerChar c ≠ [] := by
  have images : ∀ e ∈ lowerLong, e.2 ≠ [] := by decide
  rw [lowerChar_eq_mapCase]
  exact mapCase_ne_nil images c

theorem lowerFrom_eq_nil_iff {before cs : List Char} : lowerFrom before cs = [] ↔ cs = [] := by
  constructor
  · intro none
    cases cs with
    | nil => rfl
    | cons c cs =>
      rw [lowerFrom, List.append_eq_nil_iff] at none
      have first := none.1
      split at first
      · cases first
      · exact absurd first (lowerChar_ne_nil c)
  · rintro rfl
    rfl

/-! ## Origins -/

/-- The code point that a run moves to the given one. -/
def CaseRun.origin? (m : Nat) (r : CaseRun) : Option Nat :=
  let n := ((m : Int) - r.offset).toNat
  if r.image? n = some m then some n else none

/-- All code points of a run move by one offset, so that its origins are its images moved back. -/
theorem CaseRun.origin?_eq_some_iff {r : CaseRun} {n m : Nat} (positive : 0 < m) :
    r.origin? m = some n ↔ r.image? n = some m := by
  unfold origin?
  dsimp only
  constructor
  · intro found
    split at found
    · rename_i moves
      cases found
      exact moves
    · cases found
  · intro moves
    have back : ((m : Int) - r.offset).toNat = n := by
      have image := id moves
      unfold image? at image
      split at image
      · have moved := Option.some.inj image
        omega
      · cases image
    rw [back, if_pos moves]

theorem toNat_of_ofNat {n : Nat} {x : Char} (positive : 0 < x.toNat) (same : Char.ofNat n = x) :
    n = x.toNat := by
  subst same
  by_cases valid : n.isValidChar
  · have whole : Char.ofNat n = Char.ofNatAux n valid := dif_pos valid
    rw [whole]
    rfl
  · have nothing : Char.ofNat n = Char.ofNat 0 := dif_neg valid
    rw [nothing] at positive
    exact absurd positive (by decide)

/-- A character has the given lower case only if it is that character or a run moves it there. -/
theorem eq_or_mem_origins_of_lowerChar {c x : Char} (positive : 0 < x.toNat)
    (lower : lowerChar c = [x]) :
    c = x ∨ c.toNat ∈ lowerRuns.filterMap (·.origin? x.toNat) := by
  have long : ∀ e ∈ lowerLong, e.2.length ≠ 1 := by decide
  rw [lowerChar_eq_mapCase] at lower
  unfold mapCase at lower
  split at lower
  · rename_i image found
    obtain ⟨before, after, listed, -⟩ := List.lookup_eq_some_iff.mp found
    have one : image.length = 1 := by
      have lengths := congrArg List.length lower
      rwa [List.length_map] at lengths
    exact absurd one (long (c.toNat, image) (listed ▸ List.mem_append_right before (.head after)))
  · split at lower
    · rename_i n found
      obtain ⟨r, listed, moves⟩ := List.exists_of_findSome?_eq_some found
      have same := toNat_of_ofNat positive (List.singleton_inj.mp lower)
      rw [same] at moves
      exact .inr (List.mem_filterMap.mpr
        ⟨r, listed, (CaseRun.origin?_eq_some_iff positive).mpr moves⟩)
    · exact .inl (List.singleton_inj.mp lower)

/-- The characters with the given lower case are the listed ones, if they are those that the table
knows. -/
theorem lowerChar_eq_singleton_iff {x : Char} (letters : List Char) (positive : 0 < x.toNat)
    (known : x.toNat :: lowerRuns.filterMap (·.origin? x.toNat) = letters.map Char.toNat)
    (lowers : letters.all (lowerChar · = [x]) = true) {c : Char} :
    lowerChar c = [x] ↔ c ∈ letters := by
  constructor
  · intro lower
    have mem : c.toNat ∈ letters.map Char.toNat := by
      rw [← known, List.mem_cons]
      rcases eq_or_mem_origins_of_lowerChar positive lower with rfl | moved
      · exact .inl rfl
      · exact .inr moved
    obtain ⟨d, listed, same⟩ := List.mem_map.mp mem
    rwa [← Char.toNat_inj.mp same]
  · intro listed
    exact of_decide_eq_true (List.all_eq_true.mp lowers c listed)

/-! ## Digits -/

/-- No run of the case table meets the digits of a script. -/
theorem runs_apart_from_digits {r : CaseRun} {z : Nat} (run : r ∈ lowerRuns)
    (zero : z ∈ digitZeros) : r.last < z ∨ z + 9 < r.first := by
  have apart : (lowerRuns.all fun r => digitZeros.all fun z =>
      r.last.blt z || (z + 9).blt r.first) = true := by decide +kernel
  have own := List.all_eq_true.mp (List.all_eq_true.mp apart r run) z zero
  simpa only [Bool.or_eq_true, Nat.blt_eq] using own

theorem lowerChar_of_isDigit {c : Char} (digit : isDigit c = true) : lowerChar c = [c] := by
  obtain ⟨d, value⟩ := Option.isSome_iff_exists.mp digit
  obtain ⟨z, found, -⟩ := Option.map_eq_some_iff.mp value
  have listed : z ∈ digitZeros := List.mem_of_find?_eq_some found
  have between : z ≤ c.toNat ∧ c.toNat < z + 10 := by simpa using List.find?_some found
  have long : lowerLong.lookup c.toNat = none := by
    have apart : ∀ e ∈ lowerLong, ∀ z ∈ digitZeros, e.1 < z ∨ z + 9 < e.1 := by decide
    rw [List.lookup_eq_none_iff]
    intro e mem
    have := apart e mem z listed
    rw [bne_iff_ne]
    omega
  have moved : lowerRuns.findSome? (·.image? c.toNat) = none := by
    rw [List.findSome?_eq_none_iff]
    intro r mem
    have := runs_apart_from_digits mem listed
    exact if_neg (by omega)
  rw [lowerChar_eq_mapCase, mapCase, long]
  dsimp only
  rw [moved]

/-- A text that starts with a digit still does so in lower case. -/
theorem lowerFrom_cons_of_isDigit {before cs : List Char} {c : Char} (digit : isDigit c = true) :
    lowerFrom before (c :: cs) = c :: lowerFrom (c :: before) cs := by
  have other : c ≠ 'Σ' := by
    rintro rfl
    exact absurd digit (by decide)
  rw [lowerFrom, if_neg other, lowerChar_of_isDigit digit, List.singleton_append]

end GatewayMigration.Text
