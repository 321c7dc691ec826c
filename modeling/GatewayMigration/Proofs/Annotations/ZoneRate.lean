import GatewayMigration.Annotations.RateLimit
import GatewayMigration.Proofs.Text.Numeral
import Mathlib.Order.Bounds.Basic
/-!
# The rate of a zone

A zone's definition is searched from left to right, and the search starts anew at every character.
What looks like a rate and is none, such as `rate=5r/h` or the first half of `rate=rate=5r/s`, is
passed over. Main statements:

* `StartsRate`, `ratePositions`: what a rate is, and where in a zone one starts;
* `rateAt?_eq_some_iff`: at one position, the digits and the unit are found exactly if a rate
  starts there;
* `firstRate?_eq_some_iff` and `firstRate?_eq_none_iff`: the search ends at the first such position;
* `leftmost_decides`: so the first rate is the zone's, by the second.
-/

namespace GatewayMigration.RateLimit

/-! ## Rates in texts -/

def RateUnit.letter : RateUnit → Char
  | .second => 's'
  | .minute => 'm'

/-- So many requests in one unit of time, as whole requests by the second. A positive number never
becomes zero. -/
def RateUnit.perSecond : RateUnit → Nat → Nat
  | .second, n => n
  | .minute, n => if n = 0 then 0 else max 1 (n / 60)

/-- The text starts with a rate: `rate=`, the digits of the number, `r/`, and the unit's letter. -/
def StartsRate (cs : List Char) (n : Nat) (u : RateUnit) : Prop :=
  ∃ ds rest, Text.Spells ds n ∧
    cs = ['r', 'a', 't', 'e', '='] ++ ds ++ ['r', '/', u.letter] ++ rest

/-- The positions in a zone at which a rate starts. -/
def ratePositions (zone : String) : Set Nat := {p | ∃ n u, StartsRate (zone.toList.drop p) n u}

/-- No run of digits in the zone is too long to be read. -/
def HasShortRuns (zone : String) : Prop :=
  ∀ ds, ds <:+: zone.toList → (∀ c ∈ ds, Text.isDigit c = true) →
    ds.length ≤ Text.maxIntegerDigits

theorem perSecond_natCast (n : Nat) : perSecond n = (RateUnit.minute.perSecond n : Nat) := by
  unfold perSecond RateUnit.perSecond
  by_cases zero : n = 0
  · rw [zero]
    rfl
  · have positive : ¬ (n : Int) ≤ 0 := by omega
    dsimp only
    rw [if_neg positive, if_neg zero]
    omega

/-! ## One position -/

theorem rateAt?_of_digits {ds : List Char} {u : RateUnit} (filled : ds ≠ [])
    (digits : ∀ c ∈ ds, Text.isDigit c = true) (rest : List Char) :
    rateAt? (['r', 'a', 't', 'e', '='] ++ ds ++ ['r', '/', u.letter] ++ rest) = some (ds, u) := by
  have ends : ∀ c ∈ ('r' :: '/' :: u.letter :: rest).head?, Text.isDigit c = false := by
    rintro c ⟨⟩
    decide
  obtain ⟨taken, dropped⟩ := Text.span_isDigit_iff.mpr ⟨rfl, digits, ends⟩
  simp only [List.append_assoc, List.cons_append, List.nil_append]
  rw [rateAt?, taken, dropped, if_neg (mt List.isEmpty_iff.mp filled)]
  cases u with
  | second => rfl
  | minute => rfl

theorem rateAt?_eq_some_iff {cs ds : List Char} {u : RateUnit} :
    rateAt? cs = some (ds, u) ↔ ds ≠ [] ∧ (∀ c ∈ ds, Text.isDigit c = true) ∧
      ∃ rest, cs = ['r', 'a', 't', 'e', '='] ++ ds ++ ['r', '/', u.letter] ++ rest := by
  constructor
  · intro found
    unfold rateAt? at found
    split at found
    · rename_i cs
      obtain ⟨whole, digits, -⟩ := Text.span_isDigit_iff.mp
        (⟨rfl, rfl⟩ : cs.takeWhile Text.isDigit = _ ∧ cs.dropWhile Text.isDigit = _)
      dsimp only at found
      split at found
      · cases found
      · rename_i some
        have filled := mt List.isEmpty_iff.mpr some
        split at found
        · rename_i rest after
          cases found
          rw [after] at whole
          exact ⟨filled, digits, rest, by simpa [RateUnit.letter] using whole⟩
        · rename_i rest after
          cases found
          rw [after] at whole
          exact ⟨filled, digits, rest, by simpa [RateUnit.letter] using whole⟩
        · cases found
    · cases found
  · rintro ⟨filled, digits, rest, rfl⟩
    exact rateAt?_of_digits filled digits rest

theorem startsRate_iff {cs : List Char} {n : Nat} {u : RateUnit} :
    StartsRate cs n u ↔ ∃ ds, rateAt? cs = some (ds, u) ∧ Text.digitsValue ds = n := by
  simp only [rateAt?_eq_some_iff]
  constructor
  · rintro ⟨ds, rest, number, rfl⟩
    obtain ⟨filled, digits, value⟩ := Text.spells_iff.mp number
    exact ⟨ds, ⟨filled, digits, rest, rfl⟩, value⟩
  · rintro ⟨ds, ⟨filled, digits, rest, rfl⟩, rfl⟩
    exact ⟨ds, rest, Text.spells_iff.mpr ⟨filled, digits, rfl⟩, rfl⟩

/-! ## The search -/

theorem firstRate?_eq_none_iff {cs : List Char} :
    firstRate? cs = none ↔ ∀ p, rateAt? (cs.drop p) = none := by
  induction cs with
  | nil => exact iff_of_true rfl fun p => by rw [List.drop_nil]; rfl
  | cons c cs ih =>
    rw [firstRate?]
    cases here : rateAt? (c :: cs) with
    | some r => exact iff_of_false nofun fun none => by simpa [here] using none 0
    | none =>
      dsimp only
      rw [ih]
      constructor
      · intro later p
        cases p with
        | zero => exact here
        | succ p => exact later p
      · exact fun none p => none (p + 1)

theorem firstRate?_eq_some_iff {cs : List Char} {r : List Char × RateUnit} :
    firstRate? cs = some r ↔
      ∃ p, rateAt? (cs.drop p) = some r ∧ ∀ q < p, rateAt? (cs.drop q) = none := by
  induction cs with
  | nil =>
    refine iff_of_false nofun ?_
    rintro ⟨p, found, -⟩
    rw [List.drop_nil] at found
    cases found
  | cons c cs ih =>
    rw [firstRate?]
    cases here : rateAt? (c :: cs) with
    | some s =>
      dsimp only
      constructor
      · rintro ⟨⟩
        exact ⟨0, here, nofun⟩
      · rintro ⟨p, found, before⟩
        cases p with
        | zero => exact here.symm.trans found
        | succ p => exact absurd (here.symm.trans (before 0 (Nat.succ_pos p))) nofun
    | none =>
      -- No rate starts at the first position, so all positions are those of the rest, moved by one.
      dsimp only
      rw [ih]
      constructor
      · rintro ⟨p, found, before⟩
        refine ⟨p + 1, found, fun q earlier => ?_⟩
        cases q with
        | zero => exact here
        | succ q => exact before q (Nat.lt_of_succ_lt_succ earlier)
      · rintro ⟨p, found, before⟩
        cases p with
        | zero => exact absurd (here.symm.trans found) nofun
        | succ p => exact ⟨p, found, fun q earlier => before (q + 1) (Nat.succ_lt_succ earlier)⟩

/-! ## The zone -/

theorem ofZone_eq_none_iff {zone : String} :
    ofZone zone = .ok none ↔ firstRate? zone.toList = none := by
  unfold ofZone
  cases firstRate? zone.toList with
  | none => exact iff_of_true rfl rfl
  | some rate =>
    obtain ⟨ds, u⟩ := rate
    refine iff_of_false (fun found => ?_) nofun
    dsimp only at found
    cases read : Text.readDigits ds with
    | error why =>
      rw [read] at found
      cases found
    | ok n =>
      rw [read] at found
      cases u with
      | second => cases found
      | minute => cases found

/-- The rate is the first one there is, if it does not have too many digits. -/
theorem ofZone_eq_some_iff {zone : String} {m : Int} :
    ofZone zone = .ok (some m) ↔ ∃ ds u, firstRate? zone.toList = some (ds, u) ∧
      ds.length ≤ Text.maxIntegerDigits ∧ m = (u.perSecond (Text.digitsValue ds) : Nat) := by
  unfold ofZone
  cases firstRate? zone.toList with
  | none => exact iff_of_false nofun (by rintro ⟨_, _, ⟨⟩, _⟩)
  | some rate =>
    obtain ⟨ds, u⟩ := rate
    dsimp only
    by_cases short : ds.length ≤ Text.maxIntegerDigits
    · rw [Text.readDigits_of_short short]
      constructor
      · intro found
        refine ⟨ds, u, rfl, short, ?_⟩
        cases u with
        | second =>
          cases found
          rfl
        | minute =>
          cases found
          exact perSecond_natCast _
      · rintro ⟨_, _, ⟨⟩, -, rfl⟩
        cases u with
        | second => rfl
        | minute =>
          dsimp only
          rw [perSecond_natCast]
    · rw [Text.readDigits_of_long (Nat.not_le.mp short)]
      refine iff_of_false (fun found => ?_) ?_
      · cases u with
        | second => cases found
        | minute => cases found
      · rintro ⟨_, _, ⟨⟩, fits, -⟩
        exact short fits

theorem mem_ratePositions_iff {zone : String} {p : Nat} :
    p ∈ ratePositions zone ↔ ∃ r, rateAt? (zone.toList.drop p) = some r := by
  constructor
  · rintro ⟨n, u, starts⟩
    obtain ⟨ds, found, -⟩ := startsRate_iff.mp starts
    exact ⟨(ds, u), found⟩
  · rintro ⟨⟨ds, u⟩, found⟩
    exact ⟨Text.digitsValue ds, u, startsRate_iff.mpr ⟨ds, found, rfl⟩⟩

/-- The first position of a rate is where the search ends. -/
theorem isLeast_ratePositions_iff {zone : String} {p n : Nat} {u : RateUnit} :
    IsLeast (ratePositions zone) p ∧ StartsRate (zone.toList.drop p) n u ↔
      ∃ ds, (rateAt? (zone.toList.drop p) = some (ds, u) ∧
        ∀ q < p, rateAt? (zone.toList.drop q) = none) ∧ Text.digitsValue ds = n := by
  constructor
  · rintro ⟨⟨-, least⟩, starts⟩
    obtain ⟨ds, found, value⟩ := startsRate_iff.mp starts
    refine ⟨ds, ⟨found, fun q earlier => ?_⟩, value⟩
    rw [Option.eq_none_iff_forall_ne_some]
    intro r other
    exact Nat.not_lt.mpr (least (mem_ratePositions_iff.mpr ⟨r, other⟩)) earlier
  · rintro ⟨ds, ⟨found, before⟩, value⟩
    refine ⟨⟨mem_ratePositions_iff.mpr ⟨_, found⟩, fun q there => ?_⟩,
      startsRate_iff.mpr ⟨ds, found, value⟩⟩
    obtain ⟨r, other⟩ := mem_ratePositions_iff.mp there
    by_contra earlier
    rw [before q (Nat.not_le.mp earlier)] at other
    cases other

/-- The digits of the first rate are a run of digits of the zone. -/
theorem isRun_of_firstRate? {cs ds : List Char} {u : RateUnit}
    (found : firstRate? cs = some (ds, u)) : ds <:+: cs ∧ ∀ c ∈ ds, Text.isDigit c = true := by
  obtain ⟨p, here, -⟩ := firstRate?_eq_some_iff.mp found
  obtain ⟨-, digits, rest, whole⟩ := rateAt?_eq_some_iff.mp here
  refine ⟨?_, digits⟩
  have inside : ds <:+: cs.drop p := by
    rw [whole, List.append_assoc]
    exact List.infix_append _ _ _
  exact inside.trans (List.drop_suffix p cs).isInfix

/-- The rate of a zone is its first one: if no run of digits is too long, the zone is read. It has no
rate exactly if none starts anywhere, and else the one at the first position where one starts. -/
theorem leftmost_decides (zone : String) (short : HasShortRuns zone) :
    (∃ r, ofZone zone = .ok r) ∧
    (ofZone zone = .ok none ↔ ratePositions zone = ∅) ∧
    ∀ m, ofZone zone = .ok (some m) ↔
      ∃ p n u, IsLeast (ratePositions zone) p ∧ StartsRate (zone.toList.drop p) n u ∧
        m = (u.perSecond n : Nat) := by
  refine ⟨?_, ?_, fun m => ?_⟩
  · cases found : firstRate? zone.toList with
    | none => exact ⟨none, ofZone_eq_none_iff.mpr found⟩
    | some rate =>
      obtain ⟨ds, u⟩ := rate
      obtain ⟨inside, digits⟩ := isRun_of_firstRate? found
      exact ⟨some _, ofZone_eq_some_iff.mpr ⟨ds, u, found, short ds inside digits, rfl⟩⟩
  · rw [ofZone_eq_none_iff, firstRate?_eq_none_iff, Set.eq_empty_iff_forall_notMem]
    simp only [mem_ratePositions_iff, not_exists, Option.eq_none_iff_forall_ne_some, ne_eq]
  · rw [ofZone_eq_some_iff]
    constructor
    · rintro ⟨ds, u, found, -, rfl⟩
      obtain ⟨p, here, before⟩ := firstRate?_eq_some_iff.mp found
      obtain ⟨least, starts⟩ := isLeast_ratePositions_iff.mpr ⟨ds, ⟨here, before⟩, rfl⟩
      exact ⟨p, _, u, least, starts, rfl⟩
    · rintro ⟨p, n, u, least, starts, rfl⟩
      obtain ⟨ds, here, rfl⟩ := isLeast_ratePositions_iff.mp ⟨least, starts⟩
      have found := firstRate?_eq_some_iff.mpr ⟨p, here⟩
      obtain ⟨inside, digits⟩ := isRun_of_firstRate? found
      exact ⟨ds, u, found, short ds inside digits, rfl⟩

/-- A zone with a rate by the hour, a start of a rate that is none, and two rates. The first of them
is less than one by the second. -/
def restarting : String := "rate=9r/h rate=rate=30r/m rate=5r/s"

theorem restarting_decided :
    HasShortRuns restarting ∧ ofZone restarting = .ok (some 1) ∧
    ∃ p n u, IsLeast (ratePositions restarting) p ∧
      StartsRate (restarting.toList.drop p) n u ∧ (1 : Int) = (u.perSecond n : Nat) := by
  have short : HasShortRuns restarting := fun ds inside _ =>
    Nat.le_trans inside.length_le (by decide)
  have read : ofZone restarting = .ok (some 1) := by decide +kernel
  exact ⟨short, read, ((leftmost_decides restarting short).2.2 1).mp read⟩

end GatewayMigration.RateLimit
