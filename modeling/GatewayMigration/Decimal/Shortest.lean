import GatewayMigration.Decimal.Binary64
/-!
# Shortest decimals

The decimal with the fewest digits that reads back as a given binary number, and its text. A
decimal reads back when it lies between the midpoints to the two neighbouring numbers, a midpoint
included when the mantissa is even.
-/

namespace GatewayMigration

/-- The decimal `digits · 10 ^ exponent`. -/
structure DecimalNumber where
  digits : Nat
  exponent : Int
deriving DecidableEq, Repr

namespace Binary64

/-- The numbers that round to `m · 2 ^ e`, in units of `2 ^ (e - 2)`. Below a power of two the
neighbour is half as far. -/
structure Interval where
  low : Nat
  value : Nat
  high : Nat
  closed : Bool
deriving DecidableEq, Repr

def interval (m : Nat) (e : Int) : Interval where
  low := if m = twoTo (mantissaBits - 1) ∧ minExponent < e then 4 * m - 1 else 4 * m - 2
  value := 4 * m
  high := 4 * m + 2
  closed := m % 2 == 0

/-- The number of digits before the decimal point of `n / d`; minus the number of zeros behind the
point when the ratio is below one tenth. -/
def pointOf (n d : Nat) : Int :=
  if d ≤ n then ((toString (n / d)).length : Int)
  else
    let q : Int := (toString (d / n)).length
    if n * tenTo (q - 1).natAbs = d then 2 - q else 1 - q

/-- The best decimal for `r.value · u / v` with `count` digits, if one rounds to it. -/
def candidate (r : Interval) (u v : Nat) (point : Int) (count : Nat) : Option DecimalNumber :=
  let k := point - count
  -- one step of the grid is `step / v` in the units of the interval
  let (scaled, step) := if k < 0 then (u * tenTo k.natAbs, v) else (u, v * tenTo k.natAbs)
  let inside (c : Nat) : Bool :=
    if r.closed then r.low * scaled ≤ c * step && c * step ≤ r.high * scaled
    else r.low * scaled < c * step && c * step < r.high * scaled
  let exact := r.value * scaled
  let c := exact / step
  match inside c, inside (c + 1) with
  | true, true =>
    let below := exact - c * step
    let above := (c + 1) * step - exact
    some ⟨if below < above || (below == above && c % 2 == 0) then c else c + 1, k⟩
  | true, false => some ⟨c, k⟩
  | false, true => some ⟨c + 1, k⟩
  | false, false => none

/-- The shortest decimal that reads back as `m · 2 ^ e`, for positive `m`. -/
def shortest (m : Nat) (e : Int) : DecimalNumber :=
  let r := interval m e
  let (u, v) := scale 1 1 (2 - e)
  let point := pointOf (r.value * u) v
  (((List.range 17).findSome? fun i => candidate r u v point (i + 1))).getD ⟨m, e⟩

end Binary64

/-- How a decimal is written: between the two bounds of the point in positions, otherwise with an
exponent of at least `exponentDigits` digits. -/
structure DecimalLayout where
  minPoint : Int
  maxPoint : Int
  exponentDigits : Nat
deriving DecidableEq, Repr

/-- Floats show a point or an exponent; they are positional from `0.0001` up to 16 digits. -/
def floatLayout : DecimalLayout := ⟨-3, 16, 2⟩

def dropTrailingZeros (cs : List Char) : List Char :=
  (cs.reverse.dropWhile (· == '0')).reverse

def padLeft (width : Nat) (cs : List Char) : List Char :=
  List.replicate (width - cs.length) '0' ++ cs

namespace DecimalLayout

def exponentText (l : DecimalLayout) (e : Int) : List Char :=
  (if e < 0 then '-' else '+') :: padLeft l.exponentDigits (toString e.natAbs).toList

/-- The text of a positive decimal. -/
def text (l : DecimalLayout) (d : DecimalNumber) : List Char :=
  let all := (toString d.digits).toList
  let ds := dropTrailingZeros all
  let point := all.length + d.exponent
  if l.minPoint ≤ point ∧ point ≤ l.maxPoint then
    if point ≤ 0 then '0' :: '.' :: (List.replicate point.natAbs '0' ++ ds)
    else
      let whole := ds.take point.natAbs
      let rest := ds.drop point.natAbs
      whole ++ List.replicate (point.natAbs - whole.length) '0' ++
        '.' :: (if rest.isEmpty then ['0'] else rest)
  else
    ds.take 1 ++ (if ds.length ≤ 1 then [] else '.' :: ds.drop 1) ++
      'e' :: l.exponentText (point - 1)

end DecimalLayout

/-- The shortest text that reads back as the number. -/
def Binary64.text : Binary64 → String
  | .nan => "nan"
  | .infinite negative => if negative then "-inf" else "inf"
  | .finite negative m e =>
    let body := if m = 0 then ['0', '.', '0'] else floatLayout.text (Binary64.shortest m e)
    String.ofList (if negative then '-' :: body else body)

end GatewayMigration
