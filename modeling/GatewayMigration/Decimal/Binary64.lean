/-!
# Binary floating-point numbers

The numbers of the 64-bit binary format, as exact values `m · 2 ^ e`, and the number nearest to a
decimal. Everything is computed with natural numbers, so no step rounds twice.
-/

namespace GatewayMigration

/-- A finite number is `±mantissa · 2 ^ exponent`; its mantissa has 53 bits unless the exponent is
the least one. -/
inductive Binary64
  | nan
  | infinite (negative : Bool)
  | finite (negative : Bool) (mantissa : Nat) (exponent : Int)
deriving DecidableEq, Repr, Inhabited

namespace Binary64

def minExponent : Int := -1074
def maxExponent : Int := 971
def mantissaBits : Nat := 53

def twoTo (n : Nat) : Nat := Nat.pow 2 n
def tenTo (n : Nat) : Nat := Nat.pow 10 n

/-- The ratio `n / d` in units of `2 ^ e`, as a ratio again. -/
def scale (n d : Nat) (e : Int) : Nat × Nat :=
  if e < 0 then (n * twoTo e.natAbs, d) else (n, d * twoTo e.natAbs)

/-- The natural number nearest to `n / d`; a tie goes to the even one. -/
def roundHalfEven (n d : Nat) : Nat :=
  let q := n / d
  let r := n % d
  if d < 2 * r || (2 * r == d && q % 2 == 1) then q + 1 else q

/-- The exponent at which the mantissa of `n / d` has its full width. -/
def ratioExponent (n d : Nat) : Int :=
  let e : Int := (n.log2 : Int) - d.log2 - (mantissaBits - 1)
  let s := scale n d e
  max minExponent (if s.1 / s.2 < twoTo (mantissaBits - 1) then e - 1 else e)

/-- The number nearest to `± n / d`. -/
def ofRatio (negative : Bool) (n d : Nat) : Binary64 :=
  if n = 0 then .finite negative 0 minExponent
  else
    let e := ratioExponent n d
    let s := scale n d e
    let m := roundHalfEven s.1 s.2
    let (m, e) := if m = twoTo mantissaBits then (twoTo (mantissaBits - 1), e + 1) else (m, e)
    if maxExponent < e then .infinite negative else .finite negative m e

/-- The number nearest to `± digits · 10 ^ exponent`. Decimals far outside the range are decided by
their size alone. -/
def ofDecimal (negative : Bool) (digits : Nat) (exponent : Int) : Binary64 :=
  let size := (toString digits).length + exponent
  if digits = 0 || size < -330 then .finite negative 0 minExponent
  else if 310 < size then .infinite negative
  else if exponent < 0 then ofRatio negative digits (tenTo exponent.natAbs)
  else ofRatio negative (digits * tenTo exponent.natAbs) 1

/-! ## Arithmetic -/

def signedMantissa (negative : Bool) (m : Nat) : Int := if negative then -(m : Int) else m

/-- The number nearest to `n · 2 ^ e`. -/
def ofScaled (n e : Int) : Binary64 :=
  let s := scale n.natAbs 1 (-e)
  ofRatio (n < 0) s.1 s.2

/-- The sum, rounded once. -/
def add : Binary64 → Binary64 → Binary64
  | .finite a m e, .finite b n f =>
    let g := min e f
    let part (negative : Bool) (m : Nat) (e : Int) : Int :=
      signedMantissa negative m * twoTo (e - g).toNat
    ofScaled (part a m e + part b n f) g
  | .nan, _ | _, .nan => .nan
  | .infinite a, .infinite b => if a = b then .infinite a else .nan
  | .infinite a, _ | _, .infinite a => .infinite a

/-- The product with a natural number, rounded once. -/
def timesNat (k : Nat) : Binary64 → Binary64
  | .finite a m e => ofScaled (signedMantissa a (m * k)) e
  | x => x

def neg : Binary64 → Binary64
  | .nan => .nan
  | .infinite a => .infinite !a
  | .finite a m e => .finite (!a) m e

/-- The integer a finite number is, if it is one. -/
def toInt? : Binary64 → Option Int
  | .finite negative m e =>
    let s := scale m 1 (-e)
    if s.1 % s.2 = 0 then
      let n : Int := (s.1 / s.2 : Nat)
      some (if negative then -n else n)
    else none
  | _ => none

end Binary64

end GatewayMigration
