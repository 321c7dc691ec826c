import GatewayMigration.Text.Blank
import GatewayMigration.Text.Digit
/-!
# Integers in texts

The decimal integers that an annotation may hold: blanks around, a sign, digits of any script with
single underscores between them. Both directions have a limit of `maxIntegerDigits` digits, which
keeps the conversions cheap; beyond it they fail instead of taking quadratic time.
-/

namespace GatewayMigration.Text

/-- The longest run of digits that is converted. -/
def maxIntegerDigits : Nat := 4300

inductive IntegerError
  | malformed
  | tooLong (digits : Nat)
deriving DecidableEq, Repr

/-- The message about a run of digits that is too long. -/
def tooLongText (digits : Nat) : String :=
  "Exceeds the limit (" ++ toString maxIntegerDigits ++
    " digits) for integer string conversion: value has " ++ toString digits ++
    " digits; use sys.set_int_max_str_digits() to increase the limit"

/-- The sign in front of a number, and what follows it. -/
def splitSign : List Char → Bool × List Char
  | '-' :: cs => (true, cs)
  | '+' :: cs => (false, cs)
  | cs => (false, cs)

/-- The digits of a non-empty run in which every underscore stands between two digits. -/
def groupedDigits? : List Char → Option (List Char)
  | [] => none
  | [c] => if isDigit c then some [c] else none
  | c :: '_' :: cs => if isDigit c then (groupedDigits? cs).map (c :: ·) else none
  | c :: cs => if isDigit c then (groupedDigits? cs).map (c :: ·) else none

def signed (negative : Bool) (n : Nat) : Int := if negative then -(n : Int) else n

/-- The number that a run of digits writes, if the run is not too long. -/
def readDigits (cs : List Char) : Except IntegerError Nat :=
  if cs.length > maxIntegerDigits then .error (.tooLong cs.length) else .ok (digitsValue cs)

def readInteger (s : String) : Except IntegerError Int :=
  let (negative, cs) := splitSign (stripChars s.toList)
  match groupedDigits? cs with
  | none => .error .malformed
  | some ds => (readDigits ds).map (signed negative)

/-- The decimal text of an integer, unless it has too many digits. -/
def integerText? (i : Int) : Option String :=
  let s := toString i.natAbs
  if s.length > maxIntegerDigits then none else some (if i < 0 then "-" ++ s else s)

end GatewayMigration.Text
