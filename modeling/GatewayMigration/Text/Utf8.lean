import GatewayMigration.Text.Quoted
/-!
# UTF-8

The characters that octets encode. Overlong forms, surrogates and code points above the last one are
errors, as are octets that begin no character. `decode` says where the first error is and why.
-/

namespace GatewayMigration.Text

inductive Utf8Reason
  | invalidStart
  | invalidContinuation
  | unexpectedEnd
deriving DecidableEq, Repr

/-- The octets from `position` that cannot be decoded: the first of them and their number. -/
structure Utf8Error where
  octet : UInt8
  position : Nat
  length : Nat
  reason : Utf8Reason
deriving DecidableEq, Repr

def Utf8Reason.text : Utf8Reason → String
  | .invalidStart => "invalid start byte"
  | .invalidContinuation => "invalid continuation byte"
  | .unexpectedEnd => "unexpected end of data"

def Utf8Error.text (e : Utf8Error) : String :=
  let place :=
    if e.length = 1 then
      "byte 0x" ++ String.ofList (hexText 2 e.octet.toNat) ++ " in position " ++ toString e.position
    else
      "bytes in position " ++ toString e.position ++ "-" ++ toString (e.position + e.length - 1)
  "'utf-8' codec can't decode " ++ place ++ ": " ++ e.reason.text

def isContinuation (o : UInt8) : Bool := 0x80 ≤ o && o ≤ 0xBF

/-- What the octet behind a first octet may be. -/
def isSecond (first second : UInt8) : Bool :=
  isContinuation second && (first != 0xE0 || 0xA0 ≤ second) && (first != 0xED || second ≤ 0x9F) &&
    (first != 0xF0 || 0x90 ≤ second) && (first != 0xF4 || second ≤ 0x8F)

/-- The number of octets of a character that begins with this one. -/
def width? (o : UInt8) : Option Nat :=
  if o < 0x80 then some 1
  else if 0xC2 ≤ o && o ≤ 0xDF then some 2
  else if 0xE0 ≤ o && o ≤ 0xEF then some 3
  else if 0xF0 ≤ o && o ≤ 0xF4 then some 4
  else none

/-- The payload of the octets of one character. -/
def codePoint : List UInt8 → Nat
  | [a] => a.toNat
  | [a, b] => a.toNat % 0x20 * 0x40 + b.toNat % 0x40
  | [a, b, c] => (a.toNat % 0x10 * 0x40 + b.toNat % 0x40) * 0x40 + c.toNat % 0x40
  | [a, b, c, d] =>
    ((a.toNat % 0x8 * 0x40 + b.toNat % 0x40) * 0x40 + c.toNat % 0x40) * 0x40 + d.toNat % 0x40
  | _ => 0

/-- The number of octets at the head that can belong to a character beginning with the first. -/
def matching (first : UInt8) (rest : List UInt8) : Nat :=
  match rest with
  | second :: more =>
    if isSecond first second then 2 + (more.takeWhile isContinuation).length else 1
  | [] => 1

/-- The characters of the octets behind `position`; `acc` holds the earlier ones in reverse. -/
def decodeFrom :
    (fuel : Nat) → (position : Nat) → List Char → List UInt8 → Except Utf8Error (List Char)
  | 0, _, acc, _ => .ok acc.reverse
  | _, _, acc, [] => .ok acc.reverse
  | fuel + 1, position, acc, o :: os =>
    match width? o with
    | none => .error ⟨o, position, 1, .invalidStart⟩
    | some 1 => decodeFrom fuel (position + 1) (Char.ofNat o.toNat :: acc) os
    | some width =>
      let good := min width (matching o os)
      if good = width then
        decodeFrom fuel (position + width) (Char.ofNat (codePoint ((o :: os).take width)) :: acc)
          (os.drop (width - 1))
      else if good = os.length + 1 then .error ⟨o, position, good, .unexpectedEnd⟩
      else .error ⟨o, position, good, .invalidContinuation⟩

def decode (octets : List UInt8) : Except Utf8Error String :=
  (decodeFrom octets.length 0 [] octets).map String.ofList

/-- A carriage return ends a line, with or without a line feed behind it. -/
def unifyBreaks : List Char → List Char
  | '\r' :: '\n' :: cs => '\n' :: unifyBreaks cs
  | '\r' :: cs => '\n' :: unifyBreaks cs
  | c :: cs => c :: unifyBreaks cs
  | [] => []

end GatewayMigration.Text
