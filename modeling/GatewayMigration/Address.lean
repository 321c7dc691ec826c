import GatewayMigration.Text.Digit
/-!
# Addresses of machines

An IPv4 address is four numbers with points between them. An IPv6 address is eight groups of
hexadecimal digits with colons between them; a gap between two colons stands for groups of zeros, an
IPv4 address may take the place of the last two groups, and the name of a zone may follow. Main
definitions: `Address.isIpv4`, `Address.isIpv6`, `Address.isFuture`.
-/

namespace GatewayMigration.Address

/-! ## IPv4 -/

def maxOctet : Nat := 255

/-- A number up to 255 in at most three ASCII digits, without a leading zero. -/
def isOctet (cs : List Char) : Bool :=
  !cs.isEmpty && cs.all Char.isDigit && cs.length ≤ 3 && (cs = ['0'] || cs.head? ≠ some '0') &&
    Text.digitsValue cs ≤ maxOctet

def isIpv4 (cs : List Char) : Bool :=
  let octets := cs.splitOn '.'
  octets.length = 4 && octets.all isOctet

/-! ## IPv6 -/

def isHexDigit (c : Char) : Bool :=
  c.isDigit || ('A' ≤ c && c ≤ 'F') || ('a' ≤ c && c ≤ 'f')

/-- One to four hexadecimal digits. -/
def isGroup (cs : List Char) : Bool := !cs.isEmpty && cs.all isHexDigit && cs.length ≤ 4

def groupCount : Nat := 8

/-- How many groups the parts of an address write, if they do. An IPv4 address counts for two; it is
the last part, where `ipv4` allows it. -/
def width? (ipv4 : Bool) : List (List Char) → Option Nat
  | [] => some 0
  | [part] =>
    if isGroup part then some 1 else if ipv4 && isIpv4 part then some 2 else none
  | part :: parts => if isGroup part then (width? ipv4 parts).map (· + 1) else none

/-- How many groups stand on one side of a gap. At an end of the address it may be none. -/
def sideWidth? (ipv4 : Bool) (parts : List (List Char)) : Option Nat :=
  if parts = [[]] then some 0 else width? ipv4 parts

/-- The parts before and behind the first empty one that is neither the first nor the last. -/
def gap? : List (List Char) → Option (List (List Char) × List (List Char))
  | [] => none
  | first :: parts =>
    match parts.dropWhile (!·.isEmpty) with
    | _ :: next :: back => some (first :: parts.takeWhile (!·.isEmpty), next :: back)
    | _ => none

/-- Eight groups, or fewer ones around a gap. -/
def isComplete (parts : List (List Char)) : Bool :=
  match gap? parts with
  | none => width? true parts = some groupCount
  | some (front, back) =>
    match sideWidth? false front, sideWidth? true back with
    | some m, some n => m + n < groupCount
    | _, _ => false

/-- An IPv6 address, with the name of a zone or without one. -/
def isIpv6 (cs : List Char) : Bool :=
  let address := cs.takeWhile (· != '%')
  isComplete (address.splitOn ':') &&
    match cs.dropWhile (· != '%') with
    | [] => true
    | _ :: zone => !zone.isEmpty && !zone.contains '%'

/-! ## Versions to come -/

/-- An address of a version to come: `v` with the number of the version, a point, and what that
version makes of the rest. -/
def isFuture : List Char → Bool
  | 'v' :: cs =>
    match cs.takeWhile isHexDigit, cs.dropWhile isHexDigit with
    | _ :: _, '.' :: _ :: _ => true
    | _, _ => false
  | _ => false

end GatewayMigration.Address
