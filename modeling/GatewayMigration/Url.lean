import GatewayMigration.Address
import GatewayMigration.Report.Fault
import GatewayMigration.Text.Case
/-!
# URLs

The parts of a URL that say which server it means: the scheme, and in the authority the host and the
port. Controls and spaces before a URL are no part of it, nor are tabs and line ends in it. Main
definitions: `Url.read`, `Url.host?`, `Url.port?`.
-/

namespace GatewayMigration

structure Url where
  scheme : String := ""
  authority : String := ""
deriving DecidableEq, Repr

namespace Url

/-! ## Scheme and authority -/

def isAsciiLetter (c : Char) : Bool := ('a' ≤ c && c ≤ 'z') || ('A' ≤ c && c ≤ 'Z')

def isSchemeChar (c : Char) : Bool :=
  isAsciiLetter c || ('0' ≤ c && c ≤ '9') || c == '+' || c == '-' || c == '.'

def isControlOrSpace (c : Char) : Bool := c.toNat ≤ 0x20

def isIgnored (c : Char) : Bool := c == '\t' || c == '\r' || c == '\n'

/-- What a text has of a URL. -/
def significant (s : String) : List Char :=
  (s.toList.dropWhile isControlOrSpace).filter (!isIgnored ·)

/-- The scheme in lower case and what follows its colon. Without a scheme all is rest. -/
def splitScheme (cs : List Char) : String × List Char :=
  let front := cs.takeWhile (· != ':')
  let startsWell : Bool :=
    match front with
    | c :: _ => isAsciiLetter c
    | [] => false
  match cs.dropWhile (· != ':') with
  | _ :: rest =>
    if startsWell && front.all isSchemeChar then
      (String.ofList (front.map Char.toLower), rest)
    else ("", cs)
  | [] => ("", cs)

/-- What stands between two slashes and the path, the query or the fragment. -/
def authorityOf : List Char → List Char
  | '/' :: '/' :: cs => cs.takeWhile fun c => c != '/' && c != '?' && c != '#'
  | _ => []

def splitAt (d : Char) (cs : List Char) : List Char × List Char :=
  (cs.takeWhile (· != d), (cs.dropWhile (· != d)).drop 1)

/-! ## Reading -/

/-- A bracket of an address needs its partner. -/
def unmatchedBracket (authority : List Char) : Bool :=
  authority.contains '[' != authority.contains ']'

/-- What stands between the first bracket and the next one that closes. -/
def bracketed (authority : List Char) : List Char := (splitAt ']' (splitAt '[' authority).2).1

/-- Between brackets stands an IPv6 address, or one of a version to come. -/
def checkLiteral (host : List Char) : Except Interruption Unit :=
  if host.head? = some 'v' then
    if Address.isFuture host then .ok ()
    else .error (.badValue "IPvFuture address is invalid")
  else if Address.isIpv4 host then
    .error (.badValue "An IPv4 address cannot be in brackets")
  else if Address.isIpv6 host then .ok ()
  else
    .error (.badValue (Text.quoted (String.ofList host) ++
      " does not appear to be an IPv4 or IPv6 address"))

def checkBrackets (authority : List Char) : Except Interruption Unit :=
  if unmatchedBracket authority then .error (.badValue "Invalid IPv6 URL")
  else if authority.contains '[' then checkLiteral (bracketed authority)
  else .ok ()

/-- The characters whose compatibility form holds a delimiter of URLs. -/
def disguisedDelimiters : List Nat :=
  [0x2047, 0x2048, 0x2049, 0x2100, 0x2101, 0x2105, 0x2106, 0x2A74, 0xFE13, 0xFE16, 0xFE55, 0xFE56,
   0xFE5F, 0xFE6B, 0xFF03, 0xFF0F, 0xFF1A, 0xFF1F, 0xFF20]

def checkDelimiters (authority : List Char) : Except Interruption Unit :=
  if authority.any fun c => disguisedDelimiters.contains c.toNat then
    .error (.badValue ("netloc '" ++ String.ofList authority ++
      "' contains invalid characters under NFKC normalization"))
  else .ok ()

/-- The URL that a text writes. -/
def read (s : String) : Except Interruption Url := do
  let (scheme, rest) := splitScheme (significant s)
  let authority := authorityOf rest
  checkBrackets authority
  checkDelimiters authority
  return ⟨scheme, String.ofList authority⟩

/-! ## Host and port -/

/-- What follows the last `@`. -/
def afterUser (authority : List Char) : List Char :=
  (authority.reverse.takeWhile (· != '@')).reverse

/-- The host and the port as they are written. A host in brackets may hold colons. -/
def hostAndPort (u : Url) : List Char × List Char :=
  let place := afterUser u.authority.toList
  if place.contains '[' then
    let (host, rest) := splitAt ']' (splitAt '[' place).2
    (host, (splitAt ':' rest).2)
  else splitAt ':' place

/-- The host in lower case, but for the zone behind a percent sign. -/
def host? (u : Url) : Option String :=
  let host := (hostAndPort u).1
  if host.isEmpty then none
  else some (Text.lower (String.ofList (host.takeWhile (· != '%'))) ++
    String.ofList (host.dropWhile (· != '%')))

def maxPort : Nat := 65535

/-- The port, which is written in ASCII digits and below 65536. -/
def port? (u : Url) : Except Interruption (Option Nat) :=
  let port := (hostAndPort u).2
  if port.isEmpty then .ok none
  else if port.all Char.isDigit then
    match Text.readDigits port with
    | .error _ => .error (.badValue (Text.tooLongText port.length))
    | .ok n =>
      if n ≤ maxPort then .ok (some n)
      else .error (.badValue ("Port out of range 0-" ++ toString maxPort))
  else
    .error (.badValue ("Port could not be cast to integer value as " ++
      Text.quoted (String.ofList port)))

end Url

end GatewayMigration
