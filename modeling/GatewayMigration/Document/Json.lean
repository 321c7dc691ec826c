import GatewayMigration.Document.Value
import GatewayMigration.Text.Integer
/-!
# JSON documents

A reader in two steps: `lex` splits the text into tokens, `assemble` runs once over the tokens with
a stack of open brackets. The three words for numbers that are not finite are accepted, and of the
entries with one key the last value stays at the first place.
-/

namespace GatewayMigration.Json

inductive Token
  | openList
  | closeList
  | openMapping
  | closeMapping
  | comma
  | colon
  | atom (v : Value)
deriving DecidableEq

/-! ## Tokens -/

def hexValue? (c : Char) : Option Nat :=
  if '0' ≤ c ∧ c ≤ '9' then some (c.toNat - '0'.toNat)
  else if 'a' ≤ c ∧ c ≤ 'f' then some (c.toNat - 'a'.toNat + 10)
  else if 'A' ≤ c ∧ c ≤ 'F' then some (c.toNat - 'A'.toNat + 10)
  else none

def hex4? (a b c d : Char) : Option Nat := do
  return (((← hexValue? a) * 16 + (← hexValue? b)) * 16 + (← hexValue? c)) * 16 + (← hexValue? d)

def simpleEscape? : Char → Option Char
  | '"' => some '"'
  | '\\' => some '\\'
  | '/' => some '/'
  | 'b' => some '\x08'
  | 'f' => some '\x0c'
  | 'n' => some '\n'
  | 'r' => some '\r'
  | 't' => some '\t'
  | _ => none

def isHighSurrogate (n : Nat) : Bool := 0xD800 ≤ n && n ≤ 0xDBFF
def isLowSurrogate (n : Nat) : Bool := 0xDC00 ≤ n && n ≤ 0xDFFF

/-- The character that two surrogates write together. -/
def joinSurrogates (high low : Nat) : Char :=
  Char.ofNat (0x10000 + (high - 0xD800) * 0x400 + (low - 0xDC00))

/-- A code unit that writes no character alone becomes the replacement character. -/
def unitChar (n : Nat) : Char :=
  if isHighSurrogate n || isLowSurrogate n then '\uFFFD' else Char.ofNat n

/-- The rest of a string behind its opening quote: its characters, and what follows the closing
quote. -/
def lexString (acc : List Char) : List Char → Option (String × List Char)
  | '"' :: cs => some (String.ofList acc.reverse, cs)
  | '\\' :: 'u' :: a :: b :: c :: d :: '\\' :: 'u' :: e :: f :: g :: h :: cs =>
    match hex4? a b c d, hex4? e f g h with
    | some x, some y =>
      if isHighSurrogate x && isLowSurrogate y then lexString (joinSurrogates x y :: acc) cs
      else lexString (unitChar x :: acc) ('\\' :: 'u' :: e :: f :: g :: h :: cs)
    | _, _ => none
  | '\\' :: 'u' :: a :: b :: c :: d :: cs =>
    match hex4? a b c d with
    | some x => lexString (unitChar x :: acc) cs
    | none => none
  | '\\' :: c :: cs =>
    match simpleEscape? c with
    | some e => lexString (e :: acc) cs
    | none => none
  | c :: cs => if c.toNat < 0x20 then none else lexString (c :: acc) cs
  | [] => none

def isAsciiDigit (c : Char) : Bool := '0' ≤ c && c ≤ '9'

/-- The whole part of a number: a zero, or a run of digits with another one in front. -/
def lexWhole : List Char → Option (List Char × List Char)
  | '0' :: cs => some (['0'], cs)
  | c :: cs => if isAsciiDigit c then some ((c :: cs).span isAsciiDigit) else none
  | [] => none

/-- The digits behind a point; a point without digits is no part of the number. -/
def lexFraction : List Char → List Char × List Char
  | '.' :: cs =>
    let (ds, rest) := cs.span isAsciiDigit
    if ds.isEmpty then ([], '.' :: cs) else (ds, rest)
  | cs => ([], cs)

/-- The exponent; a letter without digits is no part of the number. -/
def lexExponent (cs : List Char) : Option Int × List Char :=
  match cs with
  | e :: body =>
    if e = 'e' || e = 'E' then
      let (negative, digits) := Text.splitSign body
      let (ds, rest) := digits.span isAsciiDigit
      if ds.isEmpty then (none, cs) else (some (Text.signed negative (Text.digitsValue ds)), rest)
    else (none, cs)
  | [] => (none, cs)

def lexNumber (negative : Bool) (cs : List Char) : Option (Value × List Char) := do
  let (whole, rest) ← lexWhole cs
  let (fraction, rest) := lexFraction rest
  let (exponent, rest) := lexExponent rest
  if fraction.isEmpty && exponent.isNone then
    let n ← (Text.readDigits whole).toOption
    return (.int (Text.signed negative n), rest)
  else
    let digits := Text.digitsValue (whole ++ fraction)
    return (.float (.ofDecimal negative digits (exponent.getD 0 - fraction.length)), rest)

/-- The word at the head of a text, and what follows it. -/
def word? (w : String) (cs : List Char) : Option (List Char) :=
  if w.toList.isPrefixOf cs then some (cs.drop w.length) else none

def words : List (String × Value) :=
  [("null", .null), ("true", .bool true), ("false", .bool false), ("NaN", .float .nan),
   ("Infinity", .float (.infinite false)), ("-Infinity", .float (.infinite true))]

def lexWord (cs : List Char) : Option (Value × List Char) :=
  words.findSome? fun (w, v) => (word? w cs).map (v, ·)

def lexAtom : List Char → Option (Value × List Char)
  | '"' :: cs => (lexString [] cs).map fun (s, rest) => (.string s, rest)
  | cs =>
    match lexWord cs with
    | some r => some r
    | none =>
      match cs with
      | '-' :: cs => lexNumber true cs
      | cs => lexNumber false cs

def punctuation? : Char → Option Token
  | '[' => some .openList
  | ']' => some .closeList
  | '{' => some .openMapping
  | '}' => some .closeMapping
  | ',' => some .comma
  | ':' => some .colon
  | _ => none

def isSpace (c : Char) : Bool := c = ' ' || c = '\t' || c = '\n' || c = '\r'

/-- The tokens of a text, in reverse behind `acc`. Every step takes a character, so a fuel of the
length of the text is enough. -/
def lexFrom : (fuel : Nat) → List Token → List Char → Option (List Token)
  | _, acc, [] => some acc.reverse
  | 0, _, _ => none
  | fuel + 1, acc, c :: cs =>
    if isSpace c then lexFrom fuel acc cs
    else
      match punctuation? c with
      | some t => lexFrom fuel (t :: acc) cs
      | none =>
        match lexAtom (c :: cs) with
        | some (v, rest) => lexFrom fuel (.atom v :: acc) rest
        | none => none

def lex (s : String) : Option (List Token) := lexFrom s.length [] s.toList

/-! ## Values -/

/-- An open bracket with what stands before the current value: the items in reverse, or the entries
and the current key. -/
inductive Context
  | item (before : List Value)
  | entry (before : List (Value × Value)) (key : String)

/-- What the tokens read so far lead to; `first` is set behind an opening bracket. -/
inductive Mode
  | value (first : Bool)
  | key (first : Bool) (before : List (Value × Value))
  | colon (before : List (Value × Value)) (key : String)
  | done (v : Value)

def assemble : List Token → Mode → List Context → Option Value
  | [], .done v, [] => some v
  | .atom v :: ts, .value _, stack => assemble ts (.done v) stack
  | .openList :: ts, .value _, stack => assemble ts (.value true) (.item [] :: stack)
  | .openMapping :: ts, .value _, stack => assemble ts (.key true []) stack
  | .closeList :: ts, .value true, .item [] :: stack => assemble ts (.done (.list [])) stack
  | .closeMapping :: ts, .key true [], stack => assemble ts (.done (.mapping [])) stack
  | .atom (.string k) :: ts, .key _ before, stack => assemble ts (.colon before k) stack
  | .colon :: ts, .colon before k, stack => assemble ts (.value false) (.entry before k :: stack)
  | .comma :: ts, .done v, .item before :: stack =>
    assemble ts (.value false) (.item (v :: before) :: stack)
  | .closeList :: ts, .done v, .item before :: stack =>
    assemble ts (.done (.list (v :: before).reverse)) stack
  | .comma :: ts, .done v, .entry before k :: stack =>
    assemble ts (.key false (Value.setEntry (.string k) v before)) stack
  | .closeMapping :: ts, .done v, .entry before k :: stack =>
    assemble ts (.done (.mapping (Value.setEntry (.string k) v before))) stack
  | _, _, _ => none

/-- The value a text holds, if the text is well-formed. -/
def read (s : String) : Option Value := do assemble (← lex s) (.value false) []

end GatewayMigration.Json
