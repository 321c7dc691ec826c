import GatewayMigration.Document.Yaml.Token
/-!
# Implicit tags

Which type a plain scalar has when nothing else says so. Each test below accepts exactly the texts
of one type; `implicitTag?` tries them in a fixed order.
-/

namespace GatewayMigration.Yaml

inductive Tag
  | null
  | bool
  | int
  | float
  | string
  | timestamp
  | binary
  | orderedMap
  | pairs
  | set
  | sequence
  | mapping
  | merge
  | value
  | other (name : String)
deriving DecidableEq, Repr

namespace Tag

def leader : String := "tag:yaml.org,2002:"

def known : List (String × Tag) :=
  [("null", .null), ("bool", .bool), ("int", .int), ("float", .float), ("str", .string),
   ("timestamp", .timestamp), ("binary", .binary), ("omap", .orderedMap), ("pairs", .pairs),
   ("set", .set), ("seq", .sequence), ("map", .mapping), ("merge", .merge), ("value", .value)]

/-- The tag with this full name. -/
def ofName (name : String) : Tag :=
  match known.find? fun e => leader ++ e.1 == name with
  | some e => e.2
  | none => .other name

end Tag

/-! ## Character classes and runs -/

def isDecimal (c : Char) : Bool := '0' ≤ c && c ≤ '9'
def isDecimalOrLow (c : Char) : Bool := isDecimal c || c = '_'
def isBinaryOrLow (c : Char) : Bool := c = '0' || c = '1' || c = '_'
def isOctalOrLow (c : Char) : Bool := ('0' ≤ c && c ≤ '7') || c = '_'

def isHexOrLow (c : Char) : Bool :=
  isDecimalOrLow c || ('a' ≤ c && c ≤ 'f') || ('A' ≤ c && c ≤ 'F')

def allSome (p : Char → Bool) (cs : List Char) : Bool := !cs.isEmpty && cs.all p

def dropSign : List Char → List Char
  | '+' :: cs | '-' :: cs => cs
  | cs => cs

/-! ## Integers -/

/-- One or two digits of a base-sixty number. -/
def isSixtyPart : List Char → Bool
  | [a] => isDecimal a
  | [a, b] => '0' ≤ a && a ≤ '5' && isDecimal b
  | _ => false

def splitColons : List Char → List (List Char)
  | [] => [[]]
  | ':' :: cs => [] :: splitColons cs
  | c :: cs =>
    match splitColons cs with
    | part :: parts => (c :: part) :: parts
    | [] => [[c]]

/-- A number in base sixty: a decimal in front of at least one part. -/
def isSixty (leading : List Char → Bool) (cs : List Char) : Bool :=
  match splitColons cs with
  | first :: part :: parts => leading first && (part :: parts).all isSixtyPart
  | _ => false

def isNonzeroDecimal : List Char → Bool
  | c :: cs => '1' ≤ c && c ≤ '9' && cs.all isDecimalOrLow
  | [] => false

def isInt12 (cs : List Char) : Bool :=
  match dropSign cs with
  | '0' :: 'b' :: ds => allSome isBinaryOrLow ds
  | '0' :: 'x' :: ds => allSome isHexOrLow ds
  | '0' :: 'o' :: ds => allSome isOctalOrLow ds
  | ds => allSome isDecimalOrLow ds

def isInt11 (cs : List Char) : Bool :=
  match dropSign cs with
  | '0' :: 'b' :: ds => allSome isBinaryOrLow ds
  | '0' :: 'x' :: ds => allSome isHexOrLow ds
  | ds =>
    allSome isOctalOrLow ds || isNonzeroDecimal ds || isSixty isNonzeroDecimal ds

/-! ## Floats -/

/-- An exponent; `signed` asks for a sign. -/
def isExponent (signed : Bool) : List Char → Bool
  | e :: cs =>
    (e = 'e' || e = 'E') && (!signed || (dropSign cs).length < cs.length) &&
      allSome isDecimal (dropSign cs)
  | [] => false

def isDecimalStart : List Char → Bool
  | c :: _ => isDecimal c
  | [] => false

/-- A number with digits in front of the point or the exponent. -/
def isPointed (cs : List Char) : Bool :=
  isDecimalStart cs &&
    match cs.dropWhile isDecimalOrLow with
    | '.' :: rest =>
      let tail := rest.dropWhile isDecimalOrLow
      tail.isEmpty || isExponent false tail
    | rest => isExponent false rest

/-- A number that begins with its point. -/
def isBarePoint : List Char → Bool
  | '.' :: rest =>
    let tail := rest.dropWhile isDecimalOrLow
    tail.length < rest.length && (tail.isEmpty || isExponent true tail)
  | _ => false

def isInfinity (cs : List Char) : Bool :=
  [".inf", ".Inf", ".INF"].contains (String.ofList cs)

def isNan (cs : List Char) : Bool := [".nan", ".NaN", ".NAN"].contains (String.ofList cs)

/-- A number in base sixty with a point behind its last part. -/
def isSixtyFloat (cs : List Char) : Bool :=
  let whole := cs.takeWhile (· != '.')
  let rest := cs.dropWhile (· != '.')
  isSixty (fun ds => isDecimalStart ds && ds.all isDecimalOrLow) whole &&
    !rest.isEmpty && rest.tail.all isDecimalOrLow

def isFloat12 (cs : List Char) : Bool :=
  let ds := dropSign cs
  isPointed ds || isBarePoint ds || isInfinity ds || isNan cs

def isFloat11 (cs : List Char) : Bool :=
  let ds := dropSign cs
  isPointed ds || isBarePoint cs || isSixtyFloat ds || isInfinity ds || isNan cs

/-! ## Timestamps -/

structure TimestampText where
  year : List Char
  month : List Char
  day : List Char
  /-- The hour, the minute, the second and the fraction. -/
  clock : Option (List Char × List Char × List Char × List Char)
  /-- `Z`, or the sign, the hours and the minutes of an offset. -/
  zone : Option (Option (Char × List Char × List Char))
deriving DecidableEq, Repr

/-- Between `least` and `most` digits. -/
def takeDigits (least most : Nat) (cs : List Char) : Option (List Char × List Char) :=
  let ds := (cs.take most).takeWhile isDecimal
  if least ≤ ds.length then some (ds, cs.drop ds.length) else none

def takeChar (a : Char) : List Char → Option (List Char)
  | c :: cs => if c = a then some cs else none
  | [] => none

def dropBlanks (cs : List Char) : List Char := cs.dropWhile isSpaceOrTab

/-- An offset behind optional blanks, up to the end. -/
def zoneText (cs : List Char) : Option (Option (Option (Char × List Char × List Char))) := do
  if cs.isEmpty then return none
  match dropBlanks cs with
  | ['Z'] => return some none
  | c :: rest =>
    guard (c = '+' || c = '-')
    let (hours, rest) ← takeDigits 1 2 rest
    if rest.isEmpty then return some (some (c, hours, []))
    let (minutes, rest) ← takeDigits 2 2 (← takeChar ':' rest)
    guard rest.isEmpty
    return some (some (c, hours, minutes))
  | [] => none

def timestampText? (cs : List Char) : Option TimestampText := do
  let (year, cs) ← takeDigits 4 4 cs
  let (month, cs) ← takeDigits 1 2 (← takeChar '-' cs)
  let (day, cs) ← takeDigits 1 2 (← takeChar '-' cs)
  if cs.isEmpty then return ⟨year, month, day, none, none⟩
  let cs ←
    match cs with
    | c :: rest =>
      if c = 'T' || c = 't' then some rest
      else if isSpaceOrTab c then some (dropBlanks rest) else none
    | [] => none
  let (hour, cs) ← takeDigits 1 2 cs
  let (minute, cs) ← takeDigits 2 2 (← takeChar ':' cs)
  let (second, cs) ← takeDigits 2 2 (← takeChar ':' cs)
  let (fraction, cs) :=
    match cs with
    | '.' :: rest => rest.span isDecimal
    | _ => ([], cs)
  return ⟨year, month, day, some (hour, minute, second, fraction), ← zoneText cs⟩

/-- A date alone needs two digits for the month and for the day. -/
def isTimestamp (cs : List Char) : Bool :=
  match timestampText? cs with
  | some t => t.clock.isSome || (t.month.length == 2 && t.day.length == 2)
  | none => false

/-! ## The order of the tests -/

def isNull (cs : List Char) : Bool :=
  ["", "~", "null", "Null", "NULL"].contains (String.ofList cs)

def boolTexts12 : List String := ["true", "True", "TRUE", "false", "False", "FALSE"]

def boolTexts11 : List String :=
  boolTexts12 ++ ["y", "Y", "yes", "Yes", "YES", "n", "N", "no", "No", "NO", "on", "On", "ON",
    "off", "Off", "OFF"]

/-- The tests of a version; versions other than the two have none. -/
def tests? (v : Version) : Option (List (Tag × (List Char → Bool))) :=
  let common : List (Tag × (List Char → Bool)) :=
    [(.merge, (· = ['<', '<'])), (.null, isNull), (.timestamp, isTimestamp), (.value, (· = ['=']))]
  if v = .v12 then
    some ((.bool, fun cs => boolTexts12.contains (String.ofList cs)) :: (.float, isFloat12) ::
      (.int, isInt12) :: common)
  else if v = .v11 then
    some ((.bool, fun cs => boolTexts11.contains (String.ofList cs)) :: (.float, isFloat11) ::
      (.int, isInt11) :: common)
  else none

/-- Whether a text can begin a number: only these first characters are looked at. -/
def startsNumber : List Char → Bool
  | c :: _ => isDecimal c || c = '-' || c = '+' || c = '.'
  | [] => false

/-- The tag of a plain scalar. -/
def implicitTag? (v : Version) (s : String) : Option Tag := do
  let tests ← tests? v
  let cs := s.toList
  let numeric (t : Tag) : Bool := t = .int || t = .float
  match tests.find? fun t => (!numeric t.1 || startsNumber cs) && t.2 cs with
  | some t => return t.1
  | none => return .string

end GatewayMigration.Yaml
