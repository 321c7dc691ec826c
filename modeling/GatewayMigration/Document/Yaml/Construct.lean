import GatewayMigration.Document.Yaml.Node
import GatewayMigration.Text.Case
/-!
# The values of YAML nodes

A node becomes a value by its tag. The entry under the key `<<` of a mapping is no entry: it brings
in the entries of other mappings, which the mapping's own entries override.
-/

namespace GatewayMigration.Yaml

/-! ## Numbers -/

def withoutLows (s : String) : List Char := s.toList.filter (· != '_')

/-- A non-empty run of digits in base `2`, `8` or `16`. -/
def basedDigits? (base : Nat) (ds : List Char) : Option Nat :=
  if ds.isEmpty then none
  else ds.foldlM (fun n d => do
    let v ← Json.hexValue? d
    if v < base then some (n * base + v) else none) 0

def decimalInt? (cs : List Char) : Option Int := (Text.readInteger (String.ofList cs)).toOption

/-- The value of a number in base sixty, from the values of its parts. -/
def sixtyValue (parts : List Int) : Int := parts.foldl (fun n d => 60 * n + d) 0

def unsignedInt? (v : Version) (cs : List Char) : Option Int :=
  match cs with
  | '0' :: 'b' :: ds => (basedDigits? 2 ds).map Int.ofNat
  | '0' :: 'x' :: ds => (basedDigits? 16 ds).map Int.ofNat
  | '0' :: 'o' :: ds => (basedDigits? 8 ds).map Int.ofNat
  | _ =>
    if v = .v11 && cs.head? == some '0' then (basedDigits? 8 cs).map Int.ofNat
    else if v = .v11 && cs.contains ':' then ((splitColons cs).mapM decimalInt?).map sixtyValue
    else decimalInt? cs

def intOfText? (v : Version) (s : String) : Option Int :=
  match withoutLows s with
  | '-' :: cs => (unsignedInt? v cs).map (- ·)
  | '+' :: cs => unsignedInt? v cs
  | cs => unsignedInt? v cs

/-- The float that a decimal writes: digits with at most one point among them, and an exponent. -/
def decimalFloat? (cs : List Char) : Option Binary64 := do
  let (negative, cs) := Text.splitSign (Text.stripChars cs)
  if ["inf", "infinity"].contains (String.ofList cs) then return .infinite negative
  if cs = "nan".toList then return .nan
  let (whole, rest) := cs.span isDecimal
  let (fraction, rest) :=
    match rest with
    | '.' :: rest => rest.span isDecimal
    | _ => ([], rest)
  guard (!(whole ++ fraction).isEmpty)
  let exponent ←
    match rest with
    | [] => some 0
    | 'e' :: rest =>
      let (down, ds) := Text.splitSign rest
      if allSome isDecimal ds then some (Text.signed down (Text.digitsValue ds)) else none
    | _ => none
  return .ofDecimal negative (Text.digitsValue (whole ++ fraction)) (exponent - fraction.length)

/-- The value of a float in base sixty: the last part counts once, each earlier one sixty times as
much as the next. -/
def sixtyFloat (parts : List Binary64) : Binary64 :=
  (parts.reverse.foldl (fun (total, base) d => (total.add (d.timesNat base), base * 60))
    (Binary64.finite false 0 Binary64.minExponent, 1)).1

def unsignedFloat? (v : Version) (cs : List Char) : Option Binary64 :=
  if cs = ".inf".toList then some (.infinite false)
  else if cs = ".nan".toList then some .nan
  else if v != .v12 && cs.contains ':' then ((splitColons cs).mapM decimalFloat?).map sixtyFloat
  else decimalFloat? cs

def floatOfText? (v : Version) (s : String) : Option Binary64 :=
  match (withoutLows s).map Char.toLower with
  | '-' :: cs => (unsignedFloat? v cs).map Binary64.neg
  | '+' :: cs => unsignedFloat? v cs
  | [] => none
  | cs => unsignedFloat? v cs

/-! ## Other scalars -/

def boolOfText? (s : String) : Option Bool :=
  let t := Text.lower s
  if ["yes", "y", "true", "on"].contains t then some true
  else if ["no", "n", "false", "off"].contains t then some false
  else none

def base64Value? (c : Char) : Option Nat :=
  if 'A' ≤ c ∧ c ≤ 'Z' then some (c.toNat - 'A'.toNat)
  else if 'a' ≤ c ∧ c ≤ 'z' then some (c.toNat - 'a'.toNat + 26)
  else if '0' ≤ c ∧ c ≤ '9' then some (c.toNat - '0'.toNat + 52)
  else if c = '+' then some 62
  else if c = '/' then some 63
  else none

/-- The octets of base-64 text. Foreign characters are skipped; `phase` counts the digits of the
current group, `left` holds the bits that make no octet yet, and padding that completes a group ends
the text. -/
def base64Octets (phase left pads : Nat) (acc : List UInt8) : List Char → Option (List UInt8)
  | [] => if phase = 0 then some acc.reverse else none
  | c :: cs =>
    if c = '=' then
      if 2 ≤ phase then
        if 4 ≤ phase + pads + 1 then some acc.reverse
        else base64Octets phase left (pads + 1) acc cs
      else base64Octets phase left pads acc cs
    else
      match base64Value? c with
      | none => base64Octets phase left pads acc cs
      | some d =>
        if phase = 0 then base64Octets 1 d 0 acc cs
        else
          let bits := left * 64 + d
          let unit := if phase = 1 then 16 else if phase = 2 then 4 else 1
          base64Octets ((phase + 1) % 4) (bits % unit) 0 (UInt8.ofNat (bits / unit) :: acc) cs

def octetsOfText? (s : String) : Option (List UInt8) :=
  if s.toList.all (·.toNat < 0x80) then base64Octets 0 0 0 [] s.toList else none

/-- Microseconds from the digits of a fraction, rounded at the seventh digit. -/
def microseconds (ds : List Char) : Nat :=
  let six := Text.digitsValue (ds.take 6 ++ List.replicate (6 - ds.length) '0')
  match ds.drop 6 with
  | d :: _ => if '4' < d then six + 1 else six
  | [] => six

def zoneOffset : Option (Char × List Char × List Char) → Int
  | none => 0
  | some (sign, hours, minutes) =>
    Text.signed (sign = '-') (60 * Text.digitsValue hours + Text.digitsValue minutes)

/-- The moment that a timestamp's text names, if the calendar has it. -/
def timestampOfText? (s : String) : Option Timestamp := do
  let t ← timestampText? s.toList
  let date : Date := ⟨Text.digitsValue t.year, Text.digitsValue t.month, Text.digitsValue t.day⟩
  let stamp ←
    match t.clock with
    | none => some (.date date)
    | some (hour, minute, second, fraction) =>
      let micro := microseconds fraction
      let clock : ClockTime :=
        ⟨Text.digitsValue hour, Text.digitsValue minute, Text.digitsValue second, micro % 1000000,
          t.zone.map zoneOffset⟩
      if !(Timestamp.moment date clock).isValid then none
      else if micro < 1000000 then some (.moment date clock)
      else some (Timestamp.nextSecond date clock)
  if stamp.isValid then some stamp else none

/-! ## Nodes -/

namespace Node

mutual

/-- The text of a scalar; a mapping stands for the scalar under its `=` key. -/
def scalarText? : Node → Option String
  | .scalar _ s => some s
  | .sequence _ _ => none
  | .mapping _ es => entriesText? es

def entriesText? : List (Node × Node) → Option String
  | [] => none
  | (k, v) :: es => if k.tag = .value then v.scalarText? else entriesText? es

end

/-- Write entries one after the other; a repeated key is an error. -/
def distinctEntries (es : List (Value × Value)) : Option (List (Value × Value)) :=
  es.foldlM (fun done e =>
    if !e.1.isKey || Value.hasEntry e.1 done then none else some (done ++ [e])) []

/-- Write entries one after the other; a repeated key gets the later value. -/
def overridingEntries (es : List (Value × Value)) : Option (List (Value × Value)) :=
  es.foldlM (fun done e => if e.1.isKey then some (Value.setEntry e.1 e.2 done) else none) []

/-- The entries of a mapping, from the merged ones and its own. -/
def joinEntries (merged own : List (Value × Value)) : Option (List (Value × Value)) :=
  if merged.isEmpty then distinctEntries own else overridingEntries (merged ++ own)

mutual

def value (v : Version) : Node → Option Value
  | .scalar tag s => scalarValue v tag s
  | .sequence tag items =>
    match tag with
    | .sequence => (values v items).map .list
    | .orderedMap => do
      let es ← singles v items
      if es.all fun e => e.1.isScalar then (distinctEntries es).map .mapping else none
    | .pairs => (singles v items).map fun es => .list (es.map fun e => .list [e.1, e.2])
    | _ => none
  | .mapping tag entries =>
    match tag with
    | .mapping => do
      let (merged, own) ← splitEntries v [] [] entries
      return .mapping (← joinEntries merged own)
    | .set => do
      let (merged, own) ← splitEntries v [] [] entries
      return .set ((← joinEntries merged own).map Prod.fst)
    | .null | .bool | .int | .float | .string | .binary => do
      scalarValue v tag (← entriesText? entries)
    | _ => none
where
  /-- A scalar by its tag. -/
  scalarValue (v : Version) (tag : Tag) (s : String) : Option Value :=
    match tag with
    | .null => some .null
    | .bool => (boolOfText? s).map .bool
    | .int => (intOfText? v s).map .int
    | .float => (floatOfText? v s).map .float
    | .string => some (.string s)
    | .timestamp => (timestampOfText? s).map .timestamp
    | .binary => (octetsOfText? s).map .bytes
    | _ => none

def values (v : Version) : List Node → Option (List Value)
  | [] => some []
  | n :: ns => do return (← n.value v) :: (← values v ns)

/-- The merged entries and the own entries of a mapping. Merging twice is an error, unless the first
merge brought nothing. -/
def splitEntries (v : Version) (merged own : List (Value × Value)) :
    List (Node × Node) → Option (List (Value × Value) × List (Value × Value))
  | [] => some (merged, own)
  | (k, n) :: es =>
    match k with
    | .scalar .merge _ | .sequence .merge _ | .mapping .merge _ =>
      if merged.isEmpty then do splitEntries v (← n.mergeable v) own es else none
    | .scalar .value s => do splitEntries v merged (own ++ [(.string s, ← n.value v)]) es
    | _ => do splitEntries v merged (own ++ [(← k.value v, ← n.value v)]) es

/-- What a node brings in when it is merged: the entries of a mapping, or those of a list of
mappings, of which the first overrides the others. -/
def mergeable (v : Version) : Node → Option (List (Value × Value))
  | .mapping _ entries => do
    let (merged, own) ← splitEntries v [] [] entries
    return merged ++ own
  | .sequence _ items => mergeables v items
  | .scalar _ _ => none

def mergeables (v : Version) : List Node → Option (List (Value × Value))
  | [] => some []
  | .mapping _ entries :: ns => do
    let (merged, own) ← splitEntries v [] [] entries
    return (← mergeables v ns) ++ (merged ++ own)
  | _ :: _ => none

def singles (v : Version) : List Node → Option (List (Value × Value))
  | [] => some []
  | .mapping _ [(k, n)] :: ns => do return (← k.value v, ← n.value v) :: (← singles v ns)
  | _ :: _ => none

end

end Node

/-- The documents of a text. -/
def read (s : String) : Option (List Value) := do
  (← parse s).mapM fun d => d.2.value d.1

end GatewayMigration.Yaml
