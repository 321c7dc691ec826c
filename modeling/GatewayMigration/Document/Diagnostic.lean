import GatewayMigration.Decimal.Shortest
import GatewayMigration.Document.Value
import GatewayMigration.Text.Quoted
/-!
# Values in diagnostics

How a message shows a value: texts quoted, lists in brackets, mappings in braces, and the words
`None`, `True` and `False`.
-/

namespace GatewayMigration

def flagText (b : Bool) : String := if b then "True" else "False"

/-- An optional part shown by `f`, or `None`. -/
def optionText {α : Type} (f : α → String) : Option α → String
  | some a => f a
  | none => "None"

def listText (items : List String) : String := "[" ++ ", ".intercalate items ++ "]"

namespace Value

/-- Octets in the quotes of a text of ASCII characters; all others are escaped by number. -/
def octetsText (os : List UInt8) : String :=
  let cs := os.map fun o => Char.ofNat o.toNat
  let q := Text.quoteFor cs
  let shown (c : Char) : List Char :=
    if 0x7F ≤ c.toNat then '\\' :: 'x' :: Text.hexText 2 c.toNat else Text.quotedChar q c
  String.ofList ('b' :: q :: cs.flatMap shown ++ [q])

mutual

def diagnostic : Value → String
  | .null => "None"
  | .bool b => flagText b
  | .int i => toString i
  | .float x => x.text
  | .string s => Text.quoted s
  | .timestamp t => t.text
  | .bytes os => octetsText os
  | .list xs => listText (diagnostics xs)
  | .set xs => "\x7b" ++ ", ".intercalate (diagnostics xs) ++ "\x7d"
  | .mapping es => "\x7b" ++ ", ".intercalate (entryDiagnostics es) ++ "\x7d"

def diagnostics : List Value → List String
  | [] => []
  | x :: xs => diagnostic x :: diagnostics xs

def entryDiagnostics : List (Value × Value) → List String
  | [] => []
  | (k, v) :: es => (diagnostic k ++ ": " ++ diagnostic v) :: entryDiagnostics es

end

/-- A text shows as it is, everything else as in diagnostics. -/
def display : Value → String
  | .string s => s
  | v => v.diagnostic

end Value

end GatewayMigration
