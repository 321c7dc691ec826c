import GatewayMigration.Text.CaseTable
/-!
# Lower and upper case

Case conversion of whole texts: a character may become several, and a capital sigma becomes the
final sigma at the end of a word.
-/

namespace GatewayMigration.Text

def CaseRun.image? (r : CaseRun) (n : Nat) : Option Nat :=
  if r.first ≤ n ∧ n ≤ r.last ∧ (n - r.first) % r.step = 0 then some ((n : Int) + r.offset).toNat
  else none

/-- The image of one character, first by the table of long images, then by the runs. -/
def mapCase (runs : List CaseRun) (long : List (Nat × List Nat)) (c : Char) : List Char :=
  match long.lookup c.toNat with
  | some image => image.map Char.ofNat
  | none =>
    match runs.findSome? (·.image? c.toNat) with
    | some n => [Char.ofNat n]
    | none => [c]

def lowerChar (c : Char) : List Char :=
  if c.toNat < 0x80 then [c.toLower] else mapCase lowerRuns lowerLong c

def upperChar (c : Char) : List Char :=
  if c.toNat < 0x80 then [c.toUpper] else mapCase upperRuns upperLong c

/-- Whether the nearest character that case does not ignore is a letter with case. -/
def nextIsCased (cs : List Char) : Bool :=
  match cs.dropWhile caseIgnorable.contains with
  | c :: _ => cased.contains c
  | [] => false

/-- `before` is the text to the left, nearest character first. -/
def lowerFrom (before : List Char) : List Char → List Char
  | [] => []
  | c :: cs =>
    (if c = 'Σ' then [if nextIsCased before && !nextIsCased cs then 'ς' else 'σ']
      else lowerChar c) ++ lowerFrom (c :: before) cs

def lower (s : String) : String := String.ofList (lowerFrom [] s.toList)

def upper (s : String) : String := String.ofList (s.toList.flatMap upperChar)

end GatewayMigration.Text
