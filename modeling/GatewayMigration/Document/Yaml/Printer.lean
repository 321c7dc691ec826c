import GatewayMigration.Document.Diagnostic
import GatewayMigration.Document.Yaml.Page
import GatewayMigration.Schema.Problem
/-!
# Writing YAML

Documents in block style: a mapping's nested entries stand two columns further in, the items of a
list four. Empty collections are written in flow style. A thing that stands in two places is written
at the first one and referred to at the second.
-/

namespace GatewayMigration.Yaml

/-! ## Marks -/

/-- A name that a node gets or that stands for a node. -/
inductive Mark
  | anchor (number : Nat)
  | alias (number : Nat)
deriving DecidableEq, Repr

/-- Marks at places below a node. -/
abbrev Marks := List (List Step × Mark)

namespace Marks

/-- The marks of the `i`-th pair of places have the number `i + 1`. -/
def ofShared (shared : List (List Step × List Step)) : Marks :=
  shared.zipIdx.flatMap fun (places, i) =>
    [(places.1, .anchor (i + 1)), (places.2, .alias (i + 1))]

def here? (ms : Marks) : Option Mark := ms.lookup []

/-- The marks below one step. -/
def below (ms : Marks) (s : Step) : Marks :=
  ms.filterMap fun m =>
    match m.1 with
    | t :: rest => if t = s then some (rest, m.2) else none
    | [] => none

end Marks

/-- Numbers have three digits at least. -/
def markName (number : Nat) : String :=
  let ds := toString number
  "id" ++ String.ofList (List.replicate (3 - ds.length) '0') ++ ds

/-! ## Places -/

/-- Where a node stands. -/
inductive Place
  /-- Behind the colon of a key; the mapping's keys are at `base`. -/
  | value (base : Nat)
  /-- Behind a dash; what is in the item begins at `content`. -/
  | item (content : Nat)
  /-- Behind a question mark, or the colon on a line of its own, with its content at `content`. -/
  | explicit (content : Nat)
deriving DecidableEq, Repr

namespace Place

/-- Where lines go on. -/
def indent : Place → Nat
  | .value base => base + 2
  | .item content | .explicit content => content

/-- Where the dashes of a list stand. -/
def dash : Place → Nat
  | .value base => base + 2
  | .item content | .explicit content => content + 2

/-- Whether the first entry of a collection may stand on the line that is there. -/
def isInline : Place → Bool
  | .value _ => false
  | .item _ | .explicit _ => true

end Place

/-- Begin an entry. -/
def Page.beginEntry (p : Page) (inline : Bool) (column : Nat) : Page :=
  if inline then p.pad column else p.newLine column

/-- Put something in the line behind a key or a dash. -/
def Page.putInline (p : Page) (place : Place) (s : String) : Page :=
  match place with
  | .item content => (p.pad content).putText s
  | _ => (p.put [' ']).putText s

/-! ## Scalars -/

/-- The text of a scalar that is no text itself. -/
def plainText : Value → String
  | .null => ""
  | .bool b => if b then "true" else "false"
  | .int i => toString i
  | .float .nan => ".nan"
  | .float (.infinite negative) => if negative then "-.inf" else ".inf"
  | v => v.display

def putScalarAt (p : Page) (place : Place) (v : Value) : Page :=
  match v, place with
  | .null, .item content => p.pad content
  | .null, _ => p
  | .string s, .item content => (p.pad content).putScalar content true s
  | .string s, place => (p.put [' ']).putScalar place.indent true s
  | v, .item content => (p.pad content).putPlain content true (plainText v)
  | v, place => (p.put [' ']).putPlain place.indent true (plainText v)

/-! ## Keys -/

/-- The longest key that may stand in front of its colon, with room for its tag. -/
def maxSimpleKeyLength : Nat := 122

/-- Whether a key may stand on one line with its colon. -/
def isSimpleKey : Value → Bool
  | .string s => s.length ≤ maxSimpleKeyLength && !(s.toList.any isScalarBreak)
  | .list xs | .set xs => xs.isEmpty
  | .mapping es => es.isEmpty
  | _ => true

def putSimpleKey (p : Page) (base : Nat) (k : Value) : Page :=
  match k with
  | .string s => p.putScalar (base + 2) false s
  | .list _ | .set _ => p.putText "[]"
  | .mapping _ => p.putText "\x7b\x7d"
  | k => p.putPlain (base + 2) false (plainText k)

/-- The step to the value of a key. -/
def stepOf : Value → Step
  | .string s => .field s
  | .int i => .index i
  | k => .field k.display

/-! ## Nodes -/

/-- The page in front of a node's content, after its anchor if it has one, and whether the content
may begin on the same line. -/
def openNode (ms : Marks) (p : Page) (place : Place) : Page × Bool :=
  match ms.here? with
  | some (.anchor n) => (p.putInline place ("&" ++ markName n), false)
  | _ => (p, place.isInline)

mutual

/-- Put a node behind what introduces it. -/
def putNode (ms : Marks) (p : Page) (place : Place) (v : Value) : Page :=
  match ms.here? with
  | some (.alias n) => p.putInline place ("*" ++ markName n)
  | _ =>
    let (start, inline) := openNode ms p place
    match v with
    | .list xs | .set xs =>
      if xs.isEmpty then start.putInline place "[]" else putItems ms start place.dash inline 0 xs
    | .mapping es =>
      if es.isEmpty then start.putInline place "\x7b\x7d"
      else putEntries ms start place.indent inline es
    | v => putScalarAt start place v

/-- Put the items from the one with this number on. -/
def putItems (ms : Marks) (p : Page) (dash : Nat) (inline : Bool) :
    (number : Nat) → List Value → Page
  | _, [] => p
  | n, x :: xs =>
    let p := (p.beginEntry inline dash).put ['-']
    putItems ms (putNode (ms.below (.index n)) p (.item (dash + 2)) x) dash false (n + 1) xs

def putEntries (ms : Marks) (p : Page) (base : Nat) (inline : Bool) : List (Value × Value) → Page
  | [] => p
  | (k, v) :: es =>
    let p := p.beginEntry inline base
    let below := ms.below (stepOf k)
    let p :=
      if isSimpleKey k then
        putNode below ((putSimpleKey p base k).put [':']) (.value base) v
      else
        let p := putNode [] (p.put ['?']) (.explicit (base + 2)) k
        putNode below ((p.newLine base).put [':']) (.explicit (base + 2)) v
    putEntries ms p base false es

end

/-- Put a document: the marker, its content, and the end of the line. -/
def putDocument (p : Page) (shared : List (List Step × List Step)) (v : Value) : Page :=
  let p := p.putText "---"
  let ms := Marks.ofShared shared
  let p :=
    match v with
    | .mapping (e :: es) => putEntries ms p 0 false (e :: es)
    | v => putNode ms p (.value 0) v
  p.breakWith '\n'

end GatewayMigration.Yaml
