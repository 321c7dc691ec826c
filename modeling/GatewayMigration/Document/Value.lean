import GatewayMigration.Decimal.Binary64
import GatewayMigration.Document.Timestamp
/-!
# Document values

What a manifest file holds once it is parsed: scalars, lists, sets and mappings. A mapping keeps its
entries in document order, and its keys are values too.
-/

namespace GatewayMigration

inductive Value
  | null
  | bool (b : Bool)
  | int (i : Int)
  | float (x : Binary64)
  | string (s : String)
  | timestamp (t : Timestamp)
  | bytes (octets : List UInt8)
  | list (items : List Value)
  | set (items : List Value)
  | mapping (entries : List (Value × Value))
deriving Repr, Inhabited

namespace Value

/-! ## Equality -/

mutual

def beq : Value → Value → Bool
  | .null, .null => true
  | .bool a, .bool b => a == b
  | .int a, .int b => a == b
  | .float a, .float b => a == b
  | .string a, .string b => a == b
  | .timestamp a, .timestamp b => a == b
  | .bytes a, .bytes b => a == b
  | .list a, .list b => beqList a b
  | .set a, .set b => beqList a b
  | .mapping a, .mapping b => beqEntries a b
  | _, _ => false

def beqList : List Value → List Value → Bool
  | [], [] => true
  | a :: as, b :: bs => Value.beq a b && beqList as bs
  | _, _ => false

def beqEntries : List (Value × Value) → List (Value × Value) → Bool
  | [], [] => true
  | (k, a) :: as, (l, b) :: bs => Value.beq k l && Value.beq a b && beqEntries as bs
  | _, _ => false

end

mutual

theorem eq_of_beq : (a b : Value) → Value.beq a b = true → a = b
  | a, b, h => by
    cases a <;> cases b <;> simp_all [Value.beq]
    · exact eq_of_beqList _ _ h
    · exact eq_of_beqList _ _ h
    · exact eq_of_beqEntries _ _ h

theorem eq_of_beqList : (as bs : List Value) → Value.beqList as bs = true → as = bs
  | [], [], _ => rfl
  | [], _ :: _, h => by simp [Value.beqList] at h
  | _ :: _, [], h => by simp [Value.beqList] at h
  | a :: as, b :: bs, h => by
    simp only [Value.beqList, Bool.and_eq_true] at h
    rw [eq_of_beq a b h.1, eq_of_beqList as bs h.2]

theorem eq_of_beqEntries : (as bs : List (Value × Value)) → Value.beqEntries as bs = true → as = bs
  | [], [], _ => rfl
  | [], _ :: _, h => by simp [Value.beqEntries] at h
  | _ :: _, [], h => by simp [Value.beqEntries] at h
  | (k, a) :: as, (l, b) :: bs, h => by
    simp only [Value.beqEntries, Bool.and_eq_true] at h
    rw [eq_of_beq k l h.1.1, eq_of_beq a b h.1.2, eq_of_beqEntries as bs h.2]

end

mutual

theorem beq_self : (a : Value) → Value.beq a a = true
  | .null | .bool _ | .int _ | .float _ | .string _ | .timestamp _ | .bytes _ => by simp [Value.beq]
  | .list as | .set as => by simpa [Value.beq] using beqList_self as
  | .mapping as => by simpa [Value.beq] using beqEntries_self as

theorem beqList_self : (as : List Value) → Value.beqList as as = true
  | [] => rfl
  | a :: as => by simp [Value.beqList, beq_self a, beqList_self as]

theorem beqEntries_self : (as : List (Value × Value)) → Value.beqEntries as as = true
  | [] => rfl
  | (k, a) :: as => by simp [Value.beqEntries, beq_self k, beq_self a, beqEntries_self as]

end

instance : DecidableEq Value := fun a b =>
  decidable_of_iff (Value.beq a b = true) ⟨eq_of_beq a b, fun h => h ▸ beq_self a⟩

/-! ## Views -/

/-- A mapping whose keys are texts. -/
def object (fields : List (String × Value)) : Value :=
  .mapping (fields.map fun f => (.string f.1, f.2))

def texts (ss : List String) : Value := .list (ss.map .string)

/-- A text, or null when there is none. -/
def ofText? : Option String → Value
  | some s => .string s
  | none => .null

def ofInt? : Option Int → Value
  | some i => .int i
  | none => .null

/-- The value under a text key of a list of entries. -/
def lookup (k : String) (es : List (Value × Value)) : Option Value := es.lookup (.string k)

/-- The field of a mapping. -/
def field? (k : String) : Value → Option Value
  | .mapping es => lookup k es
  | _ => none

def text? : Value → Option String
  | .string s => some s
  | _ => none

def isMapping : Value → Bool
  | .mapping _ => true
  | _ => false

/-- A value that counts as no: null, zero, and whatever is empty. -/
def isFalsy : Value → Bool
  | .null => true
  | .bool b => !b
  | .int i => i == 0
  | .float x =>
    match x with
    | .finite _ m _ => m == 0
    | _ => false
  | .string s => s.isEmpty
  | .timestamp _ => false
  | .bytes o => o.isEmpty
  | .list xs | .set xs => xs.isEmpty
  | .mapping es => es.isEmpty

/-! ## Keys -/

/-- The number that a boolean, an integer or an integral float stands for. -/
def wholeNumber? : Value → Option Int
  | .bool b => some (if b then 1 else 0)
  | .int i => some i
  | .float x => x.toInt?
  | _ => none

mutual

/-- Whether two keys of a mapping are the same: numbers compare by value, whatever their type. -/
def sameKey : Value → Value → Bool
  | .list as, .list bs => sameKeys as bs
  | a, b =>
    match a.wholeNumber?, b.wholeNumber? with
    | some i, some j => i == j
    | _, _ => a == b

def sameKeys : List Value → List Value → Bool
  | [], [] => true
  | a :: as, b :: bs => sameKey a b && sameKeys as bs
  | _, _ => false

end

def isScalar : Value → Bool
  | .list _ | .set _ | .mapping _ => false
  | _ => true

/-- Whether a value can be a key: a scalar, or a list of scalars. -/
def isKey : Value → Bool
  | .list xs => xs.all isScalar
  | v => v.isScalar

/-- Write a key: an entry with the same key keeps its place and its key. -/
def setEntry (k v : Value) : List (Value × Value) → List (Value × Value)
  | [] => [(k, v)]
  | (l, w) :: es => if sameKey l k then (l, v) :: es else (l, w) :: setEntry k v es

def hasEntry (k : Value) (es : List (Value × Value)) : Bool := es.any fun e => sameKey e.1 k

end Value

end GatewayMigration
