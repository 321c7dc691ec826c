import GatewayMigration.Document.Diagnostic
import GatewayMigration.ObjectKey
import GatewayMigration.Schema.Checked
import GatewayMigration.Text.Integer
import GatewayMigration.Text.Utf8
/-!
# Codecs

A codec reads a type from document values and writes it back. Reading is lenient about how scalars
are spelled, writing is not. The main statements are the laws `Codec.Lawful` of the basic codecs:
what a codec writes, it reads back.
-/

namespace GatewayMigration

/-- Whether absent fields are written as nulls or left out. -/
inductive Nulls
  | kept
  | dropped
deriving DecidableEq, Repr

structure Codec (α : Type) where
  read : Value → Checked α
  write : Nulls → α → Value

namespace Codec

/-- What is written is read back, and it is never null. -/
structure Lawful {α : Type} (c : Codec α) : Prop where
  read_write : ∀ nulls a, c.read (c.write nulls a) = .valid a
  write_ne_null : ∀ nulls a, c.write nulls a ≠ .null

/-! ## Texts -/

def readText : Value → Checked String
  | .string s => .valid s
  | .bytes os =>
    match Text.decode os with
    | .ok s => .valid s
    | .error _ => .problem .stringUnicode
  | _ => .problem .stringType

def text : Codec String := ⟨readText, fun _ => .string⟩

/-- A text of at least one character. -/
def nonEmpty (message : String) : Codec String where
  read v := (readText v).bind fun s =>
    if s.isEmpty then .problem (.valueError message) else .valid s
  write _ := .string

/-! ## Numbers and truth values -/

/-- The space that a number may have around it: all white space but the ASCII separators. -/
def isNumberSpace (c : Char) : Bool := Text.isBlank c && !(0x1C ≤ c.toNat && c.toNat ≤ 0x1F)

def isAsciiDigit (c : Char) : Bool := '0' ≤ c && c ≤ '9'

/-- The digits in front of a fraction of zeros. -/
def beforeZeroFraction (cs : List Char) : Option (List Char) :=
  match cs.span (· != '.') with
  | (whole, []) => some whole
  | (whole, _ :: zeros) => if !zeros.isEmpty && zeros.all (· == '0') then some whole else none

/-- The integer that a text spells: space around it, a sign, single underscores between digits, and
a fraction of zeros are allowed. -/
def intOfText (s : String) : Checked Int :=
  let (negative, cs) := Text.splitSign (Text.stripBy isNumberSpace s.toList)
  let digits := (beforeZeroFraction cs).bind Text.groupedDigits?
  match digits.filter (·.all isAsciiDigit) with
  | none => .problem .intParsing
  | some ds =>
    match Text.readDigits ds with
    | .ok n => .valid (Text.signed negative n)
    | .error _ => .problem .intParsingSize

/-- The integer that a float is; it has to fit into 64 bits. -/
def intOfFloat (x : Binary64) : Checked Int :=
  match x with
  | .nan | .infinite _ => .problem .finiteNumber
  | .finite .. =>
    match x.toInt? with
    | none => .problem .intFromFloat
    | some i => if i.natAbs < Binary64.twoTo 63 then .valid i else .problem .intParsingSize

def readInt : Value → Checked Int
  | .int i => .valid i
  | .bool b => .valid (if b then 1 else 0)
  | .float x => intOfFloat x
  | .string s => intOfText s
  | .bytes os =>
    match Text.decode os with
    | .ok s => intOfText s
    | .error _ => .problem .intParsing
  | _ => .problem .intType

def integer : Codec Int := ⟨readInt, fun _ => .int⟩

def integerFrom (least : Int) : Codec Int where
  read v := (readInt v).bind fun i => if i < least then .problem .greaterThanEqual else .valid i
  write _ := .int

def trueTexts : List String := ["1", "on", "t", "true", "y", "yes"]
def falseTexts : List String := ["0", "off", "f", "false", "n", "no"]

def boolOfText (s : String) : Checked Bool :=
  let t := String.ofList (s.toList.map Char.toLower)
  if trueTexts.contains t then .valid true
  else if falseTexts.contains t then .valid false
  else .problem .boolParsing

/-- One and zero; an integer of more than 64 bits is not even tried. -/
def boolOfInt (i : Int) : Checked Bool :=
  if i = 1 then .valid true
  else if i = 0 then .valid false
  else if -(Binary64.twoTo 63 : Int) ≤ i ∧ i < Binary64.twoTo 63 then .problem .boolParsing
  else .problem .boolType

def readBool : Value → Checked Bool
  | .bool b => .valid b
  | .int i => boolOfInt i
  | .float x =>
    match intOfFloat x with
    | .valid i => boolOfInt i
    | .invalid .. => .problem .boolType
  | .string s => boolOfText s
  | .bytes os =>
    match Text.decode os with
    | .ok s => boolOfText s
    | .error _ => .problem .boolParsing
  | _ => .problem .boolType

def boolean : Codec Bool := ⟨readBool, fun _ => .bool⟩

/-! ## Choices -/

/-- One of several words. -/
def choice {α : Type} (all : List α) (name : α → String) : Codec α where
  read
    | .string s =>
      match all.find? fun a => name a == s with
      | some a => .valid a
      | none => .problem .enum
    | _ => .problem .enum
  write _ a := .string (name a)

/-! ## Collections -/

def list {α : Type} (c : Codec α) : Codec (List α) where
  read
    | .list vs | .set vs => Checked.all c.read 0 vs
    | _ => .problem .listType
  write nulls as := .list (as.map (c.write nulls))

/-- The step that a key of a mapping makes: a text or an integer is itself, another key as
diagnostics show it. -/
def keyStep : Value → Step
  | .string s => .field s
  | .int i => .index i
  | .bool b => .index (if b then 1 else 0)
  | k => .field k.diagnostic

def readEntries {α : Type} (c : Codec α) : List (Value × Value) → Checked (List (String × α))
  | [] => .valid []
  | (k, v) :: es =>
    let key := ((readText k).under (.field "[key]")).under (keyStep k)
    let value := (c.read v).under (keyStep k)
    (((key.map Prod.mk).seq value).map List.cons).seq (readEntries c es)

/-- A mapping from texts. -/
def dictionary {α : Type} (c : Codec α) : Codec (OrderedMap String α) where
  read
    | .mapping es => (readEntries c es).map OrderedMap.ofList
    | _ => .problem .dictType
  write nulls m := Value.object (m.toList.map fun e => (e.1, c.write nulls e.2))

/-- A mapping from texts to anything, kept as it is. -/
def anything : Codec Value := ⟨.valid, fun _ v => v⟩

/-- A namespace and a name, in this order. -/
def objectKey : Codec ObjectKey where
  read
    | .list vs =>
      let part (i : Nat) : Checked String :=
        match vs[i]? with
        | some v => (readText v).under (.index i)
        | none => (Checked.problem .missing).under (.index i)
      let more := if 2 < vs.length then [⟨.tooLong, []⟩] else []
      (((part 0).map ObjectKey.mk).seq (part 1)).along more
    | _ => .problem .namedTupleType
  write _ k := Value.texts [k.space, k.name]

/-! ## Laws -/

theorem text_lawful : text.Lawful := ⟨fun _ _ => rfl, fun _ _ => by simp [text]⟩

theorem integer_lawful : integer.Lawful := ⟨fun _ _ => rfl, fun _ _ => by simp [integer]⟩

theorem list_lawful {α : Type} {c : Codec α} (h : c.Lawful) : (list c).Lawful where
  read_write nulls as := by
    show Checked.all c.read 0 (as.map (c.write nulls)) = _
    exact Checked.all_valid as (fun a _ => h.read_write nulls a) 0
  write_ne_null _ _ := by simp [list]

end Codec

end GatewayMigration
