import GatewayMigration.Schema.Codec
/-!
# Records

A record is described once, field by field in the order of declaration, and the description both
reads and writes it. A field has a name and perhaps a second spelling that is accepted when reading.
An open record ignores fields it does not know; a closed one reports each of them, after the
problems of its own fields.
-/

namespace GatewayMigration

structure FieldName where
  name : String
  spelling : Option String := none
deriving DecidableEq, Repr

namespace FieldName

instance : Coe String FieldName := ⟨fun s => ⟨s, none⟩⟩

def spellings (n : FieldName) : List String := n.name :: n.spelling.toList

/-- The spelling that is read: the first one present. -/
def present? (n : FieldName) (es : List (Value × Value)) : Option String :=
  n.spellings.find? fun s => (Value.lookup s es).isSome

def value? (n : FieldName) (es : List (Value × Value)) : Option Value :=
  (n.present? es).bind fun s => Value.lookup s es

end FieldName

/-- A field with a second spelling. -/
def either (name spelling : String) : FieldName := ⟨name, some spelling⟩

/-- The description of some fields of `ρ`, from which an `α` is read. -/
structure Fields (ρ α : Type) where
  names : List FieldName
  read : List (Value × Value) → Checked α
  write : Nulls → ρ → List (String × Value)

namespace Fields

variable {ρ α β : Type}

instance : Applicative (Fields ρ) where
  pure a := ⟨[], fun _ => .valid a, fun _ _ => []⟩
  map f d := ⟨d.names, fun es => (d.read es).map f, d.write⟩
  seq d e :=
    let e := e ()
    ⟨d.names ++ e.names, fun es => (d.read es).seq (e.read es),
      fun nulls r => d.write nulls r ++ e.write nulls r⟩

/-- A problem is located under the spelling that was read, or the name when there is none. -/
def readAt (n : FieldName) (absent : Checked α) (read : Value → Checked α)
    (es : List (Value × Value)) : Checked α :=
  (match n.value? es with
    | some v => read v
    | none => absent).under (.field ((n.present? es).getD n.name))

/-- A field that has to be there. -/
def required (n : FieldName) (c : Codec α) (get : ρ → α) : Fields ρ α where
  names := [n]
  read := readAt n (.problem .missing) c.read
  write nulls r := [(n.name, c.write nulls (get r))]

/-- A field with a default for when it is absent; null is no absence. -/
def defaulted (n : FieldName) (default : α) (c : Codec α) (get : ρ → α) : Fields ρ α where
  names := [n]
  read := readAt n (.valid default) c.read
  write nulls r := [(n.name, c.write nulls (get r))]

/-- A field that may be absent or null. -/
def optional (n : FieldName) (c : Codec α) (get : ρ → Option α) : Fields ρ (Option α) where
  names := [n]
  read := readAt n (.valid none) fun v => if v = .null then .valid none else (c.read v).map some
  write nulls r :=
    match get r, nulls with
    | some a, _ => [(n.name, c.write nulls a)]
    | none, .kept => [(n.name, .null)]
    | none, .dropped => []

/-- The entries that belong to no field. -/
def unknown (d : Fields ρ α) (es : List (Value × Value)) : List Problem :=
  let used := d.names.filterMap (·.present? es)
  es.filterMap fun e =>
    match e.1 with
    | .string s => if used.contains s then none else some ⟨.extraForbidden, [.field s]⟩
    | k => some ⟨.invalidKey, [Codec.keyStep k]⟩

/-- The record that ignores unknown fields. -/
def opened (d : Fields ρ ρ) : Codec ρ where
  read
    | .mapping es => d.read es
    | _ => .problem .modelType
  write nulls r := Value.object (d.write nulls r)

/-- The record that reports unknown fields. -/
def closed (d : Fields ρ ρ) : Codec ρ where
  read
    | .mapping es => (d.read es).along (d.unknown es)
    | _ => .problem .modelType
  write nulls r := Value.object (d.write nulls r)

end Fields

end GatewayMigration
