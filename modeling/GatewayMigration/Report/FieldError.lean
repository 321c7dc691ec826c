import GatewayMigration.Document.Diagnostic
/-!
# Field errors

What is wrong with one annotation of one object. Field errors are collected: they stop neither the
object's other annotations nor other objects.
-/

namespace GatewayMigration

/-- The way to a field. The key of a map is part of the segment in front of it. -/
structure FieldPath where
  segments : List String := []
deriving DecidableEq, Repr

namespace FieldPath

def child (p : FieldPath) (segments : List String) : FieldPath := ⟨p.segments ++ segments⟩

/-- Put a map's key behind the last segment. -/
def key (p : FieldPath) (k : String) : FieldPath :=
  let bracket := "[" ++ k ++ "]"
  match p.segments.getLast? with
  | some s => ⟨p.segments.dropLast ++ [s ++ bracket]⟩
  | none => ⟨[bracket]⟩

instance : ToString FieldPath := ⟨fun p => ".".intercalate p.segments⟩

end FieldPath

inductive FieldErrorKind
  | invalid
  | notSupported
  | required
deriving DecidableEq, Repr

def FieldErrorKind.name : FieldErrorKind → String
  | .invalid => "FieldValueInvalid"
  | .notSupported => "FieldValueNotSupported"
  | .required => "FieldValueRequired"

/-- A null value means that there is none. -/
structure FieldError where
  kind : FieldErrorKind
  path : FieldPath
  value : Value
  message : String
deriving DecidableEq

namespace FieldError

def invalid (path : FieldPath) (value : Value) (message : String) : FieldError :=
  ⟨.invalid, path, value, message⟩

def notSupported (path : FieldPath) (value : Value) (supported : List String) : FieldError :=
  ⟨.notSupported, path, value,
    "supported values: " ++ ", ".intercalate (supported.map fun s => "\"" ++ s ++ "\"")⟩

def required (path : FieldPath) (message : String) : FieldError := ⟨.required, path, .null, message⟩

instance : ToString FieldError where
  toString e :=
    let head := toString e.path ++ ": " ++ e.kind.name ++ ": "
    if e.value = .null then head ++ e.message else head ++ e.value.diagnostic ++ ": " ++ e.message

end FieldError

end GatewayMigration
