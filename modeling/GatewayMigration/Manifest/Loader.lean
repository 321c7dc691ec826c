import GatewayMigration.Document.Yaml.Construct
import GatewayMigration.Report.Fault
/-!
# Loading manifests

A manifest file holds documents, and a document is an object or a list of objects. Loading gives all
objects in document order.
-/

namespace GatewayMigration

/-- A manifest's objects are mappings; what they are made of is checked later. -/
abbrev ObjectFields := List (Value × Value)

namespace Value

def typeName : Value → String
  | .null => "NoneType"
  | .bool _ => "bool"
  | .int _ => "int"
  | .float _ => "float"
  | .string _ => "str"
  | .timestamp (.date _) => "datetime.date"
  | .timestamp (.moment _ _) => "datetime.datetime"
  | .bytes _ => "bytes"
  | .list _ => "list"
  | .set _ => "set"
  | .mapping _ => "dict"

end Value

namespace Manifest

def isYamlSuffix (suffix : String) : Bool := suffix = ".yaml" || suffix = ".yml"

def isJsonSuffix (suffix : String) : Bool := suffix = ".json"

/-- Whether a file's name says that it is a manifest. -/
def canLoad (path : FilePath) : Bool :=
  let suffix := Text.lower path.suffix
  isYamlSuffix suffix || isJsonSuffix suffix

/-- The documents of a text, by the suffix of its file. -/
def documents? (suffix text : String) : Option (List Value) :=
  if isYamlSuffix (Text.lower suffix) then Yaml.read text
  else (Json.read text).map fun v => [v]

/-- A list of objects, or a mapping with items and no kind, stands for its items. -/
def isWrapper (es : ObjectFields) : Bool :=
  Value.lookup "kind" es = some (.string "List") ||
    ((Value.lookup "items" es).isSome && (Value.lookup "kind" es).isNone)

/-- The members of a collection. The members of a text are no objects, those of a mapping are its
keys. -/
def members (v : Value) : Except Interruption (List Value) :=
  match v with
  | .list vs | .set vs => .ok vs
  | .mapping es => .ok (es.map Prod.fst)
  | .string _ | .bytes _ => .ok []
  | v =>
    if v.isFalsy then .ok []
    else .error (.wrongType ("'" ++ v.typeName ++ "' object is not iterable"))

def fields? : Value → Option ObjectFields
  | .mapping es => some es
  | _ => none

/-- The objects of one mapping: the mapping itself, or the mappings among its items. -/
def unwrap (es : ObjectFields) : Except Interruption (List ObjectFields) :=
  if isWrapper es then
    (members ((Value.lookup "items" es).getD .null)).map fun vs => vs.filterMap fields?
  else .ok [es]

/-- The objects of documents, of which the first has this number. An empty document has none. -/
def objectsFrom (file : Option String) : (number : Nat) → List Value →
    Except Interruption (List ObjectFields)
  | _, [] => .ok []
  | n, .null :: ds => objectsFrom file (n + 1) ds
  | n, .mapping es :: ds => do return (← unwrap es) ++ (← objectsFrom file (n + 1) ds)
  | n, _ :: _ => .error (.fault (.manifest .notMapping file (some n)))

/-- The objects of a file that has been read. -/
def parse (path : FilePath) (octets : List UInt8) : Except Interruption (List ObjectFields) := do
  let file := some (toString path)
  let text ←
    match Text.decode octets with
    | .ok s => pure (String.ofList (Text.unifyBreaks s.toList))
    | .error e => .error (.undecodable e)
  match documents? path.suffix text with
  | some ds => objectsFrom file 0 ds
  | none => .error (.fault (.manifest (.unreadable path.name) file none))

def load (t : FileTree) (path : FilePath) : Except Interruption (List ObjectFields) :=
  let file := some (toString path)
  if !t.contains path then .error (.fault (.manifest (.notFound (toString path)) file none))
  else if !canLoad path then .error (.fault (.manifest (.unsupported path.suffix) file none))
  else
    match t.read path with
    | .ok octets => parse path octets
    | .error e => .error (.file e)

end Manifest

end GatewayMigration
