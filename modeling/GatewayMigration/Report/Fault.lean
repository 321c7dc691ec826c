import GatewayMigration.Document.Diagnostic
import GatewayMigration.Files
import GatewayMigration.Schema.Problem
import GatewayMigration.Text.Integer
/-!
# Faults

What stops a run. A fault is explained to the user: it has a code, a context and, for bad input, a
hint. Other interruptions come from values that some operation does not accept.
-/

namespace GatewayMigration

/-- Why a manifest cannot be used. -/
inductive ManifestProblem
  | notFound (path : String)
  | unsupported (suffix : String)
  | unreadable (name : String)
  | notMapping
  | invalidObject (kind : String) (problems : List Problem)
  | other (message : String)
deriving DecidableEq

/-- What a fault knows beyond its message: a text is malformed, or an object has problems. -/
inductive FaultDetail
  | malformed
  | problems (ps : List Problem)
deriving DecidableEq

inductive Fault
  | general (message : String) (code : Option String) (context : List (String × Value))
  | manifest (problem : ManifestProblem) (file : Option String) (document : Option Int)
  | configuration (message : String) (field expected : Option String) (actual : Value)
  | provider (message : String) (provider phase : Option String)
deriving DecidableEq

def manifestExtensions : List String := [".json", ".yaml", ".yml"]

namespace ManifestProblem

def message : ManifestProblem → String
  | .notFound path => "File not found: " ++ path
  | .unsupported suffix =>
    "Unsupported extension '" ++ suffix ++ "'. Supported: " ++ ", ".intercalate manifestExtensions
  | .unreadable name => "Cannot parse " ++ name
  | .notMapping => "Each document must be a mapping"
  | .invalidObject kind _ => "Invalid " ++ kind
  | .other message => message

def detail? : ManifestProblem → Option FaultDetail
  | .unreadable _ => some .malformed
  | .invalidObject _ ps => some (.problems ps)
  | _ => none

end ManifestProblem

def FaultDetail.text : FaultDetail → String
  | .malformed => "malformed document"
  | .problems ps => "; ".intercalate (ps.map Problem.text)

namespace Fault

def message : Fault → String
  | .general m _ _ => m
  | .manifest p _ _ => p.message
  | .configuration m _ _ _ => m
  | .provider m _ _ => m

def detail? : Fault → Option FaultDetail
  | .manifest p _ _ => p.detail?
  | _ => none

def code : Fault → Option String
  | .general _ c _ => c
  | .manifest _ _ _ => some "MANIFEST_LOAD_ERROR"
  | .configuration _ _ _ _ => some "CONFIGURATION_ERROR"
  | .provider _ _ _ => some "PROVIDER_ERROR"

/-- A text of the context; an empty one counts as absent. -/
def textEntry (name : String) : Option String → List (String × Value)
  | some s => if s.isEmpty then [] else [(name, .string s)]
  | none => []

def context : Fault → List (String × Value)
  | .general _ _ c => c
  | .manifest _ file document =>
    textEntry "file_path" file ++ (document.map fun i => ("document_index", Value.int i)).toList
  | .configuration _ field expected actual =>
    textEntry "field_name" field ++ textEntry "expected" expected ++
      if actual = .null then [] else [("actual_value", actual)]
  | .provider _ name phase => textEntry "provider_name" name ++ textEntry "phase" phase

/-- What the user may do about it. -/
def hint? : Fault → Option String
  | .general _ _ _ | .provider _ _ _ => none
  | .manifest _ _ (some i) =>
    some ("Check YAML document #" ++ toString i ++ " for a malformed Ingress or Service")
  | .manifest _ _ none => some "Ensure the file exists and contains valid YAML or JSON manifests"
  | .configuration _ (some field) (some expected) _ =>
    if field.isEmpty || expected.isEmpty then
      some "Check the command-line flags and provider configuration"
    else some ("Set '" ++ field ++ "' to one of: " ++ expected)
  | .configuration _ _ _ _ => some "Check the command-line flags and provider configuration"

/-- The code, the message with its details, and the context. -/
def text (describe : FaultDetail → String) (f : Fault) : String :=
  let code :=
    match f.code with
    | some c => if c.isEmpty then "" else "[" ++ c ++ "] "
    | none => ""
  let detail :=
    match f.detail? with
    | some d => ": " ++ describe d
    | none => ""
  let context :=
    if f.context.isEmpty then ""
    else " (Context: " ++ ", ".intercalate (f.context.map fun e => e.1 ++ "=" ++ e.2.display) ++ ")"
  code ++ f.message ++ detail ++ context

end Fault

/-- Everything that ends an operation early. -/
inductive Interruption
  | fault (f : Fault)
  | invalidRecord (problems : List Problem)
  | badValue (message : String)
  | undecodable (e : Text.Utf8Error)
  | wrongType (message : String)
  | noMapping (typeName : String)
  | file (e : FileError)
  | broken (message : String)
  | conversionFailed (cause : Interruption)
deriving DecidableEq

namespace Interruption

/-- The integers that can be shown have a limited number of digits. -/
def longInteger : Interruption :=
  .badValue ("Exceeds the limit (" ++ toString Text.maxIntegerDigits ++
    " digits) for integer string conversion; use sys.set_int_max_str_digits() to increase the " ++
    "limit")

def text (describe : FaultDetail → String) : Interruption → String
  | .fault f => f.text describe
  | .invalidRecord ps => describe (.problems ps)
  | .badValue m | .wrongType m | .broken m => m
  | .undecodable e => e.text
  | .noMapping name => "'" ++ name ++ "' object has no attribute 'get'"
  | .file e => e.text
  | .conversionFailed cause => "Conversion failed: " ++ cause.text describe

end Interruption

end GatewayMigration
