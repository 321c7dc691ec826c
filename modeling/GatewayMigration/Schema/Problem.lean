/-!
# Problems of documents

What is wrong with a document, and where: a problem has a kind and the path of keys and indices that
leads to it.
-/

namespace GatewayMigration

/-- A step into a mapping or a list. Integer keys of mappings are steps like indices. -/
inductive Step
  | field (name : String)
  | index (i : Int)
deriving DecidableEq, Repr

inductive ProblemKind
  | missing
  | stringType
  | stringUnicode
  | intType
  | intParsing
  | intParsingSize
  | intFromFloat
  | finiteNumber
  | boolType
  | boolParsing
  | listType
  | dictType
  | modelType
  | enum
  | extraForbidden
  | invalidKey
  | greaterThanEqual
  | stringTooShort
  | tooLong
  | namedTupleType
  | valueError (message : String)
deriving DecidableEq, Repr

structure Problem where
  kind : ProblemKind
  path : List Step
deriving DecidableEq, Repr

namespace ProblemKind

def code : ProblemKind → String
  | .missing => "missing"
  | .stringType => "string_type"
  | .stringUnicode => "string_unicode"
  | .intType => "int_type"
  | .intParsing => "int_parsing"
  | .intParsingSize => "int_parsing_size"
  | .intFromFloat => "int_from_float"
  | .finiteNumber => "finite_number"
  | .boolType => "bool_type"
  | .boolParsing => "bool_parsing"
  | .listType => "list_type"
  | .dictType => "dict_type"
  | .modelType => "model_type"
  | .enum => "enum"
  | .extraForbidden => "extra_forbidden"
  | .invalidKey => "invalid_key"
  | .greaterThanEqual => "greater_than_equal"
  | .stringTooShort => "string_too_short"
  | .tooLong => "too_long"
  | .namedTupleType => "named_tuple_type"
  | .valueError _ => "value_error"

/-- The message of a problem that a rule of one field reports. -/
def message? : ProblemKind → Option String
  | .valueError m => some ("Value error, " ++ m)
  | _ => none

end ProblemKind

namespace Problem

def under (s : Step) (p : Problem) : Problem := { p with path := s :: p.path }

def stepText : Step → String
  | .field name => name
  | .index i => toString i

/-- The path, then the code or the message. -/
def text (p : Problem) : String :=
  ".".intercalate (p.path.map stepText) ++ ": " ++ p.kind.message?.getD p.kind.code

end Problem

end GatewayMigration
