import GatewayMigration.Document.Yaml.Cursor
/-!
# Tokens of a YAML text

A block collection has a start and an end token although no character writes them: they come from
the indentation.
-/

namespace GatewayMigration.Yaml

/-- Version 1.1 differs from 1.2 in which scalars are numbers or booleans, and in small points of
the syntax. -/
structure Version where
  major : Nat
  minor : Nat
deriving DecidableEq, Repr

namespace Version

def v11 : Version := ⟨1, 1⟩
def v12 : Version := ⟨1, 2⟩

def after11 (v : Version) : Bool := 1 < v.major || (v.major == 1 && 1 < v.minor)

end Version

/-- A tag as written: with a handle that abbreviates a prefix, or whole. -/
structure TagText where
  handle : Option String
  suffix : String
deriving DecidableEq, Repr

inductive Token
  | versionDirective (v : Version)
  | tagDirective (handle leader : String)
  | otherDirective
  | documentStart
  | documentEnd
  | blockSequenceStart
  | blockMappingStart
  | blockEnd
  | flowSequenceStart
  | flowSequenceEnd
  | flowMappingStart
  | flowMappingEnd
  | flowEntry
  | blockEntry
  | key
  | value
  | alias (name : String)
  | anchor (name : String)
  | tag (t : TagText)
  | scalar (text : String) (plain : Bool)
deriving DecidableEq, Repr

end GatewayMigration.Yaml
