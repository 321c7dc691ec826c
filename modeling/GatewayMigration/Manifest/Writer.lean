import GatewayMigration.Document.Yaml.Printer
import GatewayMigration.Gateway.Schema
import GatewayMigration.Report.Fault
/-!
# Writing manifests

The objects of a run as one YAML stream, a document for each object in the order of
`Resources.manifests`. An integer that is too long to be shown cannot be written.
-/

namespace GatewayMigration

namespace Value

mutual

/-- Whether all integers of a value can be shown. -/
def isWritable : Value → Bool
  | .int i => (Text.integerText? i).isSome
  | .list xs | .set xs => areWritable xs
  | .mapping es => entriesAreWritable es
  | _ => true

def areWritable : List Value → Bool
  | [] => true
  | x :: xs => x.isWritable && areWritable xs

def entriesAreWritable : List (Value × Value) → Bool
  | [] => true
  | (k, v) :: es => k.isWritable && v.isWritable && entriesAreWritable es

end

end Value

namespace Manifest

def toYaml (ms : List Manifest) : Except Interruption String :=
  if ms.all fun m => m.body.isWritable then
    .ok (ms.foldl (fun page m => Yaml.putDocument page m.shared m.body) ({} : Yaml.Page)).text
  else .error .longInteger

/-- Write the objects to a file whose directories are made if needed. The directories stay even if
the objects cannot be written. -/
def save (t : FileTree) (path : FilePath) (r : Resources) : FileTree × Option Interruption :=
  match t.makeDirectories path.parts.length path.parent with
  | .error e => (t, some (.file e))
  | .ok t =>
    match toYaml r.manifests with
    | .error why => (t, some why)
    | .ok text =>
      match t.write path text.toUTF8.toList with
      | .ok t => (t, none)
      | .error e => (t, some (.file e))

end Manifest

end GatewayMigration
