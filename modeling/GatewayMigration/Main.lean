import GatewayMigration.CommandLine.Run
/-!
# The program

Looks at the files that a command line names, runs the command line on them, and makes the changes
that it asks for.
-/

namespace GatewayMigration.Main

def placeText (place : List String) : String := "/".intercalate place

/-- What stands at a place whose directory is there. -/
def probe (place : List String) : IO (Option FileNode) := do
  try
    return some (.file (← IO.FS.readBinFile (placeText place)).toList)
  catch
    | .noFileOrDirectory .. => return none
    | _ => return some .directory

/-- Add what stands along a path, from its top on. -/
def look (t : FileTree) (p : FilePath) : IO FileTree := do
  let top := if p.root.isEmpty then [] else [p.root]
  let mut tree := t
  for n in List.range p.parts.length do
    let place := top ++ p.parts.take (n + 1)
    if tree.at? place = none then
      match ← probe place with
      | some node => tree := ⟨tree.nodes.insert place node⟩
      | none => return tree
  return tree

def pathsOf (argv : List String) : List FilePath :=
  match CommandLine.parse argv with
  | .ok (.convert input output _) => [input, output]
  | _ => []

/-- Make what is new or changed in a tree. -/
def change (before after : FileTree) : IO Unit := do
  for (place, node) in after.nodes.toList do
    if before.at? place ≠ some node then
      match node with
      | .directory => IO.FS.createDirAll (placeText place)
      | .file octets => IO.FS.writeBinFile (placeText place) ⟨octets.toArray⟩

def console : CommandLine.Console where
  describe := FaultDetail.text
  stamped l := toString l ++ "\n"

end GatewayMigration.Main

open GatewayMigration in
def main (argv : List String) : IO UInt32 := do
  let before ← (Main.pathsOf argv).foldlM Main.look {}
  let result := CommandLine.run Main.console argv before
  Main.change before result.files
  IO.print result.printed
  result.usageError.forM IO.eprintln
  return UInt32.ofNat result.exit.number
