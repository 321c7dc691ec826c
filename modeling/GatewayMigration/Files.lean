import GatewayMigration.OrderedMap
import GatewayMigration.Text.Case
import GatewayMigration.Text.Utf8
/-!
# Files

Paths, and trees of directories and files. Operations on a tree are functions: writing gives a new
tree, and what can go wrong is a `FileError`.
-/

namespace GatewayMigration

/-! ## Paths -/

/-- A path without empty and `.` parts. The root is empty for a relative path. -/
structure FilePath where
  root : String := ""
  parts : List String := []
deriving DecidableEq, Repr

namespace FilePath

def splitSlashes (s : String) : List String := s.splitToList (· == '/')

/-- Exactly two slashes in front are a root of their own. -/
def rootOf (s : String) : String :=
  match s.toList with
  | '/' :: '/' :: '/' :: _ => "/"
  | '/' :: '/' :: _ => "//"
  | '/' :: _ => "/"
  | _ => ""

def ofText (s : String) : FilePath :=
  ⟨rootOf s, (splitSlashes s).filter fun p => !p.isEmpty && p != "."⟩

instance : ToString FilePath where
  toString p :=
    let text := p.root ++ "/".intercalate p.parts
    if text.isEmpty then "." else text

/-- The last part. -/
def name (p : FilePath) : String := p.parts.getLast?.getD ""

/-- The end of a name from its last dot, unless the dot is the first or the last character. -/
def suffixOf (name : String) : String :=
  let tail := (name.toList.reverse.takeWhile (· != '.')).reverse
  let front := name.length - tail.length
  if tail.isEmpty || front ≤ 1 then "" else String.ofList ('.' :: tail)

def suffix (p : FilePath) : String := suffixOf p.name

def parent (p : FilePath) : FilePath := { p with parts := p.parts.dropLast }

end FilePath

/-! ## Errors -/

inductive FileErrorKind
  | notFound
  | exists
  | notDirectory
  | isDirectory
deriving DecidableEq, Repr

structure FileError where
  kind : FileErrorKind
  path : FilePath
deriving DecidableEq, Repr

def FileErrorKind.number : FileErrorKind → Nat
  | .notFound => 2
  | .exists => 17
  | .notDirectory => 20
  | .isDirectory => 21

def FileErrorKind.text : FileErrorKind → String
  | .notFound => "No such file or directory"
  | .exists => "File exists"
  | .notDirectory => "Not a directory"
  | .isDirectory => "Is a directory"

def FileError.text (e : FileError) : String :=
  "[Errno " ++ toString e.kind.number ++ "] " ++ e.kind.text ++ ": " ++
    Text.quoted (toString e.path)

/-! ## Trees -/

inductive FileNode
  | directory
  | file (octets : List UInt8)
deriving DecidableEq, Repr

/-- The nodes of a tree by their places. There are two tops, which are directories without being
nodes: the empty place, where relative paths begin, and the root of the others. -/
structure FileTree where
  nodes : OrderedMap (List String) FileNode := .empty
deriving DecidableEq

namespace FileTree

def isTop (place : List String) : Bool := place.isEmpty || place == ["/"] || place == ["//"]

def at? (t : FileTree) (place : List String) : Option FileNode :=
  if isTop place then some .directory else t.nodes.get? place

/-- The directory above a place; nothing is above a top. -/
def above (place : List String) : List String := if isTop place then place else place.dropLast

/-- The place that a path means, step by step through directories. -/
def walk (t : FileTree) :
    (place : List String) → (parts : List String) → Except FileErrorKind (List String)
  | place, [] => .ok place
  | place, p :: ps =>
    match t.at? place with
    | none => .error .notFound
    | some (.file _) => .error .notDirectory
    | some .directory => t.walk (if p = ".." then above place else place ++ [p]) ps

def resolve (t : FileTree) (p : FilePath) : Except FileErrorKind (List String) :=
  t.walk (if p.root.isEmpty then [] else [p.root]) p.parts

def node? (t : FileTree) (p : FilePath) : Option FileNode :=
  match t.resolve p with
  | .ok place => t.at? place
  | .error _ => none

def contains (t : FileTree) (p : FilePath) : Bool := (t.node? p).isSome

def read (t : FileTree) (p : FilePath) : Except FileError (List UInt8) :=
  match t.resolve p with
  | .error k => .error ⟨k, p⟩
  | .ok place =>
    match t.at? place with
    | some (.file octets) => .ok octets
    | some .directory => .error ⟨.isDirectory, p⟩
    | none => .error ⟨.notFound, p⟩

def makeDirectory (t : FileTree) (p : FilePath) : Except FileErrorKind FileTree :=
  match t.resolve p with
  | .error k => .error k
  | .ok place =>
    if (t.at? place).isSome then .error .exists else .ok ⟨t.nodes.insert place .directory⟩

/-- Make a directory and those above it; an existing one is kept. The fuel is the number of the
path's parts. -/
def makeDirectories (t : FileTree) : (fuel : Nat) → FilePath → Except FileError FileTree
  | fuel, p =>
    match t.makeDirectory p with
    | .ok t => .ok t
    | .error .notFound =>
      match fuel with
      | 0 => .error ⟨.notFound, p⟩
      | fuel + 1 =>
        match t.makeDirectories fuel p.parent with
        | .error e => .error e
        | .ok t =>
          match t.makeDirectory p with
          | .ok t => .ok t
          | .error k => if t.node? p = some .directory then .ok t else .error ⟨k, p⟩
    | .error k => if t.node? p = some .directory then .ok t else .error ⟨k, p⟩

def write (t : FileTree) (p : FilePath) (octets : List UInt8) : Except FileError FileTree :=
  match t.resolve p with
  | .error k => .error ⟨k, p⟩
  | .ok place =>
    match t.at? place with
    | some .directory => .error ⟨.isDirectory, p⟩
    | _ => .ok ⟨t.nodes.insert place (.file octets)⟩

end FileTree

end GatewayMigration
