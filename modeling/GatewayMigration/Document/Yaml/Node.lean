import GatewayMigration.Document.Yaml.Lexer
import GatewayMigration.Document.Yaml.Resolve
/-!
# The nodes of a YAML text

The parser turns tokens into trees, one for every document. An alias stands for the whole tree
behind its anchor, so trees have no sharing, and an alias inside its own anchor is an error.
-/

namespace GatewayMigration.Yaml

inductive Node
  | scalar (tag : Tag) (text : String)
  | sequence (tag : Tag) (items : List Node)
  | mapping (tag : Tag) (entries : List (Node × Node))
deriving Repr

namespace Node

def tag : Node → Tag
  | .scalar t _ | .sequence t _ | .mapping t _ => t

end Node

/-- What the parser knows between two tokens: the abbreviations of tags, and the anchors of the
current document. -/
structure ParserState where
  tokens : List Token
  version : Version := .v12
  handles : List (String × String) := []
  anchors : List (String × Node) := []

abbrev Parser := StateT ParserState Option

namespace Parser

def defaultHandles : List (String × String) := [("!", "!"), ("!!", Tag.leader)]

def peek : Parser (Option Token) := return (← get).tokens.head?

def skip : Parser Unit := modify fun s => { s with tokens := s.tokens.tail }

/-- Whether the next token is one of these. -/
def next (ts : List Token) : Parser Bool := do
  match ← peek with
  | some t => return ts.contains t
  | none => return false

/-- Step over a token if it is the next one. -/
def accept (t : Token) : Parser Bool := do
  if ← next [t] then
    skip
    return true
  else return false

def expect (t : Token) : Parser Unit := do
  unless ← accept t do failure

def atBlockStart : Parser Bool := next [.blockEntry]

/-! ## Properties of a node -/

def anchor? : Parser (Option String) := do
  match ← peek with
  | some (.anchor name) =>
    skip
    return some name
  | _ => return none

def resolveHandle (t : TagText) : Parser String := do
  match t.handle with
  | none => return t.suffix
  | some h =>
    match ((← get).handles ++ defaultHandles).lookup h with
    | some leader => return leader ++ t.suffix
    | none => failure

def tag? : Parser (Option String) := do
  match ← peek with
  | some (.tag t) =>
    skip
    return some (← resolveHandle t)
  | _ => return none

/-- An anchor and a tag in either order. -/
def properties : Parser (Option String × Option String) := do
  match ← anchor? with
  | some name => return (some name, ← tag?)
  | none =>
    match ← tag? with
    | some t => return (← anchor?, some t)
    | none => return (none, none)

/-- The tag `!` asks for the implicit tag even of a quoted scalar. -/
def scalarNode (tag : Option String) (plain : Bool) (s : String) : Parser Node := do
  match tag with
  | some "!" => return .scalar (← implicitTag? (← get).version s) s
  | some t => return .scalar (.ofName t) s
  | none =>
    if plain then return .scalar (← implicitTag? (← get).version s) s
    else return .scalar .string s

def collectionTag (tag : Option String) (default : Tag) : Tag :=
  match tag with
  | none | some "!" => default
  | some t => .ofName t

def emptyNode : Parser Node := scalarNode none true ""

def remember (anchor : Option String) (n : Node) : Parser Node := do
  match anchor with
  | some name => modify fun s => { s with anchors := (name, n) :: s.anchors }
  | none => pure ()
  return n

/-! ## Nodes -/

mutual

/-- A node. Only a node in block context may be a block collection; `indentless` admits a list whose
dashes stand at the column of the enclosing mapping. -/
def node : (fuel : Nat) → (block indentless : Bool) → Parser Node
  | 0, _, _ => failure
  | fuel + 1, block, indentless => do
    if let some (.alias name) ← peek then
      skip
      return ← (← get).anchors.lookup name
    let (anchor, tag) ← properties
    let n ← do
      if indentless && (← atBlockStart) then
        pure (.sequence (collectionTag tag .sequence) (← indentlessItems fuel []))
      else
        match ← peek with
        | some (.scalar s plain) =>
          skip
          scalarNode tag plain s
        | some .flowSequenceStart =>
          skip
          pure (.sequence (collectionTag tag .sequence) (← flowItems fuel true []))
        | some .flowMappingStart =>
          skip
          pure (.mapping (collectionTag tag .mapping) (← flowEntries fuel true []))
        | t =>
          if block && t == some .blockSequenceStart then
            skip
            pure (.sequence (collectionTag tag .sequence) (← blockItems fuel []))
          else if block && t == some .blockMappingStart then
            skip
            pure (.mapping (collectionTag tag .mapping) (← blockEntries fuel []))
          else if anchor.isSome || tag.isSome then scalarNode tag true ""
          else failure
    remember anchor n

/-- The items of a block list; `done` holds the earlier ones in reverse. -/
def blockItems : (fuel : Nat) → (done : List Node) → Parser (List Node)
  | 0, _ => failure
  | fuel + 1, done => do
    if ← accept .blockEntry then
      let n ← if ← next [.blockEntry, .blockEnd] then emptyNode else node fuel true false
      blockItems fuel (n :: done)
    else
      expect .blockEnd
      return done.reverse

def indentlessItems : (fuel : Nat) → (done : List Node) → Parser (List Node)
  | 0, _ => failure
  | fuel + 1, done => do
    if ← accept .blockEntry then
      let n ←
        if ← next [.blockEntry, .key, .value, .blockEnd] then emptyNode else node fuel true false
      indentlessItems fuel (n :: done)
    else return done.reverse

def blockEntries : (fuel : Nat) → (done : List (Node × Node)) → Parser (List (Node × Node))
  | 0, _ => failure
  | fuel + 1, done => do
    if ← accept .key then
      let k ← if ← next [.key, .value, .blockEnd] then emptyNode else node fuel true true
      let v ← blockValue fuel
      blockEntries fuel ((k, v) :: done)
    else if (← get).version.after11 && (← next [.value]) then
      let k ← emptyNode
      let v ← blockValue fuel
      blockEntries fuel ((k, v) :: done)
    else
      expect .blockEnd
      return done.reverse

def blockValue : (fuel : Nat) → Parser Node
  | 0 => failure
  | fuel + 1 => do
    if ← accept .value then
      if ← next [.key, .value, .blockEnd] then emptyNode else node fuel true true
    else emptyNode

/-- The items of a list in brackets. An item may be a mapping of one entry without braces. -/
def flowItems : (fuel : Nat) → (first : Bool) → (done : List Node) → Parser (List Node)
  | 0, _, _ => failure
  | fuel + 1, first, done => do
    if ← accept .flowSequenceEnd then return done.reverse
    unless first do expect .flowEntry
    if ← accept .key then
      let k ←
        if ← next [.value, .flowEntry, .flowSequenceEnd] then emptyNode else node fuel false false
      let v ← flowValue fuel [.flowEntry, .flowSequenceEnd]
      flowItems fuel false (.mapping .mapping [(k, v)] :: done)
    else if ← accept .flowSequenceEnd then return done.reverse
    else
      let n ← node fuel false false
      flowItems fuel false (n :: done)

/-- The entries of a mapping in braces. An item alone is a key without a value. -/
def flowEntries : (fuel : Nat) → (first : Bool) → (done : List (Node × Node)) →
    Parser (List (Node × Node))
  | 0, _, _ => failure
  | fuel + 1, first, done => do
    if ← accept .flowMappingEnd then return done.reverse
    unless first do expect .flowEntry
    if ← accept .key then
      let k ←
        if ← next [.value, .flowEntry, .flowMappingEnd] then emptyNode else node fuel false false
      let v ← flowValue fuel [.flowEntry, .flowMappingEnd]
      flowEntries fuel false ((k, v) :: done)
    else if (← get).version.after11 && (← next [.value]) then
      let k ← emptyNode
      let v ← flowValue fuel [.flowEntry, .flowMappingEnd]
      flowEntries fuel false ((k, v) :: done)
    else if ← accept .flowMappingEnd then return done.reverse
    else
      let k ← node fuel false false
      let v ← emptyNode
      flowEntries fuel false ((k, v) :: done)

/-- The value behind a key in brackets; `closers` are the tokens that leave it empty. -/
def flowValue : (fuel : Nat) → (closers : List Token) → Parser Node
  | 0, _ => failure
  | fuel + 1, closers => do
    if ← accept .value then
      if ← next closers then emptyNode else node fuel false false
    else emptyNode

end

/-! ## Documents -/

/-- The directives in front of a document: at most one version, whose major number is one, and no
handle twice. -/
def directives : (fuel : Nat) → (version : Option Version) → (handles : List (String × String)) →
    Parser (Option Version × List (String × String))
  | 0, _, _ => failure
  | fuel + 1, version, handles => do
    match ← peek with
    | some (.versionDirective v) =>
      guard (version.isNone && v.major = 1)
      skip
      directives fuel (some v) handles
    | some (.tagDirective h leader) =>
      guard (handles.lookup h).isNone
      skip
      directives fuel version ((h, leader) :: handles)
    | some .otherDirective =>
      skip
      directives fuel version handles
    | _ => return (version, handles)

def isDirective : Token → Bool
  | .versionDirective _ | .tagDirective _ _ | .otherDirective => true
  | _ => false

/-- Whether a document ends here without content. -/
def atDocumentEdge (endToo : Bool) : Parser Bool := do
  match ← peek with
  | none => return true
  | some t => return isDirective t || t = .documentStart || (endToo && t = .documentEnd)

def skipDocumentEnds : (fuel : Nat) → Parser Unit
  | 0 => pure ()
  | fuel + 1 => do if ← accept .documentEnd then skipDocumentEnds fuel

/-- The documents up to the end. A document may begin without a marker at the start of the text, and
since version 1.2 behind an end marker. -/
def documents : (fuel : Nat) → (mayBeBare : Bool) → (done : List (Version × Node)) →
    Parser (List (Version × Node))
  | 0, _, _ => failure
  | fuel + 1, mayBeBare, done => do
    let bare := mayBeBare && !(← atDocumentEdge false)
    if bare then modify fun s => { s with handles := [] }
    else
      skipDocumentEnds fuel
      if (← peek).isNone then return done.reverse
      let (version, handles) ← directives fuel none []
      expect .documentStart
      modify fun s => { s with version := version.getD .v12, handles := handles }
    let size := (← get).tokens.length
    let n ← if !bare && (← atDocumentEdge true) then emptyNode else node (4 * size + 4) true false
    let closed ← accept .documentEnd
    modify fun s => { s with anchors := [] }
    let version := (← get).version
    documents fuel (closed && version != .v11) ((version, n) :: done)

end Parser

/-- The trees of all documents of a text, each with the version it is read by. -/
def parse (s : String) : Option (List (Version × Node)) := do
  let tokens ← lex s
  let (nodes, _) ← (Parser.documents (tokens.length + 2) true []).run { tokens := tokens }
  return nodes

end GatewayMigration.Yaml
