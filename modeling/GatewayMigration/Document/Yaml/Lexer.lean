import GatewayMigration.Document.Yaml.Property
/-!
# The tokens of a YAML text

The lexer reads tokens one after the other. Indentation opens and closes block collections, and a
colon may reveal that the node in front of it was a key: the key's token is then inserted where that
node began. So the lexer remembers, for every depth of brackets, where a simple key may have begun.
A simple key is on one line and at most `maxKeyLength` characters long.
-/

namespace GatewayMigration.Yaml

def maxKeyLength : Nat := 1024

/-- A place where a simple key may begin. At the column of an open block it has to be one. -/
structure SimpleKey where
  token : Nat
  required : Bool
  index : Nat
  line : Nat
  column : Nat

inductive Bracket
  | square
  | curly
deriving DecidableEq

/-- `indent` is the column of the innermost open block, or `-1`; `allowKey` says whether a simple
key may begin here; `keys` are the open candidates by depth. -/
structure Lexer where
  cursor : Cursor
  tokens : Array Token := #[]
  indent : Int := -1
  indents : List Int := []
  brackets : List Bracket := []
  allowKey : Bool := true
  keys : List (Nat × SimpleKey) := []
  version : Version := .v12
  versionGiven : Bool := false

namespace Lexer

def depth (l : Lexer) : Nat := l.brackets.length

def inFlow (l : Lexer) : Bool := !l.brackets.isEmpty

def emit (t : Token) (l : Lexer) : Lexer := { l with tokens := l.tokens.push t }

def moveTo (c : Cursor) (l : Lexer) : Lexer := { l with cursor := c }

def step (l : Lexer) : Lexer := { l with cursor := l.cursor.next }

/-- The column of the innermost block, if one is open. -/
def parent? (l : Lexer) : Option Nat := if l.indent < 0 then none else some l.indent.toNat

/-! ## Simple keys -/

def isStale (c : Cursor) (k : SimpleKey) : Bool :=
  k.line != c.line || maxKeyLength < c.index - k.index

/-- Give up the candidates that can no longer be keys; a required one may not be given up. -/
def dropStale (l : Lexer) : Option Lexer :=
  if l.keys.any fun k => isStale l.cursor k.2 && k.2.required then none
  else some { l with keys := l.keys.filter fun k => !isStale l.cursor k.2 }

/-- Give up the candidate at this depth. -/
def dropKey (l : Lexer) : Option Lexer :=
  if l.keys.any fun k => k.1 = l.depth && k.2.required then none
  else some { l with keys := l.keys.filter fun k => k.1 != l.depth }

/-- Remember that a simple key may begin here. -/
def saveKey (l : Lexer) : Option Lexer :=
  if l.allowKey then do
    let c := l.cursor
    let key : SimpleKey :=
      ⟨l.tokens.size, !l.inFlow && l.indent == c.column, c.index, c.line, c.column⟩
    let l ← l.dropKey
    return { l with keys := (l.depth, key) :: l.keys }
  else some l

/-! ## Indentation -/

/-- Close the blocks that are indented further than `column`. -/
def unwindTo (column : Int) : List Int → Int → Array Token → List Int × Int × Array Token
  | outer :: indents, indent, tokens =>
    if column < indent then unwindTo column indents outer (tokens.push .blockEnd)
    else (outer :: indents, indent, tokens)
  | [], indent, tokens => ([], indent, tokens)

def unwind (column : Int) (l : Lexer) : Lexer :=
  if l.inFlow then l
  else
    let (indents, indent, tokens) := unwindTo column l.indents l.indent l.tokens
    { l with indents := indents, indent := indent, tokens := tokens }

/-- Open a block at `column`, with its start token at `place`, unless it is open already. -/
def openBlock (start : Token) (column place : Nat) (l : Lexer) : Lexer :=
  if l.indent < column then
    { l with
      indents := l.indent :: l.indents
      indent := column
      tokens := l.tokens.insertIdxIfInBounds place start }
  else l

/-! ## One token -/

/-- Skip blanks, comments and breaks. Tabs count as blanks only inside brackets. -/
def skipToToken : (fuel : Nat) → Lexer → Lexer
  | 0, l => l
  | fuel + 1, l =>
    let blank := if l.inFlow then isSpaceOrTab else (· = ' ')
    let c := (l.cursor.skip blank).skipComment
    if isBreak c.peek then
      skipToToken fuel { l with cursor := c.takeBreak.2, allowKey := l.allowKey || !l.inFlow }
    else { l with cursor := c }

def fetchDirective (l : Lexer) : Option Lexer := do
  let l ← (l.unwind (-1)).dropKey
  let (t, c) ← directive l.version l.cursor
  let l := { l.emit t with cursor := c, allowKey := false }
  match t with
  | .versionDirective v => return { l with version := v, versionGiven := true }
  | _ => return l

/-- A document without a version directive is read by the newer version. -/
def fetchMarker (t : Token) (l : Lexer) : Option Lexer := do
  let l ← (l.unwind (-1)).dropKey
  let l := { l.emit t with cursor := l.cursor.forward 3, allowKey := false }
  if t = .documentStart then
    return { l with version := if l.versionGiven then l.version else .v12, versionGiven := false }
  else return l

def openFlow (b : Bracket) (t : Token) (l : Lexer) : Option Lexer := do
  let l ← l.saveKey
  return { (l.emit t).step with brackets := b :: l.brackets, allowKey := true }

def closeFlow (t : Token) (l : Lexer) : Option Lexer := do
  let l ← l.dropKey
  return { (l.emit t).step with brackets := l.brackets.tail, allowKey := false }

def fetchFlowEntry (l : Lexer) : Option Lexer := do
  let l ← l.dropKey
  return { (l.emit .flowEntry).step with allowKey := true }

def fetchBlockEntry (l : Lexer) : Option Lexer := do
  guard (l.inFlow || l.allowKey)
  let l := if l.inFlow then l else l.openBlock .blockSequenceStart l.cursor.column l.tokens.size
  let l ← l.dropKey
  return { (l.emit .blockEntry).step with allowKey := true }

def fetchKey (l : Lexer) : Option Lexer := do
  guard (l.inFlow || l.allowKey)
  let l := if l.inFlow then l else l.openBlock .blockMappingStart l.cursor.column l.tokens.size
  let l ← l.dropKey
  return { (l.emit .key).step with allowKey := !l.inFlow }

/-- A colon: it ends the simple key at this depth if there is one, otherwise it is the value of an
explicit key or of an empty one. -/
def fetchValue (l : Lexer) : Option Lexer :=
  match l.keys.lookup l.depth with
  | some k =>
    let l := { l with
      keys := l.keys.filter fun k => k.1 != l.depth
      tokens := l.tokens.insertIdxIfInBounds k.token .key
      allowKey := false }
    let l := if l.inFlow then l else l.openBlock .blockMappingStart k.column k.token
    some (l.emit .value).step
  | none => do
    guard (l.inFlow || l.allowKey)
    let l := if l.inFlow then l else l.openBlock .blockMappingStart l.cursor.column l.tokens.size
    let l := { l with allowKey := !l.inFlow }
    let l ← l.dropKey
    return (l.emit .value).step

def fetchAnchor (make : String → Token) (l : Lexer) : Option Lexer := do
  let l ← l.saveKey
  let (name, c) ← anchorName l.cursor
  return { l.emit (make name) with cursor := c, allowKey := false }

def fetchTag (l : Lexer) : Option Lexer := do
  let l ← l.saveKey
  let (t, c) ← tagText l.version l.cursor
  return { l.emit (.tag t) with cursor := c, allowKey := false }

def fetchBlockScalar (folded : Bool) (l : Lexer) : Option Lexer := do
  let l ← l.dropKey
  let (s, c) ← blockScalar folded l.parent? l.cursor
  return { l.emit (.scalar s false) with cursor := c, allowKey := true }

def fetchQuoted (double : Bool) (l : Lexer) : Option Lexer := do
  let l ← l.saveKey
  let (s, c) ← quotedScalar double l.cursor
  return { l.emit (.scalar s false) with cursor := c, allowKey := false }

def fetchPlain (l : Lexer) : Option Lexer := do
  let l ← l.saveKey
  let (s, lineEnded, c) := plainScalar l.version l.inFlow l.parent? l.cursor
  return { l.emit (.scalar s true) with cursor := c, allowKey := lineEnded }

/-- Whether the colon at the cursor is an indicator. `queued` says that the last token is still
waiting for a key to be decided. -/
def isValueIndicator (queued : Bool) (l : Lexer) : Bool :=
  let blankBehind := endsIndicator (l.cursor.peekAt 1)
  match l.brackets with
  | [] => blankBehind
  | .square :: _ => l.version = .v11 || blankBehind
  | .curly :: _ => l.version = .v11 || blankBehind || !(queued && l.tokens.back? == some .value)

def isKeyIndicator (l : Lexer) : Bool := l.inFlow || endsIndicator (l.cursor.peekAt 1)

/-- Characters that begin no plain scalar, at least not without a look at the next one. -/
def isIndicator (c : Char) : Bool :=
  isBreakOrEnd c || isSpaceOrTab c || "-?:,[]\x7b\x7d#&*!|>'\"%@\x60".toList.contains c

def startsPlain (l : Lexer) : Bool :=
  let a := l.cursor.peek
  let b := l.cursor.peekAt 1
  if !isIndicator a then true
  else if a = ':' && l.inFlow && l.version != .v11 && !isSpaceOrTab b then true
  else !endsIndicator b && (a = '-' || (!l.inFlow && (a = '?' || a = ':')))

/-- Read the token at the cursor. -/
def fetch (queued : Bool) (l : Lexer) : Option Lexer :=
  let a := l.cursor.peek
  let atStart := l.cursor.column = 0
  let blankBehind := endsIndicator (l.cursor.peekAt 1)
  if a = '%' && atStart then l.fetchDirective
  else if atStart && l.cursor.atMarker '-' then l.fetchMarker .documentStart
  else if atStart && l.cursor.atMarker '.' then l.fetchMarker .documentEnd
  else if a = '[' then l.openFlow .square .flowSequenceStart
  else if a = '{' then l.openFlow .curly .flowMappingStart
  else if a = ']' then l.closeFlow .flowSequenceEnd
  else if a = '}' then l.closeFlow .flowMappingEnd
  else if a = ',' then l.fetchFlowEntry
  else if a = '-' && blankBehind then l.fetchBlockEntry
  else if a = '?' && l.isKeyIndicator then l.fetchKey
  else if a = ':' && l.isValueIndicator queued then l.fetchValue
  else if a = '*' then l.fetchAnchor .alias
  else if a = '&' then l.fetchAnchor .anchor
  else if a = '!' then l.fetchTag
  else if a = '|' && !l.inFlow then l.fetchBlockScalar false
  else if a = '>' && !l.inFlow then l.fetchBlockScalar true
  else if a = '\'' then l.fetchQuoted false
  else if a = '"' then l.fetchQuoted true
  else if l.startsPlain then l.fetchPlain
  else none

/-- Read tokens up to the end of the text. -/
def run : (fuel : Nat) → Lexer → Option Lexer
  | 0, _ => none
  | fuel + 1, l => do
    let l ← l.dropStale
    let queued := !l.keys.isEmpty
    let l ← (l.skipToToken (l.cursor.rest.length + 1)).dropStale
    let l := l.unwind l.cursor.column
    if l.cursor.rest.isEmpty then (l.unwind (-1)).dropKey
    else run fuel (← l.fetch queued)

end Lexer

/-- The tokens of a text. A byte order mark in front of it is skipped. -/
def lex (s : String) : Option (List Token) :=
  if s.toList.all isAllowed then do
    let c := Cursor.start s
    let c := if c.peek = byteOrderMark then c.next else c
    let l ← Lexer.run (c.rest.length + 1) { cursor := c }
    return l.tokens.toList
  else none

end GatewayMigration.Yaml
