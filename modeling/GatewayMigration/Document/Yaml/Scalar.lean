import GatewayMigration.Document.Json
import GatewayMigration.Document.Yaml.Token
/-!
# Scalars of a YAML text

How the three kinds of scalars are read off a text: block scalars behind `|` or `>`, quoted scalars,
and plain scalars. Each reader gives the content and the cursor behind it, or nothing when the text
is malformed. Loops carry a fuel; the length of the text is always enough, because every round steps
over a character.
-/

namespace GatewayMigration.Yaml

/-! ## Block scalars -/

/-- What a block scalar's header says about the breaks at its end. -/
inductive Chomping
  | clip
  | strip
  | keep
deriving DecidableEq, Repr

structure BlockHeader where
  chomping : Chomping
  increment : Option Nat
deriving DecidableEq, Repr

def chomping? : Char → Option Chomping
  | '+' => some .keep
  | '-' => some .strip
  | _ => none

def indentDigit (c : Cursor) : Option Nat × Cursor :=
  if Json.isAsciiDigit c.peek then (some (c.peek.toNat - '0'.toNat), c.next) else (none, c)

/-- The header behind the indicator: chomping and indentation in either order. An indentation of
zero is refused. -/
def blockHeader (c : Cursor) : Option (BlockHeader × Cursor) :=
  let (header, c) : BlockHeader × Cursor :=
    match chomping? c.peek with
    | some chomp =>
      let (increment, c) := indentDigit c.next
      (⟨chomp, increment⟩, c)
    | none =>
      let (increment, c) := indentDigit c
      match increment.bind fun _ => chomping? c.peek with
      | some chomp => (⟨chomp, increment⟩, c.next)
      | none => (⟨.clip, increment⟩, c)
  if header.increment != some 0 && isSpaceOrBreakOrEnd c.peek then some (header, c) else none

/-- Blanks and a comment up to the end of the line, and the break. -/
def restOfLine (c : Cursor) : Option Cursor :=
  let c := c.skipSpaces.skipComment
  if endsLine c.peek then some c.takeBreak.2 else none

/-- The breaks in front of the content, and the widest column they reach. -/
def leadingBreaks : (fuel : Nat) → List Char → Nat → Cursor → List Char × Nat × Cursor
  | 0, breaks, widest, c => (breaks, widest, c)
  | fuel + 1, breaks, widest, c =>
    if isBreak c.peek then
      let (b, c) := c.takeBreak
      leadingBreaks fuel (breaks ++ b) widest c
    else if c.peek = ' ' then leadingBreaks fuel breaks (max widest c.next.column) c.next
    else (breaks, widest, c)

/-- Skip at most `n` spaces. -/
def skipUpTo : Nat → Cursor → Cursor
  | 0, c => c
  | n + 1, c => if c.peek = ' ' then skipUpTo n c.next else c

def skipIndent (indent : Nat) (c : Cursor) : Cursor := skipUpTo (indent - c.column) c

/-- The empty lines in front of the next line of content. -/
def blockBreaks (indent : Nat) : (fuel : Nat) → List Char → Cursor → List Char × Cursor
  | 0, breaks, c => (breaks, c)
  | fuel + 1, breaks, c =>
    let c := skipIndent indent c
    if isBreak c.peek then
      let (b, c) := c.takeBreak
      blockBreaks indent fuel (breaks ++ b) c
    else (breaks, c)

/-- The content read so far, the last break, and the empty lines behind it. -/
structure BlockState where
  text : String
  lastBreak : List Char
  breaks : List Char
  cursor : Cursor

/-- The lines of the content. Folding turns a single break between two lines that start with no
blank into a space. -/
def blockLines (folded topLevel : Bool) (indent : Nat) : (fuel : Nat) → BlockState → BlockState
  | 0, s => s
  | fuel + 1, s =>
    if s.cursor.column = indent && s.cursor.peek != endOfText then
      let startsWithBlank := isSpaceOrTab s.cursor.peek
      let (line, c) := s.cursor.span fun a => !endsLine a
      let text := s.text ++ String.ofList (s.breaks ++ line)
      let (lastBreak, c) := c.takeBreak
      let (breaks, c) := blockBreaks indent (c.rest.length + 1) [] c
      let s : BlockState := ⟨text, lastBreak, breaks, c⟩
      if topLevel && c.column = 0 && c.atDocumentMarker then s
      else if c.column = indent && c.peek != endOfText then
        let fold := folded && lastBreak = ['\n'] && !startsWithBlank && !isSpaceOrTab c.peek
        let joint := if fold then (if breaks.isEmpty then [' '] else []) else lastBreak
        blockLines folded topLevel indent fuel { s with text := text ++ String.ofList joint }
      else s
    else s

/-- A block scalar whose indicator is at the cursor; `parent` is the column of the enclosing block,
or nothing at the top level. -/
def blockScalar (folded : Bool) (parent : Option Nat) (c : Cursor) : Option (String × Cursor) := do
  let (header, c) ← blockHeader c.next
  let c ← restOfLine c
  let least := (parent.map (· + 1)).getD 0
  let fuel := c.rest.length + 1
  let (indent, breaks, c) :=
    match header.increment with
    | none =>
      let (breaks, widest, c) := leadingBreaks fuel [] 0 c
      (max least widest, breaks, c)
    | some n =>
      let indent := max least 1 + n - 1
      let (breaks, c) := blockBreaks indent fuel [] c
      (indent, breaks, c)
  let topLevel := header.increment.isNone && least = 0
  let s := blockLines folded topLevel indent fuel ⟨"", [], breaks, c⟩
  let tail :=
    match header.chomping with
    | .clip => s.lastBreak
    | .strip => []
    | .keep => s.lastBreak ++ s.breaks
  return (s.text ++ String.ofList tail, s.cursor)

/-! ## Quoted scalars -/

def escaped? : Char → Option Char
  | '0' => some '\x00'
  | 'a' => some '\x07'
  | 'b' => some '\x08'
  | 't' => some '\t'
  | '\t' => some '\t'
  | 'n' => some '\n'
  | 'v' => some '\x0b'
  | 'f' => some '\x0c'
  | 'r' => some '\r'
  | 'e' => some '\x1b'
  | ' ' => some ' '
  | '"' => some '"'
  | '/' => some '/'
  | '\\' => some '\\'
  | 'N' => some nextLine
  | '_' => some '\u00a0'
  | 'L' => some lineSeparator
  | 'P' => some paragraphSeparator
  | _ => none

/-- The number of hexadecimal digits behind an escape letter. -/
def escapeWidth? : Char → Option Nat
  | 'x' => some 2
  | 'u' => some 4
  | 'U' => some 8
  | _ => none

/-- The number that the next `width` hexadecimal digits write. -/
def hexNumber? (width : Nat) (c : Cursor) : Option Nat :=
  let ds := c.rest.take width
  if ds.length = width then
    ds.foldlM (fun n d => do return n * 16 + (← Json.hexValue? d)) 0
  else none

/-- The empty lines inside a quoted scalar; a document marker there is an error. -/
def quotedBreaks : (fuel : Nat) → List Char → Cursor → Option (List Char × Cursor)
  | 0, breaks, c => some (breaks, c)
  | fuel + 1, breaks, c =>
    if c.atDocumentMarker then none
    else
      let c := c.skip isSpaceOrTab
      if isBreak c.peek then
        let (b, c) := c.takeBreak
        quotedBreaks fuel (breaks ++ b) c
      else some (breaks, c)

/-- A numeric escape whose letter has been read. Two surrogates in a row write one character. -/
def numericEscape (width : Nat) (c : Cursor) : Option (Char × Cursor) := do
  let n ← hexNumber? width c
  guard (n < 0x110000)
  let c := c.forward width
  let low? := if c.peek = '\\' && c.peekAt 1 = 'u' then hexNumber? 4 (c.forward 2) else none
  match low? with
  | some low =>
    if Json.isHighSurrogate n && Json.isLowSurrogate low then
      return (Json.joinSurrogates n low, c.forward 6)
    else return (Json.unitChar n, c)
  | none => return (Json.unitChar n, c)

/-- An escape in a double-quoted scalar; the cursor stands behind the backslash. -/
def escape (c : Cursor) : Option (List Char × Cursor) :=
  match escaped? c.peek, escapeWidth? c.peek with
  | some a, _ => some ([a], c.next)
  | none, some width => (numericEscape width c.next).map fun (a, c) => ([a], c)
  | none, none =>
    if isBreak c.peek then
      let c := c.takeBreak.2
      quotedBreaks (c.rest.length + 1) [] c
    else none

/-- Blanks inside a quoted scalar: kept on one line, folded at a break. -/
def quotedSpaces (c : Cursor) : Option (List Char × Cursor) := do
  let (blanks, c) := c.span isSpaceOrTab
  if c.peek = endOfText then none
  else if isBreak c.peek then
    let (b, c) := c.takeBreak
    let (breaks, c) ← quotedBreaks (c.rest.length + 1) [] c
    let joint := if b != ['\n'] then b else if breaks.isEmpty then [' '] else []
    return (joint ++ breaks, c)
  else return (blanks, c)

/-- The content up to the closing quote, behind `acc`. -/
def quotedContent (double : Bool) : (fuel : Nat) → String → Cursor → Option (String × Cursor)
  | 0, _, _ => none
  | fuel + 1, acc, c =>
    let quote := if double then '"' else '\''
    let a := c.peek
    if a = quote then
      if !double && c.peekAt 1 = '\'' then quotedContent double fuel (acc.push '\'') (c.forward 2)
      else some (acc, c.next)
    else if double && a = '\\' then
      match escape c.next with
      | some (cs, c) => quotedContent double fuel (acc ++ String.ofList cs) c
      | none => none
    else if isSpaceOrTab a || isBreakOrEnd a then
      match quotedSpaces c with
      | some (cs, c) => quotedContent double fuel (acc ++ String.ofList cs) c
      | none => none
    else quotedContent double fuel (acc.push a) c.next

def quotedScalar (double : Bool) (c : Cursor) : Option (String × Cursor) :=
  quotedContent double (c.rest.length + 1) "" c.next

/-! ## Plain scalars -/

/-- The characters of a plain scalar up to the next blank. A colon ends it when a blank follows;
inside brackets the flow indicators end it too. -/
def plainRun (v : Version) (flow : Bool) : List Char → List Char
  | [] => []
  | c :: cs =>
    let kept := c == ':' && !endsIndicator (cs.headD endOfText) || c == '?' && v != Version.v11
    if kept then c :: plainRun v flow cs
    else if endsIndicator c || c = ':' || (flow && (isFlowIndicator c || c = '?')) then []
    else c :: plainRun v flow cs

/-- The blanks behind a part of a plain scalar: what they contribute if the scalar goes on, and
whether a line ended. -/
structure PlainGap where
  joint : List Char
  lineEnded : Bool
  cursor : Cursor

/-- The empty lines behind a plain scalar; nothing when a document marker follows. -/
def plainBreaks : (fuel : Nat) → List Char → Cursor → Option (List Char) × Cursor
  | 0, breaks, c => (some breaks, c)
  | fuel + 1, breaks, c =>
    if c.peek = ' ' then plainBreaks fuel breaks c.next
    else if isBreak c.peek then
      let (b, c) := c.takeBreak
      if c.atDocumentMarker then (none, c) else plainBreaks fuel (breaks ++ b) c
    else (some breaks, c)

def plainGap (c : Cursor) : PlainGap :=
  let (blanks, c) := c.span (· = ' ')
  if isBreak c.peek then
    let (b, c) := c.takeBreak
    if c.atDocumentMarker then ⟨[], true, c⟩
    else
      match plainBreaks (c.rest.length + 1) [] c with
      | (none, c) => ⟨[], true, c⟩
      | (some breaks, c) =>
        ⟨(if b != ['\n'] then b else if breaks.isEmpty then [' '] else []) ++ breaks, true, c⟩
  else ⟨blanks, false, c⟩

structure PlainState where
  text : String
  gap : List Char
  lineEnded : Bool
  cursor : Cursor

/-- The parts of a plain scalar. Outside brackets it goes on only in lines indented by at least
`indent`. -/
def plainParts (v : Version) (flow : Bool) (indent : Nat) : (fuel : Nat) → PlainState → PlainState
  | 0, s => s
  | fuel + 1, s =>
    if s.cursor.peek = '#' then s
    else
      let run := plainRun v flow s.cursor.rest
      if run.isEmpty then s
      else
        let text := s.text ++ String.ofList (s.gap ++ run)
        let gap := plainGap (s.cursor.forward run.length)
        let s : PlainState := ⟨text, gap.joint, gap.lineEnded, gap.cursor⟩
        if gap.joint.isEmpty || gap.cursor.peek = '#' || (!flow && gap.cursor.column < indent)
        then s
        else plainParts v flow indent fuel s

/-- A plain scalar, and whether the line ended behind it. -/
def plainScalar (v : Version) (flow : Bool) (parent : Option Nat) (c : Cursor) :
    String × Bool × Cursor :=
  let indent := (parent.map (· + 1)).getD 0
  let s := plainParts v flow indent (c.rest.length + 1) ⟨"", [], false, c⟩
  (s.text, s.lineEnded, s.cursor)

end GatewayMigration.Yaml
