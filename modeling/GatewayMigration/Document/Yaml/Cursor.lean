/-!
# Positions in a YAML text

A cursor stands in front of the rest of a text and knows its line and column. The end of the text
reads as the null character, which no text may hold.
-/

namespace GatewayMigration.Yaml

/-! ## Character classes -/

/-- The characters a text may hold. -/
def isAllowed (c : Char) : Bool :=
  let n := c.toNat
  n == 0x9 || n == 0xA || n == 0xD || (0x20 ≤ n && n ≤ 0x7E) || n == 0x85 ||
    (0xA0 ≤ n && n ≤ 0xFFFD) || 0x10000 ≤ n

def lineSeparator : Char := '\u2028'
def paragraphSeparator : Char := '\u2029'
def nextLine : Char := '\u0085'
def byteOrderMark : Char := '\uFEFF'
def endOfText : Char := '\x00'

def isBreak (c : Char) : Bool :=
  c = '\n' || c = '\r' || c = nextLine || c = lineSeparator || c = paragraphSeparator

def isBreakOrEnd (c : Char) : Bool := isBreak c || c = endOfText

/-- What ends a line of content; the two Unicode separators are content. -/
def endsLine (c : Char) : Bool := c = '\n' || c = '\r' || c = nextLine || c = endOfText

def isSpaceOrTab (c : Char) : Bool := c = ' ' || c = '\t'

/-- What may stand behind an indicator such as the dash of a list. -/
def endsIndicator (c : Char) : Bool := endsLine c || isSpaceOrTab c

/-- What may stand behind the header of a tag, a directive or a block scalar. -/
def isSpaceOrBreakOrEnd (c : Char) : Bool := c = ' ' || isBreakOrEnd c

def isFlowIndicator (c : Char) : Bool :=
  c = ',' || c = '[' || c = ']' || c = '{' || c = '}'

def isAsciiAlphanumeric (c : Char) : Bool :=
  ('0' ≤ c && c ≤ '9') || ('a' ≤ c && c ≤ 'z') || ('A' ≤ c && c ≤ 'Z')

/-- A character of an anchor's name: visible, and no flow indicator. -/
def isAnchorChar (c : Char) : Bool :=
  let n := c.toNat
  !isFlowIndicator c && c != byteOrderMark && ((0x21 ≤ n && n ≤ 0x7E) ||
    (0xA0 ≤ n && n ≤ 0xFFFD) || 0x10000 ≤ n)

/-! ## Cursors -/

structure Cursor where
  rest : List Char
  index : Nat
  line : Nat
  column : Nat
deriving Inhabited

namespace Cursor

def start (s : String) : Cursor := ⟨s.toList, 0, 0, 0⟩

def peek (c : Cursor) : Char := c.rest.headD endOfText

def peekAt (c : Cursor) (n : Nat) : Char := c.rest.getD n endOfText

/-- Step over one character. A break starts a new line, and a carriage return does so unless a line
feed follows. -/
def next (c : Cursor) : Cursor :=
  match c.rest with
  | [] => c
  | '\r' :: '\n' :: cs => ⟨'\n' :: cs, c.index + 1, c.line, c.column + 1⟩
  | a :: cs =>
    if isBreak a then ⟨cs, c.index + 1, c.line + 1, 0⟩
    else ⟨cs, c.index + 1, c.line, if a = byteOrderMark then c.column else c.column + 1⟩

def forward : Nat → Cursor → Cursor
  | 0, c => c
  | n + 1, c => forward n c.next

/-- The longest run of characters satisfying `p`, and the cursor behind it. -/
def span (p : Char → Bool) (c : Cursor) : List Char × Cursor :=
  let run := c.rest.takeWhile p
  (run, c.forward run.length)

def skip (p : Char → Bool) (c : Cursor) : Cursor := (c.span p).2

def skipSpaces (c : Cursor) : Cursor := c.skip (· = ' ')

/-- Skip a comment up to the end of its line. -/
def skipComment (c : Cursor) : Cursor :=
  if c.peek = '#' then c.skip fun a => !endsLine a else c

/-- Step over a break. Every break reads as a line feed, except the two Unicode separators. -/
def takeBreak (c : Cursor) : List Char × Cursor :=
  if c.peek = '\r' && c.peekAt 1 = '\n' then (['\n'], c.forward 2)
  else if c.peek = lineSeparator || c.peek = paragraphSeparator then ([c.peek], c.next)
  else if isBreak c.peek then (['\n'], c.next)
  else ([], c)

/-- Whether a marker of three equal characters stands here, with a blank or the end behind it. -/
def atMarker (mark : Char) (c : Cursor) : Bool :=
  c.peek = mark && c.peekAt 1 = mark && c.peekAt 2 = mark && endsIndicator (c.peekAt 3)

def atDocumentMarker (c : Cursor) : Bool := c.atMarker '-' || c.atMarker '.'

end Cursor

end GatewayMigration.Yaml
