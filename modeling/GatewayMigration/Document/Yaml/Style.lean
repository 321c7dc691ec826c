import GatewayMigration.Document.Yaml.Resolve
import GatewayMigration.Text.Quoted
/-!
# Styles of scalars

How a text is written: plain where that reads back as the same text, else in double quotes if it
holds an apostrophe, a line feed or characters that only an escape can write, else in single quotes.
-/

namespace GatewayMigration.Yaml

inductive Style
  | plain
  | singleQuoted
  | doubleQuoted
deriving DecidableEq, Repr

/-- What ends a line of a scalar that is written. -/
def isScalarBreak (c : Char) : Bool :=
  c = '\n' || c = nextLine || c = lineSeparator || c = paragraphSeparator

/-- What separates an indicator from its neighbours. -/
def isGap (c : Char) : Bool := isSpaceOrTab c || isBreakOrEnd c

def startsWithGap : List Char → Bool
  | [] => true
  | c :: _ => isGap c

/-! ## What speaks against a style -/

/-- The characters that can be written without an escape. -/
def isGraphic (c : Char) : Bool :=
  let n := c.toNat
  (0x20 ≤ n && n ≤ 0x7E) || (0xA0 ≤ n && n ≤ 0xFFFD && c != byteOrderMark) || 0x10000 ≤ n

/-- Characters that need an escape wherever they stand; line breaks may do without. -/
def needsEscape (c : Char) : Bool := !isGraphic c && c != '\n' && c != nextLine

/-- A character that satisfies `p` directly in front of one that satisfies `q`. -/
def hasAdjacent (p q : Char → Bool) : List Char → Bool
  | a :: b :: cs => (p a && q b) || hasAdjacent p q (b :: cs)
  | _ => false

def isSpace (c : Char) : Bool := c = ' '

/-- A space or a line break at one of the ends. -/
def hasBlankEnd (cs : List Char) : Bool :=
  let blank (c : Option Char) : Bool := c.any fun c => isSpace c || isScalarBreak c
  blank cs.head? || blank cs.getLast?

def leadingIndicators : List Char :=
  ['#', ',', '[', ']', '{', '}', '&', '*', '!', '|', '>', '\'', '"', '%', '@', '\x60']

/-- A colon in front of a gap, or a hash behind one. `gapBefore` is about the first character. -/
def hasInnerIndicator : (gapBefore : Bool) → List Char → Bool
  | _, [] => false
  | gapBefore, c :: cs =>
    (c = ':' && startsWithGap cs) || (c = '#' && gapBefore) || hasInnerIndicator (isGap c) cs

/-- Whether a text would read as something else than a scalar. -/
def hasIndicator (cs : List Char) : Bool :=
  match cs with
  | [] => false
  | c :: rest =>
    ['-', '-', '-'].isPrefixOf cs || ['.', '.', '.'].isPrefixOf cs ||
    leadingIndicators.contains c ||
      ((c = '?' || c = ':' || c = '-') && startsWithGap rest) || hasInnerIndicator (isGap c) rest

def allowsSingleQuotes (cs : List Char) : Bool :=
  !(cs.any needsEscape) && !(hasAdjacent isScalarBreak isSpace cs) &&
    !(hasAdjacent isSpace isScalarBreak cs)

def allowsPlain (cs : List Char) : Bool :=
  !(cs.any needsEscape) && !(cs.any isScalarBreak) && !(hasBlankEnd cs) && !(hasIndicator cs)

/-- The style of a text; a plain scalar must not be taken for another type. -/
def styleOf (s : String) : Style :=
  let cs := s.toList
  if implicitTag? .v12 s = some .string && allowsPlain cs then .plain
  else if cs.contains '\'' || cs.contains '\n' || !(allowsSingleQuotes cs) then .doubleQuoted
  else .singleQuoted

/-! ## Escapes -/

def escapeLetters : List (Char × Char) :=
  [('\x00', '0'), ('\x07', 'a'), ('\x08', 'b'), ('\t', 't'), ('\n', 'n'), ('\x0b', 'v'),
   ('\x0c', 'f'), ('\r', 'r'), ('\x1b', 'e'), ('"', '"'), ('\\', '\\'), (nextLine, 'N'),
   (lineSeparator, 'L'), (paragraphSeparator, 'P')]

def upperHex (width : Nat) (n : Nat) : List Char := (Text.hexText width n).map Char.toUpper

/-- How a character is written between double quotes if it cannot stand for itself. -/
def escape? (c : Char) : Option (List Char) :=
  match escapeLetters.lookup c with
  | some letter => some ['\\', letter]
  | none =>
    if isGraphic c then none
    else if c.toNat ≤ 0xFF then some ('\\' :: 'x' :: upperHex 2 c.toNat)
    else if c.toNat ≤ 0xFFFF then some ('\\' :: 'u' :: upperHex 4 c.toNat)
    else some ('\\' :: 'U' :: upperHex 8 c.toNat)

end GatewayMigration.Yaml
