import GatewayMigration.Document.Yaml.Style
/-!
# Pages

A page is a text that is being written, with the column of its end. Scalars are folded at blanks so
that lines end near `lineWidth`. Main definitions: `Page`, `Page.runs` (the stretches of a scalar
between which it can be folded).
-/

namespace GatewayMigration.Yaml

def lineWidth : Nat := 80

structure Page where
  text : String := ""
  column : Nat := 0
deriving DecidableEq, Repr

namespace Page

def put (p : Page) (cs : List Char) : Page := ⟨p.text ++ String.ofList cs, p.column + cs.length⟩

def putText (p : Page) (s : String) : Page := ⟨p.text ++ s, p.column + s.length⟩

/-- End the line with this character. -/
def breakWith (p : Page) (c : Char) : Page := ⟨p.text.push c, 0⟩

/-- Fill the line with spaces up to a column. -/
def pad (p : Page) (indent : Nat) : Page := p.put (List.replicate (indent - p.column) ' ')

def newLine (p : Page) (indent : Nat) : Page := (p.breakWith '\n').pad indent

/-! ## Runs -/

/-- The class of a character; a run is made of characters of one class. -/
inductive RunKind
  | word
  | spaces
  | breaks
deriving DecidableEq, Repr

def RunKind.of (c : Char) : RunKind :=
  if isSpace c then .spaces else if isScalarBreak c then .breaks else .word

/-- The longest runs of a text, in order. -/
def runs : List Char → List (RunKind × List Char)
  | [] => []
  | c :: cs =>
    match runs cs with
    | (kind, run) :: rest =>
      if RunKind.of c = kind then (kind, c :: run) :: rest
      else (RunKind.of c, [c]) :: (kind, run) :: rest
    | [] => [(RunKind.of c, [c])]

/-! ## Plain scalars -/

/-- A word that does not fit goes to a line of its own, and a single space beyond the width becomes
the end of its line. -/
def putPlainRun (indent : Nat) (fold : Bool) (p : Page) (run : RunKind × List Char) : Page :=
  match run.1 with
  | .spaces =>
    if run.2.length = 1 && lineWidth < p.column && fold then p.newLine indent else p.put run.2
  | _ =>
    if lineWidth < p.column + run.2.length && indent < p.column then (p.newLine indent).put run.2
    else p.put run.2

def putPlain (p : Page) (indent : Nat) (fold : Bool) (s : String) : Page :=
  (runs s.toList).foldl (putPlainRun indent fold) p

/-! ## Single quotes -/

/-- An apostrophe is written twice. -/
def doubledQuote (c : Char) : List Char := if c = '\'' then ['\'', '\''] else [c]

/-- Line breaks stand for themselves, but for a line feed, which is written twice the first time. -/
def putBreaks (indent : Nat) (p : Page) (breaks : List Char) : Page :=
  let p := if breaks.head? = some '\n' then p.breakWith '\n' else p
  (breaks.foldl breakWith p).pad indent

/-- Put the runs behind the first one. A single space between words is where a line may end. -/
def putQuotedRuns (indent : Nat) (fold : Bool) :
    (first : Bool) → Page → List (RunKind × List Char) →
    Page
  | _, p, [] => p
  | first, p, (.spaces, run) :: rest =>
    let p :=
      if run.length = 1 && lineWidth < p.column && fold && !first && !rest.isEmpty then
        p.newLine indent
      else p.put run
    putQuotedRuns indent fold false p rest
  | _, p, (.breaks, run) :: rest =>
    putQuotedRuns indent fold false (putBreaks indent p run) rest
  | _, p, (.word, run) :: rest =>
    putQuotedRuns indent fold false (p.put (run.flatMap doubledQuote)) rest

def putSingleQuoted (p : Page) (indent : Nat) (fold : Bool) (s : String) : Page :=
  (putQuotedRuns indent fold true (p.put ['\'']) (runs s.toList)).put ['\'']

/-! ## Double quotes -/

/-- Whether a folded line has to end in a backslash. It may do without one when the fold stands at a
single space, and no quote comes before the next space. -/
def foldNeedsBackslash (before : Option Char) (c : Char) (rest : List Char) : Bool :=
  let upToSpace := (c :: rest).takeWhile (!isSpace ·)
  !((c :: rest).any isSpace) || upToSpace.any (fun c => c = '"' || c = '\'') ||
    rest.head?.any isSpace || before.any isSpace

/-- `held` is what was read since the last escape or fold and is not yet on the page, last character
first; `before` is the character in front of the rest. -/
def putDoubleQuotedChars (indent : Nat) (fold : Bool) :
    (held : List Char) → (before : Option Char) →
    Page → List Char → Page
  | held, _, p, [] => p.put held.reverse
  | held, before, p, c :: rest =>
    let escape := escape? c
    let p :=
      match escape with
      | some e => (p.put held.reverse).put e
      | none => p
    let held := if escape.isSome then [] else held
    let width := if escape.isSome then p.column - 1 else p.column + held.length
    let mayFold := before.isSome && !rest.isEmpty && (isSpace c || escape.isSome || held.isEmpty)
    if fold && mayFold && lineWidth < width then
      let written := p.put held.reverse
      let next := if escape.isSome then rest.head? else some c
      if foldNeedsBackslash before c rest then
        let line := (written.put ['\\']).newLine indent
        putDoubleQuotedChars indent fold (if escape.isSome then [] else [c]) (some c)
          (if next.any isSpace then line.put ['\\'] else line) rest
      else
        putDoubleQuotedChars indent fold (if escape.isSome || isSpace c then [] else [c]) (some c)
          (written.newLine indent) rest
    else putDoubleQuotedChars indent fold (if escape.isSome then [] else c :: held) (some c) p rest

def putDoubleQuoted (p : Page) (indent : Nat) (fold : Bool) (s : String) : Page :=
  (putDoubleQuotedChars indent fold [] none (p.put ['"']) s.toList).put ['"']

/-- Put a text in its style. -/
def putScalar (p : Page) (indent : Nat) (fold : Bool) (s : String) : Page :=
  match styleOf s with
  | .plain => p.putPlain indent fold s
  | .singleQuoted => p.putSingleQuoted indent fold s
  | .doubleQuoted => p.putDoubleQuoted indent fold s

end Page

end GatewayMigration.Yaml
