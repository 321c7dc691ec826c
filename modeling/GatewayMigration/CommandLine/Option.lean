import GatewayMigration.Text.Digit
import GatewayMigration.Text.Quoted
import GatewayMigration.Topology.Layout
/-!
# Options of the command line

The options with their names, and the words of a command line: options, values, and the separator
behind which there are values only. A long option may be shortened as long as it stays unique.
-/

namespace GatewayMigration.CommandLine

/-! ## The options -/

inductive OptionKind
  | help
  | input
  | provider
  | listProviders
  | ingressClass
  | gateway (flag : String)
  | failOnBlockers
  | debug
  | verbose
deriving DecidableEq, Repr

def OptionKind.takesValue : OptionKind → Bool
  | .input | .provider | .ingressClass | .gateway _ => true
  | .help | .listProviders | .failOnBlockers | .debug | .verbose => false

structure OptionSpec where
  names : List String
  kind : OptionKind
deriving DecidableEq, Repr

/-- All names of an option, for messages. -/
def OptionSpec.title (o : OptionSpec) : String := "/".intercalate o.names

def gatewayOption (flag : String) : OptionSpec := ⟨["--" ++ flag], .gateway flag⟩

def options : List OptionSpec :=
  [⟨["-h", "--help"], .help⟩,
   ⟨["-i", "--input-file"], .input⟩,
   ⟨["--provider"], .provider⟩,
   ⟨["--list-providers"], .listProviders⟩,
   ⟨["--ingress-class"], .ingressClass⟩,
   gatewayOption LayoutFlag.mode,
   gatewayOption LayoutFlag.space,
   gatewayOption LayoutFlag.name,
   gatewayOption LayoutFlag.className,
   ⟨["--fail-on-blockers"], .failOnBlockers⟩,
   ⟨["--debug"], .debug⟩,
   ⟨["-v", "--verbose"], .verbose⟩]

/-- Every name with its option. -/
def optionNames : List (String × OptionSpec) :=
  options.flatMap fun o => o.names.map fun n => (n, o)

def findOption (name : String) : Option OptionSpec := optionNames.lookup name

/-! ## Errors -/

inductive UsageError
  | ambiguous (word : String) (candidates : List String)
  | missingValue (option : OptionSpec)
  | unexpectedValue (option : OptionSpec) (value : String)
  | unrecognized (words : List String)
  | noInput
  | noOutput
deriving DecidableEq, Repr

def UsageError.message : UsageError → String
  | .ambiguous word candidates =>
    "ambiguous option: " ++ word ++ " could match " ++ ", ".intercalate candidates
  | .missingValue o => "argument " ++ o.title ++ ": expected one argument"
  | .unexpectedValue o value =>
    "argument " ++ o.title ++ ": ignored explicit argument " ++ Text.quoted value
  | .unrecognized words => "unrecognized arguments: " ++ " ".intercalate words
  | .noInput => "--input-file is required"
  | .noOutput => "Output file is required"

/-! ## Words -/

inductive Word
  /-- An option under one of its names, perhaps with a value in the same word. -/
  | option (o : OptionSpec) (name : String) (value : Option (List Char))
  | unknown (word : String)
  | value (word : String)
  | separator
deriving DecidableEq, Repr

def Word.name : Word → String
  | .option _ name _ => name
  | .unknown w | .value w => w
  | .separator => "--"

/-- The parts of a word in front of and behind its first equals sign. -/
def splitAtEquals (s : String) : String × Option (List Char) :=
  match s.toList.dropWhile (· != '=') with
  | [] => (s, none)
  | _ :: value => (String.ofList (s.toList.takeWhile (· != '=')), some value)

/-- The long options that a word may be short for. -/
def longCandidates (s : String) : List Word :=
  let (start, value) := splitAtEquals s
  (optionNames.filter fun e => e.1.startsWith start).map fun e => .option e.2 e.1 value

/-- The one-letter option that a word begins with; the rest is its value, or more such options. -/
def shortCandidates (letter : Char) (rest : List Char) : List Word :=
  let name := String.ofList ['-', letter]
  ((findOption name).map fun o => Word.option o name (some rest)).toList

/-- Digits behind a minus, with a point in front of the last ones perhaps; a line end may follow. -/
def isNegativeNumber (s : String) : Bool :=
  match s.toList with
  | '-' :: cs =>
    let cs := if cs.getLast? = some '\n' then cs.dropLast else cs
    match cs.dropWhile Text.isDigit with
    | [] => !cs.isEmpty
    | '.' :: fraction => !fraction.isEmpty && fraction.all Text.isDigit
    | _ => false
  | _ => false

/-- A word that begins like an option: under its whole name, with a value behind an equals sign, or
shortened. -/
def dashedWord (s : String) (letter : Char) (rest : List Char) : Except UsageError Word :=
  let (name, value) := splitAtEquals s
  match findOption s, value.bind fun _ => findOption name with
  | some o, _ => .ok (.option o s none)
  | none, some o => .ok (.option o name value)
  | none, none =>
    match if letter = '-' then longCandidates s else shortCandidates letter rest with
    | [w] => .ok w
    | [] => .ok (if isNegativeNumber s || s.toList.contains ' ' then .value s else .unknown s)
    | ws => .error (.ambiguous s (ws.map Word.name))

def wordOf (s : String) : Except UsageError Word :=
  match s.toList with
  | '-' :: letter :: rest => dashedWord s letter rest
  | _ => .ok (.value s)

/-- The words of a command line. -/
def words : List String → Except UsageError (List Word)
  | [] => .ok []
  | s :: ss =>
    if s = "--" then .ok (.separator :: ss.map .value)
    else do return (← wordOf s) :: (← words ss)

end GatewayMigration.CommandLine
