import GatewayMigration.CommandLine.Option
import GatewayMigration.Files
/-!
# Arguments

What a command line says. Of an option that is given twice the last value counts. The first value
that belongs to no option is the output file; there must be no second one.
-/

namespace GatewayMigration.CommandLine

structure Arguments where
  input : Option FilePath := none
  output : Option FilePath := none
  provider : Option String := none
  ingressClass : Option String := none
  gateway : Flags := .empty
  listProviders : Bool := false
  failOnBlockers : Bool := false
  debug : Bool := false
  verbose : Bool := false
deriving DecidableEq

/-- What a command line asks for. -/
inductive Request
  | help
  | listProviders
  | convert (input output : FilePath) (a : Arguments)
deriving DecidableEq

/-! ## One option -/

/-- The options that one word holds: flags, and a last one with a value perhaps. -/
structure Cluster where
  flags : List OptionSpec := []
  last : OptionSpec
  value : Option String := none
deriving DecidableEq

/-- Letters behind a one-letter flag are further options, up to one that takes the rest as its
value. -/
def expandWith (o : OptionSpec) (short : Bool) : List Char → Except UsageError Cluster
  | [] =>
    if o.kind.takesValue then .ok { last := o, value := some "" }
    else .error (.unexpectedValue o "")
  | c :: cs =>
    if o.kind.takesValue then .ok { last := o, value := some (String.ofList (c :: cs)) }
    else
      match short, findOption (String.ofList ['-', c]) with
      | true, some next =>
        if cs.isEmpty then .ok { flags := [o], last := next }
        else (expandWith next true cs).map fun x => { x with flags := o :: x.flags }
      | _, _ => .error (.unexpectedValue o (String.ofList (c :: cs)))

def expand (o : OptionSpec) (name : String) : Option (List Char) → Except UsageError Cluster
  | none => .ok { last := o }
  | some cs => expandWith o (!name.startsWith "--") cs

/-! ## All words -/

/-- Whether the output file is known. `justFound` means that it was the last word. -/
inductive OutputSlot
  | open
  | justFound
  | filled
deriving DecidableEq, Repr

structure Reader where
  arguments : Arguments := {}
  slot : OutputSlot := .open
  extras : List String := []
deriving DecidableEq

inductive Stop
  | help
  | usage (e : UsageError)
deriving DecidableEq, Repr

def Arguments.setFlag (a : Arguments) (o : OptionSpec) : Except Stop Arguments :=
  match o.kind with
  | .help => .error .help
  | .listProviders => .ok { a with listProviders := true }
  | .failOnBlockers => .ok { a with failOnBlockers := true }
  | .debug => .ok { a with debug := true }
  | .verbose => .ok { a with verbose := true }
  | _ => .ok a

def Arguments.setValue (a : Arguments) (o : OptionSpec) (value : String) : Arguments :=
  match o.kind with
  | .input => { a with input := some (.ofText value) }
  | .provider => { a with provider := some value }
  | .ingressClass => { a with ingressClass := some value }
  | .gateway flag => { a with gateway := a.gateway.insert flag value }
  | _ => a

def Reader.extra (r : Reader) (word : String) : Reader :=
  { r with extras := r.extras ++ [word], slot := if r.slot = .justFound then .filled else r.slot }

/-- A value that belongs to no option. -/
def Reader.addValue (r : Reader) (word : String) : Reader :=
  if r.slot = .open then
    { r with arguments := { r.arguments with output := some (.ofText word) }, slot := .justFound }
  else r.extra word

/-- The separator belongs to the output file if it stands in front of or behind it. -/
def Reader.addSeparator (r : Reader) : Reader :=
  match r.slot with
  | .open => r
  | .justFound => { r with slot := .filled }
  | .filled => r.extra "--"

/-- Read options with the value that is at hand. -/
def Reader.apply (r : Reader) (c : Cluster) (value : Option String) : Except Stop Reader := do
  let a ← c.flags.foldlM Arguments.setFlag r.arguments
  let a ←
    match value with
    | some v => pure (a.setValue c.last v)
    | none => a.setFlag c.last
  return { r with arguments := a, slot := if r.slot = .justFound then .filled else r.slot }

def readWords (r : Reader) : List Word → Except Stop Reader
  | [] => .ok r
  | .unknown w :: ws => readWords (r.extra w) ws
  | .value w :: ws => readWords (r.addValue w) ws
  | .separator :: ws => readWords r.addSeparator ws
  | .option o name inWord :: ws =>
    match expand o name inWord with
    | .error e => .error (.usage e)
    | .ok c =>
      if c.last.kind.takesValue && c.value.isNone then
        match ws with
        | .value v :: rest => do readWords (← r.apply c (some v)) rest
        | _ => .error (.usage (.missingValue c.last))
      else do readWords (← r.apply c c.value) ws

/-- The request of arguments that are complete. -/
def Arguments.request (a : Arguments) : Except UsageError Request :=
  if a.listProviders then .ok .listProviders
  else
    match a.input, a.output with
    | none, _ => .error .noInput
    | some _, none => .error .noOutput
    | some input, some output => .ok (.convert input output a)

/-- The request of a command line. -/
def parse (argv : List String) : Except UsageError Request := do
  match readWords {} (← words argv) with
  | .error .help => return .help
  | .error (.usage e) => .error e
  | .ok r => if r.extras.isEmpty then r.arguments.request else .error (.unrecognized r.extras)

end GatewayMigration.CommandLine
