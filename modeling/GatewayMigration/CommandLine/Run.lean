import GatewayMigration.CommandLine.Arguments
import GatewayMigration.Run.Conversion
/-!
# Running a command line

A command line as a function of the files: it gives the files afterwards, what is printed, and an
exit code that tells the kinds of failure apart. A quiet log shows warnings, errors and the summary;
a verbose one shows everything.
-/

namespace GatewayMigration.CommandLine

def programName : String := "ingress2gateway"

inductive ExitCode
  | ok
  | configuration
  | manifest
  | provider
  | fieldErrors
  | blockers
  | fileSystem
  | unexpected
  | usage
deriving DecidableEq, Repr

def ExitCode.number : ExitCode → Nat
  | .ok => 0
  | .configuration => 1
  | .manifest => 2
  | .provider => 3
  | .fieldErrors => 4
  | .blockers => 5
  | .fileSystem => 8
  | .unexpected => 9
  | .usage => 2

/-- How the details of faults and the lines of a verbose log are shown. -/
structure Console where
  describe : FaultDetail → String
  stamped : LogLine → String

structure CommandResult where
  exit : ExitCode
  files : FileTree
  printed : String := ""
  usageError : Option String := none

/-! ## Listing providers -/

/-- A text with spaces behind it up to a width. -/
def padded (width : Nat) (s : String) : String :=
  s ++ String.ofList (List.replicate (width - s.length) ' ')

def providerLines (name : String) (x : Registration) : List String :=
  ["  " ++ padded 16 name ++ " - " ++ x.description] ++
    x.flags.toList.map (fun f => "      --" ++ padded 20 f.1 ++ " " ++ f.2) ++ [""]

/-- All providers with their flags. -/
def listing (r : ProviderRegistry) : String :=
  let lines := ["Available Providers:", String.ofList (List.replicate 50 '=')] ++
    r.available.flatMap fun name =>
      match r.get? name with
      | some x => providerLines name x
      | none => []
  String.join (lines.map (· ++ "\n"))

def help : String :=
  "usage: " ++ programName ++ " [options] -i INPUT_FILE OUTPUT_FILE\n\n" ++
    String.join (options.map fun o => "  " ++ ", ".intercalate o.names ++ "\n")

/-! ## Converting -/

/-- The options for the provider. Empty flags are not given. -/
def providerConfig (a : Arguments) : ProviderConfig where
  ingressClass := a.ingressClass
  flags := .ofList [(IngressNginx.name, .ofList (a.gateway.toList.filter fun e => !e.2.isEmpty))]

def job (input output : FilePath) (a : Arguments) : ConversionJob where
  provider := some (a.provider.getD IngressNginx.name)
  config := providerConfig a
  input := input
  output := some output

def info (text : String) : LogLine := ⟨.info, text⟩
def error (text : String) : LogLine := ⟨.error, text⟩

def countLine (r : Resources) : LogLine :=
  info ("Generated " ++ toString r.gateways.size ++ " Gateways, " ++
    toString r.routes.size ++ " HTTPRoutes, " ++
    toString r.tlsPolicies.size ++ " BackendTLSPolicies, " ++
    toString r.grants.size ++ " ReferenceGrants, " ++
    toString r.extensions.size ++ " EnvoyFilters")

/-- How many notifications there are of each severity, by its name. -/
def noticeSummary (ns : Notices) : List LogLine :=
  let counts := [Severity.blocker, Severity.info, Severity.warning].filterMap fun s =>
    let n := (ns.bySeverity s).length
    if n = 0 then none else some (toString n ++ " " ++ s.name)
  if counts.isEmpty then [] else [info ("Notifications: " ++ ", ".intercalate counts)]

/-- What is said about a conversion that ran to its end. -/
def report (output : FilePath) (r : ConversionResult) : List LogLine :=
  countLine r.resources :: r.errors.map (fun e => error ("Annotation error: " ++ toString e)) ++
    noticeSummary r.notices ++ [info ("Manifests saved to: " ++ toString output)]

/-- How a conversion that ran to its end counts. Field errors come before blockers. -/
def successCode (failOnBlockers : Bool) (r : ConversionResult) : ExitCode :=
  if !r.errors.isEmpty then .fieldErrors
  else if failOnBlockers && r.notices.hasBlockers then .blockers
  else .ok

def blockerLines (code : ExitCode) (r : ConversionResult) : List LogLine :=
  if code = .blockers then
    [error (toString r.notices.blockers.length ++ " migration blockers reported")]
  else []

/-- What is said about a conversion that was interrupted, and how it counts. -/
def failure (c : Console) (why : Interruption) : ExitCode × List LogLine :=
  let text := why.text c.describe
  let suggestion (f : Fault) : List LogLine :=
    f.hint?.toList.map fun h => info ("Suggestion: " ++ h)
  match why with
  | .fault f =>
    match f with
    | .configuration _ _ _ _ =>
      (.configuration, error ("Configuration error: " ++ text) :: suggestion f)
    | .manifest _ _ _ => (.manifest, error ("Manifest error: " ++ text) :: suggestion f)
    | _ => (.provider, [error ("Provider error: " ++ text)])
  | .file _ => (.fileSystem, [error ("File system error: " ++ text)])
  | _ => (.unexpected, [error ("Unexpected error: " ++ text)])

/-- The log as it is printed. -/
def printLog (c : Console) (verbose : Bool) (progress summary : List LogLine) : String :=
  if verbose then String.join ((progress ++ summary).map c.stamped)
  else
    let lines := progress.filter LogLine.isLoud ++ summary
    String.join (lines.map fun l => toString l ++ "\n")

def convert (c : Console) (t : FileTree) (input output : FilePath) (a : Arguments) :
    CommandResult :=
  let run := Conversion.run c.describe .standard (job input output a) t
  let printed := printLog c (a.verbose || a.debug) run.log
  match run.result with
  | .ok r =>
    let code := successCode a.failOnBlockers r
    ⟨code, run.files, printed (report output r ++ blockerLines code r), none⟩
  | .error why =>
    let (code, lines) := failure c why
    ⟨code, run.files, printed lines, none⟩

/-- Run a command line on these files. -/
def run (c : Console) (argv : List String) (t : FileTree) : CommandResult :=
  match parse argv with
  | .error e => ⟨.usage, t, "", some (programName ++ ": error: " ++ e.message)⟩
  | .ok .help => ⟨.ok, t, help, none⟩
  | .ok .listProviders => ⟨.ok, t, listing .standard, none⟩
  | .ok (.convert input output a) => convert c t input output a

end GatewayMigration.CommandLine
