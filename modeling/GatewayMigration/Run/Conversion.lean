import GatewayMigration.Manifest.Writer
import GatewayMigration.Run.Registry
/-!
# Conversions

One run from a manifest file to the objects it becomes: make the provider, read, plan, emit, and
write the objects if a file is asked for. Faults and file errors end a run as they are, everything
else as a failed conversion. A run tells what it did to the files and what it logs.
-/

namespace GatewayMigration

structure ConversionJob where
  provider : Option String
  config : ProviderConfig := {}
  input : FilePath
  output : Option FilePath := none

structure ConversionResult where
  resources : Resources
  errors : List FieldError
  notices : Notices
  output : Option FilePath
deriving DecidableEq

/-- What a run leaves behind. -/
structure ConversionRun where
  files : FileTree
  log : List LogLine
  result : Except Interruption ConversionResult

namespace Conversion

/-- Whether an interruption ends a run as it is. -/
def isReported : Interruption → Bool
  | .fault _ | .file _ => true
  | _ => false

/-- What a run ends with. -/
def outcomeOf (why : Interruption) : Interruption :=
  if isReported why then why else .conversionFailed why

/-- What is logged about an end. -/
def endLog (describe : FaultDetail → String) (why : Interruption) : List LogLine :=
  if isReported why then [] else [⟨.error, (outcomeOf why).text describe⟩]

/-- What reading logs: that a file is not there. -/
def readLog : Interruption → List LogLine
  | .fault (.manifest (.notFound path) _ _) =>
    [⟨.error, (ManifestProblem.notFound path).message⟩]
  | _ => []

def stopped (describe : FaultDetail → String) (t : FileTree) (log : List LogLine)
    (why : Interruption) : ConversionRun :=
  ⟨t, log ++ endLog describe why, .error (outcomeOf why)⟩

/-- Write the result of a run. -/
def finish (describe : FaultDetail → String) (t : FileTree) (log : List LogLine)
    (r : ConversionResult) : ConversionRun :=
  match r.output with
  | none => ⟨t, log, .ok r⟩
  | some path =>
    match Manifest.save t path r.resources with
    | (t, none) => ⟨t, log, .ok r⟩
    | (t, some why) => stopped describe t log why

/-- Plan and emit what was read. -/
def convertSources (describe : FaultDetail → String) (p : Provider) (t : FileTree)
    (output : Option FilePath) (s : Sources) : ConversionRun :=
  let planned := p.plan s
  let planLog := planned.state.notices.map Notification.logLine ++ planned.log describe
  match planned.stop with
  | some why => stopped describe t planLog why
  | none =>
    let emitted := p.emit planned.state.plan
    let log := planLog ++ emitted.state.notices.map Notification.logLine ++
      emitted.log describe
    match emitted.stop with
    | some why => stopped describe t log why
    | none =>
      finish describe t log
        { resources := emitted.state.resources
          errors := planned.errors ++ emitted.errors
          notices := planned.state.notices ++ emitted.state.notices
          output := output }

def run (describe : FaultDetail → String) (r : ProviderRegistry) (job : ConversionJob)
    (t : FileTree) : ConversionRun :=
  match r.create describe job.provider job.config with
  | .error why => stopped describe t [] why
  | .ok p =>
    match p.read t job.input with
    | .error why => stopped describe t (readLog why) why
    | .ok s => convertSources describe p t job.output s

end Conversion

end GatewayMigration
