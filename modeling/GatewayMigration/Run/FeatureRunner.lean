import GatewayMigration.Report.FieldError
import GatewayMigration.Report.Notification
import GatewayMigration.Run.Progress
/-!
# Passes in order

A runner holds passes by name. They run in the order in which their names were first registered,
each on the state that the one before left; registering a name again replaces the pass and keeps its
place. An interruption ends the run with what was done up to it.
-/

namespace GatewayMigration

/-- What passes did to the state, and the errors they found. An interruption in one pass of several
comes with the name of the pass. -/
structure PassOutcome (σ : Type) where
  state : σ
  errors : List FieldError := []
  stop : Option Interruption := none
  stoppedIn : Option String := none

namespace PassOutcome

variable {σ : Type}

/-- The line about the pass that was interrupted, if one was. -/
def log (describe : FaultDetail → String) (o : PassOutcome σ) : List LogLine :=
  match o.stoppedIn, o.stop with
  | some name, some why =>
    [⟨.error, "Critical failure in feature pass '" ++ name ++ "': " ++ why.text describe⟩]
  | _, _ => []

end PassOutcome

structure FeaturePass (γ σ : Type) where
  name : String
  apply : γ → σ → PassOutcome σ

abbrev FeatureRunner (γ σ : Type) := OrderedMap String (FeaturePass γ σ)

namespace FeatureRunner

variable {γ σ : Type}

def register (r : FeatureRunner γ σ) (p : FeaturePass γ σ) : FeatureRunner γ σ := r.insert p.name p

/-- Replacing a pass is worth a warning. -/
def registerLog (r : FeatureRunner γ σ) (p : FeaturePass γ σ) : List LogLine :=
  if r.contains p.name then [⟨.warning, "Overwriting feature pass: '" ++ p.name ++ "'"⟩] else []

def passes (r : FeatureRunner γ σ) : List (FeaturePass γ σ) := r.values

/-- Run one pass after what was done so far. -/
def runPass (context : γ) (o : PassOutcome σ) (p : FeaturePass γ σ) : PassOutcome σ :=
  match o.stop with
  | some _ => o
  | none =>
    let next := p.apply context o.state
    match next.stop with
    | some why => ⟨next.state, o.errors, some why, some p.name⟩
    | none => ⟨next.state, o.errors ++ next.errors, none, none⟩

def run (r : FeatureRunner γ σ) (context : γ) (s : σ) : PassOutcome σ :=
  r.passes.foldl (runPass context) { state := s }

end FeatureRunner

end GatewayMigration
