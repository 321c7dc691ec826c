import GatewayMigration.ObjectKey
/-!
# Notifications and log lines

What a person has to look at after a run. Notifications are kept in the order in which they are
made, and each of them is logged.
-/

namespace GatewayMigration

inductive LogLevel
  | info
  | warning
  | error
deriving DecidableEq, Repr

namespace LogLevel

def rank : LogLevel → Nat
  | .info => 20
  | .warning => 30
  | .error => 40

def name : LogLevel → String
  | .info => "INFO"
  | .warning => "WARNING"
  | .error => "ERROR"

end LogLevel

structure LogLine where
  level : LogLevel
  text : String
deriving DecidableEq, Repr

namespace LogLine

instance : ToString LogLine := ⟨fun l => l.level.name ++ ": " ++ l.text⟩

/-- A quiet log keeps what is more than information. -/
def isLoud (l : LogLine) : Bool := LogLevel.info.rank < l.level.rank

end LogLine

inductive Severity
  | info
  | warning
  | blocker
deriving DecidableEq, Repr

namespace Severity

def all : List Severity := [.info, .warning, .blocker]

def name : Severity → String
  | .info => "INFO"
  | .warning => "WARNING"
  | .blocker => "BLOCKER"

def ofName? (s : String) : Option Severity := all.find? fun v => v.name == s

def rank : Severity → Nat
  | .info => 0
  | .warning => 1
  | .blocker => 2

def logLevel : Severity → LogLevel
  | .info => .info
  | .warning => .warning
  | .blocker => .error

end Severity

structure Notification where
  severity : Severity
  message : String
  source : Option ObjectKey := none
deriving DecidableEq, Repr

namespace Notification

instance : ToString Notification where
  toString n :=
    let place :=
      match n.source with
      | some k => toString k ++ ": "
      | none => ""
    "[" ++ n.severity.name ++ "] " ++ place ++ n.message

def logLine (n : Notification) : LogLine := ⟨n.severity.logLevel, toString n⟩

end Notification

/-- The notifications of a run, in order. -/
abbrev Notices := List Notification

namespace Notices

def bySeverity (s : Severity) (ns : Notices) : Notices := ns.filter fun n => n.severity == s

def blockers (ns : Notices) : Notices := bySeverity .blocker ns

def hasBlockers (ns : Notices) : Bool := ns.any fun n => n.severity == .blocker

/-- The highest severity of all. -/
def highest? (ns : Notices) : Option Severity :=
  ns.foldl (fun best n =>
    match best with
    | some s => if s.rank < n.severity.rank then some n.severity else best
    | none => some n.severity) none

/-- The lines that a quiet log keeps of these notifications. -/
def log (ns : Notices) : List LogLine := (ns.map Notification.logLine).filter LogLine.isLoud

end Notices

end GatewayMigration
