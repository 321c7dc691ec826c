import GatewayMigration.Emission.Materialize
import GatewayMigration.Manifest.Source
import GatewayMigration.Plan.State
import GatewayMigration.Run.FeatureRunner
/-!
# Providers

A provider knows one kind of source objects: how to read them from a file, how to plan their
migration, and how to emit what was planned.
-/

namespace GatewayMigration

/-- Options for providers, with the flags of each one under its name. -/
structure ProviderConfig where
  ingressClass : Option String := none
  flags : OrderedMap String Flags := .empty

def ProviderConfig.flagsFor (c : ProviderConfig) (provider : String) : Flags :=
  (c.flags.get? provider).getD .empty

structure Provider where
  read : FileTree → FilePath → Except Interruption Sources
  plan : Sources → PassOutcome PlanState
  emit : Plan → PassOutcome Emission

end GatewayMigration
