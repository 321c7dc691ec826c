import GatewayMigration.Plan.Basic
import GatewayMigration.Report.Notification
/-!
# Plans in the making

A plan together with the notifications that were made about it.
-/

namespace GatewayMigration

structure PlanState where
  plan : Plan := {}
  notices : Notices := []
deriving DecidableEq

end GatewayMigration
