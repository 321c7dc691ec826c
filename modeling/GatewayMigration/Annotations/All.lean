import GatewayMigration.Annotations.BackendTls
import GatewayMigration.Annotations.Blockers
import GatewayMigration.Annotations.ClientCert
import GatewayMigration.Annotations.ExternalAuthorization
import GatewayMigration.Annotations.FilterNotice
import GatewayMigration.Annotations.ProxySettings
import GatewayMigration.Annotations.RateLimit
import GatewayMigration.Annotations.SslRedirect
import GatewayMigration.Annotations.Timeouts
/-!
# All annotation passes

The order of the passes. Blockers come first, so that they are reported even if a later pass is
interrupted.
-/

namespace GatewayMigration

def annotationPasses : List AnnotationPass :=
  [Blockers.pass, BackendTls.pass, Timeouts.pass, SslRedirect.pass, RateLimit.pass,
   ProxySettings.pass, ClientCert.pass, ExternalAuthorization.pass, FilterNotice.pass]

def annotationRunner : FeatureRunner PassContext PlanState :=
  annotationPasses.foldl (fun r p => FeatureRunner.register r p.toFeature) .empty

end GatewayMigration
