import GatewayMigration.Document.Diagnostic
import GatewayMigration.Plan.Basic
import GatewayMigration.Text.Integer
/-!
# Settings in diagnostics

How a message shows a setting. An integer beyond the limit of the integer texts cannot be shown.
-/

namespace GatewayMigration

/-- The name of a record, and its fields with their values. -/
def recordText (name : String) (fields : List (String × String)) : String :=
  name ++ "(" ++ ", ".intercalate (fields.map fun f => f.1 ++ "=" ++ f.2) ++ ")"

def CertVerification.diagnostic (v : CertVerification) : String :=
  let constructor :=
    match v with
    | .required => "REQUIRED"
    | .disabled => "DISABLED"
    | .optional => "OPTIONAL"
    | .optionalNoCa => "OPTIONAL_NO_CA"
  "<ClientCertVerifyMode." ++ constructor ++ ": " ++ Text.quoted v.name ++ ">"

def BodySize.diagnostic (b : BodySize) : Option String := do
  return recordText "BodySize" [("raw", Text.quoted b.raw), ("bytes", ← Text.integerText? b.bytes)]

def ClientCertAuth.diagnostic (c : ClientCertAuth) : Option String := do
  return recordText "ClientCertAuthConfig"
    [("secret", Text.quoted c.secret),
     ("verify_client", c.verifyClient.diagnostic),
     ("verify_depth", ← Text.integerText? c.verifyDepth),
     ("error_page", optionText Text.quoted c.errorPage),
     ("pass_certificate_to_upstream", flagText c.passToUpstream)]

def ExternalAuth.diagnostic (a : ExternalAuth) : String :=
  recordText "ExternalAuthConfig"
    [("url", Text.quoted a.url),
     ("method", Text.quoted a.method),
     ("signin_url", optionText Text.quoted a.signinUrl),
     ("response_headers", listText (a.responseHeaders.map Text.quoted)),
     ("request_redirect", optionText Text.quoted a.requestRedirect),
     ("cache_key", optionText Text.quoted a.cacheKey),
     ("cache_duration", optionText Text.quoted a.cacheDuration)]

end GatewayMigration
