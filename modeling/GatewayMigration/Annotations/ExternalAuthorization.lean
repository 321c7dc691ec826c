import GatewayMigration.Annotations.Pass
import GatewayMigration.Plan.Schema
/-!
# External authorization

A URL hands the decision about requests to another service.
-/

namespace GatewayMigration.ExternalAuthorization

/-- The parts of a text between commas, without blanks around them and without empty ones. -/
def splitHeaders (raw : String) : List String :=
  ((raw.splitToList (· == ',')).map Text.strip).filter (!·.isEmpty)

def config (i : Ingress) (url : String) : ExternalAuth where
  url := url
  method := normalMethod ((i.given? AnnotationKey.authMethod).getD "GET")
  signinUrl := i.given? AnnotationKey.authSignin
  responseHeaders := ((i.given? AnnotationKey.authResponseHeaders).map splitHeaders).getD []
  requestRedirect := i.given? AnnotationKey.authRequestRedirect
  cacheKey := i.given? AnnotationKey.authCacheKey
  cacheDuration := i.given? AnnotationKey.authCacheDuration

/-- A blank URL is an error. -/
def parse (i : Ingress) : Finding ExternalAuth :=
  match i.trimmed? AnnotationKey.authUrl with
  | none => {}
  | some url =>
    if url.isEmpty then
      { errors := [.required (i.annotationPath AnnotationKey.authUrl) "must not be empty"] }
    else { value := some (config i url) }

def edits (i : Ingress) (present : List ObjectKey) : List Edit :=
  match (parse i).value with
  | some a => present.map fun k => .setting k (.externalAuth a) i.key
  | none => []

def pass : AnnotationPass where
  name := "external_auth"
  triggers := [AnnotationKey.authUrl]
  read i := { errors := (parse i).errors, edits := fun _ present => edits i present }

end GatewayMigration.ExternalAuthorization
