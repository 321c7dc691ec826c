import GatewayMigration.Annotations.Pass
/-!
# Client certificates

A secret turns mutual TLS on. How certificates are checked has defaults, which also stand in for
values that are not understood.
-/

namespace GatewayMigration.ClientCert

def defaultDepth : Int := 1

def verification (i : Ingress) : CertVerification × List FieldError :=
  match i.given? AnnotationKey.authTlsVerifyClient with
  | none => (.required, [])
  | some raw =>
    match CertVerification.ofName? (Text.lower raw) with
    | some v => (v, [])
    | none =>
      (.required, [.notSupported (i.annotationPath AnnotationKey.authTlsVerifyClient) (.string raw)
        (CertVerification.all.map (·.name))])

def depth (i : Ingress) : Int × List FieldError :=
  match i.given? AnnotationKey.authTlsVerifyDepth with
  | none => (defaultDepth, [])
  | some raw =>
    match (Text.readInteger raw).toOption.filter (0 ≤ ·) with
    | some n => (n, [])
    | none =>
      (defaultDepth, [.invalid (i.annotationPath AnnotationKey.authTlsVerifyDepth) (.string raw)
        "must be a non-negative integer"])

def config (i : Ingress) (secret : String) : ClientCertAuth where
  secret := secret
  verifyClient := (verification i).1
  verifyDepth := (depth i).1
  errorPage := i.given? AnnotationKey.authTlsErrorPage
  passToUpstream := i.saysTrue AnnotationKey.authTlsPassToUpstream

/-- A blank secret is an error. -/
def parse (i : Ingress) : Finding ClientCertAuth :=
  match i.trimmed? AnnotationKey.authTlsSecret with
  | none => {}
  | some secret =>
    if secret.isEmpty then
      { errors := [.required (i.annotationPath AnnotationKey.authTlsSecret) "must not be empty"] }
    else { value := some (config i secret), errors := (verification i).2 ++ (depth i).2 }

def edits (i : Ingress) (present : List ObjectKey) : List Edit :=
  match (parse i).value with
  | some c => present.map fun k => .setting k (.clientCert c) i.key
  | none => []

def pass : AnnotationPass where
  name := "client_cert_auth"
  triggers := [AnnotationKey.authTlsSecret]
  read i := { errors := (parse i).errors, edits := fun _ present => edits i present }

end GatewayMigration.ClientCert
