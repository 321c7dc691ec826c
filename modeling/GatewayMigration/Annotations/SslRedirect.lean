import GatewayMigration.Annotations.Pass
/-!
# Redirects from HTTP to HTTPS
-/

namespace GatewayMigration.SslRedirect

def triggers : List String := [AnnotationKey.sslRedirect, AnnotationKey.forceSslRedirect]

def isEnabled (i : Ingress) : Bool := triggers.any i.saysTrue

def edits (i : Ingress) (present : List ObjectKey) : List Edit :=
  if isEnabled i then
    present.flatMap fun k =>
      [.setting k (.sslRedirect true) i.key,
       .notify
        { severity := .info
          message := "HTTPRoute " ++ toString k ++ " flagged for HTTP to HTTPS redirect"
          source := some i.key }]
  else []

def pass : AnnotationPass where
  name := "ssl_redirect"
  triggers := triggers
  read i := { edits := fun _ present => edits i present }

end GatewayMigration.SslRedirect
