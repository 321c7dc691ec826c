import GatewayMigration.Annotations.Pass
/-!
# Annotations that cannot be migrated

Free-form nginx configuration and rewriting by regular expressions have no counterpart in the
Gateway API. They are reported as blockers, for a person to look at before traffic is moved.
Annotations about authorization get a word of advice. This pass never changes the plan.
-/

namespace GatewayMigration.Blockers

def maxValueLength : Int := 200

/-- The beginning of a text. A negative limit counts from the end. -/
def truncate (limit : Int) (value : String) : String :=
  let cs := value.toList
  if (cs.length : Int) ≤ limit then value
  else
    let kept := if limit < 0 then cs.length - limit.natAbs else limit.toNat
    String.ofList (cs.take kept) ++ "... (truncated)"

/-- Blocking annotations, with what to do instead. -/
def blocking : List (String × String) :=
  [(AnnotationKey.serverSnippet,
      "server-snippet injects raw nginx server configuration; rewrite it as " ++
       "Gateway API filters or an EnvoyFilter"),
   (AnnotationKey.configurationSnippet,
      "configuration-snippet injects raw nginx location configuration; rewrite " ++
       "it as HTTPRoute filters or an EnvoyFilter"),
   (AnnotationKey.streamSnippet,
      "stream-snippet injects raw nginx stream configuration; model it with " ++
       "TCPRoute/TLSRoute by hand"),
   (AnnotationKey.authSnippet,
      "auth-snippet injects raw nginx configuration into the auth subrequest; " ++
       "move the logic into the external auth service"),
   (AnnotationKey.useRegex,
      "use-regex enables nginx regex path matching; convert paths to " ++
       "RegularExpression matches and verify precedence")]

/-- Annotations that are migrated but need a check. -/
def guided : List (String × String) :=
  [(AnnotationKey.authUrl,
      "external auth is migrated to an ext_authz EnvoyFilter; verify the auth " ++
       "service is reachable from the gateway"),
   (AnnotationKey.authTlsSecret,
      "client certificate auth requires the CA bundle on the Gateway listener; " ++
       "verify the frontend TLS validation settings")]

def shown (value : String) : String := " Value: " ++ truncate maxValueLength value

def blockingNotice (i : Ingress) (e : String × String) : Option Notification :=
  (i.annotation? e.1).map fun v =>
    { severity := .blocker
      message := "MIGRATION BLOCKER - " ++ e.2 ++ "." ++ shown v
      source := some i.key }

/-- A rewrite that refers to captured groups is a blocker, any other one a warning. -/
def rewriteNotice (i : Ingress) : Option Notification :=
  (i.annotation? AnnotationKey.rewriteTarget).map fun v =>
    if v.toList.contains '$' then
      { severity := .blocker
        message := "MIGRATION BLOCKER - rewrite-target uses regex capture groups; " ++
          "HTTPRoute URLRewrite cannot reference captures." ++ shown v
        source := some i.key }
    else
      { severity := .warning
        message := "rewrite-target is not converted; add an HTTPRoute URLRewrite filter." ++ shown v
        source := some i.key }

def guidanceNotice (i : Ingress) (e : String × String) : Option Notification :=
  match i.annotation? e.1 with
  | some v =>
    if v.isEmpty then none
    else some
      { severity := .info
        message := "AUTH CONFIG GENERATED - " ++ e.2
        source := some i.key }
  | none => none

def notices (i : Ingress) : Notices :=
  blocking.filterMap (blockingNotice i) ++ (rewriteNotice i).toList ++
    guided.filterMap (guidanceNotice i)

def pass : AnnotationPass where
  name := "blockers"
  triggers := blocking.map Prod.fst ++ guided.map Prod.fst ++ [AnnotationKey.rewriteTarget]
  read i := { edits := fun _ _ => (notices i).map .notify }

end GatewayMigration.Blockers
