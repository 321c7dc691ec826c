import GatewayMigration.Annotations.Pass
/-!
# Notice of filters

Tells which filters the annotations of an Ingress will turn into. This pass never changes the plan.
-/

namespace GatewayMigration.FilterNotice

/-- What a filter is about, and the annotations that ask for it. -/
def concerns : List (String × List String) :=
  [("rate-limiting", [AnnotationKey.limitRps, AnnotationKey.limitRpm, AnnotationKey.limitReqZone]),
   ("body-size", [AnnotationKey.proxyBodySize]),
   ("no-buffering", [AnnotationKey.proxyBuffering]),
   ("ext-authz", [AnnotationKey.authUrl])]

def isRaised (i : Ingress) (c : String × List String) : Bool :=
  c.2.any fun key => (i.given? key).isSome

/-- Buffering is a concern only when it is turned off. -/
def turnsBufferingOff (i : Ingress) : Bool :=
  Ingress.offTexts.contains (Text.lower ((i.trimmed? AnnotationKey.proxyBuffering).getD ""))

def raised (i : Ingress) : List String :=
  ((concerns.filter (isRaised i)).map Prod.fst).filter fun c =>
    c != "no-buffering" || turnsBufferingOff i

def edits (i : Ingress) (routes : List ObjectKey) : List Edit :=
  if (raised i).isEmpty || routes.isEmpty then []
  else
    [.notify
      { severity := .info
        message := "EnvoyFilter resources will be generated for: " ++ ", ".intercalate (raised i)
        source := some i.key }]

def pass : AnnotationPass where
  name := "filter_chain_notice"
  triggers := concerns.flatMap Prod.snd
  read i := { edits := fun routes _ => edits i routes }

end GatewayMigration.FilterNotice
