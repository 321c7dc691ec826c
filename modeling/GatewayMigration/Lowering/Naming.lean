import GatewayMigration.Text.Case
/-!
# Names of routes and listeners

Names are made of a host's slug: dots become dashes, a star becomes `wildcard`, letters are lowered.
The empty host means all hosts.
-/

namespace GatewayMigration

def replaceChar (a : Char) (image : List Char) (cs : List Char) : List Char :=
  cs.flatMap fun c => if c = a then image else [c]

def hostSlug (host : String) : String :=
  if host.isEmpty then "all-hosts"
  else Text.lower (String.ofList
    (replaceChar '.' ['-'] (replaceChar '*' "wildcard".toList host.toList)))

def routeName (ingress host : String) : String := ingress ++ "-" ++ hostSlug host

def listenerName (host protocol : String) : String := hostSlug host ++ "-" ++ Text.lower protocol

def defaultGatewayName : String := "default"

def gatewayNameFor (ingressClass : String) : String :=
  if ingressClass.isEmpty then defaultGatewayName else ingressClass

end GatewayMigration
