import GatewayMigration.Annotations.Pass
/-!
# Timeouts

The read and the send timeout bound the whole request, so the longer of them limits the request of a
route; the connect timeout limits the request to the backend. Zero means no limit.
-/

namespace GatewayMigration.Timeouts

def secondsText (seconds : Int) : String := toString seconds ++ "s"

def positive? (seconds : Int) : Option String :=
  if 0 < seconds then some (secondsText seconds) else none

def connect (i : Ingress) : Finding Int := i.integerFrom 0 AnnotationKey.proxyConnectTimeout
def receive (i : Ingress) : Finding Int := i.integerFrom 0 AnnotationKey.proxyReadTimeout
def send (i : Ingress) : Finding Int := i.integerFrom 0 AnnotationKey.proxySendTimeout

def errors (i : Ingress) : List FieldError :=
  (connect i).errors ++ (receive i).errors ++ (send i).errors

/-- What the annotations ask for, errors aside. -/
def timeouts (i : Ingress) : RouteTimeouts where
  request := positive? (max ((receive i).value.getD 0) ((send i).value.getD 0))
  backendRequest := positive? ((connect i).value.getD 0)

/-- With an error, or without any limit, nothing is changed. -/
def edits (i : Ingress) (present : List ObjectKey) : List Edit :=
  if (errors i).isEmpty && timeouts i != {} then present.map fun k => .timeouts k (timeouts i)
  else []

def pass : AnnotationPass where
  name := "timeout"
  triggers := [AnnotationKey.proxyConnectTimeout, AnnotationKey.proxyReadTimeout,
    AnnotationKey.proxySendTimeout]
  read i := { errors := errors i, edits := fun _ present => edits i present }

end GatewayMigration.Timeouts
