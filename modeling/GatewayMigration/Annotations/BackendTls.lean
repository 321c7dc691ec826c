import GatewayMigration.Annotations.Pass
/-!
# Protocol and TLS towards Services

One policy for each Service that is spoken to by TLS. The first Ingress that asks for it decides;
the settings of the Service are those of the last one.
-/

namespace GatewayMigration.BackendTls

def systemCertificates : String := "System"

def policyName (service : String) : String := service ++ "-backend-tls"

/-- The name in a reference that may have a namespace in front. -/
def secretName (ref : String) : String :=
  String.ofList (ref.toList.reverse.takeWhile (· != '/')).reverse

/-- The protocol an Ingress asks for; without one, and for one that is not known, it is HTTP. -/
def protocol (i : Ingress) : BackendProtocol × List FieldError :=
  match i.given? AnnotationKey.backendProtocol with
  | none => (.http, [])
  | some raw =>
    match BackendProtocol.ofName? (Text.upper raw) with
    | some p => (p, [])
    | none =>
      (.http, [.notSupported (i.annotationPath AnnotationKey.backendProtocol) (.string raw)
        (BackendProtocol.all.map (·.name))])

def sslVerify? (i : Ingress) : Option Bool :=
  (i.given? AnnotationKey.proxySslVerify).map fun v => ["on", "true"].contains (Text.lower v)

def settings (i : Ingress) : ServiceSettings where
  protocol := some (protocol i).1
  sslSecret := i.given? AnnotationKey.proxySslSecret
  sslVerify := sslVerify? i
  sslName := i.given? AnnotationKey.proxySslName
  sslProtocols := i.given? AnnotationKey.proxySslProtocols
  sslCiphers := i.given? AnnotationKey.proxySslCiphers

/-- What tells the ports of a backend apart: the name, or else the text of the number unless it is
zero. A number with too many digits has no text. -/
def portMark? (p : BackendPort) : Option String :=
  match p.name.filter (!·.isEmpty), p.number.filter (· != 0) with
  | some n, _ => some n
  | none, some i => Text.integerText? i
  | none, none => some ""

/-- The backends without repetitions of a Service and port. -/
def distinct : (seen : List (String × Option String)) → List ServiceBackend → List ServiceBackend
  | _, [] => []
  | seen, b :: bs =>
    let mark := (b.name, portMark? b.port)
    if mark ∈ seen then distinct seen bs else b :: distinct (mark :: seen) bs

def distinctBackends (i : Ingress) : List ServiceBackend := distinct [] i.backends

/-- The certificates come from the given secret's ConfigMap, or else from the system. -/
def policyFor (key : ObjectKey) (service : String) (host secret : Option String) :
    BackendTlsPolicy where
  metadata := { name := key.name, space := key.space }
  spec :=
    { targetRefs := [{ kind := "Service", name := service }]
      validation :=
        match secret with
        | some s =>
          { hostname := host.getD service
            caCertificateRefs := some [{ kind := "ConfigMap", name := secretName s }] }
        | none =>
          { hostname := host.getD service, wellKnownCaCertificates := some systemCertificates } }

def policyKey (i : Ingress) (b : ServiceBackend) : ObjectKey :=
  ⟨i.metadata.space, policyName b.name⟩

def policyEdit (i : Ingress) (b : ServiceBackend) : Edit :=
  let key := policyKey i b
  .tlsPolicy key
    (policyFor key b.name (i.given? AnnotationKey.proxySslName)
      (i.given? AnnotationKey.proxySslSecret))
    { severity := .info
      message := "generated BackendTLSPolicy " ++ toString key ++ " for Service " ++ b.name ++
        " (protocol " ++ (protocol i).1.name ++ ")"
      source := some i.key }

/-- Whether an Ingress asks for TLS. -/
def asksForTls (i : Ingress) : Bool :=
  (protocol i).1.isTls || (i.given? AnnotationKey.proxySslSecret).isSome

def edits (i : Ingress) : List Edit :=
  (distinctBackends i).map (fun b => .service ⟨i.metadata.space, b.name⟩ (settings i)) ++
    if asksForTls i then (distinctBackends i).map (policyEdit i) else []

/-- Whether the ports of an Ingress can be told apart. -/
def canMark (i : Ingress) : Bool := i.backends.all fun b => (portMark? b.port).isSome

def reading (i : Ingress) : Reading :=
  if canMark i then { errors := (protocol i).2, edits := fun _ _ => edits i }
  else { errors := (protocol i).2, stop := some .longInteger }

def pass : AnnotationPass where
  name := "backend_protocol"
  triggers := [AnnotationKey.backendProtocol, AnnotationKey.proxySslSecret]
  read := reading

end GatewayMigration.BackendTls
