import GatewayMigration.Annotations.Pass
/-!
# Body sizes, buffering and load balancing
-/

namespace GatewayMigration.ProxySettings

/-! ## Sizes -/

def unlimitedTexts : List String := ["0", "-1", "unlimited"]

/-- The factor of a unit letter, in either case; the Kelvin sign is a `k`. -/
def unitFactor? (c : Char) : Option Int :=
  if c = 'k' || c = 'K' || c = '\u212a' then some 1024
  else if c = 'm' || c = 'M' then some (1024 * 1024)
  else if c = 'g' || c = 'G' then some (1024 * 1024 * 1024)
  else none

/-- The digits of a size and the factor of its unit. -/
def splitSize? (cs : List Char) : Option (List Char × Int) :=
  let ds := cs.takeWhile Text.isDigit
  if ds.isEmpty then none
  else
    match cs.dropWhile Text.isDigit with
    | [] => some (ds, 1)
    | [c] => (unitFactor? c).map (ds, ·)
    | _ => none

/-- The bytes of a size such as `8m`. The texts that lift the limit give zero. -/
def parseBodySize (raw : String) : Except Interruption Int :=
  let value := Text.strip raw
  if unlimitedTexts.contains (Text.lower value) then .ok 0
  else
    match splitSize? value.toList with
    | none => .error (.badValue ("invalid size " ++ Text.quoted raw))
    | some (ds, factor) =>
      match Text.readDigits ds with
      | .ok n => .ok (n * factor)
      | .error _ => .error (.badValue (Text.tooLongText ds.length))

def bodySize (i : Ingress) : Finding BodySize :=
  match i.given? AnnotationKey.proxyBodySize with
  | none => {}
  | some raw =>
    match parseBodySize raw with
    | .ok n => { value := some ⟨raw, n⟩ }
    | .error _ =>
      { errors := [.invalid (i.annotationPath AnnotationKey.proxyBodySize) (.string raw)
          "must be a size such as 1024, 8k, 10m or 1g"] }

def buffering (i : Ingress) : Finding Bool := i.flag AnnotationKey.proxyBuffering
def requestBuffering (i : Ingress) : Finding Bool := i.flag AnnotationKey.proxyRequestBuffering

/-! ## Load balancing -/

def algorithms : List String := ["round_robin", "ewma"]

def algorithm (i : Ingress) : Finding String :=
  match i.given? AnnotationKey.loadBalance with
  | none => {}
  | some a =>
    if algorithms.contains a then { value := some a }
    else
      { errors :=
          [.notSupported (i.annotationPath AnnotationKey.loadBalance) (.string a) algorithms] }

/-! ## The pass -/

def errors (i : Ingress) : List FieldError :=
  (bodySize i).errors ++ (buffering i).errors ++ (requestBuffering i).errors ++ (algorithm i).errors

def settings (i : Ingress) : List Setting :=
  ((bodySize i).value.map .bodySize).toList ++ ((buffering i).value.map .buffering).toList ++
    ((requestBuffering i).value.map .requestBuffering).toList

def edits (i : Ingress) (present : List ObjectKey) : List Edit :=
  (present.flatMap fun k => (settings i).map fun v => .setting k v i.key) ++
    match (algorithm i).value with
    | some a => i.backends.map fun b =>
        .service ⟨i.metadata.space, b.name⟩ { loadBalancing := some a }
    | none => []

def pass : AnnotationPass where
  name := "proxy_settings"
  triggers := [AnnotationKey.proxyBodySize, AnnotationKey.proxyBuffering,
    AnnotationKey.proxyRequestBuffering, AnnotationKey.loadBalance]
  read i := { errors := errors i, edits := fun _ present => edits i present }

end GatewayMigration.ProxySettings
