import GatewayMigration.Annotations.Pass
/-!
# Rate limits

The rate per second is that of `limit-rps`, or else that of `limit-rpm`, or else that of the zone.
The burst is the rate times the multiplier, when there is one. With an error in any of the numbers
nothing is changed.
-/

namespace GatewayMigration.RateLimit

/-- Requests per minute as requests per second. A positive rate is never rounded to zero. -/
def perSecond (perMinute : Int) : Int := if perMinute ≤ 0 then 0 else max 1 (perMinute / 60)

inductive RateUnit
  | second
  | minute
deriving DecidableEq, Repr

/-- A rate at the head of a text: `rate=`, digits, `r/`, and `s` or `m`. -/
def rateAt? (cs : List Char) : Option (List Char × RateUnit) :=
  match cs with
  | 'r' :: 'a' :: 't' :: 'e' :: '=' :: rest =>
    let ds := rest.takeWhile Text.isDigit
    if ds.isEmpty then none
    else
      match rest.dropWhile Text.isDigit with
      | 'r' :: '/' :: 's' :: _ => some (ds, .second)
      | 'r' :: '/' :: 'm' :: _ => some (ds, .minute)
      | _ => none
  | _ => none

/-- The leftmost rate in a text. -/
def firstRate? : List Char → Option (List Char × RateUnit)
  | [] => none
  | c :: cs =>
    match rateAt? (c :: cs) with
    | some r => some r
    | none => firstRate? cs

/-- The rate of a zone's definition, in requests per second. -/
def ofZone (zone : String) : Except Interruption (Option Int) :=
  match firstRate? zone.toList with
  | none => .ok none
  | some (ds, unit) =>
    match Text.readDigits ds, unit with
    | .ok n, .second => .ok (some n)
    | .ok n, .minute => .ok (some (perSecond n))
    | .error _, _ => .error (.badValue (Text.tooLongText ds.length))

def rps (i : Ingress) : Finding Int := i.integerFrom 0 AnnotationKey.limitRps
def rpm (i : Ingress) : Finding Int := i.integerFrom 0 AnnotationKey.limitRpm
def multiplier (i : Ingress) : Finding Int := i.integerFrom 1 AnnotationKey.limitBurstMultiplier
def connections (i : Ingress) : Finding Int := i.integerFrom 0 AnnotationKey.limitConnections

def errors (i : Ingress) : List FieldError :=
  (rps i).errors ++ (rpm i).errors ++ (multiplier i).errors ++ (connections i).errors

def nonzero (f : Finding Int) : Option Int := f.value.filter (· != 0)

/-- The rate an Ingress asks for. The zone is read only when the two numbers give nothing. -/
def rate (i : Ingress) : Except Interruption (Option Int) :=
  match nonzero (rps i), nonzero (rpm i) with
  | some n, _ => .ok (some n)
  | none, some n => .ok (some (perSecond n))
  | none, none =>
    match i.given? AnnotationKey.limitReqZone with
    | some zone => (ofZone zone).map fun r => r.filter (· != 0)
    | none => .ok none

def burst? (i : Ingress) (rate : Option Int) : Option Int :=
  match rate, (multiplier i).value with
  | some r, some m => some (r * m)
  | _, _ => none

/-- The settings of a route, given the rate. -/
def settings (i : Ingress) (rate : Option Int) : List Setting :=
  (rate.map .requestRate).toList ++ ((burst? i rate).map .burst).toList ++
    ((connections i).value.map .connections).toList

def reading (i : Ingress) : Reading :=
  match rate i with
  | .error why => { errors := errors i, stop := some why }
  | .ok r =>
    { errors := errors i
      edits := fun _ present =>
        if (errors i).isEmpty then
          present.flatMap fun k => (settings i r).map fun v => .setting k v i.key
        else [] }

def pass : AnnotationPass where
  name := "rate_limit"
  triggers := [AnnotationKey.limitRps, AnnotationKey.limitRpm, AnnotationKey.limitConnections,
    AnnotationKey.limitBurstMultiplier, AnnotationKey.limitReqZone]
  read := reading

end GatewayMigration.RateLimit
