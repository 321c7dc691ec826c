import GatewayMigration.Ingress.Schema
import GatewayMigration.Manifest.Loader
/-!
# Reading source objects

The Ingresses of one class and all Services among the objects of a manifest. Objects of other kinds
are passed over; an Ingress or Service that breaks its schema is a fault.
-/

namespace GatewayMigration

/-- The source objects of a run. Of Services with one key the last is kept. -/
structure Sources where
  ingresses : List Ingress := []
  services : Catalog Service := .empty
deriving DecidableEq

namespace Sources

def servicePorts (s : Sources) : Catalog PortLookup := s.services.mapValues fun _ v => v.portLookup

def addIngress (ingressClass : String) (s : Sources) (i : Ingress) : Sources :=
  if i.className = ingressClass then { s with ingresses := s.ingresses ++ [i] } else s

def addService (s : Sources) (v : Service) : Sources :=
  { s with services := s.services.insert v.key v }

end Sources

namespace Manifest

inductive ObjectKind
  | ingress
  | service
  | other
deriving DecidableEq, Repr

/-- The kind of an object. The version of an Ingress must be a scalar to be looked at. -/
def kindOf (es : ObjectFields) : Except Interruption ObjectKind :=
  let version := (Value.lookup "apiVersion" es).getD .null
  if Value.lookup "kind" es = some (.string "Ingress") then
    if !version.isScalar then .error (.wrongType ("unhashable type: '" ++ version.typeName ++ "'"))
    else .ok (if version = .string ingressApiVersion then .ingress else .other)
  else .ok (if Value.lookup "kind" es = some (.string "Service") then .service else .other)

def check {α : Type} (kind : String) (origin : String) (number : Nat) (c : Checked α) :
    Except Interruption α :=
  match c with
  | .valid a => .ok a
  | .invalid ps => .error (.fault (.manifest (.invalidObject kind ps) (some origin) (some number)))

/-- Add one object, the one with this number, to the source objects. -/
def addObject (ingressClass origin : String) (number : Nat) (s : Sources) (es : ObjectFields) :
    Except Interruption Sources := do
  match ← kindOf es with
  | .ingress =>
    return s.addIngress ingressClass
      (← check "Ingress" origin number (Ingress.codec.read (.mapping es)))
  | .service =>
    return s.addService (← check "Service" origin number (Service.codec.read (.mapping es)))
  | .other => return s

def addObjects (ingressClass origin : String) : (number : Nat) → Sources → List Value →
    Except Interruption Sources
  | _, s, [] => .ok s
  | n, s, .mapping es :: vs => do
    addObjects ingressClass origin (n + 1) (← addObject ingressClass origin n s es) vs
  | _, _, v :: _ => .error (.noMapping v.typeName)

/-- The source objects among `objects`; `origin` says in faults where they come from. -/
def readObjects (ingressClass origin : String) (objects : List Value) :
    Except Interruption Sources :=
  addObjects ingressClass origin 0 {} objects

/-- The source objects of a file. -/
def readFile (ingressClass : String) (t : FileTree) (path : FilePath) :
    Except Interruption Sources := do
  readObjects ingressClass (toString path) ((← load t path).map .mapping)

end Manifest

end GatewayMigration
