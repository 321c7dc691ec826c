import GatewayMigration.Annotations.Key
import GatewayMigration.Lowering.Group
import GatewayMigration.Text.Blank
import GatewayMigration.Text.Integer
/-!
# Reading annotations

Annotation values without the blanks around them, as integers and as flags. An absent or blank value
gives nothing; a value that is not understood gives an error at the annotation's path.
-/

namespace GatewayMigration

/-- What an annotation gives, and what is wrong with it. -/
structure Finding (α : Type) where
  value : Option α := none
  errors : List FieldError := []
deriving DecidableEq

namespace Ingress

/-- Where errors about an annotation are reported. -/
def annotationPath (i : Ingress) (key : String) : FieldPath :=
  (i.fieldPath.child ["metadata", "annotations"]).key key

/-- The value of an annotation without the blanks around it. -/
def trimmed? (i : Ingress) (key : String) : Option String := (i.annotation? key).map Text.strip

/-- The value of an annotation if more than blanks is there. -/
def given? (i : Ingress) (key : String) : Option String := (i.trimmed? key).filter (!·.isEmpty)

def integerFrom (least : Int) (i : Ingress) (key : String) : Finding Int :=
  match i.given? key with
  | none => {}
  | some raw =>
    match Text.readInteger raw with
    | .error _ =>
      { errors := [.invalid (i.annotationPath key) (.string raw) "must be an integer"] }
    | .ok n =>
      if n < least then
        { errors := [.invalid (i.annotationPath key) (.string raw)
            ("must be greater than or equal to " ++ toString least)] }
      else { value := some n }

def onTexts : List String := ["on", "true", "1"]
def offTexts : List String := ["off", "false", "0"]

def flag (i : Ingress) (key : String) : Finding Bool :=
  match i.given? key with
  | none => {}
  | some raw =>
    let lowered := Text.lower raw
    if onTexts.contains lowered then { value := some true }
    else if offTexts.contains lowered then { value := some false }
    else { errors := [.notSupported (i.annotationPath key) (.string raw) ["on", "off"]] }

/-- Whether an annotation says `true`. -/
def saysTrue (i : Ingress) (key : String) : Bool :=
  (i.trimmed? key).any fun v => Text.lower v == "true"

end Ingress

end GatewayMigration
