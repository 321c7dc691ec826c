import GatewayMigration.Report.Fault
import GatewayMigration.Schema.Record
import GatewayMigration.Text.Case
/-!
# Gateway layouts

Where routes attach: all to one shared Gateway, or those of each namespace to a Gateway of their
own. A layout comes from a record or from flags. Flags that are empty keep the defaults; a flag that
is not known and a mode that is not known are faults.
-/

namespace GatewayMigration

inductive TopologyMode
  | centralized
  | perNamespace
deriving DecidableEq, Repr

/-! ## Flags -/

namespace LayoutFlag

def mode : String := "gateway-mode"
def space : String := "gateway-namespace"
def name : String := "gateway-name"
def className : String := "gateway-class"

/-- All flags with their help. -/
def all : List (String × String) :=
  [(mode, "Gateway topology: 'centralized' or 'per-namespace'"),
   (space, "Namespace of the shared Gateway in centralized mode"),
   (name, "Name of the shared Gateway in centralized mode"),
   (className, "GatewayClass of the per-namespace Gateways")]

end LayoutFlag

/-- Flags of one provider, with their values. -/
abbrev Flags := OrderedMap String String

/-- Texts by code point. -/
def sortTexts (ss : List String) : List String := ss.mergeSort fun a b => !(b < a)

namespace TopologyMode

def all : List TopologyMode := [.centralized, .perNamespace]

def name : TopologyMode → String
  | .centralized => "centralized"
  | .perNamespace => "per-namespace"

def ofName? (s : String) : Option TopologyMode := all.find? fun m => m.name == s

/-- The mode that a flag says, blanks and case aside. `per-tenant` is another word for
`per-namespace`. -/
def parse (value : String) : Except Interruption TopologyMode :=
  let word := Text.lower (Text.strip value)
  if word = "per-tenant" then .ok .perNamespace
  else
    match ofName? word with
    | some m => .ok m
    | none =>
      .error (.fault (.configuration ("Invalid gateway mode '" ++ value ++ "'")
        (some LayoutFlag.mode) (some (", ".intercalate (all.map name))) (.string value)))

end TopologyMode

/-! ## Layouts -/

/-- The namespace and the name are those of the shared Gateway; the class is that of the Gateways
that a layout makes. -/
structure GatewayLayout where
  mode : TopologyMode := .centralized
  space : String := "istio-system"
  name : String := "platform-gateway"
  className : String := "istio"
deriving DecidableEq, Repr

namespace GatewayLayout

open Codec Fields

/-- A text of at least one character, without the blanks at its ends. -/
def trimmedText : Codec String where
  read v := (readText v).bind fun s =>
    if s.isEmpty then .problem .stringTooShort else .valid (Text.strip s)
  write _ := .string

def codec : Codec GatewayLayout := closed <| GatewayLayout.mk
  <$> defaulted "mode" .centralized (choice TopologyMode.all TopologyMode.name) (·.mode)
  <*> defaulted "namespace" "istio-system" trimmedText (·.space)
  <*> defaulted "name" "platform-gateway" trimmedText (·.name)
  <*> defaulted "gateway_class_name" "istio" trimmedText (·.className)

def isCentralized (l : GatewayLayout) : Bool := l.mode == .centralized

/-- The Gateway that routes of a namespace attach to. -/
def gatewayFor (l : GatewayLayout) (space : String) : ObjectKey :=
  match l.mode with
  | .centralized => ⟨l.space, l.name⟩
  | .perNamespace => ⟨space ++ "-gateway", space ++ "-gateway"⟩

/-- The namespace that filters for routes of a namespace go to. -/
def filterSpace (l : GatewayLayout) (space : String) : String :=
  match l.mode with
  | .centralized => l.space
  | .perNamespace => space

/-- The value of a flag unless it is empty. -/
def flag? (flags : Flags) (name : String) : Option String := (flags.get? name).filter (!·.isEmpty)

def unknownFlags (flags : Flags) : List String :=
  sortTexts (flags.keys.filter fun k => k ∉ LayoutFlag.all.map Prod.fst)

def ofFlags (flags : Flags) : Except Interruption GatewayLayout := do
  let unknown := unknownFlags flags
  if !unknown.isEmpty then
    .error (.fault (.configuration ("Unknown provider flag(s): " ++ ", ".intercalate unknown)
      (some "provider_flags")
      (some (", ".intercalate (sortTexts (LayoutFlag.all.map Prod.fst)))) .null))
  else
    let standard : GatewayLayout := {}
    let mode ←
      match flag? flags LayoutFlag.mode with
      | some v => TopologyMode.parse v
      | none => pure standard.mode
    let trimmed (name fallback : String) : String :=
      ((flag? flags name).map Text.strip).getD fallback
    return { mode := mode
             space := trimmed LayoutFlag.space standard.space
             name := trimmed LayoutFlag.name standard.name
             className := trimmed LayoutFlag.className standard.className }

end GatewayLayout

end GatewayMigration
