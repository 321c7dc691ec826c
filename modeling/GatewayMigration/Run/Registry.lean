import GatewayMigration.Run.IngressNginx
/-!
# Registered providers

Providers by name; blanks around a name and its case do not matter. What goes wrong when a provider
is made is a fault of the provider, unless it is a fault already.
-/

namespace GatewayMigration

/-- How a provider is made from its options. -/
abbrev ProviderFactory := ProviderConfig → Except Interruption Provider

structure Registration where
  factory : ProviderFactory
  description : String := ""
  flags : Flags := .empty

abbrev ProviderRegistry := OrderedMap String Registration

namespace ProviderRegistry

def normalName (name : String) : String := Text.lower (Text.strip name)

def register (r : ProviderRegistry) (name : String) (factory : Option ProviderFactory)
    (description : String) (flags : Flags) : Except Interruption ProviderRegistry :=
  if (Text.strip name).isEmpty then .error (.badValue "Provider name cannot be empty")
  else
    match factory with
    | none => .error (.badValue "Provider factory cannot be None")
    | some f => .ok (r.insert (normalName name) ⟨f, description, flags⟩)

/-- Replacing a provider is worth a warning. -/
def registerLog (r : ProviderRegistry) (name : String) : List LogLine :=
  if r.contains (normalName name) then
    [⟨.warning, "Overwriting existing provider registration for '" ++ normalName name ++ "'"⟩]
  else []

def available (r : ProviderRegistry) : List String := sortTexts r.keys

def has (r : ProviderRegistry) (name : String) : Bool :=
  !name.isEmpty && r.contains (normalName name)

/-- What is registered under a name, if a name is given. -/
def find (r : ProviderRegistry) (name : Option String) : Except Interruption Registration :=
  match r.get? (normalName (name.getD "")) with
  | some x => .ok x
  | none =>
    let known := if r.keys.isEmpty then "none" else ", ".intercalate (available r)
    .error (.fault (.provider ("Unknown provider '" ++ optionText id name ++
      "'. Available providers: " ++ known) name none))

def create (describe : FaultDetail → String) (r : ProviderRegistry) (name : Option String)
    (c : ProviderConfig) : Except Interruption Provider := do
  match (← r.find name).factory c with
  | .ok p => return p
  | .error (.fault f) => .error (.fault f)
  | .error why =>
    .error (.fault (.provider ("Failed to create provider: " ++ why.text describe) name
      (some "create")))

/-- The registry of all built-in providers. -/
def standard : ProviderRegistry :=
  .ofList [(IngressNginx.name,
    { factory := IngressNginx.provider
      description := IngressNginx.description
      flags := .ofList LayoutFlag.all })]

end ProviderRegistry

end GatewayMigration
