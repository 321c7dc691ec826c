import GatewayMigration.Document.Yaml.Scalar
/-!
# Directives, anchors and tags of a YAML text

The small pieces of syntax in front of documents and nodes.
-/

namespace GatewayMigration.Yaml

/-! ## Tags -/

def isHandleChar (c : Char) : Bool := isAsciiAlphanumeric c || c = '-' || c = '_'

/-- The handle of a tag: `!`, `!!` or `!name!`. -/
def tagHandle (c : Cursor) : Option (String × Cursor) :=
  if c.peek != '!' then none
  else if c.peekAt 1 = ' ' then some ("!", c.next)
  else
    let (name, behind) := c.next.span isHandleChar
    if behind.peek = '!' then some (String.ofList ('!' :: name ++ ['!']), behind.next) else none

def isUriChar (v : Version) (c : Char) : Bool :=
  isAsciiAlphanumeric c || "-;/?:@&=+$,_.!~*'()[]".toList.contains c || (c = '#' && v.after11)

/-- The octets that a run of percent escapes writes. -/
def percentOctets : (fuel : Nat) → List UInt8 → Cursor → Option (List UInt8 × Cursor)
  | 0, octets, c => some (octets, c)
  | fuel + 1, octets, c =>
    if c.peek = '%' then
      match hexNumber? 2 c.next with
      | some n => percentOctets fuel (octets ++ [UInt8.ofNat n]) (c.forward 3)
      | none => none
    else some (octets, c)

/-- The body of a tag. A run of escapes has to be valid UTF-8. -/
def tagUriFrom (v : Version) : (fuel : Nat) → String → Cursor → Option (String × Cursor)
  | 0, acc, c => some (acc, c)
  | fuel + 1, acc, c =>
    if c.peek = '%' then do
      let (octets, c) ← percentOctets (c.rest.length + 1) [] c
      let s ← String.fromUTF8? ⟨octets.toArray⟩
      tagUriFrom v fuel (acc ++ s) c
    else
      let (run, c) := c.span (isUriChar v)
      if run.isEmpty then some (acc, c) else tagUriFrom v fuel (acc ++ String.ofList run) c

def tagUri (v : Version) (c : Cursor) : Option (String × Cursor) :=
  if c.peek = '%' || isUriChar v c.peek then tagUriFrom v (c.rest.length + 1) "" c else none

/-- Whether a second exclamation mark comes before the next blank. -/
def hasNamedHandle (c : Cursor) : Bool :=
  (c.rest.drop 1).takeWhile (fun a => !isSpaceOrBreakOrEnd a) |>.contains '!'

/-- A tag whose exclamation mark is at the cursor. -/
def tagText (v : Version) (c : Cursor) : Option (TagText × Cursor) := do
  let (tag, c) ←
    if c.peekAt 1 = '<' then do
      let (uri, c) ← tagUri v (c.forward 2)
      guard (c.peek = '>')
      pure (⟨none, uri⟩, c.next)
    else if endsIndicator (c.peekAt 1) then pure (⟨none, "!"⟩, c.next)
    else do
      let (handle, c) ← if hasNamedHandle c then tagHandle c else pure ("!", c.next)
      let (uri, c) ← tagUri v c
      pure (⟨some handle, uri⟩, c)
  guard (isSpaceOrBreakOrEnd c.peek)
  return (tag, c)

/-! ## Anchors -/

def endsAnchor (c : Char) : Bool :=
  isSpaceOrBreakOrEnd c || c = '\t' || isFlowIndicator c || "?:%@\x60".toList.contains c

/-- The name behind an anchor's or an alias's indicator. -/
def anchorName (c : Cursor) : Option (String × Cursor) :=
  let (name, c) := c.next.span isAnchorChar
  if name.isEmpty || !endsAnchor c.peek then none else some (String.ofList name, c)

/-! ## Directives -/

def versionNumber (c : Cursor) : Option (Nat × Cursor) :=
  let (ds, c) := c.span Json.isAsciiDigit
  if ds.isEmpty then none else (Text.readDigits ds).toOption.map (·, c)

def versionDirective (c : Cursor) : Option (Token × Cursor) := do
  let (major, c) ← versionNumber c.skipSpaces
  guard (c.peek = '.')
  let (minor, c) ← versionNumber c.next
  guard (isSpaceOrBreakOrEnd c.peek)
  return (.versionDirective ⟨major, minor⟩, c)

def tagDirective (v : Version) (c : Cursor) : Option (Token × Cursor) := do
  let (handle, c) ← tagHandle c.skipSpaces
  guard (c.peek = ' ')
  let (leader, c) ← tagUri v c.skipSpaces
  guard (isSpaceOrBreakOrEnd c.peek)
  return (.tagDirective handle leader, c)

def isDirectiveChar (c : Char) : Bool :=
  isAsciiAlphanumeric c || c = '-' || c = '_' || c = ':' || c = '.'

/-- A directive whose percent sign is at the cursor, with the rest of its line. -/
def directive (v : Version) (c : Cursor) : Option (Token × Cursor) := do
  let (name, c) := c.next.span isDirectiveChar
  guard (!name.isEmpty && isSpaceOrBreakOrEnd c.peek)
  let (token, c) ←
    if name = "YAML".toList then versionDirective c
    else if name = "TAG".toList then tagDirective v c
    else pure (.otherDirective, c.skip fun a => !endsLine a)
  return (token, ← restOfLine c)

end GatewayMigration.Yaml
