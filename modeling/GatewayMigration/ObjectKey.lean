import GatewayMigration.OrderedMap
/-!
# Object keys

The identity of a namespaced object, and maps keyed by it. Keys are ordered by namespace, then by
name, both by code point.
-/

namespace GatewayMigration

structure ObjectKey where
  space : String
  name : String
deriving DecidableEq, Repr, Inhabited

namespace ObjectKey

instance : ToString ObjectKey := ⟨fun k => k.space ++ "/" ++ k.name⟩

def le (a b : ObjectKey) : Bool :=
  a.space < b.space || (a.space == b.space && !(b.name < a.name))

theorem le_total (a b : ObjectKey) : (a.le b || b.le a) = true := by
  unfold le
  by_cases h : a.space < b.space
  · simp [h]
  · by_cases h' : b.space < a.space
    · simp [h']
    · have : a.space = b.space := String.le_antisymm (String.not_lt.mp h') (String.not_lt.mp h)
      by_cases hn : b.name < a.name
      · simp [this, hn, String.lt_asymm hn]
      · simp [this, hn]

end ObjectKey

/-- Objects under their keys, in the order of their first insertion. -/
abbrev Catalog (α : Type) := OrderedMap ObjectKey α

end GatewayMigration
