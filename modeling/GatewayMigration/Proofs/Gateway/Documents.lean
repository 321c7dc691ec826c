import GatewayMigration.Gateway.Schema
import GatewayMigration.Proofs.Collections
import Mathlib.Data.List.Nodup
/-!
# The order of documents

Documents are grouped by kind, and sorted by key within a kind. The keys of a catalog are distinct,
so there is one way only to list its entries in increasing order, and which of them was stored first
does not matter. Main statements:

* `ObjectKey.le_iff`: the order that is sorted by is a strict one on distinct keys;
* `Resources.listsDocuments_iff`: the documents of a catalog are those of its one listing;
* `manifests_canonical`: the documents of all objects, in the one order that they can have.
-/

namespace GatewayMigration

/-! ## Keys -/

namespace ObjectKey

variable {a b c : ObjectKey}

/-- By namespace, and within a namespace by name. -/
def Precedes (a b : ObjectKey) : Prop := a.space < b.space ∨ a.space = b.space ∧ a.name < b.name

instance (a b : ObjectKey) : Decidable (a.Precedes b) := inferInstanceAs (Decidable (_ ∨ _))

theorem not_precedes_self (a : ObjectKey) : ¬ a.Precedes a := by
  rintro (space | ⟨-, name⟩)
  · exact String.lt_irrefl _ space
  · exact String.lt_irrefl _ name

theorem Precedes.trans (first : a.Precedes b) (second : b.Precedes c) : a.Precedes c := by
  rcases first with space | ⟨space, name⟩
  · rcases second with space' | ⟨space', -⟩
    · exact .inl (String.lt_trans space space')
    · exact .inl (space' ▸ space)
  · rcases second with space' | ⟨space', name'⟩
    · exact .inl (space ▸ space')
    · exact .inr ⟨space.trans space', String.lt_trans name name'⟩

theorem le_iff : a.le b = true ↔ a = b ∨ a.Precedes b := by
  unfold le Precedes
  simp only [Bool.or_eq_true, Bool.and_eq_true, decide_eq_true_eq, beq_iff_eq, Bool.not_eq_true',
    decide_eq_false_iff_not, String.not_lt]
  constructor
  · rintro (space | ⟨space, name⟩)
    · exact .inr (.inl space)
    · by_cases less : a.name < b.name
      · exact .inr (.inr ⟨space, less⟩)
      · have name' : a.name = b.name := String.le_antisymm name (String.not_lt.mp less)
        exact .inl (congrArg₂ ObjectKey.mk space name')
  · rintro (rfl | space | ⟨space, name⟩)
    · exact .inr ⟨rfl, String.le_refl _⟩
    · exact .inl space
    · exact .inr ⟨space, String.not_lt.mp (String.lt_asymm name)⟩

theorem le_trans (first : a.le b = true) (second : b.le c = true) : a.le c = true := by
  rw [le_iff] at first second ⊢
  rcases first with rfl | first
  · exact second
  · rcases second with rfl | second
    · exact .inr first
    · exact .inr (first.trans second)

end ObjectKey

/-! ## Listings -/

namespace Resources

section Listing
variable {α : Type} {c d : Catalog α} {es ds : List (ObjectKey × α)}

/-- Every entry of a catalog once, with strictly increasing keys. -/
structure Lists (c : Catalog α) (es : List (ObjectKey × α)) : Prop where
  entries : es.Perm c.toList
  increasing : es.Pairwise fun d e => d.1.Precedes e.1

theorem lists_mergeSort (c : Catalog α) : Lists c (c.toList.mergeSort fun a b => a.1.le b.1) := by
  have entries := List.mergeSort_perm c.toList fun a b => a.1.le b.1
  refine ⟨entries, ?_⟩
  have ordered := @List.pairwise_mergeSort _ (fun a b : ObjectKey × α => a.1.le b.1)
    (fun _ _ _ => ObjectKey.le_trans) (fun a b => ObjectKey.le_total a.1 b.1) c.toList
  have distinct := List.pairwise_map.mp ((entries.map Prod.fst).nodup_iff.mpr c.nodup)
  exact ordered.imp₂ (fun _ _ le differ => (ObjectKey.le_iff.mp le).resolve_left differ) distinct

theorem Lists.unique (first : Lists c es) (second : Lists c ds) : es = ds := by
  refine List.Perm.eq_of_pairwise ?_ first.increasing second.increasing
    (first.entries.trans second.entries.symm)
  intro d e _ _ before after
  exact absurd (before.trans after) (ObjectKey.not_precedes_self _)

/-- The documents of a catalog's entries, in the order of their keys. -/
def ListsDocuments (c : Catalog α) (document : α → Manifest) (ms : List Manifest) : Prop :=
  ∃ es, Lists c es ∧ ms = es.map fun e => document e.2

theorem listsDocuments_iff {document : α → Manifest} {ms : List Manifest} :
    ListsDocuments c document ms ↔ ms = (sorted c).map document := by
  have listed := lists_mergeSort c
  unfold sorted
  rw [List.map_map]
  constructor
  · rintro ⟨es, lists, rfl⟩
    rw [lists.unique listed]
    rfl
  · rintro rfl
    exact ⟨_, listed, rfl⟩

/-- What is found in a catalog decides about its documents. -/
theorem map_sorted_congr (same : ∀ k, c.get? k = d.get? k) (document : α → Manifest) :
    (sorted c).map document = (sorted d).map document := by
  obtain ⟨es, ⟨entries, increasing⟩, made⟩ :=
    listsDocuments_iff.mpr (rfl : (sorted c).map document = _)
  have stored := entries.trans (OrderedMap.perm_iff_get?.mpr same)
  exact listsDocuments_iff.mp ⟨es, ⟨stored, increasing⟩, made⟩

end Listing

/-! ## All objects -/

/-- Under every key there is the same in both, whenever it was stored. -/
structure HoldsSame (r t : Resources) : Prop where
  gateways : ∀ k, r.gateways.get? k = t.gateways.get? k
  routes : ∀ k, r.routes.get? k = t.routes.get? k
  tlsPolicies : ∀ k, r.tlsPolicies.get? k = t.tlsPolicies.get? k
  grants : ∀ k, r.grants.get? k = t.grants.get? k
  extensions : ∀ k, r.extensions.get? k = t.extensions.get? k

end Resources

/-- Resources that hold the same have the same documents. These are the documents of the Gateways,
the routes, the policies, the grants and the extensions, one for each object, in the order of the
keys within each of the five. -/
theorem manifests_canonical :
    (∀ r t : Resources, r.HoldsSame t → r.manifests = t.manifests) ∧
      ∀ (r : Resources) (ms : List Manifest), r.manifests = ms ↔
        ∃ gateways routes policies grants extensions,
          Resources.ListsDocuments r.gateways (⟨Gateway.codec.write .dropped ·, []⟩) gateways ∧
          Resources.ListsDocuments r.routes (⟨HttpRoute.codec.write .dropped ·, []⟩) routes ∧
          Resources.ListsDocuments r.tlsPolicies (⟨BackendTlsPolicy.codec.write .dropped ·, []⟩)
            policies ∧
          Resources.ListsDocuments r.grants (⟨ReferenceGrant.codec.write .dropped ·, []⟩) grants ∧
          Resources.ListsDocuments r.extensions Resources.extensionManifest extensions ∧
          ms = gateways ++ routes ++ policies ++ grants ++ extensions := by
  constructor
  · intro r t same
    unfold Resources.manifests
    rw [Resources.map_sorted_congr same.gateways, Resources.map_sorted_congr same.routes,
      Resources.map_sorted_congr same.tlsPolicies, Resources.map_sorted_congr same.grants,
      Resources.map_sorted_congr same.extensions]
  · intro r ms
    simp only [Resources.listsDocuments_iff, Resources.manifests]
    constructor
    · intro made
      exact ⟨_, _, _, _, _, rfl, rfl, rfl, rfl, rfl, made.symm⟩
    · rintro ⟨_, _, _, _, _, rfl, rfl, rfl, rfl, rfl, rfl⟩
      rfl

/-- A grant and routes that are stored in the given order. -/
def shelf (routes : List HttpRoute) : Resources where
  routes := .ofList (routes.map fun r => (r.metadata.key, r))
  grants := .ofList [(⟨"base", "all"⟩,
    { metadata := ⟨"all", "base", none, none⟩, spec := ⟨[], []⟩ })]

def blankRoute (k : ObjectKey) : HttpRoute := { metadata := ⟨k.name, k.space, none, none⟩ }

/-- Routes come before the grant, and the namespace counts before the name. -/
theorem shelf_manifests :
    let edge := blankRoute ⟨"base", "edge"⟩
    let api := blankRoute ⟨"shop", "api"⟩
    let web := blankRoute ⟨"shop", "web"⟩
    let r := shelf [web, api, edge]
    let t := shelf [edge, api, web]
    r.HoldsSame t ∧ r.routes.keys ≠ t.routes.keys ∧ r.manifests = t.manifests ∧
      r.manifests = [edge, api, web].map (⟨HttpRoute.codec.write .dropped ·, []⟩) ++
        r.grants.values.map (⟨ReferenceGrant.codec.write .dropped ·, []⟩) := by
  intro edge api web r t
  have stored : r.routes.toList.Perm t.routes.toList := by
    show ([web, api, edge].map fun r => (r.metadata.key, r)).Perm _
    exact List.reverse_perm [_, _, _]
  have same : r.HoldsSame t :=
    ⟨fun _ => rfl, OrderedMap.perm_iff_get?.mp stored, fun _ => rfl, fun _ => rfl, fun _ => rfl⟩
  obtain ⟨canonical, listed⟩ := manifests_canonical
  refine ⟨same, by decide +kernel, canonical r t same, (listed r _).mpr ?_⟩
  have increasing : t.routes.toList.Pairwise fun d e => d.1.Precedes e.1 := by decide +kernel
  have routes : Resources.ListsDocuments r.routes (⟨HttpRoute.codec.write .dropped ·, []⟩) _ :=
    ⟨t.routes.toList, ⟨stored.symm, increasing⟩, rfl⟩
  have grants : Resources.ListsDocuments r.grants (⟨ReferenceGrant.codec.write .dropped ·, []⟩) _ :=
    ⟨r.grants.toList, ⟨.refl _, .cons nofun .nil⟩, rfl⟩
  exact ⟨[], _, [], _, [], ⟨[], ⟨.nil, .nil⟩, rfl⟩, routes, ⟨[], ⟨.nil, .nil⟩, rfl⟩, grants,
    ⟨[], ⟨.nil, .nil⟩, rfl⟩, rfl⟩

end GatewayMigration
