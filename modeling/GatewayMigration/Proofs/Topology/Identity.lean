import GatewayMigration.Proofs.Annotations.Aspects
import GatewayMigration.Proofs.Annotations.Effects
import GatewayMigration.Proofs.Emission.Again
import GatewayMigration.Proofs.Planning.FilterNotice
import GatewayMigration.Proofs.Topology.Agreement
import Mathlib.Data.List.Nodup
/-!
# Identities of documents

Lowering, the passes, the three builders and the layout each work out the key of an object and its
metadata for themselves. Main statements:

* `identified_of_migrates`: in the output, the key of every object is that of its metadata;
* `nodup_identities`: documents of different kinds or keys have different identities;
* `documents_differ`: so no two documents of an output have the same kind, namespace and name.
-/

namespace GatewayMigration

/-- What tells one document from another. -/
structure Identity where
  kind : String
  key : ObjectKey
deriving DecidableEq, Repr

/-- The kind of a document, and the namespace and the name in its metadata. -/
def Manifest.identity? (m : Manifest) : Option Identity := do
  let kind ← (m.body.field? "kind").bind Value.text?
  let metadata ← m.body.field? "metadata"
  let space ← (metadata.field? "namespace").bind Value.text?
  let name ← (metadata.field? "name").bind Value.text?
  return ⟨kind, space, name⟩

/-- Every object is kept under the key of its metadata, and all objects of a catalog are of one
kind. -/
structure Resources.Identified (r : Resources) : Prop where
  gateways : ∀ k x, r.gateways.get? k = some x → x.kind = "Gateway" ∧ x.metadata.key = k
  routes : ∀ k x, r.routes.get? k = some x → x.kind = "HTTPRoute" ∧ x.metadata.key = k
  tlsPolicies : ∀ k x, r.tlsPolicies.get? k = some x →
    x.kind = "BackendTLSPolicy" ∧ x.metadata.key = k
  grants : ∀ k x, r.grants.get? k = some x → x.kind = "ReferenceGrant" ∧ x.metadata.key = k
  extensions : ∀ k x, r.extensions.get? k = some x →
    x.kind = .string "EnvoyFilter" ∧ x.identity? = some (.string k.space, .string k.name)

/-! ## Policies -/

/-- A policy is asked for under the key of its metadata. -/
theorem identity_of_isAsked {c : PassContext} {k : ObjectKey} {policy : BackendTlsPolicy}
    {n : Notification} (asked : IsAsked c (.tlsPolicy k policy n)) :
    policy.kind = "BackendTLSPolicy" ∧ policy.metadata.key = k := by
  obtain ⟨p, mem, i, -, routes, present, made⟩ := asked
  obtain ⟨as, listed⟩ := exists_mem_passAspects mem
  have own : Aspect.policies ∈ as := aspects_sound _ listed i _ _ _ made .policies rfl
  simp only [passAspects, List.mem_cons, List.not_mem_nil, or_false, Prod.mk.injEq] at listed
  -- Only one pass has a say in policies.
  obtain rfl : p = BackendTls.pass := by
    rcases listed with ⟨-, rfl⟩ | ⟨rfl, -⟩ | ⟨-, rfl⟩ | ⟨-, rfl⟩ | ⟨-, rfl⟩ | ⟨-, rfl⟩ | ⟨-, rfl⟩ |
      ⟨-, rfl⟩ | ⟨-, rfl⟩
    case inr.inl => rfl
    all_goals exact absurd own (by decide)
  obtain ⟨b, same⟩ := BackendTls.exists_policy_of_notice? made rfl
  cases same
  exact ⟨rfl, rfl⟩

/-- Every policy of a plan is kept under the key of its metadata. -/
def Plan.HasOwnPolicies (p : Plan) : Prop :=
  ∀ k policy, p.tlsPolicies.get? k = some policy →
    policy.kind = "BackendTLSPolicy" ∧ policy.metadata.key = k

theorem hasOwnPolicies_after {c : PassContext} {s : PlanState} {e : Edit} (asked : IsAsked c e)
    (sofar : s.plan.HasOwnPolicies) : (s.after e).plan.HasOwnPolicies := by
  intro k policy found
  cases e with
  | tlsPolicy j new n =>
    rcases OrderedMap.eq_of_get?_insertNew found with old | ⟨rfl, rfl⟩
    · exact sofar k policy old
    · exact identity_of_isAsked asked
  | setting => exact sofar k policy found
  | timeouts => exact sofar k policy found
  | service => exact sofar k policy found
  | notify => exact sofar k policy found

theorem hasOwnPolicies_run {c : PassContext} {s : PlanState} (start : s.plan.HasOwnPolicies) :
    (annotationRunner.run c s).state.plan.HasOwnPolicies := by
  refine @run_maintains (fun t => t.plan.HasOwnPolicies) c s ?_ start
  intro t e asked sofar
  rcases PlanState.edit_cases t e with made | stopped
  · rw [made]
    exact hasOwnPolicies_after asked sofar
  · rw [stopped]
    exact sofar

theorem hasOwnPolicies_lower (is : List Ingress) (ports : Catalog PortLookup) :
    (lower is ports).1.HasOwnPolicies := by
  intro k policy found
  rw [tlsPolicies_lower] at found
  cases found

/-! ## The output of a migration -/

namespace IngressNginx

variable {l : GatewayLayout} {is : List Ingress} {ports : Catalog PortLookup} {r : Resources}

theorem identity_of_unattached_route {k : ObjectKey} {route : HttpRoute}
    (found : (unattached l is ports).routes.get? k = some route) :
    route.kind = "HTTPRoute" ∧ route.metadata.key = k := by
  rcases Emission.route_of_materialize found with
    ⟨p, planned, rfl⟩ | ⟨j, p, host, -, -, -, rfl, rfl⟩
  · obtain ⟨g, kept, same⟩ := get?_routes_annotate planned
    have kind : p.route.kind = "HTTPRoute" := congrArg (·.route.kind) same
    have key : p.route.metadata.key = ⟨g.space, g.key.name⟩ :=
      congrArg (·.route.metadata.key) same
    refine ⟨kind, key.trans ?_⟩
    rw [← key_of_ruleGroups kept]
    rfl
  · exact ⟨rfl, rfl⟩

namespace Migrates

variable (m : Migrates l is ports r)

include m

/-- The Gateways are those of namespaces, and their metadata follow from their keys. -/
theorem metadata_of_gateway {k : ObjectKey} {x : Gateway} (found : r.gateways.get? k = some x) :
    x.kind = "Gateway" ∧
      x.metadata = { name := k.name, space := k.space, labels := some generatedLabels } := by
  rw [m.eq_attach] at found
  obtain ⟨space, -, made⟩ := GatewayLayout.space_of_gateways found
  obtain ⟨-, same⟩ := GatewayLayout.spaceGateway?_eq_some_iff.mp made
  cases same
  exact ⟨rfl, rfl⟩

/-- The policies are those of the plan. -/
theorem tlsPolicies : r.tlsPolicies = (annotate is ports).state.plan.tlsPolicies := by
  have kept := (Emission.extends_materialize (l := l)
    (e := { resources := (annotate is ports).state.plan.resources })
    (Emission.materialize_completes_iff.mpr m.namesClusters)).tlsPolicies
  rw [m.eq_attach]
  exact kept

end Migrates

theorem identified_of_migrates (m : Migrates l is ports r) : r.Identified where
  gateways k x found := by
    obtain ⟨kind, metadata⟩ := m.metadata_of_gateway found
    exact ⟨kind, by rw [metadata]; rfl⟩
  routes k x found := by
    rw [m.eq_attach, GatewayLayout.attach, OrderedMap.get?_mapValues] at found
    obtain ⟨old, before, rfl⟩ := Option.map_eq_some_iff.mp found
    exact @identity_of_unattached_route l is ports k old before
  tlsPolicies k x found := by
    rw [m.tlsPolicies] at found
    exact hasOwnPolicies_run (hasOwnPolicies_lower is ports) k x found
  grants k x found := by
    obtain ⟨space, -, -, rfl, rfl⟩ := m.get?_grants.mp found
    exact ⟨rfl, rfl⟩
  extensions k x found := by
    obtain ⟨j, c, ps, -, rfl, rfl⟩ := (m.get?_extensions k).1 x found
    exact ⟨rfl, rfl⟩

end IngressNginx

/-! ## Documents -/

theorem Gateway.identity?_document (x : Gateway) :
    (⟨codec.write .dropped x, []⟩ : Manifest).identity? = some ⟨x.kind, x.metadata.key⟩ := rfl

theorem HttpRoute.identity?_document (x : HttpRoute) :
    (⟨codec.write .dropped x, []⟩ : Manifest).identity? = some ⟨x.kind, x.metadata.key⟩ := rfl

theorem BackendTlsPolicy.identity?_document (x : BackendTlsPolicy) :
    (⟨codec.write .dropped x, []⟩ : Manifest).identity? = some ⟨x.kind, x.metadata.key⟩ := rfl

theorem ReferenceGrant.identity?_document (x : ReferenceGrant) :
    (⟨codec.write .dropped x, []⟩ : Manifest).identity? = some ⟨x.kind, x.metadata.key⟩ := rfl

theorem EnvoyFilter.identity?_document (l : GatewayLayout) (k : ObjectKey) (c : Concern)
    (ps : List Value) :
    (Resources.extensionManifest (wrap l k c ps)).identity? =
      some ⟨"EnvoyFilter", EnvoyFilter.key l k c⟩ := rfl

namespace Resources

/-- The keys of a catalog in the order of its documents. -/
def sortedKeys {α : Type} (c : Catalog α) : List ObjectKey :=
  (c.toList.mergeSort fun a b => a.1.le b.1).map Prod.fst

theorem nodup_sortedKeys {α : Type} (c : Catalog α) : (sortedKeys c).Nodup :=
  ((List.mergeSort_perm c.toList _).map Prod.fst).nodup_iff.mpr c.nodup

section Sorted
variable {α : Type} {c : Catalog α} {document : α → Manifest} {kind : String}

/-- If every object's document has the kind and the object's key, the documents have the kind and
the sorted keys. -/
theorem identities_sorted
    (own : ∀ k x, c.get? k = some x → (document x).identity? = some ⟨kind, k⟩) :
    ((sorted c).map document).map Manifest.identity? =
      ((sortedKeys c).map (Identity.mk kind)).map some := by
  unfold sorted sortedKeys
  simp only [List.map_map]
  apply List.map_congr_left
  intro e mem
  exact own e.1 e.2 (OrderedMap.mem_toList.mp (List.mem_mergeSort.mp mem))

theorem identities_of_fields {kindOf : α → String} {keyOf : α → ObjectKey}
    (written : ∀ x, (document x).identity? = some ⟨kindOf x, keyOf x⟩)
    (own : ∀ k x, c.get? k = some x → kindOf x = kind ∧ keyOf x = k) :
    ((sorted c).map document).map Manifest.identity? =
      ((sortedKeys c).map (Identity.mk kind)).map some := by
  apply identities_sorted
  intro k x found
  obtain ⟨rfl, rfl⟩ := own k x found
  exact written x

end Sorted

/-- The kinds of documents with the keys that occur with them. -/
def keysByKind (r : Resources) : List (String × List ObjectKey) :=
  [("Gateway", sortedKeys r.gateways), ("HTTPRoute", sortedKeys r.routes),
   ("BackendTLSPolicy", sortedKeys r.tlsPolicies), ("ReferenceGrant", sortedKeys r.grants),
   ("EnvoyFilter", sortedKeys r.extensions)]

/-- The identities of documents in their order. -/
def identities (r : Resources) : List Identity :=
  r.keysByKind.flatMap fun e => e.2.map (Identity.mk e.1)

theorem nodup_identities (r : Resources) : r.identities.Nodup := by
  have kinds : (r.keysByKind.map Prod.fst).Nodup := by
    show ["Gateway", "HTTPRoute", "BackendTLSPolicy", "ReferenceGrant", "EnvoyFilter"].Nodup
    decide
  refine List.nodup_flatMap.mpr ⟨fun e mem => ?_, ?_⟩
  · have keys : e.2.Nodup := by
      simp only [keysByKind, List.mem_cons, List.not_mem_nil, or_false] at mem
      rcases mem with rfl | rfl | rfl | rfl | rfl
      all_goals exact nodup_sortedKeys _
    exact keys.map fun a b same => (Identity.mk.inj same).2
  · refine (List.pairwise_map.mp kinds).imp fun {d e} other => ?_
    intro id first second
    obtain ⟨k, -, rfl⟩ := List.mem_map.mp first
    obtain ⟨j, -, same⟩ := List.mem_map.mp second
    exact other (Identity.mk.inj same).1.symm

end Resources

namespace IngressNginx

variable {l : GatewayLayout} {is : List Ingress} {ports : Catalog PortLookup} {r : Resources}

/-- Every document of an output has the kind of its catalog and the key of its object. -/
theorem identities_of_migrates (m : Migrates l is ports r) :
    r.manifests.map Manifest.identity? = r.identities.map some := by
  have known := identified_of_migrates m
  have gateways := Resources.identities_of_fields Gateway.identity?_document known.gateways
  have routes := Resources.identities_of_fields HttpRoute.identity?_document known.routes
  have policies :=
    Resources.identities_of_fields BackendTlsPolicy.identity?_document known.tlsPolicies
  have grants := Resources.identities_of_fields ReferenceGrant.identity?_document known.grants
  have extensions : ((Resources.sorted r.extensions).map Resources.extensionManifest).map
      Manifest.identity? =
        ((Resources.sortedKeys r.extensions).map (Identity.mk "EnvoyFilter")).map some := by
    apply Resources.identities_sorted
    intro k x found
    obtain ⟨j, c, ps, -, rfl, rfl⟩ := (m.get?_extensions k).1 x found
    exact EnvoyFilter.identity?_document l j c ps
  unfold Resources.manifests Resources.identities Resources.keysByKind
  simp only [List.map_append, gateways, routes, policies, grants, extensions, List.flatMap_cons,
    List.flatMap_nil, List.append_nil, List.append_assoc]

/-- In the output of a complete run every object is kept under the key of its metadata, and of the
documents that are written no two have the same kind, namespace and name. -/
theorem documents_differ (m : Migrates l is ports r) :
    r.Identified ∧ ∃ ids : List Identity,
      r.manifests.map Manifest.identity? = ids.map some ∧ ids.Nodup :=
  ⟨identified_of_migrates m, r.identities, identities_of_migrates m, r.nodup_identities⟩

theorem limited_documents_differ :
    let r := (emit { mode := .perNamespace } (annotate limited .empty).state.plan).state.resources
    r.Identified ∧ ∃ ids : List Identity,
      r.manifests.map Manifest.identity? = ids.map some ∧ ids.Nodup :=
  documents_differ (migrates_limited .perNamespace)

end IngressNginx

end GatewayMigration
