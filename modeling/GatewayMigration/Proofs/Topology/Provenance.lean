import GatewayMigration.Proofs.Planning.Policies
import GatewayMigration.Proofs.Topology.Identity
/-!
# Marks of generated objects

Objects that are generated should be told from others by their labels. Each builder puts the labels
on its objects by itself, and the one of the policies does not. Main statements:

* `marked_of_other`: redirects, filters, grants and the Gateways of namespaces have the labels;
* `unmarked_of_policy`: no policy has them;
* `marked_iff`: so of the documents that were generated all but the policies are marked, and all are
  exactly if no Ingress speaks TLS to a Service.
-/

namespace GatewayMigration

/-! ## Documents -/

namespace Manifest

/-- The labels in the document's metadata say that it was generated. -/
def IsMarked (d : Manifest) : Prop :=
  ∃ metadata labels, d.body.field? "metadata" = some metadata ∧
    metadata.field? "labels" = some labels ∧
    labels.field? managedByLabel = some (.string "ingress2gateway") ∧
    labels.field? migrationLabel = some (.string "true")

/-- The document is a policy of a Service. -/
def IsTlsPolicy (d : Manifest) : Prop :=
  d.body.field? "kind" = some (.string "BackendTLSPolicy")

end Manifest

theorem ObjectMeta.field?_labels (m : ObjectMeta) :
    (codec.write .dropped m).field? "labels" = m.labels.map EnvoyFilter.labelsValue := by
  obtain ⟨name, space, labels, annotations⟩ := m
  cases labels with
  | none => cases annotations <;> rfl
  | some ls => rfl

namespace Manifest

variable {d : Manifest}

theorem isMarked_of_labels {metadata : Value} (own : d.body.field? "metadata" = some metadata)
    (labels : metadata.field? "labels" = some (EnvoyFilter.labelsValue generatedLabels)) :
    d.IsMarked :=
  ⟨metadata, _, own, labels, by decide, by decide⟩

variable {m : ObjectMeta}

theorem isMarked_of_metadata
    (own : d.body.field? "metadata" = some (ObjectMeta.codec.write .dropped m))
    (labels : m.labels = some generatedLabels) : d.IsMarked := by
  refine isMarked_of_labels own ?_
  rw [ObjectMeta.field?_labels, labels]
  rfl

theorem not_isMarked_of_metadata
    (own : d.body.field? "metadata" = some (ObjectMeta.codec.write .dropped m))
    (unlabelled : m.labels = none) : ¬ d.IsMarked := by
  rintro ⟨metadata, labels, same, found, -⟩
  obtain rfl := Option.some.inj (own.symm.trans same)
  rw [ObjectMeta.field?_labels, unlabelled] at found
  cases found

theorem not_isTlsPolicy_of_kind {kind other : String}
    (own : d.body.field? "kind" = some (.string kind)) (same : kind = other)
    (differs : other ≠ "BackendTLSPolicy") : ¬ d.IsTlsPolicy := by
  intro policy
  exact differs (same.symm.trans (Value.string.inj (Option.some.inj (own.symm.trans policy))))

end Manifest

namespace Resources

variable {r : Resources}

theorem mem_sorted_iff {α : Type} {c : Catalog α} {x : α} :
    x ∈ sorted c ↔ ∃ k, c.get? k = some x := by
  simp only [sorted, List.mem_map, List.mem_mergeSort, Prod.exists, exists_eq_right,
    OrderedMap.mem_toList]

theorem mem_documents_iff {α : Type} {c : Catalog α} {document : α → Manifest} {d : Manifest} :
    d ∈ (sorted c).map document ↔ ∃ k x, c.get? k = some x ∧ document x = d := by
  simp only [List.mem_map, mem_sorted_iff]
  constructor
  · rintro ⟨x, ⟨k, found⟩, made⟩
    exact ⟨k, x, found, made⟩
  · rintro ⟨k, x, found, made⟩
    exact ⟨x, ⟨k, found⟩, made⟩

def withoutPolicies (r : Resources) : Resources := { r with tlsPolicies := .empty }

/-- The documents of an output are those of its policies and those of its other objects. -/
theorem mem_manifests_iff {d : Manifest} :
    d ∈ r.manifests ↔ d ∈ r.withoutPolicies.manifests ∨
      ∃ k x, r.tlsPolicies.get? k = some x ∧ ⟨BackendTlsPolicy.codec.write .dropped x, []⟩ = d := by
  simp only [manifests, withoutPolicies, List.mem_append, mem_documents_iff, OrderedMap.get?_empty,
    reduceCtorEq, false_and, exists_false, or_false]
  exact (or_congr_left or_right_comm).trans or_right_comm

end Resources

/-! ## The output of a migration -/

namespace IngressNginx

variable {l : GatewayLayout} {is : List Ingress} {ports : Catalog PortLookup} {r : Resources}

/-- The objects of an output without the routes that were lowered. -/
def generated (is : List Ingress) (ports : Catalog PortLookup) (r : Resources) : Resources :=
  { r with routes := r.routes.filterKeys fun k => !(lower is ports).1.routes.contains k }

namespace Migrates

variable (m : Migrates l is ports r)

include m

/-- A route that was not lowered redirects, and has the labels. -/
theorem labels_of_generated_route {k : ObjectKey} {x : HttpRoute}
    (found : (generated is ports r).routes.get? k = some x) :
    x.kind = "HTTPRoute" ∧ x.metadata.labels = some generatedLabels := by
  obtain ⟨fresh, found⟩ := OrderedMap.get?_filterKeys_eq_some_iff.mp found
  rw [m.eq_attach, GatewayLayout.attach, OrderedMap.get?_mapValues] at found
  obtain ⟨old, before, rfl⟩ := Option.map_eq_some_iff.mp found
  rcases Emission.route_of_materialize before with
    ⟨p, planned, -⟩ | ⟨j, p, host, -, -, -, rfl, -⟩
  · -- the key of a planned route is one that was lowered
    have lowered : (lower is ports).1.routes.contains k = true := by
      rw [OrderedMap.contains_iff, keys_routes_lower, ← keys_routes_annotate is ports]
      exact OrderedMap.mem_keys_iff.mpr ⟨p, planned⟩
    rw [lowered] at fresh
    cases fresh
  · exact ⟨rfl, rfl⟩

/-- What is generated is marked if it is no policy. -/
theorem marked_of_other {d : Manifest}
    (mem : d ∈ (generated is ports r).withoutPolicies.manifests) :
    d.IsMarked ∧ ¬ d.IsTlsPolicy := by
  unfold Resources.manifests at mem
  simp only [List.mem_append, Resources.mem_documents_iff] at mem
  rcases mem with (((⟨k, x, found, rfl⟩ | ⟨k, x, found, rfl⟩) | ⟨k, x, found, rfl⟩) |
    ⟨k, x, found, rfl⟩) | ⟨k, x, found, rfl⟩
  · obtain ⟨kind, metadata⟩ := m.metadata_of_gateway found
    refine ⟨Manifest.isMarked_of_metadata rfl (congrArg ObjectMeta.labels metadata), ?_⟩
    exact Manifest.not_isTlsPolicy_of_kind rfl kind (by decide)
  · obtain ⟨kind, labels⟩ := m.labels_of_generated_route found
    refine ⟨Manifest.isMarked_of_metadata rfl labels, ?_⟩
    exact Manifest.not_isTlsPolicy_of_kind rfl kind (by decide)
  · cases found
  · obtain ⟨space, -, -, -, rfl⟩ := m.get?_grants.mp found
    refine ⟨Manifest.isMarked_of_metadata rfl rfl, ?_⟩
    exact Manifest.not_isTlsPolicy_of_kind rfl (rfl : _ = "ReferenceGrant") (by decide)
  · obtain ⟨j, c, ps, -, -, rfl⟩ := (m.get?_extensions k).1 x found
    refine ⟨Manifest.isMarked_of_labels rfl rfl, ?_⟩
    exact Manifest.not_isTlsPolicy_of_kind rfl rfl (by decide)

/-- Policies are not marked. -/
theorem unmarked_of_policy {k : ObjectKey} {x : BackendTlsPolicy}
    (found : r.tlsPolicies.get? k = some x) :
    let d : Manifest := ⟨BackendTlsPolicy.codec.write .dropped x, []⟩
    ¬ d.IsMarked ∧ d.IsTlsPolicy := by
  rw [m.tlsPolicies] at found
  obtain ⟨service, i, -, -, rfl⟩ := exists_asksTls_of_policy m.planned found
  exact ⟨Manifest.not_isMarked_of_metadata rfl rfl, rfl⟩

end Migrates

/-- Of the documents that a complete run generates, all but the policies of Services are marked. All
are marked exactly if no Ingress speaks TLS to a Service. -/
theorem marked_iff (m : Migrates l is ports r) :
    (∀ d ∈ (generated is ports r).manifests, d.IsMarked ↔ ¬ d.IsTlsPolicy) ∧
      ((∀ d ∈ (generated is ports r).manifests, d.IsMarked) ↔
        ∀ i ∈ is, ∀ service, ¬ i.AsksTls service) := by
  refine ⟨fun d mem => ?_, fun marked i listed service asks => ?_, fun plain d mem => ?_⟩
  · rcases Resources.mem_manifests_iff.mp mem with other | ⟨k, x, found, rfl⟩
    · obtain ⟨marked, foreign⟩ := m.marked_of_other other
      exact iff_of_true marked foreign
    · obtain ⟨unmarked, policy⟩ := m.unmarked_of_policy found
      exact iff_of_false unmarked (not_not_intro policy)
  · obtain ⟨j, first⟩ : ∃ j, IsFirst (·.AsksTls service) is j := exists_isFirst listed asks
    have found : r.tlsPolicies.get? (BackendTls.keyFor service) =
        some (BackendTls.policyOf j service) := by
      rw [m.tlsPolicies]
      exact (get?_tlsPolicies_iff m.planned).mpr ⟨j, first, rfl⟩
    exact (m.unmarked_of_policy found).1
      (marked _ (Resources.mem_manifests_iff.mpr (.inr ⟨_, _, found, rfl⟩)))
  · rcases Resources.mem_manifests_iff.mp mem with other | ⟨k, x, found, rfl⟩
    · exact (m.marked_of_other other).1
    · have found : r.tlsPolicies.get? k = some x := found
      rw [m.tlsPolicies] at found
      obtain ⟨service, i, listed, asks, -⟩ := exists_asksTls_of_policy m.planned found
      exact absurd asks (plain i listed service)

/-- A Gateway, a redirect and a filter that are marked. -/
theorem generated_limited_marked :
    let l : GatewayLayout := { mode := .perNamespace }
    let r := (emit l (annotate limited .empty).state.plan).state.resources
    let made := generated limited .empty r
    Migrates l limited .empty r ∧
      (made.gateways.size, made.routes.size, made.extensions.size) = (1, 1, 1) ∧
      ∀ d ∈ made.manifests, d.IsMarked := by
  refine ⟨migrates_limited .perNamespace, by decide +kernel, ?_⟩
  refine (marked_iff (migrates_limited .perNamespace)).2.mpr fun i listed service asks => ?_
  cases List.mem_singleton.mp listed
  exact absurd (BackendTls.asksForTls_iff.mp asks).2 (by decide +kernel)

/-- An Ingress that speaks TLS to a Service. -/
def encrypted : List Ingress :=
  [.plain ⟨"shop", "web"⟩ [("a.b", "one")] []
    (.ofList [(AnnotationKey.backendProtocol, "HTTPS")])]

theorem policy_encrypted_unmarked :
    ∃ r, Migrates {} encrypted .empty r ∧
      ∃ d ∈ (generated encrypted .empty r).manifests, ¬ d.IsMarked := by
  have m : Migrates {} encrypted .empty
      (emit {} (annotate encrypted .empty).state.plan).state.resources :=
    ⟨by decide +kernel, by decide +kernel, rfl⟩
  have found : (annotate encrypted .empty).state.plan.tlsPolicies.get? ⟨"shop", "one-backend-tls"⟩ =
      some (BackendTls.policyFor ⟨"shop", "one-backend-tls"⟩ "one" none none) := by decide +kernel
  rw [← m.tlsPolicies] at found
  exact ⟨_, m, _, Resources.mem_manifests_iff.mpr (.inr ⟨_, _, found, rfl⟩),
    (m.unmarked_of_policy found).1⟩

end IngressNginx

end GatewayMigration
