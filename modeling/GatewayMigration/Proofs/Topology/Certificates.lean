import GatewayMigration.Proofs.Topology.Output
/-!
# Certificates with a Gateway for each namespace

Lowered Gateways find their certificates in their own namespace. The Gateway that takes their place
is in another one, and the references move as they are. Main statement: `certificate_kept_iff`, a
secret is still used exactly if it is in the namespace of the new Gateway. `certificate_moved` is
one that is not.
-/

namespace GatewayMigration.IngressNginx

/-- The objects of a migration before its routes are attached. -/
def materialized (l : GatewayLayout) (s : Sources) : Resources :=
  (Emission.materialize l (plan s).state.plan
    { resources := (plan s).state.plan.resources }).state.resources

variable {l : GatewayLayout} {s : Sources}

theorem gateways_materialized :
    (materialized l s).gateways = (lower s.ingresses s.servicePorts).1.gateways :=
  gateways_unattached

theorem settled_materialized (mode : l.mode = .perNamespace) : l.Settled (materialized l s) :=
  settled_unattached mode

theorem certifies_attached_iff (mode : l.mode = .perNamespace) {space : String}
    {secret : ObjectKey} :
    (l.attach (materialized l s)).Certifies space secret ↔
      secret.space = space ++ "-gateway" ∧
        ∃ home, (materialized l s).Certifies space ⟨home, secret.name⟩ := by
  rw [GatewayLayout.certifies_attach_iff mode (settled_materialized mode)]
  have isLocal : ∀ key old, (materialized l s).gateways.get? key = some old → old.IsLocal := by
    intro key old there
    rw [gateways_materialized] at there
    exact areLocal_lower _ _ key old there
  constructor
  · rintro ⟨key, old, c, refers, there, has, rfl⟩
    have free := isLocal key old there c has
    refine ⟨by rw [SecretRef.secretIn, free]; rfl, old.metadata.space, key, old, c, refers, there,
      has, ?_⟩
    rw [SecretRef.secretIn, free]
    rfl
  · rintro ⟨moved, home, key, old, c, refers, there, has, same⟩
    have free := isLocal key old there c has
    refine ⟨key, old, c, refers, there, has, ?_⟩
    rw [SecretRef.secretIn, free] at same ⊢
    obtain ⟨own, name⟩ := secret
    obtain ⟨-, rfl⟩ := ObjectKey.mk.inj same
    rw [show own = space ++ "-gateway" from moved]
    rfl

/-- Of the secrets that the routes of a namespace used, attaching keeps those in the namespace of
the new Gateway, and no other one. What it makes of a secret is the one of its name there. -/
theorem certificate_kept_iff (mode : l.mode = .perNamespace) {space : String} {secret : ObjectKey}
    (certified : (materialized l s).Certifies space secret) :
    ((l.attach (materialized l s)).Certifies space secret ↔ secret.space = space ++ "-gateway") ∧
      (l.attach (materialized l s)).Certifies space ⟨space ++ "-gateway", secret.name⟩ := by
  rw [certifies_attached_iff mode, certifies_attached_iff mode]
  have before : ∃ home, (materialized l s).Certifies space ⟨home, secret.name⟩ :=
    ⟨secret.space, certified⟩
  exact ⟨and_iff_left before, rfl, before⟩

/-- An Ingress with TLS for its only host. -/
def tlsHost : Sources where
  ingresses := [.plain ⟨"shop", "web"⟩ [("a.b", "one")] [⟨["a.b"], some "cert"⟩]]

theorem certifies_tlsHost :
    (materialized { mode := .perNamespace } tlsHost).Certifies "shop" ⟨"shop", "cert"⟩ := by
  have refers : ∃ e ∈ (materialized { mode := .perNamespace } tlsHost).routes.toList,
      e.1.space = "shop" ∧ ∃ ref ∈ e.2.spec.parentRefs, ref.isGateway = true ∧
        ref.target e.2.metadata.space = ⟨"shop", "nginx"⟩ := by decide +kernel
  have holds : ∃ e ∈ (materialized { mode := .perNamespace } tlsHost).gateways.toList,
      e.1 = ⟨"shop", "nginx"⟩ ∧ e.2.metadata.space = "shop" ∧
        ∃ l ∈ e.2.spec.listeners, { name := "cert" } ∈ l.certificates := by decide +kernel
  obtain ⟨⟨k, route⟩, there, own, ref, mem, isGateway, target⟩ := refers
  obtain ⟨⟨_, g⟩, found, rfl, home, has⟩ := holds
  refine ⟨⟨"shop", "nginx"⟩, g, { name := "cert" }, ?_, OrderedMap.mem_toList.mp found, has, ?_⟩
  · exact ⟨k, route, OrderedMap.mem_toList.mp there, own, ref, mem, isGateway, target⟩
  · rw [home]
    rfl

/-- Behind the new Gateway a secret of that name in its own namespace takes its place. -/
theorem tlsHost_certified_elsewhere :
    ((GatewayLayout.attach { mode := .perNamespace }
      (materialized { mode := .perNamespace } tlsHost)).Certifies "shop" ⟨"shop", "cert"⟩ ↔
        "shop" = "shop" ++ "-gateway") ∧
      (GatewayLayout.attach { mode := .perNamespace }
        (materialized { mode := .perNamespace } tlsHost)).Certifies "shop"
          ⟨"shop" ++ "-gateway", "cert"⟩ :=
  certificate_kept_iff rfl certifies_tlsHost

/-- The secret of an ordinary Ingress with TLS is used before routes are attached and not after. -/
theorem certificate_moved :
    (materialized { mode := .perNamespace } tlsHost).Certifies "shop" ⟨"shop", "cert"⟩ ∧
      ¬ (GatewayLayout.attach { mode := .perNamespace }
        (materialized { mode := .perNamespace } tlsHost)).Certifies "shop" ⟨"shop", "cert"⟩ := by
  refine ⟨certifies_tlsHost, ?_⟩
  rw [certifies_attached_iff rfl]
  rintro ⟨moved, -⟩
  exact absurd moved (by decide)

end GatewayMigration.IngressNginx
