import GatewayMigration.Proofs.Planning.Policies
/-!
# Policies beside the settings of Services

What Ingresses say about the certificates of a Service is written down twice. The policy is that of
the first Ingress that speaks TLS to the Service, and stays; the settings are written over by every
later Ingress. So the two need not say the same. Main statements:

* `BackendTls.policyOf_matches_iff`: when a policy says what some settings say;
* `Ingress.AsksTls.addresses`: an Ingress that asks for a policy writes settings, too;
* `policy_matches_iff`: so the settings are there, and the policy says what they say exactly if the
  first Ingress said it.
-/

namespace GatewayMigration

/-- The policy says about certificates and the host what the settings of the Service say. -/
structure BackendTlsPolicy.Matches (p : BackendTlsPolicy) (s : ServiceSettings)
    (service : ObjectKey) : Prop where
  refs : ∀ ref, s.sslSecret = some ref → p.spec.validation.caCertificateRefs =
    some [{ kind := "ConfigMap", name := BackendTls.secretName ref }]
  system : p.spec.validation.wellKnownCaCertificates = some "System" ↔ s.sslSecret = none
  hostname : p.spec.validation.hostname = s.sslName.getD service.name

namespace BackendTls

theorem hostname_policyOf (i : Ingress) (service : ObjectKey) :
    (policyOf i service).spec.validation.hostname =
      (i.given? AnnotationKey.proxySslName).getD service.name := by
  unfold policyOf policyFor
  cases i.given? AnnotationKey.proxySslSecret with
  | none => rfl
  | some ref => rfl

theorem refs_policyOf (i : Ingress) (service : ObjectKey) :
    (policyOf i service).spec.validation.caCertificateRefs =
      (i.given? AnnotationKey.proxySslSecret).map fun ref =>
        [{ kind := "ConfigMap", name := secretName ref }] := by
  unfold policyOf policyFor
  cases i.given? AnnotationKey.proxySslSecret with
  | none => rfl
  | some ref => rfl

theorem system_policyOf_iff {i : Ingress} {service : ObjectKey} :
    (policyOf i service).spec.validation.wellKnownCaCertificates = some "System" ↔
      i.given? AnnotationKey.proxySslSecret = none := by
  unfold policyOf policyFor
  cases i.given? AnnotationKey.proxySslSecret with
  | none => exact iff_of_true rfl rfl
  | some ref => exact iff_of_false nofun nofun

/-- A policy says what some settings say if they have the same name of a secret, or none, and the
same host. -/
theorem policyOf_matches_iff {i : Ingress} {service : ObjectKey} {s : ServiceSettings} :
    (policyOf i service).Matches s service ↔
      (i.given? AnnotationKey.proxySslSecret).map secretName = s.sslSecret.map secretName ∧
        (i.given? AnnotationKey.proxySslName).getD service.name =
          s.sslName.getD service.name := by
  constructor
  · rintro ⟨refs, system, hostname⟩
    rw [refs_policyOf] at refs
    rw [system_policyOf_iff] at system
    refine ⟨?_, (hostname_policyOf i service).symm.trans hostname⟩
    cases kept : s.sslSecret with
    | none => rw [system.mpr kept]
    | some ref =>
      obtain ⟨given, there, same⟩ := Option.map_eq_some_iff.mp (refs ref kept)
      rw [there, Option.map_some, Option.map_some]
      injection same with same
      exact congrArg some (LocalRef.mk.inj same).2.2
  · rintro ⟨secret, host⟩
    refine ⟨fun ref kept => ?_, ?_, (hostname_policyOf i service).trans host⟩
    · rw [kept, Option.map_some] at secret
      obtain ⟨given, there, same⟩ := Option.map_eq_some_iff.mp secret
      rw [refs_policyOf, there, Option.map_some, same]
    · rw [system_policyOf_iff, ← Option.map_eq_none_iff, secret, Option.map_eq_none_iff]

end BackendTls

theorem Ingress.AsksTls.addresses {i : Ingress} {service : ObjectKey} (asks : i.AsksTls service) :
    i.Addresses service := by
  obtain ⟨leads, asks⟩ := BackendTls.asksForTls_iff.mp asks
  exact ⟨leads, BackendTls.isTriggered_iff.mp (BackendTls.isTriggered_of_asksForTls asks)⟩

namespace IngressNginx

variable {is : List Ingress} {ports : Catalog PortLookup}

/-- Every Service with an Ingress that says something about backends has settings. -/
theorem exists_serviceSettings (complete : (planFor is ports).stop = none) {i : Ingress}
    (mem : i ∈ is) {service : ObjectKey} (addresses : i.Addresses service) :
    ∃ s, (planFor is ports).state.plan.serviceSettings? service = some s := by
  obtain ⟨j, last⟩ : ∃ j, IsLast (fun j => j.Addresses service ∧
      (BackendTls.settings j).protocol.isSome = true) is j := exists_isLast mem ⟨addresses, rfl⟩
  have written := (serviceField_eq_some_iff ServiceField.protocol_isReadBy nofun complete).mpr
    ⟨j, last, rfl⟩
  obtain ⟨s, there, -⟩ := Option.bind_eq_some_iff.mp written
  exact ⟨s, there⟩

section Fields
variable {α : Type} {f : ServiceField} {get : ServiceSettings → Option α} {service : ObjectKey}
  {s : ServiceSettings}

theorem get_settings_iff (reads : f.IsReadBy get) (backend : f ≠ .loadBalancing)
    (complete : (planFor is ports).stop = none)
    (there : (planFor is ports).state.plan.serviceSettings? service = some s) {a : α} :
    get s = some a ↔ ∃ j, IsLast (fun j => j.Addresses service ∧
      (get (BackendTls.settings j)).isSome = true) is j ∧ get (BackendTls.settings j) = some a := by
  rw [← serviceField_eq_some_iff reads backend complete, there, Option.bind_some]

/-- What is not in the settings of a Service, none of its Ingresses gives. -/
theorem not_given_of_absent (reads : f.IsReadBy get) (backend : f ≠ .loadBalancing)
    (complete : (planFor is ports).stop = none)
    (there : (planFor is ports).state.plan.serviceSettings? service = some s)
    (absent : get s = none) {i : Ingress} (mem : i ∈ is) (addresses : i.Addresses service) :
    get (BackendTls.settings i) = none := by
  by_contra given
  have given : (get (BackendTls.settings i)).isSome = true := Option.isSome_iff_ne_none.mpr given
  obtain ⟨j, last⟩ : ∃ j, IsLast (fun j => j.Addresses service ∧
    (get (BackendTls.settings j)).isSome = true) is j := exists_isLast mem ⟨addresses, given⟩
  obtain ⟨a, gave⟩ := Option.isSome_iff_exists.mp last.holds.2
  cases absent.symm.trans ((get_settings_iff reads backend complete there).mpr ⟨j, last, gave⟩)

end Fields

/-- A policy has what the first Ingress says that speaks TLS to its Service, and the settings of the
Service have what the last ones say. They say the same exactly if the first Ingress has the same
name of a secret, or none, and the same host. In any case, without a secret in the settings the
policy trusts the certificates of the system, and without a name it is about the Service's. -/
theorem policy_matches_iff (complete : (planFor is ports).stop = none) {service : ObjectKey}
    {p : BackendTlsPolicy}
    (found : (planFor is ports).state.plan.tlsPolicies.get? (BackendTls.keyFor service) = some p) :
    ∃ i s, IsFirst (·.AsksTls service) is i ∧
      (planFor is ports).state.plan.serviceSettings? service = some s ∧
      (∀ ref, s.sslSecret = some ref ↔ ∃ j, IsLast (fun j => j.Addresses service ∧
        (j.given? AnnotationKey.proxySslSecret).isSome = true) is j ∧
          j.given? AnnotationKey.proxySslSecret = some ref) ∧
      (∀ name, s.sslName = some name ↔ ∃ j, IsLast (fun j => j.Addresses service ∧
        (j.given? AnnotationKey.proxySslName).isSome = true) is j ∧
          j.given? AnnotationKey.proxySslName = some name) ∧
      (s.sslSecret = none → p.spec.validation.wellKnownCaCertificates = some "System") ∧
      (s.sslName = none → p.spec.validation.hostname = service.name) ∧
      (p.Matches s service ↔
        (i.given? AnnotationKey.proxySslSecret).map BackendTls.secretName =
            s.sslSecret.map BackendTls.secretName ∧
          (i.given? AnnotationKey.proxySslName).getD service.name =
            s.sslName.getD service.name) := by
  obtain ⟨i, first, rfl⟩ := (get?_tlsPolicies_iff complete).mp found
  obtain ⟨s, there⟩ := exists_serviceSettings complete first.mem first.holds.addresses
  have addresses := first.holds.addresses
  refine ⟨i, s, first, there,
    fun ref => get_settings_iff ServiceField.sslSecret_isReadBy nofun complete there,
    fun name => get_settings_iff ServiceField.sslName_isReadBy nofun complete there,
    fun absent => ?_, fun absent => ?_, BackendTls.policyOf_matches_iff⟩
  · exact BackendTls.system_policyOf_iff.mpr (not_given_of_absent ServiceField.sslSecret_isReadBy
      nofun complete there absent first.mem addresses)
  · have nameless : i.given? AnnotationKey.proxySslName = none :=
      not_given_of_absent ServiceField.sslName_isReadBy nofun complete there absent first.mem
        addresses
    rw [BackendTls.hostname_policyOf, nameless, Option.getD_none]

/-- The second of the two Ingresses leaves the certificates of the first one. -/
theorem policy_matches_secured :
    (planFor secured .empty).stop = none ∧
      ∃ p s, (planFor secured .empty).state.plan.tlsPolicies.get? ⟨"shop", "one-backend-tls"⟩ =
          some p ∧
        (planFor secured .empty).state.plan.serviceSettings? ⟨"shop", "one"⟩ = some s ∧
        s.sslSecret = some "infra/ca" ∧ p.Matches s ⟨"shop", "one"⟩ := by
  have complete : (planFor secured .empty).stop = none := by decide +kernel
  have settings : (planFor secured .empty).state.plan.serviceSettings? ⟨"shop", "one"⟩ =
      some { protocol := some .https, sslSecret := some "infra/ca" } := by decide +kernel
  have found := (get?_tlsPolicies_iff complete).mpr
    ⟨secured[0], ⟨[], _, rfl, asksTls_secured, nofun⟩, rfl⟩
  obtain ⟨i, s, first, there, -, -, -, -, iff⟩ := policy_matches_iff complete found
  cases first.eq_head asksTls_secured
  cases settings.symm.trans there
  exact ⟨complete, _, _, found, settings, rfl, iff.mpr ⟨by decide +kernel, by decide +kernel⟩⟩

/-- Two Ingresses that speak TLS to one Service, of which only the second one has certificates. -/
def divided : List Ingress :=
  [.plain ⟨"shop", "web"⟩ [("a.b", "one")] []
     (.ofList [(AnnotationKey.backendProtocol, "HTTPS")]),
   .plain ⟨"shop", "api"⟩ [("c.d", "one")] []
     (.ofList [(AnnotationKey.backendProtocol, "HTTPS"), (AnnotationKey.proxySslSecret, "ca")])]

/-- The policy trusts the certificates of the system, the settings have a secret. -/
theorem policy_differs :
    (planFor divided .empty).stop = none ∧
      ∃ p s, (planFor divided .empty).state.plan.tlsPolicies.get? ⟨"shop", "one-backend-tls"⟩ =
          some p ∧
        (planFor divided .empty).state.plan.serviceSettings? ⟨"shop", "one"⟩ = some s ∧
        ¬ p.Matches s ⟨"shop", "one"⟩ := by
  have settings : (planFor divided .empty).state.plan.serviceSettings? ⟨"shop", "one"⟩ =
      some { protocol := some .https, sslSecret := some "ca" } := by decide +kernel
  have policy : (planFor divided .empty).state.plan.tlsPolicies.get? ⟨"shop", "one-backend-tls"⟩ =
      some (BackendTls.policyOf divided[0] ⟨"shop", "one"⟩) := by decide +kernel
  refine ⟨by decide +kernel, _, _, policy, settings, fun same => ?_⟩
  cases same.system.mp (by decide +kernel)

end IngressNginx

end GatewayMigration
