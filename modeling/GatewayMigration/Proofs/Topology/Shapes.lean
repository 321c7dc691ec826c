import GatewayMigration.Proofs.Topology.Isolation
/-!
# Shapes of listeners

The groups of one Gateway add their listeners one after the other, an HTTPS listener only together
with an HTTP listener, but each only if its name is free. With a Gateway for each namespace the
listeners of several Gateways are merged once more, and their certificates pooled. Names tell which
listeners meet: those of HTTP and of HTTPS never do. Main statements:

* `wellShaped_addListeners`, `WellShaped.merge`: both ways of putting listeners together keep the
  shape of all listeners;
* `listeners_wellShaped`: the listeners of all Gateways that are planned or put out have it.
-/

namespace GatewayMigration

/-! ## One listener -/

/-- TLS settings with a certificate from each of the secrets, and nothing else. -/
def ListenerTls.ofSecrets (secrets : List String) : ListenerTls where
  certificateRefs := secrets.map fun s => { name := s }

theorem ListenerTls.pool_ofSecrets (secrets more : List String) :
    (ofSecrets secrets).pool (ofSecrets more) = ofSecrets (more.foldl addNew secrets) := by
  have byName : Function.Injective fun s : String => ({ name := s } : SecretRef) :=
    fun _ _ same => congrArg SecretRef.name same
  unfold pool ofSecrets
  rw [map_foldl_addNew byName]

namespace Listener

variable {stem : String} {l m : Listener}

/-- A listener for HTTP, with a name of this stem. -/
structure IsHttp (stem : String) (l : Listener) : Prop where
  name : l.name = stem ++ "-http"
  protocol : l.protocol = "HTTP"
  port : l.port = 80
  tls : l.tls = none

/-- A listener for HTTPS, with a name of this stem. It has the certificates of some secrets, at least
one. All of them have names, and no name is there twice. -/
structure IsHttps (stem : String) (l : Listener) : Prop where
  name : l.name = stem ++ "-https"
  protocol : l.protocol = "HTTPS"
  port : l.port = 443
  tls : ∃ secrets, l.tls = some (.ofSecrets secrets) ∧
    secrets ≠ [] ∧ "" ∉ secrets ∧ secrets.Nodup

/-- A listener is of one of the two kinds. -/
def IsShaped (l : Listener) : Prop := ∃ stem, l.IsHttp stem ∨ l.IsHttps stem

theorem IsShaped.isHttp (shaped : l.IsShaped) (named : l.name = stem ++ "-http") :
    l.IsHttp stem := by
  obtain ⟨own, http | https⟩ := shaped
  · have same : own = stem := (String.append_left_inj _).mp (http.name.symm.trans named)
    exact same ▸ http
  · exact absurd (named.symm.trans https.name) (append_http_ne_https stem own)

theorem IsShaped.isHttps (shaped : l.IsShaped) (named : l.name = stem ++ "-https") :
    l.IsHttps stem := by
  obtain ⟨own, http | https⟩ := shaped
  · exact absurd (http.name.symm.trans named) (append_http_ne_https own stem)
  · have same : own = stem := (String.append_left_inj _).mp (https.name.symm.trans named)
    exact same ▸ https

/-! ## Pooling -/

theorem IsHttp.pool (own : l.IsHttp stem) (other : m.IsHttp stem) : (l.pool m).IsHttp stem := by
  have kept : l.pool m = l := by
    unfold Listener.pool
    rw [other.tls]
  rw [kept]
  exact own

theorem IsHttps.pool (own : l.IsHttps stem) (other : m.IsHttps stem) :
    (l.pool m).IsHttps stem := by
  obtain ⟨secrets, tls, present, named, distinct⟩ := own.tls
  obtain ⟨more, tls', -, named', -⟩ := other.tls
  have pooled : l.pool m = { l with tls := some (.ofSecrets (more.foldl addNew secrets)) } := by
    unfold Listener.pool
    rw [tls, tls', ← ListenerTls.pool_ofSecrets]
  rw [pooled]
  refine ⟨own.name, own.protocol, own.port, _, rfl, ?_, ?_, nodup_foldl_addNew distinct more⟩
  · obtain ⟨s, mem⟩ := List.exists_mem_of_ne_nil secrets present
    exact List.ne_nil_of_mem (mem_foldl_addNew.mpr (.inl mem))
  · rw [mem_foldl_addNew]
    exact not_or.mpr ⟨named, named'⟩

/-- Only listeners of one kind have one name. -/
theorem IsShaped.pool (own : l.IsShaped) (other : m.IsShaped) (alike : m.name = l.name) :
    (l.pool m).IsShaped := by
  obtain ⟨stem, http | https⟩ := own
  · exact ⟨stem, .inl (http.pool (other.isHttp (alike.trans http.name)))⟩
  · exact ⟨stem, .inr (https.pool (other.isHttps (alike.trans https.name)))⟩

theorem IsShaped.foldl_pool (own : l.IsShaped) {ms : List Listener}
    (others : ∀ m ∈ ms, m.IsShaped ∧ m.name = l.name) : (ms.foldl Listener.pool l).IsShaped := by
  induction ms generalizing l with
  | nil => exact own
  | cons m ms ih =>
    obtain ⟨shaped, alike⟩ := others m (.head _)
    refine ih (own.pool shaped alike) fun later mem => ?_
    rw [name_pool]
    exact others later (.tail _ mem)

end Listener

/-! ## All listeners of a Gateway -/

/-- The listeners have different names, each of them is for HTTP or for HTTPS, and beside one for
HTTPS there is one for HTTP with the same stem. -/
structure WellShaped (ls : List Listener) : Prop where
  distinct : (ls.map (·.name)).Nodup
  shaped : ∀ l ∈ ls, l.IsShaped
  paired : ∀ l ∈ ls, ∀ stem, l.IsHttps stem → ∃ m ∈ ls, m.IsHttp stem

/-- The names tell whether every HTTPS listener has its HTTP listener. -/
theorem wellShaped_of_names {ls : List Listener} (distinct : (ls.map (·.name)).Nodup)
    (shaped : ∀ l ∈ ls, l.IsShaped)
    (named : ∀ l ∈ ls, ∀ stem, l.IsHttps stem → stem ++ "-http" ∈ ls.map (·.name)) :
    WellShaped ls where
  distinct := distinct
  shaped := shaped
  paired l mem stem https := by
    obtain ⟨m, there, name⟩ := List.mem_map.mp (named l mem stem https)
    exact ⟨m, there, (shaped m there).isHttp name⟩

theorem isHttp_httpListener (g : RuleGroup) : (httpListener g).IsHttp (hostSlug g.host) :=
  ⟨listenerName_http g.host, rfl, rfl, rfl⟩

theorem wellShaped_groupListeners {g : RuleGroup} (named : "" ∉ g.tlsSecrets)
    (distinct : g.tlsSecrets.Nodup) : WellShaped (groupListeners g) := by
  apply wellShaped_of_names (nodup_name_groupListeners g)
  · intro l mem
    rcases mem_groupListeners_iff.mp mem with rfl | ⟨present, rfl⟩
    · exact ⟨_, .inl (isHttp_httpListener g)⟩
    · exact ⟨hostSlug g.host, .inr ⟨listenerName_https g.host, rfl, rfl,
        g.tlsSecrets, rfl, present, named, distinct⟩⟩
  · intro l mem stem https
    rcases mem_groupListeners_iff.mp mem with rfl | ⟨-, rfl⟩
    · exact absurd ((isHttp_httpListener g).name.symm.trans https.name) (append_http_ne_https _ _)
    · have same : hostSlug g.host = stem :=
        (String.append_left_inj _).mp ((listenerName_https g.host).symm.trans https.name)
      rw [← same, ← listenerName_http]
      exact List.mem_map_of_mem (mem_groupListeners_iff.mpr (.inl rfl))

/-- An HTTP listener that is not added leaves a name that is taken, by an HTTP listener. -/
theorem wellShaped_addListeners {gateway : Gateway} {g : RuleGroup}
    (before : WellShaped gateway.spec.listeners) (own : WellShaped (groupListeners g)) :
    WellShaped (addListeners gateway g).spec.listeners := by
  apply wellShaped_of_names (nodup_name_addListeners before.distinct g)
  · intro l mem
    rcases mem_addListeners_iff.mp mem with old | ⟨new, -⟩
    · exact before.shaped l old
    · exact own.shaped l new
  · intro l mem stem https
    rw [name_mem_addListeners_iff]
    rcases mem_addListeners_iff.mp mem with old | ⟨new, -⟩
    · obtain ⟨m, there, http⟩ := before.paired l old stem https
      exact .inl (List.mem_map.mpr ⟨m, there, http.name⟩)
    · obtain ⟨m, there, http⟩ := own.paired l new stem https
      exact .inr (List.mem_map.mpr ⟨m, there, http.name⟩)

theorem wellShaped_lower {is : List Ingress} {ports : Catalog PortLookup} {k : ObjectKey}
    {gateway : Gateway} (found : (lower is ports).1.gateways.get? k = some gateway) :
    WellShaped gateway.spec.listeners := by
  refine gateway_lower_induction (motive := fun _ gateway => WellShaped gateway.spec.listeners)
    ?_ ?_ found
  · intro k
    exact ⟨List.nodup_nil, fun _ => nofun, fun _ => nofun⟩
  · intro j g gateway kept before
    exact wellShaped_addListeners before
      (wellShaped_groupListeners (empty_not_mem_secrets kept) (nodup_secrets_ruleGroups kept))

/-! ## Gateways that are merged -/

theorem WellShaped.merge {gs : List Gateway} (each : ∀ g ∈ gs, WellShaped g.spec.listeners) :
    WellShaped (mergeListeners gs) := by
  apply wellShaped_of_names (nodup_name_mergeListeners gs)
  · intro l mem
    have alike : ∀ m ∈ listenersNamed gs l.name, m.IsShaped ∧ m.name = l.name := by
      intro m there
      obtain ⟨name, g, source, inside⟩ := mem_listenersNamed_iff.mp there
      exact ⟨(each g source).shaped m inside, name⟩
    have pooled := mem_mergeListeners_iff.mp mem
    cases split : listenersNamed gs l.name with
    | nil =>
      rw [split] at pooled
      cases pooled
    | cons first rest =>
      rw [split] at pooled alike
      obtain ⟨shaped, name⟩ := alike first (.head _)
      rw [← Option.some.inj pooled]
      refine shaped.foldl_pool fun m there => ?_
      rw [name]
      exact alike m (.tail _ there)
  · intro l mem stem https
    obtain ⟨first, there, face⟩ := face_of_mem_mergeListeners mem
    obtain ⟨alike, g, source, inside⟩ := mem_listenersNamed_iff.mp there
    have own := ((each g source).shaped first inside).isHttps (alike.trans https.name)
    obtain ⟨m, beside, http⟩ := (each g source).paired first inside stem own
    obtain ⟨merged, kept, name⟩ := exists_mem_mergeListeners
      (mem_listenersNamed_iff.mpr ⟨http.name, g, source, beside⟩)
    exact List.mem_map.mpr ⟨merged, kept, name⟩

theorem wellShaped_attach {l : GatewayLayout} {r : Resources}
    (each : ∀ k gateway, r.gateways.get? k = some gateway → WellShaped gateway.spec.listeners)
    {k : ObjectKey} {gateway : Gateway} (found : (l.attach r).gateways.get? k = some gateway) :
    WellShaped gateway.spec.listeners := by
  obtain ⟨space, -, made⟩ := GatewayLayout.space_of_gateways found
  obtain ⟨-, -, listeners, -⟩ := GatewayLayout.eq_of_spaceGateway? made
  rw [listeners]
  apply WellShaped.merge
  intro old used
  obtain ⟨key, -, there⟩ := GatewayLayout.mem_usedGateways_iff.mp used
  exact each key old there

namespace IngressNginx

/-- The listeners of every Gateway are well shaped, in the plan, wherever its passes stopped, and in
the output of a complete run. -/
theorem listeners_wellShaped (is : List Ingress) (ports : Catalog PortLookup) :
    (∀ k gateway, (annotate is ports).state.plan.gateways.get? k = some gateway →
      WellShaped gateway.spec.listeners) ∧
    ∀ l r, Migrates l is ports r → ∀ k gateway, r.gateways.get? k = some gateway →
      WellShaped gateway.spec.listeners := by
  constructor
  · intro k gateway found
    rw [gateways_annotate] at found
    exact wellShaped_lower found
  · intro l r m k gateway found
    rw [m.eq_attach] at found
    refine wellShaped_attach (fun key old there => ?_) found
    rw [gateways_unattached] at there
    exact wellShaped_lower there

/-- The Gateway that is made of one with an HTTP listener and one with both. -/
theorem coincident_listeners_wellShaped :
    ∃ r gateway, Migrates { mode := .perNamespace } coincident .empty r ∧
      r.gateways.get? ⟨"a-gateway", "a-gateway"⟩ = some gateway ∧
      gateway.spec.listeners.map (·.name) = ["x-io-http", "y-io-http", "y-io-https"] ∧
      WellShaped gateway.spec.listeners := by
  have output : ∃ e ∈ (emit { mode := .perNamespace }
        (annotate coincident .empty).state.plan).state.resources.gateways.toList,
      e.1 = ⟨"a-gateway", "a-gateway"⟩ ∧
        e.2.spec.listeners.map (·.name) = ["x-io-http", "y-io-http", "y-io-https"] := by
    rw [migrates_coincident.gateways_eq]
    decide +kernel
  obtain ⟨⟨_, gateway⟩, mem, rfl, names⟩ := output
  have found := OrderedMap.mem_toList.mp mem
  exact ⟨_, gateway, migrates_coincident, found, names,
    (listeners_wellShaped coincident .empty).2 _ _ migrates_coincident _ _ found⟩

end IngressNginx

end GatewayMigration
