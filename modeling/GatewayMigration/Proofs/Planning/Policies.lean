import GatewayMigration.Proofs.Planning.Blockers
import GatewayMigration.Proofs.Planning.Services
/-!
# Policies for Services

A Service gets a policy if one of its Ingresses speaks TLS to it. The first one that does decides
what is in the policy, and the policy is announced when it is made. Main statements:

* `BackendTls.isLastSegment_secretName`: the name in a reference to a secret;
* `Ingress.asksTls_iff`: which Ingresses speak TLS to a Service;
* `PlanState.announces_edit`, `announces_planFor`: policies and their notifications are made
  together, one edit after the other, and so they are in the end;
* `get?_announced_iff`: the first Ingress that asks decides about both;
* `tlsPolicies_requested`: so there are exactly the policies that are asked for.
-/

namespace GatewayMigration

/-! ## References to secrets -/

namespace BackendTls

/-- The name is what stands behind the last slash, or everything if there is none. -/
def IsLastSegment (ref name : String) : Prop :=
  '/' ∉ name.toList ∧ (ref = name ∨ ∃ front, ref = front ++ "/" ++ name)

theorem isLastSegment_secretName (ref : String) : IsLastSegment ref (secretName ref) := by
  have name : (secretName ref).toList =
      (ref.toList.reverse.takeWhile (· != '/')).reverse := String.toList_ofList
  have whole := List.takeWhile_append_dropWhile (p := (· != '/')) (l := ref.toList.reverse)
  constructor
  · rw [name, List.mem_reverse]
    intro mem
    simpa using List.all_eq_true.mp List.all_takeWhile _ mem
  · cases rest : ref.toList.reverse.dropWhile (· != '/') with
    | nil =>
      rw [rest, List.append_nil] at whole
      refine .inl (String.ext ?_)
      rw [name, whole, List.reverse_reverse]
    | cons c front =>
      have slash : c = '/' := by
        have stopped := List.head?_dropWhile_not (· != '/') ref.toList.reverse
        rw [rest] at stopped
        simpa using stopped
      subst slash
      refine .inr ⟨String.ofList front.reverse, String.ext ?_⟩
      have reversed := congrArg List.reverse whole
      rw [rest, List.reverse_append, List.reverse_reverse, List.reverse_cons] at reversed
      rw [String.toList_append, String.toList_append, name, String.toList_ofList]
      exact reversed.symm

end BackendTls

/-! ## One Ingress -/

/-- The Ingress speaks TLS to the Service: it names a protocol that does, or certificates. -/
def Ingress.AsksTls (i : Ingress) (service : ObjectKey) : Prop :=
  i.LeadsTo service ∧
    ((∃ raw, i.annotation? AnnotationKey.backendProtocol = some raw ∧
        Text.upper (Text.strip raw) ∈ ["HTTPS", "GRPCS"]) ∨
      ∃ raw, i.annotation? AnnotationKey.proxySslSecret = some raw ∧ Text.strip raw ≠ "")

namespace BackendTls

/-- Where the policy of a Service stands. -/
def keyFor (service : ObjectKey) : ObjectKey := ⟨service.space, policyName service.name⟩

theorem keyFor_inj {s t : ObjectKey} (same : keyFor s = keyFor t) : s = t := by
  obtain ⟨space, name⟩ := ObjectKey.mk.inj same
  have name := policyName_injective name
  cases s
  cases t
  cases space
  cases name
  rfl

theorem isTls_protocol_iff {i : Ingress} :
    (protocol i).1.isTls = true ↔ ∃ raw, i.annotation? AnnotationKey.backendProtocol = some raw ∧
      Text.upper (Text.strip raw) ∈ ["HTTPS", "GRPCS"] := by
  constructor
  · intro tls
    by_cases named : ∃ p, i.NamesProtocol p
    · obtain ⟨p, names⟩ := named
      rw [protocol_of_names names] at tls
      obtain ⟨raw, there, name⟩ := names
      refine ⟨raw, there, ?_⟩
      rw [name]
      cases p with
      | https => decide
      | grpcs => decide
      | _ => cases tls
    · have silent := protocol_of_silent fun p names => named ⟨p, names⟩
      rw [silent] at tls
      cases tls
  · rintro ⟨raw, there, listed⟩
    simp only [List.mem_cons, List.not_mem_nil, or_false] at listed
    rcases listed with name | name
    · rw [protocol_of_names (p := .https) ⟨raw, there, name⟩]
      rfl
    · rw [protocol_of_names (p := .grpcs) ⟨raw, there, name⟩]
      rfl

theorem asksForTls_iff {i : Ingress} {service : ObjectKey} :
    i.AsksTls service ↔ i.LeadsTo service ∧ asksForTls i = true := by
  unfold Ingress.AsksTls asksForTls
  rw [Bool.or_eq_true, isTls_protocol_iff, Option.isSome_iff_exists]
  refine and_congr_right fun _ => or_congr_right ?_
  constructor
  · rintro ⟨raw, there, filled⟩
    exact ⟨_, Ingress.given?_eq_some_iff.mpr ⟨raw, there, rfl, filled⟩⟩
  · rintro ⟨value, given⟩
    obtain ⟨raw, there, rfl, filled⟩ := Ingress.given?_eq_some_iff.mp given
    exact ⟨raw, there, filled⟩

/-- The policy that an Ingress gives a Service. -/
def policyOf (i : Ingress) (service : ObjectKey) : BackendTlsPolicy :=
  policyFor (keyFor service) service.name (i.given? AnnotationKey.proxySslName)
    (i.given? AnnotationKey.proxySslSecret)

/-- What all notifications of new policies begin with. -/
def announcementHead : String := "generated BackendTLSPolicy "

/-- The notification of the policy that an Ingress gives a Service. -/
def announcement (i : Ingress) (service : ObjectKey) : Notification where
  severity := .info
  message := announcementHead ++ toString (keyFor service) ++ " for Service " ++ service.name ++
    " (protocol " ++ (protocol i).1.name ++ ")"
  source := some i.key

end BackendTls

/-- The notification tells that a policy was made. -/
def Notification.isAnnouncement (n : Notification) : Bool :=
  BackendTls.announcementHead.toList.isPrefixOf n.message.toList

theorem BackendTls.isAnnouncement_announcement (i : Ingress) (service : ObjectKey) :
    (announcement i service).isAnnouncement = true := by
  unfold Notification.isAnnouncement announcement
  rw [List.isPrefixOf_iff_prefix]
  simp only [String.toList_append, List.append_assoc]
  exact List.prefix_append _ _

theorem Notification.initial_of_isAnnouncement {n : Notification}
    (announces : n.isAnnouncement = true) : n.message.toList.head? = some 'g' := by
  obtain ⟨rest, split⟩ := List.isPrefixOf_iff_prefix.mp announces
  rw [← split]
  rfl

/-! ## Single edits -/

/-- Policies together with the notifications that were made of them. -/
abbrev Announced := Catalog (BackendTlsPolicy × Notification)

/-- The policy that an edit adds if there is none, with its key and its notification. -/
def Edit.entry? : Edit → Option (ObjectKey × BackendTlsPolicy × Notification)
  | .tlsPolicy k p n => some (k, p, n)
  | _ => none

/-- Of the edits, those of policies make announcements, and no other ones do. -/
def Edit.IsCandid (e : Edit) : Prop :=
  ∀ n, e.notice? = some n → n.isAnnouncement = e.entry?.isSome

/-- The policies of the state are these, and they were announced in this order. -/
structure PlanState.Announces (s : PlanState) (g : Announced) : Prop where
  policies : s.plan.tlsPolicies = g.mapValues fun _ x => x.1
  notices : s.notices.filter (·.isAnnouncement) = g.values.map (·.2)

theorem OrderedMap.mapValues_insertNew {κ α β : Type} [DecidableEq κ] (f : κ → α → β)
    (m : OrderedMap κ α) (k : κ) (a : α) :
    (m.insertNew k a).mapValues f = (m.mapValues f).insertNew k (f k a) := by
  have same : (m.mapValues f).contains = m.contains :=
    contains_eq_of_keys (keys_mapValues f m)
  unfold insertNew
  rw [same]
  split
  · rfl
  · exact mapValues_insert f m k a

namespace PlanState

variable {s : PlanState} {g : Announced}

theorem tlsPolicies_edit (s : PlanState) (e : Edit) :
    (s.edit e).state.plan.tlsPolicies = e.onPolicies s.plan.tlsPolicies := by
  cases stopped : (s.edit e).stop with
  | none => rw [edit_of_complete stopped, after]
  | some why =>
    rw [edit_of_stop stopped]
    cases e with
    | setting => rfl
    | _ => cases stopped

theorem notices_addPolicy (s : PlanState) (k : ObjectKey) (p : BackendTlsPolicy)
    (n : Notification) : (s.addPolicy k p n).notices =
      if s.plan.tlsPolicies.contains k then s.notices else s.notices ++ [n] := by
  unfold addPolicy
  split
  · rfl
  · rfl

/-- A policy is added together with its notification, and no other edit announces one. -/
theorem announces_edit (made : s.Announces g) {e : Edit} (candid : e.IsCandid) :
    (s.edit e).state.Announces (e.entry?.toList.foldl (fun g x => g.insertNew x.1 x.2) g) := by
  cases entry : e.entry? with
  | none =>
    obtain ⟨new, grown, origin⟩ := notices_edit s e
    have silent : new.filter (·.isAnnouncement) = [] := by
      apply List.filter_eq_nil_iff.mpr
      intro n mem announces
      rcases origin n mem with ⟨f, k, warns⟩ | own
      · cases warns.initial.symm.trans (Notification.initial_of_isAnnouncement announces)
      · rw [candid n own, entry] at announces
        cases announces
    have kept : e.onPolicies s.plan.tlsPolicies = s.plan.tlsPolicies := by
      cases e with
      | tlsPolicy => cases entry
      | _ => rfl
    refine ⟨(tlsPolicies_edit s e).trans (kept.trans made.policies), ?_⟩
    rw [grown, List.filter_append, silent, List.append_nil, made.notices]
    rfl
  | some x =>
    cases e with
    | tlsPolicy k p n =>
      cases entry
      have announces : n.isAnnouncement = true := candid n rfl
      have same : s.plan.tlsPolicies.contains = g.contains := by
        rw [made.policies]
        exact OrderedMap.contains_eq_of_keys (OrderedMap.keys_mapValues _ g)
      refine ⟨?_, ?_⟩
      · rw [tlsPolicies_edit]
        exact (congrArg (·.insertNew k p) made.policies).trans
          (OrderedMap.mapValues_insertNew _ g k (p, n)).symm
      · have values : (g.insertNew k (p, n)).values =
            if g.contains k then g.values else g.values ++ [(p, n)] := by
          rw [OrderedMap.values, OrderedMap.toList_insertNew, apply_ite (List.map Prod.snd),
            List.map_append]
          rfl
        refine (congrArg (List.filter (·.isAnnouncement)) (s.notices_addPolicy k p n)).trans ?_
        refine Eq.trans ?_ (congrArg (List.map (·.2)) values).symm
        rw [same]
        split
        · exact made.notices
        · rw [List.filter_append, List.filter_cons_of_pos announces, made.notices, List.map_append]
          rfl
    | _ => cases entry

theorem announces_edits (made : s.Announces g) {es : List Edit} (candid : ∀ e ∈ es, e.IsCandid)
    (complete : (Progress.each edit s es).stop = none) :
    (Progress.each edit s es).state.Announces
      ((es.filterMap Edit.entry?).foldl (fun g x => g.insertNew x.1 x.2) g) := by
  induction es generalizing s g with
  | nil => exact made
  | cons e es ih =>
    obtain ⟨first, rest⟩ := Progress.each_completes_cons.mp complete
    rw [Progress.each_cons, Progress.andThen_complete _ first, filterMap_cons_eq_append,
      List.foldl_append]
    exact ih (announces_edit made (candid e (.head _))) (fun d later => candid d (.tail _ later))
      rest

end PlanState

/-! ## All edits -/

namespace BackendTls

/-- The policies that an Ingress asks for, with their keys and notifications. -/
def entriesOf (i : Ingress) : List (ObjectKey × BackendTlsPolicy × Notification) :=
  if asksForTls i then
    (distinctBackends i).map fun b =>
      let service : ObjectKey := ⟨i.metadata.space, b.name⟩
      (keyFor service, policyOf i service, announcement i service)
  else []

theorem entries_edits (i : Ingress) : (edits i).filterMap Edit.entry? = entriesOf i := by
  have services : ((distinctBackends i).map fun b =>
      Edit.service ⟨i.metadata.space, b.name⟩ (settings i)).filterMap Edit.entry? = [] := by
    apply List.filterMap_eq_nil_iff.mpr
    intro e mem
    obtain ⟨b, -, rfl⟩ := List.mem_map.mp mem
    rfl
  unfold edits entriesOf
  rw [List.filterMap_append, services, List.nil_append]
  split
  · rw [List.filterMap_map, ← List.filterMap_eq_map]
    rfl
  · rfl

/-- The pass looks at every Ingress that speaks TLS to some Service. -/
theorem isTriggered_of_asksForTls {i : Ingress} (asks : asksForTls i = true) :
    pass.isTriggered i = true := by
  rw [isTriggered_iff]
  rcases Bool.or_eq_true_iff.mp asks with tls | secret
  · obtain ⟨raw, there, -⟩ := isTls_protocol_iff.mp tls
    exact .inl ⟨raw, there⟩
  · obtain ⟨value, given⟩ := Option.isSome_iff_exists.mp secret
    obtain ⟨raw, there, -⟩ := Ingress.given?_eq_some_iff.mp given
    exact .inr ⟨raw, there⟩

theorem mem_entriesOf_iff {i : Ingress} {service : ObjectKey}
    {x : BackendTlsPolicy × Notification} :
    (keyFor service, x) ∈ entriesOf i ↔
      i.AsksTls service ∧ x = (policyOf i service, announcement i service) := by
  rw [asksForTls_iff, leadsTo_iff]
  unfold entriesOf
  split
  · rename_i asks
    rw [and_iff_left asks, List.mem_map]
    constructor
    · rintro ⟨b, listed, same⟩
      obtain ⟨key, value⟩ := Prod.mk.inj same
      cases keyFor_inj key
      exact ⟨⟨b, listed, rfl⟩, value.symm⟩
    · rintro ⟨⟨b, listed, rfl⟩, rfl⟩
      exact ⟨b, listed, rfl⟩
  · rename_i plain
    exact iff_of_false List.not_mem_nil fun both => plain both.1.2

theorem lookup_entriesOf_iff {i : Ingress} {service : ObjectKey}
    {x : BackendTlsPolicy × Notification} :
    List.lookup (keyFor service) (entriesOf i) = some x ↔
      i.AsksTls service ∧ x = (policyOf i service, announcement i service) := by
  rw [OrderedMap.lookup_eq_some_iff_mem, mem_entriesOf_iff]
  intro a b first second
  rw [(mem_entriesOf_iff.mp first).2, (mem_entriesOf_iff.mp second).2]

end BackendTls

namespace IngressNginx

variable {is : List Ingress} {ports : Catalog PortLookup}

/-- All policies that Ingresses ask for, the first one of each Service, as they are announced. -/
def announced (is : List Ingress) : Announced :=
  (is.flatMap BackendTls.entriesOf).foldl (fun g x => g.insertNew x.1 x.2) .empty

/-- The first Ingress that asks decides about the policy of a Service and its notification. -/
theorem get?_announced_iff {service : ObjectKey} {x : BackendTlsPolicy × Notification} :
    (announced is).get? (BackendTls.keyFor service) = some x ↔
      ∃ i, IsFirst (·.AsksTls service) is i ∧
        x = (BackendTls.policyOf i service, BackendTls.announcement i service) := by
  have asks : ∀ i ∈ is, (List.lookup (BackendTls.keyFor service)
      (BackendTls.entriesOf i)).isSome = true ↔ i.AsksTls service := by
    intro i _
    simp only [Option.isSome_iff_exists, BackendTls.lookup_entriesOf_iff, exists_and_left,
      exists_eq, and_true]
  unfold announced
  rw [OrderedMap.get?_foldl_insertNew, OrderedMap.get?_empty, Option.none_or,
    OrderedMap.lookup_flatMap, findSome?_eq_some_iff_isFirst]
  refine exists_congr fun i => ?_
  rw [isFirst_congr asks]
  refine and_congr_right fun first => ?_
  rw [BackendTls.lookup_entriesOf_iff, and_iff_right first.holds]

theorem isCandid_of_mem_allEdits {e : Edit} (asked : e ∈ allEdits is) : e.IsCandid := by
  obtain ⟨p, passed, i, -, -, mem⟩ := mem_allEdits_iff.mp asked
  intro n own
  have policy : p = BackendTls.pass → n.isAnnouncement = e.entry?.isSome := by
    rintro rfl
    obtain ⟨b, rfl⟩ := BackendTls.exists_policy_of_notice? mem own
    have made : n = BackendTls.announcement i ⟨i.metadata.space, b.name⟩ :=
      (Option.some.inj own).symm
    rw [made, BackendTls.isAnnouncement_announcement]
    rfl
  by_cases same : p = BackendTls.pass
  · exact policy same
  · have silent : n.isAnnouncement = false := by
      by_contra announces
      have initial := Notification.initial_of_isAnnouncement (by simpa using announces)
      exact same (eq_of_initial passed (.tail _ (.head _)) (.head _) mem own initial)
    have none : e.entry? = none := by
      cases e with
      | tlsPolicy k q m =>
        obtain ⟨as, listed⟩ := exists_mem_passAspects passed
        exact absurd (owner_unique aspects_disjoint listed (.tail _ (.head _))
          (aspects_sound _ listed i _ _ _ mem .policies rfl) (by simp)) same
      | _ => rfl
    rw [silent, none]
    rfl

/-- The policies of a plan and their notifications are those that Ingresses ask for. -/
theorem announces_planFor (complete : (planFor is ports).stop = none) :
    (planFor is ports).state.Announces (announced is) := by
  obtain ⟨state, made⟩ := planFor_eq_edits complete
  have listed : (BackendTls.pass, _) ∈ passAspects := .tail _ (.head _)
  have touches : ∀ (e : Edit) b, e.entry? = some b → e.Touches .policies := by
    intro e b entry
    cases e with
    | tlsPolicy => rfl
    | _ => cases entry
  have asked : (allEdits is).filterMap Edit.entry? = is.flatMap BackendTls.entriesOf := by
    rw [filterMap_allEdits listed (by simp) touches]
    refine List.flatMap_congr fun i mem => ?_
    split
    · rename_i triggered
      rw [editsOf, BackendTls.edits_of_readable
        (readable_of_triggered complete (.tail _ (.head _)) mem triggered),
        BackendTls.entries_edits]
    · rename_i untriggered
      exact (if_neg fun asks => untriggered (BackendTls.isTriggered_of_asksForTls asks)).symm
  have start : PlanState.Announces { plan := (lower is ports).1 } .empty := by
    refine ⟨?_, rfl⟩
    rw [tlsPolicies_lower]
    rfl
  rw [state, announced, ← asked]
  exact PlanState.announces_edits start (fun e mem => isCandid_of_mem_allEdits mem) made

theorem exists_keyFor_of_announced {k : ObjectKey} {x : BackendTlsPolicy × Notification}
    (found : (announced is).get? k = some x) : ∃ service, k = BackendTls.keyFor service := by
  rw [announced, OrderedMap.get?_foldl_insertNew, OrderedMap.get?_empty, Option.none_or] at found
  obtain ⟨before, after, entries, -⟩ := OrderedMap.lookup_eq_some_iff_first.mp found
  have listed : (k, x) ∈ is.flatMap BackendTls.entriesOf :=
    entries ▸ List.mem_append_right before (.head _)
  obtain ⟨i, -, own⟩ := List.mem_flatMap.mp listed
  unfold BackendTls.entriesOf at own
  split at own
  · obtain ⟨b, -, same⟩ := List.mem_map.mp own
    exact ⟨_, (congrArg Prod.fst same).symm⟩
  · cases own

end IngressNginx

/-- A policy for the Service with what an Ingress says about it: its name for the host, or else that
of the Service, and certificates under the name of its secret, or else those of the system. -/
structure BackendTlsPolicy.Secures (p : BackendTlsPolicy) (i : Ingress) (service : ObjectKey) :
    Prop where
  key : p.metadata.key = BackendTls.keyFor service
  target : p.spec.targetRefs = [{ kind := "Service", name := service.name }]
  hostname : p.spec.validation.hostname =
    (i.given? AnnotationKey.proxySslName).getD service.name
  certificates :
    (∃ ref name, i.given? AnnotationKey.proxySslSecret = some ref ∧
      BackendTls.IsLastSegment ref name ∧
      p.spec.validation.caCertificateRefs = some [{ kind := "ConfigMap", name := name }] ∧
      p.spec.validation.wellKnownCaCertificates = none) ∨
    (i.given? AnnotationKey.proxySslSecret = none ∧
      p.spec.validation.caCertificateRefs = none ∧
      p.spec.validation.wellKnownCaCertificates = some "System")

theorem BackendTls.secures_policyOf (i : Ingress) (service : ObjectKey) :
    (policyOf i service).Secures i service := by
  cases given : i.given? AnnotationKey.proxySslSecret with
  | none =>
    have validation : (policyOf i service).spec.validation =
        { hostname := (i.given? AnnotationKey.proxySslName).getD service.name,
          wellKnownCaCertificates := some systemCertificates } := by
      rw [policyOf, given, policyFor]
    exact ⟨rfl, rfl, by rw [validation], .inr ⟨given, by rw [validation], by rw [validation]; rfl⟩⟩
  | some ref =>
    have validation : (policyOf i service).spec.validation =
        { hostname := (i.given? AnnotationKey.proxySslName).getD service.name,
          caCertificateRefs := some [{ kind := "ConfigMap", name := secretName ref }] } := by
      rw [policyOf, given, policyFor]
    exact ⟨rfl, rfl, by rw [validation], .inl ⟨ref, _, given, isLastSegment_secretName ref,
      by rw [validation], by rw [validation]⟩⟩

namespace IngressNginx

variable {is : List Ingress} {ports : Catalog PortLookup}

/-- What stands under the key of a Service is what the first Ingress asks for that speaks TLS to
it. -/
theorem get?_tlsPolicies_iff (complete : (planFor is ports).stop = none) {service : ObjectKey}
    {p : BackendTlsPolicy} :
    (planFor is ports).state.plan.tlsPolicies.get? (BackendTls.keyFor service) = some p ↔
      ∃ i, IsFirst (·.AsksTls service) is i ∧ p = BackendTls.policyOf i service := by
  rw [(announces_planFor complete).policies, OrderedMap.get?_mapValues, Option.map_eq_some_iff]
  constructor
  · rintro ⟨x, found, rfl⟩
    obtain ⟨i, first, rfl⟩ := get?_announced_iff.mp found
    exact ⟨i, first, rfl⟩
  · rintro ⟨i, first, rfl⟩
    exact ⟨_, get?_announced_iff.mpr ⟨i, first, rfl⟩, rfl⟩

/-- Every policy is asked for by an Ingress that speaks TLS to a Service. -/
theorem exists_asksTls_of_policy (complete : (planFor is ports).stop = none) {k : ObjectKey}
    {p : BackendTlsPolicy} (found : (planFor is ports).state.plan.tlsPolicies.get? k = some p) :
    ∃ service, ∃ i ∈ is, i.AsksTls service ∧ p = BackendTls.policyOf i service := by
  rw [(announces_planFor complete).policies, OrderedMap.get?_mapValues] at found
  obtain ⟨x, there, rfl⟩ := Option.map_eq_some_iff.mp found
  obtain ⟨service, rfl⟩ := exists_keyFor_of_announced there
  obtain ⟨i, first, rfl⟩ := get?_announced_iff.mp there
  exact ⟨service, i, first.mem, first.holds, rfl⟩

/-- There is a policy for every Service that some Ingress speaks TLS to, and no other one. The first
such Ingress decides what is in it, and each policy is announced once, in the order of the
policies. -/
theorem tlsPolicies_requested (complete : (planFor is ports).stop = none) :
    let state := (planFor is ports).state
    (∀ k p, state.plan.tlsPolicies.get? k = some p →
      ∃ service, k = BackendTls.keyFor service) ∧
    (∀ service, (∃ p, state.plan.tlsPolicies.get? (BackendTls.keyFor service) = some p) ↔
      ∃ i ∈ is, i.AsksTls service) ∧
    (∀ service p, state.plan.tlsPolicies.get? (BackendTls.keyFor service) = some p →
      ∃ i, IsFirst (·.AsksTls service) is i ∧ p.Secures i service) ∧
    List.Forall₂
      (fun n (e : ObjectKey × BackendTlsPolicy) => ∃ service i, e.1 = BackendTls.keyFor service ∧
        IsFirst (·.AsksTls service) is i ∧ n = BackendTls.announcement i service)
      (state.notices.filter (·.isAnnouncement)) state.plan.tlsPolicies.toList := by
  intro state
  have made : state.Announces (announced is) := announces_planFor complete
  refine ⟨fun k p found => ?_, fun service => ?_, fun service p found => ?_, ?_⟩
  · rw [made.policies, OrderedMap.get?_mapValues] at found
    obtain ⟨x, there, -⟩ := Option.map_eq_some_iff.mp found
    exact exists_keyFor_of_announced there
  · constructor
    · rintro ⟨p, found⟩
      obtain ⟨i, first, -⟩ := (get?_tlsPolicies_iff complete).mp found
      exact ⟨i, first.mem, first.holds⟩
    · rintro ⟨i, mem, asks⟩
      obtain ⟨j, first⟩ : ∃ j, IsFirst (·.AsksTls service) is j := exists_isFirst mem asks
      exact ⟨_, (get?_tlsPolicies_iff complete).mpr ⟨j, first, rfl⟩⟩
  · obtain ⟨i, first, rfl⟩ := (get?_tlsPolicies_iff complete).mp found
    exact ⟨i, first, BackendTls.secures_policyOf i service⟩
  · have policies : state.plan.tlsPolicies.toList =
        (announced is).toList.map fun e => (e.1, e.2.1) := congrArg OrderedMap.toList made.policies
    rw [made.notices, policies, OrderedMap.values, List.map_map, List.forall₂_map_left_iff,
      List.forall₂_map_right_iff, List.forall₂_same]
    intro e mem
    have found : (announced is).get? e.1 = some e.2 := OrderedMap.mem_toList.mp mem
    obtain ⟨service, key⟩ := exists_keyFor_of_announced found
    rw [key] at found
    obtain ⟨i, first, made⟩ := get?_announced_iff.mp found
    exact ⟨service, i, key, first, congrArg Prod.snd made⟩

/-- Two Ingresses that speak TLS to one Service. -/
def secured : List Ingress :=
  [.plain ⟨"shop", "web"⟩ [("a.b", "one"), ("c.d", "one")] []
     (.ofList [(AnnotationKey.backendProtocol, "grpcs"),
       (AnnotationKey.proxySslSecret, "infra/ca")]),
   .plain ⟨"shop", "api"⟩ [("e.f", "one")] []
     (.ofList [(AnnotationKey.backendProtocol, "HTTPS")])]

theorem asksTls_secured : Ingress.AsksTls secured[0] ⟨"shop", "one"⟩ :=
  ⟨⟨_, .head _, rfl⟩, .inl ⟨"grpcs", rfl, by decide +kernel⟩⟩

/-- The policy is that of the first one, and has its certificates. -/
theorem policies_secured :
    (planFor secured .empty).stop = none ∧
      ∃ p, (planFor secured .empty).state.plan.tlsPolicies.get? ⟨"shop", "one-backend-tls"⟩ =
          some p ∧ p.Secures secured[0] ⟨"shop", "one"⟩ := by
  have complete : (planFor secured .empty).stop = none := by decide +kernel
  obtain ⟨-, there, content, -⟩ := tlsPolicies_requested complete
  obtain ⟨p, found⟩ := (there ⟨"shop", "one"⟩).mpr ⟨secured[0], .head _, asksTls_secured⟩
  obtain ⟨i, first, secures⟩ := content _ p found
  cases first.eq_head asksTls_secured
  exact ⟨complete, p, found, secures⟩

end IngressNginx

end GatewayMigration
