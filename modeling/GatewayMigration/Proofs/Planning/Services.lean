import GatewayMigration.Proofs.Annotations.Completion
import GatewayMigration.Proofs.Annotations.Repetition
import GatewayMigration.Proofs.Annotations.Scope
/-!
# What becomes of a Service

The Ingresses that lead to a Service write their settings over those that are there, one after the
other. What an Ingress does not give is left alone, with one exception: the protocol is always
written, and it is HTTP where no protocol is named. Main statements:

* `serviceField_eq_some_iff`: a field of a Service is what the last Ingress gives that gives
  anything;
* `protocol_stays_iff`: so a protocol that the last Ingress names is kept exactly if it is HTTP, or
  if none of the later Ingresses of the Service is looked at.
-/

namespace GatewayMigration

/-! ## Fields of Services -/

/-- The settings of a Service, once an annotation gave one. -/
def Plan.serviceSettings? (p : Plan) (k : ObjectKey) : Option ServiceSettings :=
  (p.services.get? k).bind (·.settings)

/-- The function reads this field of the settings, the newer value where there are two. -/
structure ServiceField.IsReadBy {α : Type} (f : ServiceField) (get : ServiceSettings → Option α) :
    Prop where
  isSet : ∀ s, s.isSet f = (get s).isSome
  overlay : ∀ old new, get (old.overlay new) = (get new).or (get old)
  absent : get {} = none

namespace ServiceField

theorem protocol_isReadBy : protocol.IsReadBy ServiceSettings.protocol :=
  ⟨fun _ => rfl, fun _ _ => orElse_eq_or _ _, rfl⟩

theorem sslSecret_isReadBy : sslSecret.IsReadBy ServiceSettings.sslSecret :=
  ⟨fun _ => rfl, fun _ _ => orElse_eq_or _ _, rfl⟩

theorem sslName_isReadBy : sslName.IsReadBy ServiceSettings.sslName :=
  ⟨fun _ => rfl, fun _ _ => orElse_eq_or _ _, rfl⟩

end ServiceField

namespace Edit

/-- What an edit writes over the settings of a Service. -/
def serves? (k : ObjectKey) : Edit → Option ServiceSettings
  | .service j v => if j = k then some v else none
  | _ => none

theorem serves?_service (j k : ObjectKey) (v : ServiceSettings) :
    (Edit.service j v).serves? k = if j = k then some v else none := rfl

variable {α : Type} {f : ServiceField} {get : ServiceSettings → Option α}

/-- A field of a Service is as it was, unless the edit writes it. -/
theorem field_onService (reads : f.IsReadBy get) (e : Edit) (k : ObjectKey)
    (p : Option ServicePlan) :
    ((e.onService k p).bind (·.settings)).bind get =
      ((e.serves? k).bind get).or ((p.bind (·.settings)).bind get) := by
  cases e with
  | service j v =>
    unfold onService
    rw [serves?_service]
    dsimp only
    by_cases here : j = k
    · rw [if_pos here, if_pos here]
      have start : get (((p.getD {}).settings).getD {}) = (p.bind (·.settings)).bind get := by
        cases p with
        | none => exact reads.absent
        | some old =>
          cases given : old.settings with
          | none => simpa [given] using reads.absent
          | some s => simp [given]
      rw [← start]
      exact reads.overlay _ v
    · rw [if_neg here, if_neg here]
      rfl
  | _ => rfl

/-- After all edits, a field of a Service is what was written last. -/
theorem field_foldl_onService (reads : f.IsReadBy get) (es : List Edit) (k : ObjectKey)
    (p : Option ServicePlan) :
    ((es.foldl (fun p e => e.onService k p) p).bind (·.settings)).bind get =
      ((es.filterMap fun e => (e.serves? k).bind get).getLast?).or
        ((p.bind (·.settings)).bind get) :=
  foldl_last (fun p : Option ServicePlan => (p.bind (·.settings)).bind get)
    (fun p e => field_onService reads e k p) p es

theorem touches_of_serves? (reads : f.IsReadBy get) {e : Edit} {k : ObjectKey} {a : α}
    (written : (e.serves? k).bind get = some a) : e.Touches (.service f) := by
  obtain ⟨v, served, given⟩ := Option.bind_eq_some_iff.mp written
  cases e with
  | service j w =>
    obtain ⟨-, same⟩ := Option.ite_none_right_eq_some.mp served
    cases same
    refine ⟨f, ?_, rfl⟩
    rw [reads.isSet, given]
    rfl
  | _ => cases served

end Edit

/-! ## Lowering -/

theorem IngressNginx.serviceSettings?_lower (is : List Ingress) (ports : Catalog PortLookup)
    (k : ObjectKey) : (lower is ports).1.serviceSettings? k = none := by
  have fresh : ∀ services : Catalog ServicePlan, (∀ k v, services.get? k = some v →
      v.settings = none) → ∀ g : RuleGroup, ∀ k v,
      (addServices ports g services).get? k = some v → v.settings = none := by
    intro services old g
    unfold addServices
    apply List.foldlRecOn
      (motive := fun (m : Catalog ServicePlan) => ∀ k v, m.get? k = some v → v.settings = none)
    · exact old
    · intro m before p _ k v found
      rcases OrderedMap.eq_of_get?_insertNew found with there | ⟨-, rfl⟩
      · exact before k v there
      · rfl
  have all : ∀ k v, (lower is ports).1.services.get? k = some v → v.settings = none := by
    unfold lower
    apply List.foldlRecOn
      (motive := fun (p : Plan) => ∀ k v, p.services.get? k = some v → v.settings = none)
    · intro k v found
      cases found
    · intro p before e _
      exact fresh p.services before e.2
  unfold Plan.serviceSettings?
  rw [Option.bind_eq_none_iff]
  intro v found
  rw [all k v found]

/-! ## One Ingress -/

/-- An Ingress of the Service that says something about backends, whatever it is. -/
def Ingress.Addresses (i : Ingress) (service : ObjectKey) : Prop :=
  i.LeadsTo service ∧ ((∃ raw, i.annotation? AnnotationKey.backendProtocol = some raw) ∨
    ∃ raw, i.annotation? AnnotationKey.proxySslSecret = some raw)

/-- The Ingress has a protocol for its backends, and it is this one. -/
def Ingress.NamesProtocol (i : Ingress) (p : BackendProtocol) : Prop :=
  ∃ raw, i.annotation? AnnotationKey.backendProtocol = some raw ∧
    Text.upper (Text.strip raw) = p.name

namespace BackendTls

theorem isTriggered_iff {i : Ingress} :
    pass.isTriggered i = true ↔ (∃ raw, i.annotation? AnnotationKey.backendProtocol = some raw) ∨
      ∃ raw, i.annotation? AnnotationKey.proxySslSecret = some raw := by
  simp [AnnotationPass.isTriggered, pass, Ingress.annotation?, OrderedMap.contains,
    Option.isSome_iff_exists]

/-- An Ingress that names a protocol gets it. -/
theorem protocol_of_names {i : Ingress} {p : BackendProtocol} (names : i.NamesProtocol p) :
    (protocol i).1 = p := by
  obtain ⟨raw, there, named⟩ := names
  have filled : Text.strip raw ≠ "" := by
    intro blank
    have nameless : ∀ q : BackendProtocol, "" ≠ q.name := by
      intro q
      cases q <;> decide
    rw [blank] at named
    exact nameless p named
  have given : i.given? AnnotationKey.backendProtocol = some (Text.strip raw) :=
    Ingress.given?_eq_some_iff.mpr ⟨raw, there, rfl, filled⟩
  have known : BackendProtocol.ofName? p.name = some p := by cases p <;> rfl
  unfold protocol
  rw [given]
  dsimp only
  rw [named, known]

/-- Without a protocol that is known, it is HTTP. -/
theorem protocol_of_silent {i : Ingress} (silent : ∀ p, ¬ i.NamesProtocol p) :
    (protocol i).1 = .http := by
  unfold protocol
  split
  · rfl
  · rename_i value given
    obtain ⟨raw, there, rfl, -⟩ := Ingress.given?_eq_some_iff.mp given
    split
    · rename_i p known
      exact absurd ⟨raw, there, (by simpa using List.find?_some known : p.name = _).symm⟩ (silent p)
    · rfl

theorem exists_distinct {bs : List ServiceBackend} {b : ServiceBackend} (mem : b ∈ bs)
    (seen : List (String × Option String)) :
    (b.name, portMark? b.port) ∈ seen ∨ ∃ c ∈ distinct seen bs, c.name = b.name := by
  induction bs generalizing seen with
  | nil => cases mem
  | cons c bs ih =>
    unfold distinct
    dsimp only
    rcases List.mem_cons.mp mem with rfl | later
    · split
      · rename_i known
        exact .inl known
      · exact .inr ⟨b, .head _, rfl⟩
    · split
      · exact ih later seen
      · rcases ih later ((c.name, portMark? c.port) :: seen) with known | ⟨d, listed, same⟩
        · rcases List.mem_cons.mp known with twin | known
          · exact .inr ⟨c, .head _, (congrArg Prod.fst twin).symm⟩
          · exact .inl known
        · exact .inr ⟨d, .tail _ listed, same⟩

/-- Backends are told apart by more than their names, but no name is lost. -/
theorem leadsTo_iff {i : Ingress} {k : ObjectKey} :
    i.LeadsTo k ↔ ∃ b ∈ distinctBackends i, (⟨i.metadata.space, b.name⟩ : ObjectKey) = k := by
  constructor
  · rintro ⟨b, mem, rfl⟩
    obtain ⟨c, listed, same⟩ := (exists_distinct mem []).resolve_left List.not_mem_nil
    exact ⟨c, listed, by rw [same]⟩
  · rintro ⟨b, listed, rfl⟩
    exact ⟨b, mem_backends_of_mem_distinct listed, rfl⟩

/-- What a readable Ingress asks for. -/
theorem edits_of_readable {i : Ingress} (readable : (reading i).stop = none)
    (routes present : List ObjectKey) : (pass.read i).edits routes present = edits i := by
  dsimp only [pass]
  unfold reading at readable ⊢
  split
  · rfl
  · rename_i cannot
    rw [if_neg cannot] at readable
    cases readable

variable {α : Type} {f : ServiceField} {get : ServiceSettings → Option α}

theorem mem_serves_iff {i : Ingress} {k : ObjectKey} {a : α} :
    a ∈ (edits i).filterMap (fun e => (e.serves? k).bind get) ↔
      i.LeadsTo k ∧ get (settings i) = some a := by
  rw [leadsTo_iff, edits, List.filterMap_append, List.mem_append]
  have policies : ∀ e ∈ (if asksForTls i then (distinctBackends i).map (policyEdit i) else []),
      (e.serves? k).bind get = none := by
    intro e mem
    split at mem
    · obtain ⟨b, -, rfl⟩ := List.mem_map.mp mem
      rfl
    · cases mem
  rw [List.filterMap_eq_nil_iff.mpr policies, List.mem_filterMap]
  constructor
  · rintro (⟨e, mem, written⟩ | none)
    · obtain ⟨b, listed, rfl⟩ := List.mem_map.mp mem
      obtain ⟨v, served, given⟩ := Option.bind_eq_some_iff.mp written
      obtain ⟨here, same⟩ := Option.ite_none_right_eq_some.mp served
      cases same
      exact ⟨⟨b, listed, here⟩, given⟩
    · cases none
  · rintro ⟨⟨b, listed, here⟩, given⟩
    refine .inl ⟨_, List.mem_map_of_mem listed, ?_⟩
    rw [Edit.serves?_service, if_pos here]
    exact given

theorem getLast?_serves_iff {i : Ingress} {k : ObjectKey} {a : α} :
    ((edits i).filterMap fun e => (e.serves? k).bind get).getLast? = some a ↔
      i.LeadsTo k ∧ get (settings i) = some a := by
  rw [getLast?_eq_some_iff_mem, mem_serves_iff]
  intro b first c second
  exact Option.some.inj ((mem_serves_iff.mp first).2.symm.trans (mem_serves_iff.mp second).2)

end BackendTls

/-! ## All Ingresses -/

namespace IngressNginx

variable {is : List Ingress} {ports : Catalog PortLookup}

theorem readable_of_triggered (complete : (planFor is ports).stop = none) {p : AnnotationPass}
    (listed : p ∈ annotationPasses) {i : Ingress} (mem : i ∈ is)
    (triggered : p.isTriggered i = true) : (p.read i).stop = none :=
  readable_of_complete (show (annotationRunner.run _ _).stop = none from complete) p listed i
    (List.mem_filter.mpr ⟨mem, triggered⟩)

variable {α : Type} {f : ServiceField} {get : ServiceSettings → Option α}

/-- A field of a Service is what the last Ingress gives that gives anything. -/
theorem serviceField_eq_some_iff (reads : f.IsReadBy get) (backend : f ≠ .loadBalancing)
    (complete : (planFor is ports).stop = none) {k : ObjectKey} {a : α} :
    ((planFor is ports).state.plan.serviceSettings? k).bind get = some a ↔
      ∃ i, IsLast (fun i => i.Addresses k ∧ (get (BackendTls.settings i)).isSome = true) is i ∧
        get (BackendTls.settings i) = some a := by
  obtain ⟨state, made⟩ := planFor_eq_edits complete
  have listed : (BackendTls.pass, _) ∈ passAspects := .tail _ (.head _)
  have own : Aspect.service f ∈ [.service .protocol, .service .sslSecret, .service .sslVerify,
      .service .sslName, .service .sslProtocols, .service .sslCiphers, .policies] := by
    cases f with
    | loadBalancing => exact absurd rfl backend
    | _ => simp
  have start := serviceSettings?_lower is ports k
  unfold Plan.serviceSettings? at start ⊢
  rw [state, PlanState.services_edits made, Edit.get?_foldl_onServices,
    Edit.field_foldl_onService reads, start, Option.bind_none,
    Option.or_none, filterMap_allEdits listed own fun e b => Edit.touches_of_serves? reads,
    List.getLast?_flatMap, findSome?_eq_some_iff_isFirst]
  -- What the pass reads off an Ingress, it writes for every Service of this Ingress.
  have written : ∀ i ∈ is, ∀ b : α,
      (if BackendTls.pass.isTriggered i then
        (editsOf { ingresses := is } BackendTls.pass i).filterMap
          fun e => (e.serves? k).bind get else []).getLast? = some b ↔
      i.Addresses k ∧ get (BackendTls.settings i) = some b := by
    intro i mem b
    rw [Ingress.Addresses, ← BackendTls.isTriggered_iff]
    split
    · rename_i triggered
      rw [editsOf, BackendTls.edits_of_readable
        (readable_of_triggered complete (.tail _ (.head _)) mem triggered),
        BackendTls.getLast?_serves_iff, and_iff_left triggered]
    · rename_i untriggered
      exact iff_of_false nofun fun both => untriggered both.1.2
  refine exists_congr fun i => ?_
  rw [isFirst_reverse_iff, isLast_congr fun j mem => by
    rw [Option.isSome_iff_exists, exists_congr (written j mem), exists_and_left,
      ← Option.isSome_iff_exists]]
  constructor
  · rintro ⟨last, gives⟩
    exact ⟨last, ((written i last.mem a).mp gives).2⟩
  · rintro ⟨last, gives⟩
    exact ⟨last, (written i last.mem a).mpr ⟨last.holds.1, gives⟩⟩

/-- The last Ingress of a Service that names a protocol names its protocol, exactly if the protocol
is HTTP or if no later Ingress of the Service says anything about backends. Otherwise the protocol
is HTTP in the end, although nobody asked for it. -/
theorem protocol_stays_iff (complete : (planFor is ports).stop = none) {before after : List Ingress}
    {i : Ingress} (split : is = before ++ i :: after) {service : ObjectKey}
    (leads : i.LeadsTo service) {p : BackendProtocol} (names : i.NamesProtocol p)
    (last : ∀ j ∈ after, j.LeadsTo service → ∀ q, ¬ j.NamesProtocol q) :
    let final := ((planFor is ports).state.plan.serviceSettings? service).bind (·.protocol)
    (final = some p ↔ p = .http ∨ ∀ j ∈ after, ¬ j.Addresses service) ∧
      ((∃ j ∈ after, j.Addresses service) → final = some .http) := by
  intro final
  have decided : ∀ j, IsLast (·.Addresses service) is j → final = some (BackendTls.protocol j).1 := by
    intro j writer
    refine (serviceField_eq_some_iff ServiceField.protocol_isReadBy nofun complete).mpr
      ⟨j, (isLast_congr fun l _ => ?_).mp writer, rfl⟩
    exact (and_iff_left rfl).symm
  by_cases later : ∃ j ∈ after, j.Addresses service
  · -- The last of the later ones names no protocol, but writes one.
    obtain ⟨j, mem, addresses⟩ := later
    obtain ⟨l, writer⟩ : ∃ l, IsLast (·.Addresses service) after l := exists_isLast mem addresses
    have silent := BackendTls.protocol_of_silent (last l writer.mem writer.holds.1)
    have writer' : IsLast (·.Addresses service) is l := by
      rw [split, List.append_cons]
      exact writer.append_left (before ++ [i])
    have http : final = some .http := by rw [decided l writer', silent]
    refine ⟨?_, fun _ => http⟩
    rw [http, Option.some.injEq]
    constructor
    · rintro rfl
      exact .inl rfl
    · rintro (rfl | untouched)
      · rfl
      · exact absurd addresses (untouched j mem)
  · have untouched : ∀ j ∈ after, ¬ j.Addresses service :=
      fun j mem addresses => later ⟨j, mem, addresses⟩
    obtain ⟨raw, there, -⟩ := id names
    have writer : IsLast (·.Addresses service) is i :=
      ⟨before, after, split, ⟨leads, .inl ⟨raw, there⟩⟩, untouched⟩
    rw [← BackendTls.protocol_of_names names]
    exact ⟨iff_of_true (decided i writer) (.inr untouched), fun some => absurd some later⟩

/-- Two Ingresses of one Service that name a protocol, and one of another Service. -/
def spoken : List Ingress :=
  [.plain ⟨"shop", "web"⟩ [("a.b", "one")] []
     (.ofList [(AnnotationKey.backendProtocol, "GRPC")]),
   .plain ⟨"shop", "api"⟩ [("c.d", "one")] []
     (.ofList [(AnnotationKey.backendProtocol, " https ")]),
   .plain ⟨"shop", "docs"⟩ [("e.f", "two")] []
     (.ofList [(AnnotationKey.proxySslSecret, "ca")])]

/-- The second Ingress has the last word, and the third one has none. -/
theorem protocol_stays_spoken :
    (planFor spoken .empty).stop = none ∧
      ((planFor spoken .empty).state.plan.serviceSettings? ⟨"shop", "one"⟩).bind (·.protocol) =
        some .https := by
  have complete : (planFor spoken .empty).stop = none := by decide +kernel
  have elsewhere : ∀ j ∈ spoken.drop 2, ¬ j.LeadsTo ⟨"shop", "one"⟩ := by
    intro j mem
    cases List.mem_singleton.mp mem
    rintro ⟨b, listed, same⟩
    cases List.mem_singleton.mp listed
    exact absurd same (by decide)
  refine ⟨complete, (protocol_stays_iff complete (show spoken = [spoken[0]] ++ _ from rfl)
    ⟨_, .head _, rfl⟩ ⟨" https ", rfl, by decide +kernel⟩ ?_).1.mpr (.inr ?_)⟩
  · exact fun j mem leads => absurd leads (elsewhere j mem)
  · exact fun j mem addresses => elsewhere j mem addresses.1

/-- An Ingress that speaks TLS to a Service, and a later one that only has certificates for it. -/
def unspoken : List Ingress :=
  [.plain ⟨"shop", "web"⟩ [("a.b", "one")] []
     (.ofList [(AnnotationKey.backendProtocol, "HTTPS")]),
   .plain ⟨"shop", "api"⟩ [("c.d", "one")] []
     (.ofList [(AnnotationKey.proxySslSecret, "ca")])]

/-- The only protocol that is named is erased by an Ingress that names none. -/
theorem protocol_erased :
    (planFor unspoken .empty).stop = none ∧
      unspoken[0].LeadsTo ⟨"shop", "one"⟩ ∧ unspoken[0].NamesProtocol .https ∧
      (∀ p, ¬ unspoken[1].NamesProtocol p) ∧
      ((planFor unspoken .empty).state.plan.serviceSettings? ⟨"shop", "one"⟩).bind (·.protocol) =
        some .http := by
  refine ⟨by decide +kernel, ⟨_, .head _, rfl⟩, ⟨"HTTPS", rfl, by decide +kernel⟩, ?_,
    by decide +kernel⟩
  rintro p ⟨raw, there, -⟩
  cases there

end IngressNginx

end GatewayMigration
