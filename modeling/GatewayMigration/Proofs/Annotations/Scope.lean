import GatewayMigration.Proofs.Annotations.Settings
/-!
# What an Ingress may touch

The annotations of an Ingress ask for edits of its own routes, of its own Services and their
policies, and for notifications in its own name. What is wrong with them is reported at its own
fields. Main statement: `isConfined_of_mem_annotationPasses`, which says so of every pass.
-/

namespace GatewayMigration

/-- The Ingress whose field this is. -/
def FieldPath.owner? (p : FieldPath) : Option ObjectKey :=
  match p.segments with
  | _ :: space :: name :: _ => some ⟨space, name⟩
  | _ => none

/-- The Service is one of those that the Ingress sends requests to. -/
def Ingress.LeadsTo (i : Ingress) (service : ObjectKey) : Prop :=
  ∃ b ∈ i.backends, service = ⟨i.metadata.space, b.name⟩

/-- A warning that requests are not rewritten. -/
def Notification.IsAboutRewriting (n : Notification) : Prop :=
  ∃ rest, n.message = "rewrite-target " ++ rest

/-- A notification in the name of an Ingress. It is no warning, unless about rewriting. -/
structure Notification.IsFrom (k : ObjectKey) (n : Notification) : Prop where
  source : n.source = some k
  rewriting : n.severity = .warning → n.IsAboutRewriting

/-- An edit that an Ingress may make: of its routes, of its Services and their policies, and in its
own name. -/
def Edit.IsFrom (i : Ingress) (routes : List ObjectKey) : Edit → Prop
  | .setting k _ source => k ∈ routes ∧ source = i.key
  | .timeouts k _ => k ∈ routes
  | .service k _ => i.LeadsTo k
  | .tlsPolicy k _ n => (∃ b ∈ i.backends, k = BackendTls.policyKey i b) ∧ n.IsFrom i.key
  | .notify n => n.IsFrom i.key

/-- What a pass reads off an Ingress is about this Ingress and what it contributes to. -/
structure AnnotationPass.IsConfined (p : AnnotationPass) : Prop where
  edits : ∀ i routes, ∀ e ∈ (p.read i).edits routes routes, e.IsFrom i routes
  errors : ∀ i, ∀ e ∈ (p.read i).errors, e.path.owner? = some i.key

/-! ## Readings of single annotations -/

namespace Ingress

theorem owner?_of_integerFrom {i : Ingress} {least : Int} {key : String} {e : FieldError}
    (mem : e ∈ (i.integerFrom least key).errors) : e.path.owner? = some i.key := by
  unfold integerFrom at mem
  split at mem
  · cases mem
  · split at mem
    · rw [List.mem_singleton.mp mem]
      rfl
    · split at mem
      · rw [List.mem_singleton.mp mem]
        rfl
      · cases mem

theorem owner?_of_flag {i : Ingress} {key : String} {e : FieldError}
    (mem : e ∈ (i.flag key).errors) : e.path.owner? = some i.key := by
  unfold flag at mem
  split at mem
  · cases mem
  · dsimp only at mem
    split at mem
    · cases mem
    · split at mem
      · cases mem
      · rw [List.mem_singleton.mp mem]
        rfl

end Ingress

theorem Edit.isFrom_of_mem_settings {i : Ingress} {routes : List ObjectKey} {vs : List Setting}
    {e : Edit} (mem : e ∈ routes.flatMap fun k => vs.map fun v => .setting k v i.key) :
    e.IsFrom i routes := by
  obtain ⟨k, listed, inside⟩ := List.mem_flatMap.mp mem
  obtain ⟨v, -, rfl⟩ := List.mem_map.mp inside
  exact ⟨listed, rfl⟩

/-! ## The passes -/

theorem Blockers.isFrom_of_mem_notices {i : Ingress} {n : Notification} (mem : n ∈ notices i) :
    n.IsFrom i.key := by
  unfold notices at mem
  rw [List.mem_append, List.mem_append] at mem
  rcases mem with (blocked | rewritten) | guided
  · obtain ⟨e, -, made⟩ := List.mem_filterMap.mp blocked
    obtain ⟨v, -, rfl⟩ := Option.map_eq_some_iff.mp made
    exact ⟨rfl, nofun⟩
  · obtain ⟨v, -, rfl⟩ := Option.map_eq_some_iff.mp (Option.mem_toList.mp rewritten)
    split
    · exact ⟨rfl, nofun⟩
    · refine ⟨rfl, fun _ =>
        ⟨"is not converted; add an HTTPRoute URLRewrite filter." ++ shown v, ?_⟩⟩
      rw [← String.append_assoc]
      rfl
  · obtain ⟨e, -, made⟩ := List.mem_filterMap.mp guided
    unfold guidanceNotice at made
    split at made
    · split at made
      · cases made
      · cases made
        exact ⟨rfl, nofun⟩
    · cases made

theorem Blockers.isConfined : pass.IsConfined where
  edits := by
    intro i routes e mem
    obtain ⟨n, noticed, rfl⟩ := List.mem_map.mp mem
    exact isFrom_of_mem_notices noticed
  errors := by
    intro i e mem
    cases mem

theorem BackendTls.mem_backends_of_mem_distinct {seen : List (String × Option String)}
    {bs : List ServiceBackend} {b : ServiceBackend} (mem : b ∈ distinct seen bs) : b ∈ bs := by
  induction bs generalizing seen with
  | nil => cases mem
  | cons c bs ih =>
    unfold distinct at mem
    dsimp only at mem
    split at mem
    · exact .tail _ (ih mem)
    · rcases List.mem_cons.mp mem with rfl | later
      · exact .head _
      · exact .tail _ (ih later)

theorem BackendTls.policyName_injective {a b : String}
    (same : policyName a = policyName b) : a = b :=
  (String.append_left_inj _).mp same

theorem BackendTls.isConfined : pass.IsConfined where
  edits := by
    intro i routes e mem
    dsimp only [pass, reading] at mem
    split at mem
    · rcases List.mem_append.mp mem with service | policy
      · obtain ⟨b, listed, rfl⟩ := List.mem_map.mp service
        exact ⟨b, mem_backends_of_mem_distinct listed, rfl⟩
      · split at policy
        · obtain ⟨b, listed, rfl⟩ := List.mem_map.mp policy
          exact ⟨⟨b, mem_backends_of_mem_distinct listed, rfl⟩, rfl, nofun⟩
        · cases policy
    · cases mem
  errors := by
    intro i e mem
    have own : e ∈ (protocol i).2 := by
      dsimp only [pass, reading] at mem
      split at mem
      · exact mem
      · exact mem
    unfold protocol at own
    split at own
    · cases own
    · split at own
      · cases own
      · rw [List.mem_singleton.mp own]
        rfl

theorem Timeouts.isConfined : pass.IsConfined where
  edits := by
    intro i routes e mem
    dsimp only [pass, Timeouts.edits] at mem
    split at mem
    · obtain ⟨k, listed, rfl⟩ := List.mem_map.mp mem
      exact listed
    · cases mem
  errors := by
    intro i e mem
    have own : e ∈ Timeouts.errors i := mem
    unfold Timeouts.errors at own
    rw [List.mem_append, List.mem_append] at own
    rcases own with (connect | receive) | send
    · exact Ingress.owner?_of_integerFrom connect
    · exact Ingress.owner?_of_integerFrom receive
    · exact Ingress.owner?_of_integerFrom send

theorem SslRedirect.isConfined : pass.IsConfined where
  edits := by
    intro i routes e mem
    dsimp only [pass, SslRedirect.edits] at mem
    split at mem
    · obtain ⟨k, listed, inside⟩ := List.mem_flatMap.mp mem
      rcases List.mem_cons.mp inside with rfl | notice
      · exact ⟨listed, rfl⟩
      · rw [List.mem_singleton.mp notice]
        exact ⟨rfl, nofun⟩
    · cases mem
  errors := by
    intro i e mem
    cases mem

theorem RateLimit.isConfined : pass.IsConfined where
  edits := by
    intro i routes e mem
    dsimp only [pass, reading] at mem
    split at mem
    · cases mem
    · dsimp only at mem
      split at mem
      · exact Edit.isFrom_of_mem_settings mem
      · cases mem
  errors := by
    intro i e mem
    have own : e ∈ RateLimit.errors i := by
      dsimp only [pass, reading] at mem
      split at mem
      · exact mem
      · exact mem
    unfold RateLimit.errors at own
    rw [List.mem_append, List.mem_append, List.mem_append] at own
    rcases own with ((rps | rpm) | multiplier) | connections
    · exact Ingress.owner?_of_integerFrom rps
    · exact Ingress.owner?_of_integerFrom rpm
    · exact Ingress.owner?_of_integerFrom multiplier
    · exact Ingress.owner?_of_integerFrom connections

theorem ProxySettings.isConfined : pass.IsConfined where
  edits := by
    intro i routes e mem
    rcases List.mem_append.mp mem with setting | service
    · exact Edit.isFrom_of_mem_settings setting
    · split at service
      · obtain ⟨b, listed, rfl⟩ := List.mem_map.mp service
        exact ⟨b, listed, rfl⟩
      · cases service
  errors := by
    intro i e mem
    have own : e ∈ ProxySettings.errors i := mem
    unfold ProxySettings.errors at own
    rw [List.mem_append, List.mem_append, List.mem_append] at own
    rcases own with ((size | buffering) | requests) | balance
    · unfold bodySize at size
      split at size
      · cases size
      · split at size
        · cases size
        · rw [List.mem_singleton.mp size]
          rfl
    · exact Ingress.owner?_of_flag buffering
    · exact Ingress.owner?_of_flag requests
    · unfold algorithm at balance
      split at balance
      · cases balance
      · split at balance
        · cases balance
        · rw [List.mem_singleton.mp balance]
          rfl

theorem ClientCert.owner?_of_verification {i : Ingress} {e : FieldError}
    (mem : e ∈ (verification i).2) : e.path.owner? = some i.key := by
  unfold verification at mem
  split at mem
  · cases mem
  · split at mem
    · cases mem
    · rw [List.mem_singleton.mp mem]
      rfl

theorem ClientCert.owner?_of_depth {i : Ingress} {e : FieldError} (mem : e ∈ (depth i).2) :
    e.path.owner? = some i.key := by
  unfold depth at mem
  split at mem
  · cases mem
  · split at mem
    · cases mem
    · rw [List.mem_singleton.mp mem]
      rfl

theorem ClientCert.isConfined : pass.IsConfined where
  edits := by
    intro i routes e mem
    dsimp only [pass, ClientCert.edits] at mem
    split at mem
    · obtain ⟨k, listed, rfl⟩ := List.mem_map.mp mem
      exact ⟨listed, rfl⟩
    · cases mem
  errors := by
    intro i e mem
    have own : e ∈ (parse i).errors := mem
    unfold parse at own
    split at own
    · cases own
    · split at own
      · rw [List.mem_singleton.mp own]
        rfl
      · rcases List.mem_append.mp own with verify | depth
        · exact owner?_of_verification verify
        · exact owner?_of_depth depth

theorem ExternalAuthorization.isConfined : pass.IsConfined where
  edits := by
    intro i routes e mem
    dsimp only [pass, ExternalAuthorization.edits] at mem
    split at mem
    · obtain ⟨k, listed, rfl⟩ := List.mem_map.mp mem
      exact ⟨listed, rfl⟩
    · cases mem
  errors := by
    intro i e mem
    have own : e ∈ (parse i).errors := mem
    unfold parse at own
    split at own
    · cases own
    · split at own
      · rw [List.mem_singleton.mp own]
        rfl
      · cases own

theorem FilterNotice.isConfined : pass.IsConfined where
  edits := by
    intro i routes e mem
    dsimp only [pass, FilterNotice.edits] at mem
    split at mem
    · cases mem
    · rw [List.mem_singleton.mp mem]
      exact ⟨rfl, nofun⟩
  errors := by
    intro i e mem
    cases mem

theorem isConfined_of_mem_annotationPasses {p : AnnotationPass} (mem : p ∈ annotationPasses) :
    p.IsConfined := by
  simp only [annotationPasses, List.mem_cons, List.not_mem_nil, or_false] at mem
  rcases mem with rfl | rfl | rfl | rfl | rfl | rfl | rfl | rfl | rfl
  · exact Blockers.isConfined
  · exact BackendTls.isConfined
  · exact Timeouts.isConfined
  · exact SslRedirect.isConfined
  · exact RateLimit.isConfined
  · exact ProxySettings.isConfined
  · exact ClientCert.isConfined
  · exact ExternalAuthorization.isConfined
  · exact FilterNotice.isConfined

/-- No pass mixes the routes of an Ingress with those among them that the plan has. -/
theorem mem_edits_of_one_list {p : AnnotationPass} (mem : p ∈ annotationPasses) {i : Ingress}
    {routes present : List ObjectKey} {e : Edit} (asked : e ∈ (p.read i).edits routes present) :
    e ∈ (p.read i).edits routes routes ∨ e ∈ (p.read i).edits present present := by
  have services : (BackendTls.reading i).edits routes present =
      (BackendTls.reading i).edits routes routes := by
    unfold BackendTls.reading
    split
    · rfl
    · rfl
  have rates : (RateLimit.reading i).edits routes present =
      (RateLimit.reading i).edits present present := by
    unfold RateLimit.reading
    split
    · rfl
    · rfl
  simp only [annotationPasses, List.mem_cons, List.not_mem_nil, or_false] at mem
  rcases mem with rfl | rfl | rfl | rfl | rfl | rfl | rfl | rfl | rfl
  · exact .inl asked
  · exact .inl (services ▸ asked)
  · exact .inr asked
  · exact .inr asked
  · exact .inr (rates ▸ asked)
  · exact .inr asked
  · exact .inr asked
  · exact .inr asked
  · exact .inl asked

/-- A Service is edited for an Ingress that sends requests to it. -/
theorem leadsTo_of_service {p : AnnotationPass} (mem : p ∈ annotationPasses) {i : Ingress}
    {routes present : List ObjectKey} {k : ObjectKey} {v : ServiceSettings}
    (asked : .service k v ∈ (p.read i).edits routes present) : i.LeadsTo k := by
  have confined := (isConfined_of_mem_annotationPasses mem).edits i
  rcases mem_edits_of_one_list mem asked with all | here
  · exact confined routes _ all
  · exact confined present _ here

end GatewayMigration
