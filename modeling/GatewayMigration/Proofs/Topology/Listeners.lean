import GatewayMigration.Proofs.Collections
import GatewayMigration.Topology.Attach
/-!
# Merged listeners

Listeners of one name are merged into the first of them. Main statements:

* `mem_mergeListeners_iff`: what stands under a name after merging is the first listener of that
  name, with the certificates of the later ones pooled into it;
* `mem_certificates_mergeListeners`: no certificate is lost and none is added.
-/

namespace GatewayMigration

namespace Listener

/-! ## Pooling -/

def certificates (l : Listener) : List SecretRef := (l.tls.map (·.certificateRefs)).getD []

theorem mem_certificates_pool {l m : Listener} {c : SecretRef} :
    c ∈ (l.pool m).certificates ↔ c ∈ l.certificates ∨ c ∈ m.certificates := by
  unfold pool certificates
  cases own : l.tls with
  | none =>
    cases m.tls with
    | none => simp [own]
    | some u => simp
  | some t =>
    cases m.tls with
    | none => simp [own]
    | some u => simp [ListenerTls.pool, mem_foldl_addNew]

theorem mem_certificates_foldl_pool {l : Listener} {ms : List Listener} {c : SecretRef} :
    c ∈ (ms.foldl pool l).certificates ↔ ∃ m ∈ l :: ms, c ∈ m.certificates := by
  induction ms generalizing l with
  | nil => simp
  | cons m ms ih =>
    simp only [List.foldl_cons, ih, List.mem_cons, exists_eq_or_imp, mem_certificates_pool,
      or_assoc]

/-- A listener without its TLS settings. -/
def face (l : Listener) : Listener := { l with tls := none }

theorem name_of_face {l m : Listener} (same : l.face = m.face) : l.name = m.name :=
  (congrArg Listener.name same : _)

theorem face_pool (l m : Listener) : (l.pool m).face = l.face := by
  unfold pool
  split
  · rfl
  · rfl
  · rfl

theorem face_foldl_pool (l : Listener) (ms : List Listener) :
    (ms.foldl pool l).face = l.face := by
  induction ms generalizing l with
  | nil => rfl
  | cons m ms ih => rw [List.foldl_cons, ih, face_pool]

/-- Listeners of one name in one: the first, with the certificates of all. -/
def pooled? : List Listener → Option Listener
  | [] => none
  | l :: ls => some (ls.foldl pool l)

theorem mem_certificates_of_pooled? {ls : List Listener} {l : Listener}
    (pooled : pooled? ls = some l) {c : SecretRef} :
    c ∈ l.certificates ↔ ∃ m ∈ ls, c ∈ m.certificates := by
  cases ls with
  | nil => cases pooled
  | cons first rest =>
    cases pooled
    exact mem_certificates_foldl_pool

theorem face_of_pooled? {ls : List Listener} {l : Listener} (pooled : pooled? ls = some l) :
    ∃ first rest, ls = first :: rest ∧ l.face = first.face := by
  cases ls with
  | nil => cases pooled
  | cons first rest =>
    cases pooled
    exact ⟨first, rest, rfl, face_foldl_pool first rest⟩

/-! ## Adding listeners one after the other -/

theorem get?_addTo (ls : OrderedMap String Listener) (l : Listener) (n : String) :
    (addTo ls l).get? n =
      if l.name = n then
        some (match ls.get? n with
          | none => l
          | some first => first.pool l)
      else ls.get? n := by
  unfold addTo
  by_cases same : l.name = n
  · subst same
    rw [if_pos rfl]
    cases ls.get? l.name with
    | none => exact (OrderedMap.get?_insert ..).trans (if_pos rfl)
    | some first => exact (OrderedMap.get?_insert ..).trans (if_pos rfl)
  · rw [if_neg same]
    cases ls.get? l.name with
    | none => exact (OrderedMap.get?_insert ..).trans (if_neg same)
    | some first => exact (OrderedMap.get?_insert ..).trans (if_neg same)

/-- What is under a name comes first, the listeners of that name follow. -/
theorem get?_foldl_addTo (ls : OrderedMap String Listener) (more : List Listener) (n : String) :
    (more.foldl addTo ls).get? n =
      pooled? ((ls.get? n).toList ++ more.filter (·.name = n)) := by
  induction more generalizing ls with
  | nil =>
    cases found : ls.get? n with
    | none => exact found
    | some first => exact found
  | cons l more ih =>
    rw [List.foldl_cons, ih, get?_addTo]
    by_cases same : l.name = n
    · rw [if_pos same, List.filter_cons_of_pos (by simpa using same)]
      cases ls.get? n with
      | none => rfl
      | some first => rfl
    · rw [if_neg same, List.filter_cons_of_neg (by simpa using same)]

end Listener

/-! ## Merging -/

def Gateway.Has (g : Gateway) (c : SecretRef) : Prop := ∃ l ∈ g.spec.listeners, c ∈ l.certificates

/-- The listeners of some Gateways that have a name, in the order of the Gateways. -/
def listenersNamed (gs : List Gateway) (n : String) : List Listener :=
  (gs.flatMap fun g => g.spec.listeners).filter (·.name = n)

theorem mem_listenersNamed_iff {gs : List Gateway} {n : String} {l : Listener} :
    l ∈ listenersNamed gs n ↔ l.name = n ∧ ∃ g ∈ gs, l ∈ g.spec.listeners := by
  unfold listenersNamed
  rw [List.mem_filter, List.mem_flatMap, decide_eq_true_eq, and_comm]

theorem listenersNamed_append (gs hs : List Gateway) (n : String) :
    listenersNamed (gs ++ hs) n = listenersNamed gs n ++ listenersNamed hs n := by
  unfold listenersNamed
  rw [List.flatMap_append, List.filter_append]

theorem mem_mergeListeners_iff {gs : List Gateway} {l : Listener} :
    l ∈ mergeListeners gs ↔ Listener.pooled? (listenersNamed gs l.name) = some l := by
  have under : ∀ n, ((gs.flatMap fun g => g.spec.listeners).foldl Listener.addTo .empty).get? n =
      Listener.pooled? (listenersNamed gs n) := fun n => Listener.get?_foldl_addTo _ _ n
  unfold mergeListeners
  rw [OrderedMap.mem_values_iff]
  simp only [under]
  constructor
  · rintro ⟨n, pooled⟩
    obtain ⟨first, rest, split, same⟩ := Listener.face_of_pooled? pooled
    have mem : first ∈ listenersNamed gs n := by simp [split]
    have named : l.name = n :=
      (Listener.name_of_face same).trans (mem_listenersNamed_iff.mp mem).1
    rw [named]
    exact pooled
  · exact fun pooled => ⟨l.name, pooled⟩

theorem face_of_mem_mergeListeners {gs : List Gateway} {l : Listener} (mem : l ∈ mergeListeners gs) :
    ∃ first ∈ listenersNamed gs l.name, l.face = first.face := by
  obtain ⟨first, rest, split, same⟩ := Listener.face_of_pooled? (mem_mergeListeners_iff.mp mem)
  exact ⟨first, by simp [split], same⟩

/-- Every name of a listener has a listener after merging. -/
theorem exists_mem_mergeListeners {gs : List Gateway} {n : String} {l : Listener}
    (mem : l ∈ listenersNamed gs n) : ∃ m ∈ mergeListeners gs, m.name = n := by
  cases split : listenersNamed gs n with
  | nil =>
    rw [split] at mem
    cases mem
  | cons first rest =>
    have there : first ∈ listenersNamed gs n := by simp [split]
    have named : (rest.foldl Listener.pool first).name = n :=
      (Listener.name_of_face (Listener.face_foldl_pool first rest)).trans
        (mem_listenersNamed_iff.mp there).1
    refine ⟨rest.foldl Listener.pool first, mem_mergeListeners_iff.mpr ?_, named⟩
    rw [named, split]
    rfl

theorem mem_certificates_mergeListeners {gs : List Gateway} {c : SecretRef} :
    (∃ l ∈ mergeListeners gs, c ∈ l.certificates) ↔ ∃ g ∈ gs, g.Has c := by
  constructor
  · rintro ⟨l, mem, has⟩
    have pooled := mem_mergeListeners_iff.mp mem
    obtain ⟨m, named, has⟩ := (Listener.mem_certificates_of_pooled? pooled).mp has
    obtain ⟨-, g, there, inside⟩ := mem_listenersNamed_iff.mp named
    exact ⟨g, there, m, inside, has⟩
  · rintro ⟨g, there, m, inside, has⟩
    have named : m ∈ listenersNamed gs m.name := mem_listenersNamed_iff.mpr ⟨rfl, g, there, inside⟩
    obtain ⟨l, mem, same⟩ := exists_mem_mergeListeners named
    have pooled := mem_mergeListeners_iff.mp mem
    rw [same] at pooled
    exact ⟨l, mem, (Listener.mem_certificates_of_pooled? pooled).mpr ⟨m, named, has⟩⟩

end GatewayMigration
