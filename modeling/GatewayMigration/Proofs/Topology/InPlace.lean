import GatewayMigration.Proofs.Topology.Replacement
/-!
# Merging in place

Gateways refer to listeners, and these to lists of certificates that can be written to; several
Gateways may refer to one listener, and several listeners to one list. Merging copies the first
listener of a name, and writes what the later ones add to the copy. Main statements:

* `gathers_of_isUnion`: what it means for merged listeners to be the union of those that there are;
* `Heap.merging_turn`: with one listener more, the copies are the merged listeners again, and each
  has its own list behind all that was there before;
* `Heap.exists_holds`: whatever Gateways there are, there are objects that they can refer to;
* `mergeListeners_gathers`: merged listeners are the union of the listeners of all Gateways, and
  copying and writing leads to them without a change to any object that was there.
-/

namespace GatewayMigration

/-! ## The union -/

namespace Listener

/-- What several listeners of one name are in one. -/
structure Gathers (ms : List Listener) (l : Listener) : Prop where
  /-- Only the first one decides about these. -/
  first : ∃ m, ms.head? = some m ∧
    l.hostname = m.hostname ∧ l.port = m.port ∧ l.protocol = m.protocol
  plain : l.tls = none ↔ ∀ m ∈ ms, m.tls = none
  members : ∀ t, l.tls = some t → ∀ c, c ∈ t.certificateRefs ↔ ∃ m ∈ ms, c ∈ m.certificates
  /-- Certificates are in the order in which they come first. -/
  order : ∀ t, l.tls = some t →
    t.certificateRefs.eraseDups = (ms.flatMap (·.certificates)).eraseDups
  once : (∀ m ∈ ms, m.certificates.Nodup) → ∀ t, l.tls = some t → t.certificateRefs.Nodup

theorem flatMap_certificates (ms : List Listener) :
    ms.flatMap (·.certificates) = (ms.filterMap (·.tls)).flatMap (·.certificateRefs) := by
  induction ms with
  | nil => rfl
  | cons m ms ih =>
    rw [List.flatMap_cons, ih, certificates]
    cases own : m.tls with
    | none => rw [List.filterMap_cons_none own]; rfl
    | some t => rw [List.filterMap_cons_some own]; rfl

/-- The certificates are those of the first settings, and the others are added to them. -/
theorem exists_of_merged {ts : List ListenerTls} {t : ListenerTls}
    (merged : ListenerTls.merged ts = some t) : ∃ first rest, ts = first :: rest ∧
      t.certificateRefs =
        (rest.flatMap (·.certificateRefs)).foldl addNew first.certificateRefs := by
  cases ts with
  | nil => cases merged
  | cons first rest =>
    rw [ListenerTls.merged_cons, ListenerTls.foldl_pool] at merged
    cases merged
    exact ⟨first, rest, rfl, rfl⟩

theorem order_of_merged {ts : List ListenerTls} {t : ListenerTls}
    (merged : ListenerTls.merged ts = some t) :
    t.certificateRefs.eraseDups = (ts.flatMap (·.certificateRefs)).eraseDups := by
  obtain ⟨first, rest, rfl, refs⟩ := exists_of_merged merged
  rw [refs, eraseDups_foldl_addNew, List.flatMap_cons]

theorem once_of_merged {ts : List ListenerTls} {t : ListenerTls}
    (merged : ListenerTls.merged ts = some t) (once : ∀ u ∈ ts, u.certificateRefs.Nodup) :
    t.certificateRefs.Nodup := by
  obtain ⟨first, rest, rfl, refs⟩ := exists_of_merged merged
  rw [refs]
  exact nodup_foldl_addNew (once first (.head _)) _

theorem merged_eq_none_iff {ts : List ListenerTls} : ListenerTls.merged ts = none ↔ ts = [] := by
  cases ts with
  | nil => exact iff_of_true rfl rfl
  | cons t ts => exact iff_of_false nofun nofun

theorem gathers_of_isMerge {ms : List Listener} {l : Listener} (merge : IsMerge ms l) :
    Gathers ms l := by
  obtain ⟨m, head, face⟩ := merge.face
  have order : ∀ t, l.tls = some t →
      t.certificateRefs.eraseDups = (ms.flatMap (·.certificates)).eraseDups := by
    intro t own
    rw [flatMap_certificates]
    exact order_of_merged (merge.tls.symm.trans own)
  refine ⟨⟨m, head, ?_, ?_, ?_⟩, ?_, fun t own c => ?_, order, fun distinct t own => ?_⟩
  · exact (congrArg Listener.hostname face : _)
  · exact (congrArg Listener.port face : _)
  · exact (congrArg Listener.protocol face : _)
  · rw [merge.tls, merged_eq_none_iff, List.filterMap_eq_nil_iff]
  · rw [← List.mem_eraseDups, order t own, List.mem_eraseDups, List.mem_flatMap]
  · refine once_of_merged (merge.tls.symm.trans own) fun u mem => ?_
    obtain ⟨n, there, settings⟩ := List.mem_filterMap.mp mem
    have alone := distinct n there
    rw [certificates, settings] at alone
    exact alone

end Listener

/-- The listeners of some Gateways, one for each name. -/
structure Gathers (gs : List Gateway) (ls : List Listener) : Prop where
  distinct : (ls.map (·.name)).Nodup
  covers : ∀ n, (∃ l ∈ ls, l.name = n) ↔ ∃ g ∈ gs, ∃ l ∈ g.spec.listeners, l.name = n
  /-- Names are in the order in which they come first. -/
  order : ls.map (·.name) = ((gs.flatMap (·.spec.listeners)).map (·.name)).eraseDups
  each : ∀ l ∈ ls, Listener.Gathers (listenersNamed gs l.name) l

theorem gathers_of_isUnion {gs : List Gateway} {ls : List Listener}
    (distinct : (ls.map (·.name)).Nodup) (union : IsUnion gs ls) : Gathers gs ls where
  distinct := distinct
  covers n := by
    have listed : n ∈ ls.map (·.name) ↔ n ∈ (gs.flatMap (·.spec.listeners)).map (·.name) := by
      rw [union.names, List.mem_eraseDups]
    simp only [List.mem_map, List.mem_flatMap] at listed
    rw [listed]
    constructor
    · rintro ⟨l, ⟨g, there, inside⟩, named⟩
      exact ⟨g, there, l, inside, named⟩
    · rintro ⟨g, there, l, inside, named⟩
      exact ⟨l, ⟨g, there, inside⟩, named⟩
  order := union.names
  each l mem := Listener.gathers_of_isMerge (union.merges l mem)

/-! ## Objects -/

/-- TLS settings that refer to a list of certificates by its address. -/
structure TlsObject where
  mode : String
  certificateRefs : Nat
deriving DecidableEq, Repr

structure ListenerObject where
  name : String
  hostname : Option String
  port : Int
  protocol : String
  tls : Option TlsObject
deriving DecidableEq, Repr

/-- The objects that merging reads and writes; addresses are positions. TLS settings are replaced as
a whole or not at all, so they have no address. -/
structure Heap where
  listeners : List ListenerObject
  certificates : List (List SecretRef)
deriving DecidableEq, Repr

def Listener.object (l : Listener) (tls : Option TlsObject) : ListenerObject :=
  ⟨l.name, l.hostname, l.port, l.protocol, tls⟩

namespace Heap

def tls? (h : Heap) : Option TlsObject → Option (Option ListenerTls)
  | none => some none
  | some t => (h.certificates[t.certificateRefs]?).map fun refs => some ⟨t.mode, refs⟩

/-- The listener at an address, if it is there with all that it refers to. -/
def listener? (h : Heap) (a : Nat) : Option Listener := do
  let o ← h.listeners[a]?
  let tls ← h.tls? o.tls
  pure ⟨o.name, o.hostname, o.port, o.protocol, tls⟩

/-- The address of the certificates of a listener. -/
def block? (h : Heap) (a : Nat) : Option Nat :=
  (h.listeners[a]?).bind fun o => o.tls.map (·.certificateRefs)

def copyTls (h : Heap) : Option ListenerTls → Heap × Option TlsObject
  | none => (h, none)
  | some t =>
    ({ h with certificates := h.certificates ++ [t.certificateRefs] },
      some ⟨t.mode, h.certificates.length⟩)

/-- A new listener that shares nothing with other ones. -/
def copy (h : Heap) (l : Listener) : Heap × Nat :=
  let (h, tls) := h.copyTls l.tls
  ({ h with listeners := h.listeners ++ [l.object tls] }, h.listeners.length)

/-- Give a listener the certificates of `u` too. -/
def poolAt (h : Heap) (a : Nat) (u : ListenerTls) : Option Heap := do
  let o ← h.listeners[a]?
  match o.tls with
  | none =>
    let (h, tls) := h.copyTls (some u)
    pure { h with listeners := h.listeners.set a { o with tls := tls } }
  | some t =>
    pure { h with
      certificates := h.certificates.modify t.certificateRefs (u.certificateRefs.foldl addNew ·) }

/-- Take in the listener at an address. The copies that there are stand under their names. -/
def turn (s : Heap × OrderedMap String Nat) (a : Nat) : Option (Heap × OrderedMap String Nat) := do
  let l ← s.1.listener? a
  match s.2.get? l.name, l.tls with
  | none, _ => pure ((s.1.copy l).1, s.2.insert l.name (s.1.copy l).2)
  | some _, none => pure s
  | some b, some u => (s.1.poolAt b u).map (·, s.2)

/-- Merge the listeners of Gateways in place, where each Gateway is given by the addresses of its
listeners. -/
def merge (h : Heap) (gateways : List (List Nat)) : Option (Heap × List Nat) := do
  let s ← gateways.flatten.foldlM turn (h, .empty)
  pure (s.1, s.2.values)

/-- The listeners are those at the addresses. -/
def Reads (h : Heap) : List Nat → List Listener → Prop :=
  List.Forall₂ fun a l => h.listener? a = some l

/-- The Gateways are those with the listeners at the addresses. -/
def Holds (h : Heap) : List (List Nat) → List Gateway → Prop :=
  List.Forall₂ fun as g => h.Reads as g.spec.listeners

/-! ## Changes -/

/-- All objects of `h` are objects of `h'`, at the same address and unchanged. -/
structure Extends (h h' : Heap) : Prop where
  listeners : h.listeners <+: h'.listeners
  certificates : h.certificates <+: h'.certificates

/-- Of the objects in `h`, at most the listener at one address and its certificates are changed. The
certificates that the listener has afterwards are at the same address, or at a new one. -/
structure OnlyAt (a : Nat) (h h' : Heap) : Prop where
  listeners : ∀ b o, b ≠ a → h.listeners[b]? = some o → h'.listeners[b]? = some o
  certificates : ∀ p refs, h.block? a ≠ some p →
    h.certificates[p]? = some refs → h'.certificates[p]? = some refs
  block : ∀ p, h'.block? a = some p → h.block? a = some p ∨ h.certificates.length ≤ p

variable {h h' : Heap} {a b : Nat} {l : Listener}

theorem listener?_eq_some_iff : h.listener? a = some l ↔
    ∃ t, h.listeners[a]? = some (l.object t) ∧ h.tls? t = some l.tls := by
  unfold listener?
  simp only [Option.bind_eq_bind, Option.bind_eq_some_iff, Option.pure_def, Option.some.injEq]
  constructor
  · rintro ⟨o, object, tls, read, rfl⟩
    exact ⟨o.tls, object, read⟩
  · rintro ⟨t, object, read⟩
    exact ⟨_, object, _, read, rfl⟩

theorem block?_of_object {o : ListenerObject} (object : h.listeners[a]? = some o) :
    h.block? a = o.tls.map (·.certificateRefs) := by
  rw [block?, object]
  rfl

theorem block?_length (h : Heap) : h.block? h.listeners.length = none := by
  simp [block?]

/-- What a listener refers to is there. -/
theorem block?_lt (read : h.listener? a = some l) {p : Nat} (block : h.block? a = some p) :
    p < h.certificates.length := by
  obtain ⟨t, object, there⟩ := listener?_eq_some_iff.mp read
  rw [block?_of_object object] at block
  obtain ⟨u, rfl, rfl⟩ := Option.map_eq_some_iff.mp block
  obtain ⟨refs, found, -⟩ := Option.map_eq_some_iff.mp there
  exact (List.getElem?_eq_some_iff.mp found).1

/-- A listener stays the same, if neither its object nor its certificates change. -/
theorem listener?_of_still (read : h.listener? a = some l)
    (object : ∀ o, h.listeners[a]? = some o → h'.listeners[a]? = some o)
    (certificates : ∀ p refs, h.block? a = some p →
      h.certificates[p]? = some refs → h'.certificates[p]? = some refs) :
    h'.listener? a = some l := by
  obtain ⟨t, there, tls⟩ := listener?_eq_some_iff.mp read
  refine listener?_eq_some_iff.mpr ⟨t, object _ there, ?_⟩
  cases t with
  | none => exact tls
  | some t =>
    obtain ⟨refs, found, made⟩ := Option.map_eq_some_iff.mp tls
    have kept := certificates _ refs (block?_of_object there) found
    exact Option.map_eq_some_iff.mpr ⟨refs, kept, made⟩

theorem Extends.refl (h : Heap) : h.Extends h := ⟨List.prefix_refl _, List.prefix_refl _⟩

theorem Extends.trans {h'' : Heap} (first : h.Extends h') (second : h'.Extends h'') :
    h.Extends h'' :=
  ⟨first.listeners.trans second.listeners, first.certificates.trans second.certificates⟩

theorem Extends.listener? (later : h.Extends h') (read : h.listener? a = some l) :
    h'.listener? a = some l :=
  listener?_of_still read (fun _ there => getElem?_of_prefix later.listeners there)
    fun _ _ _ there => getElem?_of_prefix later.certificates there

/-- A change to what is behind all that was there in the beginning. -/
theorem Extends.onlyAt {base : Heap} (later : base.Extends h) (only : OnlyAt a h h')
    (above : base.listeners.length ≤ a)
    (blockAbove : ∀ p, h.block? a = some p → base.certificates.length ≤ p) : base.Extends h' where
  listeners := by
    refine List.prefix_iff_getElem?.mpr fun i bound => ?_
    exact only.listeners i _ (by omega) (List.prefix_iff_getElem?.mp later.listeners i bound)
  certificates := by
    refine List.prefix_iff_getElem?.mpr fun p bound => ?_
    refine only.certificates p _ (fun own => ?_)
      (List.prefix_iff_getElem?.mp later.certificates p bound)
    exact absurd (blockAbove p own) (by omega)

/-! ## Copying and pooling -/

theorem tls?_copyTls (h : Heap) (t : Option ListenerTls) :
    (h.copyTls t).1.tls? (h.copyTls t).2 = some t := by
  cases t with
  | none => rfl
  | some t => simp [copyTls, tls?]

theorem listeners_copyTls (h : Heap) (t : Option ListenerTls) :
    (h.copyTls t).1.listeners = h.listeners := by
  cases t with
  | none => rfl
  | some t => rfl

theorem certificates_copyTls (h : Heap) (t : Option ListenerTls) :
    h.certificates <+: (h.copyTls t).1.certificates := by
  cases t with
  | none => exact List.prefix_refl _
  | some t => exact List.prefix_append _ _

/-- Copied certificates are at a new address. -/
theorem le_of_copyTls {t : Option ListenerTls} {p : Nat}
    (block : (h.copyTls t).2.map (·.certificateRefs) = some p) : h.certificates.length ≤ p := by
  cases t with
  | none => cases block
  | some t =>
    cases block
    exact Nat.le_refl _

theorem snd_copy (h : Heap) (l : Listener) : (h.copy l).2 = h.listeners.length := by
  unfold copy
  simp only [listeners_copyTls]

theorem object_copy (h : Heap) (l : Listener) :
    (h.copy l).1.listeners[h.listeners.length]? = some (l.object (h.copyTls l.tls).2) := by
  simp [copy, listeners_copyTls]

theorem listener?_copy (h : Heap) (l : Listener) :
    (h.copy l).1.listener? h.listeners.length = some l :=
  listener?_eq_some_iff.mpr ⟨_, object_copy h l, tls?_copyTls h l.tls⟩

theorem onlyAt_copy (h : Heap) (l : Listener) : OnlyAt h.listeners.length h (h.copy l).1 where
  listeners b o _ there := by
    refine getElem?_of_prefix ?_ there
    simp [copy, listeners_copyTls]
  certificates p refs _ there := getElem?_of_prefix (certificates_copyTls h l.tls) there
  block p own := by
    rw [block?_of_object (object_copy h l)] at own
    exact .inr (le_of_copyTls own)

/-- A listener without TLS settings gets a copy of those that are added. -/
theorem onlyAt_poolAt_of_plain {u : ListenerTls} (object : h.listeners[a]? = some (l.object none)) :
    ∃ h', h.poolAt a u = some h' ∧ OnlyAt a h h' ∧
      h'.listener? a = some { l with tls := some u } := by
  have bound : a < h.listeners.length := (List.getElem?_eq_some_iff.mp object).1
  let made := h.copyTls (some u)
  let h' : Heap := { made.1 with
    listeners := made.1.listeners.set a { l.object none with tls := made.2 } }
  have written : h'.listeners[a]? = some (l.object made.2) := by
    rw [List.getElem?_set_self (by rwa [listeners_copyTls])]
    rfl
  refine ⟨h', by rw [poolAt, object]; rfl, ⟨fun b o other there => ?_, ?_, fun p own => ?_⟩, ?_⟩
  · rw [List.getElem?_set_ne (Ne.symm other), listeners_copyTls]
    exact there
  · exact fun p refs _ there => getElem?_of_prefix (certificates_copyTls h (some u)) there
  · rw [block?_of_object written] at own
    exact .inr (le_of_copyTls own)
  · exact listener?_eq_some_iff.mpr ⟨made.2, written, tls?_copyTls h (some u)⟩

/-- Where a listener has certificates, those that are added are written behind them. -/
theorem onlyAt_poolAt_of_tls {t : TlsObject} {refs : List SecretRef} {u : ListenerTls}
    (object : h.listeners[a]? = some (l.object (some t)))
    (there : h.certificates[t.certificateRefs]? = some refs) :
    ∃ h', h.poolAt a u = some h' ∧ OnlyAt a h h' ∧
      h'.listener? a = some { l with tls := some (ListenerTls.pool ⟨t.mode, refs⟩ u) } := by
  let h' : Heap := { h with
    certificates := h.certificates.modify t.certificateRefs (u.certificateRefs.foldl addNew ·) }
  have own : h.block? a = some t.certificateRefs := block?_of_object object
  have still : ∀ p, t.certificateRefs ≠ p → h'.certificates[p]? = h.certificates[p]? := by
    intro p other
    rw [List.getElem?_modify]
    simp [other]
  have written : h'.certificates[t.certificateRefs]? =
      some (u.certificateRefs.foldl addNew refs) := by
    rw [List.getElem?_modify, there]
    simp
  have only : OnlyAt a h h' := by
    refine ⟨fun _ _ _ found => found, fun p others apart found => ?_, fun p block => .inl block⟩
    rw [own] at apart
    rw [still p fun same => apart (congrArg some same)]
    exact found
  refine ⟨h', by rw [poolAt, object]; rfl, only, ?_⟩
  refine listener?_eq_some_iff.mpr ⟨some t, object, ?_⟩
  exact Option.map_eq_some_iff.mpr ⟨_, written, rfl⟩

/-- Pooling writes to one listener, which is the pooled one then. -/
theorem onlyAt_poolAt {m : Listener} {u : ListenerTls} (read : h.listener? a = some l)
    (tls : m.tls = some u) : ∃ h', h.poolAt a u = some h' ∧ OnlyAt a h h' ∧
      h'.listener? a = some (l.pool m) := by
  obtain ⟨t, object, own⟩ := listener?_eq_some_iff.mp read
  cases t with
  | none =>
    have plain : l.tls = none := (Option.some.inj own).symm
    have pooled : l.pool m = { l with tls := some u } := by
      unfold Listener.pool
      rw [plain, tls]
    rw [pooled]
    exact onlyAt_poolAt_of_plain object
  | some t =>
    obtain ⟨refs, there, made⟩ := Option.map_eq_some_iff.mp own
    have pooled : l.pool m = { l with tls := some (ListenerTls.pool ⟨t.mode, refs⟩ u) } := by
      unfold Listener.pool
      rw [← made, tls]
    rw [pooled]
    exact onlyAt_poolAt_of_tls object there

/-! ## Merging -/

/-- Two listeners have nothing in common that could be written to. -/
def Apart (h : Heap) (a b : Nat) : Prop := a ≠ b ∧ ∀ p, h.block? a = some p → h.block? b ≠ some p

theorem Apart.symm (apart : h.Apart a b) : h.Apart b a :=
  ⟨apart.1.symm, fun p right left => apart.2 p left right⟩

variable {base : Heap} {s : Heap × OrderedMap String Nat} {merged : OrderedMap String Nat}
  {ls : OrderedMap String Listener} {n : String}

/-- Nothing but the copy of one name is at an address, or is to be there. -/
structure Owns (base : Heap) (s : Heap × OrderedMap String Nat) (n : String) (a : Nat) : Prop where
  above : base.listeners.length ≤ a
  block : ∀ p, s.1.block? a = some p → base.certificates.length ≤ p
  apart : ∀ k b, n ≠ k → s.2.get? k = some b → s.1.Apart a b

/-- The copies that merging made so far are the merged listeners. -/
structure Merging (base : Heap) (s : Heap × OrderedMap String Nat)
    (ls : OrderedMap String Listener) : Prop where
  later : base.Extends s.1
  keys : s.2.keys = ls.keys
  reads : ∀ n a, s.2.get? n = some a → ∃ l, ls.get? n = some l ∧ s.1.listener? a = some l
  owns : ∀ n a, s.2.get? n = some a → Owns base s n a

/-- Writing to the copy of one name leaves the copies of other names alone. -/
theorem Merging.still (m : Merging base (h, merged) ls) (owns : Owns base (h, merged) n a)
    (only : OnlyAt a h h') {k : String} (different : n ≠ k) (found : merged.get? k = some b) :
    (∃ l, ls.get? k = some l ∧ h'.listener? b = some l) ∧ h'.block? b = h.block? b ∧
      h'.Apart a b := by
  obtain ⟨l, listed, there⟩ := m.reads k b found
  obtain ⟨t, object, -⟩ := listener?_eq_some_iff.mp there
  have apart : h.Apart a b := owns.apart k b different found
  have kept := only.listeners b _ apart.1.symm object
  have read := listener?_of_still there (only.listeners b · apart.1.symm)
    fun p refs own => only.certificates p refs (apart.symm.2 p own)
  have block : h'.block? b = h.block? b := by
    rw [block?_of_object kept, block?_of_object object]
  refine ⟨⟨l, listed, read⟩, block, apart.1, fun p own shared => ?_⟩
  rw [block] at shared
  rcases only.block p own with old | new
  · exact apart.2 p old shared
  · -- A new address is behind those of all copies.
    exact absurd (block?_lt there shared) (Nat.not_lt.mpr new)

theorem Merging.owns_written (m : Merging base (h, merged) ls)
    (owns : Owns base (h, merged) n a) (only : OnlyAt a h h') :
    Owns base (h', merged.insert n a) n a := by
  refine ⟨owns.above, fun p block => ?_, fun k b different found => ?_⟩
  · rcases only.block p block with old | new
    · exact owns.block p old
    · exact Nat.le_trans m.later.certificates.length_le new
  · rw [OrderedMap.get?_insert, if_neg different] at found
    exact (m.still owns only different found).2.2

theorem Merging.owns_other (m : Merging base (h, merged) ls) (owns : Owns base (h, merged) n a)
    (only : OnlyAt a h h') {k : String} (different : n ≠ k) (found : merged.get? k = some b) :
    Owns base (h', merged.insert n a) k b := by
  obtain ⟨-, block, apart⟩ := m.still owns only different found
  have before := m.owns k b found
  refine ⟨before.above, fun p own => before.block p (block ▸ own), fun j c other there => ?_⟩
  rw [OrderedMap.get?_insert] at there
  by_cases back : n = j
  · rw [if_pos back] at there
    rw [← Option.some.inj there]
    exact apart.symm
  · rw [if_neg back] at there
    have old : h.Apart b c := before.apart j c other there
    rw [Apart, block, (m.still owns only back there).2.1]
    exact old

/-- One change to the copy of a name is one to what is filed under the name. -/
theorem Merging.write (m : Merging base (h, merged) ls) (owns : Owns base (h, merged) n a)
    (only : OnlyAt a h h') (read : h'.listener? a = some l) :
    Merging base (h', merged.insert n a) (ls.insert n l) := by
  refine ⟨m.later.onlyAt only owns.above owns.block, ?_, fun k b found => ?_, fun k b found => ?_⟩
  · rw [OrderedMap.keys_insert, OrderedMap.keys_insert, m.keys]
  · rw [OrderedMap.get?_insert] at found ⊢
    by_cases same : n = k
    · rw [if_pos same] at found ⊢
      rw [← Option.some.inj found]
      exact ⟨l, rfl, read⟩
    · rw [if_neg same] at found ⊢
      exact (m.still owns only same found).1
  · rw [OrderedMap.get?_insert] at found
    by_cases same : n = k
    · rw [if_pos same] at found
      rw [← Option.some.inj found, ← same]
      exact m.owns_written owns only
    · rw [if_neg same] at found
      exact m.owns_other owns only same found

theorem merging_empty (h : Heap) : Merging h (h, .empty) .empty where
  later := .refl h
  keys := rfl
  reads _ _ found := by cases found
  owns _ _ found := by cases found

theorem Merging.owns_new (m : Merging base (h, merged) ls) (n : String) :
    Owns base (h, merged) n h.listeners.length := by
  have none : ∀ p, h.block? h.listeners.length ≠ some p := by
    intro p block
    rw [block?_length] at block
    cases block
  refine ⟨m.later.listeners.length_le, fun p block => absurd block (none p), fun k b _ found => ?_⟩
  obtain ⟨l, -, there⟩ := m.reads k b found
  obtain ⟨t, object, -⟩ := listener?_eq_some_iff.mp there
  have earlier : b < h.listeners.length := (List.getElem?_eq_some_iff.mp object).1
  exact ⟨Nat.ne_of_gt earlier, fun p block => absurd block (none p)⟩

theorem onlyAt_refl (a : Nat) (h : Heap) : OnlyAt a h h :=
  ⟨fun _ _ _ there => there, fun _ _ _ there => there, fun _ own => .inl own⟩

/-- One listener more. It is copied if it is the first one of its name, and pooled otherwise. -/
theorem merging_turn (m : Merging base s ls) (read : base.listener? a = some l) :
    ∃ s', turn s a = some s' ∧ Merging base s' (Listener.addTo ls l) := by
  obtain ⟨h, merged⟩ := s
  have there : h.listener? a = some l := m.later.listener? read
  cases found : merged.get? l.name with
  | none =>
    have fresh : l.name ∉ (h, merged).2.keys := OrderedMap.lookup_eq_none_iff.mp found
    have absent : ls.get? l.name = none := by
      rw [m.keys] at fresh
      exact OrderedMap.lookup_eq_none_iff.mpr fresh
    have added : Listener.addTo ls l = ls.insert l.name l := by
      rw [Listener.addTo, absent]
    refine ⟨((h.copy l).1, merged.insert l.name (h.copy l).2), ?_, ?_⟩
    · simp [turn, there, found]
    · rw [added, snd_copy]
      exact m.write (m.owns_new l.name) (onlyAt_copy h l) (listener?_copy h l)
  | some b =>
    obtain ⟨first, listed, copied⟩ := m.reads l.name b found
    have added : Listener.addTo ls l = ls.insert l.name (first.pool l) := by
      rw [Listener.addTo, listed]
    have kept : merged.insert l.name b = merged := OrderedMap.insert_of_get? found
    have owns := m.owns l.name b found
    rw [added]
    cases tls : l.tls with
    | none =>
      have pooled : first.pool l = first := by
        unfold Listener.pool
        rw [tls]
      refine ⟨(h, merged), by simp [turn, there, found, tls], ?_⟩
      rw [pooled, ← kept]
      exact m.write owns (onlyAt_refl b h) copied
    | some u =>
      obtain ⟨h', written, only, read⟩ := onlyAt_poolAt copied tls
      refine ⟨(h', merged), by simp [turn, there, found, tls, written], ?_⟩
      rw [← kept]
      exact m.write owns only read

theorem merging_foldlM (m : Merging base s ls) {as : List Nat} {more : List Listener}
    (reads : base.Reads as more) :
    ∃ s', as.foldlM turn s = some s' ∧ Merging base s' (more.foldl Listener.addTo ls) := by
  induction reads generalizing s ls with
  | nil => exact ⟨s, rfl, m⟩
  | cons read _ ih =>
    obtain ⟨next, turned, m'⟩ := merging_turn m read
    obtain ⟨last, run, m''⟩ := ih m'
    refine ⟨last, ?_, m''⟩
    rw [List.foldlM_cons, turned]
    exact run

/-- The copies in their order are the merged listeners in theirs. -/
theorem Merging.reads_values (m : Merging base s ls) : s.1.Reads s.2.values ls.values := by
  refine OrderedMap.forall₂_values m.keys fun n a l found listed => ?_
  obtain ⟨other, listed', read⟩ := m.reads n a found
  rw [Option.some.inj (listed.symm.trans listed')]
  exact read

theorem Reads.later {as : List Nat} {ls : List Listener} (reads : h.Reads as ls)
    (later : h.Extends h') : h'.Reads as ls := reads.imp fun _ _ read => later.listener? read

theorem Holds.later {places : List (List Nat)} {gs : List Gateway} (holds : h.Holds places gs)
    (later : h.Extends h') : h'.Holds places gs :=
  holds.imp fun _ _ reads => Reads.later reads later

theorem extends_copy (h : Heap) (l : Listener) : h.Extends (h.copy l).1 := by
  refine (Extends.refl h).onlyAt (onlyAt_copy h l) (Nat.le_refl _) fun p block => ?_
  rw [block?_length] at block
  cases block

theorem exists_reads (h : Heap) (ls : List Listener) :
    ∃ h' as, h.Extends h' ∧ h'.Reads as ls := by
  induction ls with
  | nil => exact ⟨h, [], .refl h, .nil⟩
  | cons l ls ih =>
    obtain ⟨h', as, later, reads⟩ := ih
    have next := extends_copy h' l
    exact ⟨(h'.copy l).1, h'.listeners.length :: as, later.trans next,
      .cons (listener?_copy h' l) (reads.later next)⟩

/-- Whatever the Gateways are, there are objects that they can refer to. -/
theorem exists_holds (gs : List Gateway) : ∃ h places, Holds h places gs := by
  induction gs with
  | nil => exact ⟨⟨[], []⟩, [], .nil⟩
  | cons g gs ih =>
    obtain ⟨h, places, holds⟩ := ih
    obtain ⟨h', as, later, reads⟩ := exists_reads h g.spec.listeners
    exact ⟨h', as :: places, .cons reads (holds.later later)⟩

theorem Holds.flatten {places : List (List Nat)} {gs : List Gateway} (holds : h.Holds places gs) :
    h.Reads places.flatten (gs.flatMap (·.spec.listeners)) := by
  induction holds with
  | nil => exact .nil
  | cons first _ ih => exact List.rel_append first ih

/-- Merging in place leads to the merged listeners, and the Gateways still have the listeners that
they had. -/
theorem merge_spec {places : List (List Nat)} {gs : List Gateway} (holds : h.Holds places gs) :
    ∃ h' out, h.merge places = some (h', out) ∧ h'.Reads out (mergeListeners gs) ∧
      h.Extends h' ∧ h'.Holds places gs := by
  obtain ⟨s, run, m⟩ := merging_foldlM (merging_empty h) holds.flatten
  refine ⟨s.1, s.2.values, by simp [merge, run], m.reads_values, m.later, ?_⟩
  exact holds.later m.later

end Heap

/-- Merging is a union. Where Gateways refer to their listeners as objects, copying and writing
makes that union, and every object that was there before is still what it was. -/
theorem mergeListeners_gathers (gs : List Gateway) :
    Gathers gs (mergeListeners gs) ∧
      ∀ (h : Heap) (places : List (List Nat)), h.Holds places gs →
        ∃ h' out, h.merge places = some (h', out) ∧ h'.Reads out (mergeListeners gs) ∧
          h.Extends h' ∧ h'.Holds places gs :=
  ⟨gathers_of_isUnion (nodup_name_mergeListeners gs) (isUnion_mergeListeners gs),
    fun _ _ holds => Heap.merge_spec holds⟩

/-- Two listeners of one name with certificates of their own. -/
def rivalHeap : Heap where
  listeners :=
    [⟨"web", some "example.com", 80, "HTTP", none⟩,
      ⟨"secure", some "example.com", 443, "HTTPS", some ⟨"Terminate", 0⟩⟩,
      ⟨"secure", none, 8443, "HTTPS", some ⟨"Terminate", 1⟩⟩]
  certificates := [[{ name := "a-tls" }], [{ name := "b-tls" }, { name := "a-tls" }]]

/-- Gateways that hold the objects of `rivalHeap`; the second object is held by both. -/
def rivalGateways : List Gateway :=
  let web : Listener := ⟨"web", some "example.com", 80, "HTTP", none⟩
  let secure : Listener :=
    ⟨"secure", some "example.com", 443, "HTTPS", some { certificateRefs := [{ name := "a-tls" }] }⟩
  let other : Listener := ⟨"secure", none, 8443, "HTTPS",
    some { certificateRefs := [{ name := "b-tls" }, { name := "a-tls" }] }⟩
  [{ metadata := ⟨"public", "shop", none, none⟩, spec := ⟨"istio", [web, secure]⟩ },
    { metadata := ⟨"internal", "shop", none, none⟩, spec := ⟨"istio", [other, secure]⟩ }]

theorem rivals_gathered :
    rivalHeap.Holds [[0, 1], [2, 1]] rivalGateways ∧
      Gathers rivalGateways (mergeListeners rivalGateways) ∧
      ∃ h' out, rivalHeap.merge [[0, 1], [2, 1]] = some (h', out) ∧
        h'.Reads out (mergeListeners rivalGateways) ∧ rivalHeap.Extends h' ∧
        h'.Holds [[0, 1], [2, 1]] rivalGateways := by
  have holds : rivalHeap.Holds [[0, 1], [2, 1]] rivalGateways :=
    .cons (.cons rfl (.cons rfl .nil)) (.cons (.cons rfl (.cons rfl .nil)) .nil)
  obtain ⟨gathers, inPlace⟩ := mergeListeners_gathers rivalGateways
  exact ⟨holds, gathers, inPlace rivalHeap _ holds⟩

/-- The first list of certificates is still there, and a copy of it has the others too. -/
example : (rivalHeap.merge [[0, 1], [2, 1]]).map (·.1.certificates.map (·.map (·.name))) =
    some [["a-tls"], ["b-tls", "a-tls"], ["a-tls", "b-tls"]] := by decide

end GatewayMigration
