/-!
# Ordered maps

Finite maps that remember the order in which their keys were first written. Writing an existing key
replaces its value and keeps its place. Main statements: `keys_insert` (what writing does to the
order), `get?_insert` (what it does to the values) and `mem_toList` (the entries are the graph of
`get?`).
-/

namespace GatewayMigration

structure OrderedMap (κ α : Type) where
  toList : List (κ × α)
  nodup : (toList.map Prod.fst).Nodup
deriving Repr

namespace OrderedMap

variable {κ α β : Type}

instance [DecidableEq κ] [DecidableEq α] : DecidableEq (OrderedMap κ α) := fun a b =>
  decidable_of_iff (a.toList = b.toList) (by cases a; cases b; simp)

@[ext] theorem ext {m n : OrderedMap κ α} (h : m.toList = n.toList) : m = n := by
  cases m; cases n; simpa using h

def empty : OrderedMap κ α := ⟨[], List.nodup_nil⟩

instance : EmptyCollection (OrderedMap κ α) := ⟨empty⟩
instance : Inhabited (OrderedMap κ α) := ⟨empty⟩

def keys (m : OrderedMap κ α) : List κ := m.toList.map Prod.fst

def values (m : OrderedMap κ α) : List α := m.toList.map Prod.snd

def size (m : OrderedMap κ α) : Nat := m.toList.length

def isEmpty (m : OrderedMap κ α) : Bool := m.toList.isEmpty

theorem keys_nodup (m : OrderedMap κ α) : m.keys.Nodup := m.nodup

/-! ## Entries -/

section Entries
variable [DecidableEq κ]

/-- Replace the value of the first entry with this key, or add an entry at the end. -/
def put (k : κ) (a : α) : List (κ × α) → List (κ × α)
  | [] => [(k, a)]
  | e :: es => if e.1 = k then (k, a) :: es else e :: put k a es

theorem map_fst_put (k : κ) (a : α) (es : List (κ × α)) :
    (put k a es).map Prod.fst =
      if k ∈ es.map Prod.fst then es.map Prod.fst else es.map Prod.fst ++ [k] := by
  induction es with
  | nil => simp [put]
  | cons e es ih =>
    by_cases h : e.1 = k
    · simp [put, h]
    · have : ¬ k = e.1 := fun h' => h h'.symm
      simp only [put, h, if_false, List.map_cons, ih, List.mem_cons, this, false_or]
      split <;> simp

theorem nodup_put {k : κ} {a : α} {es : List (κ × α)} (h : (es.map Prod.fst).Nodup) :
    ((put k a es).map Prod.fst).Nodup := by
  rw [map_fst_put]
  split
  · exact h
  · rename_i hk
    rw [List.nodup_append]
    exact ⟨h, by simp, by simp only [List.mem_singleton]; rintro x hx y rfl rfl; exact hk hx⟩

theorem lookup_cons (k : κ) (e : κ × α) (es : List (κ × α)) :
    (e :: es).lookup k = if e.1 = k then some e.2 else es.lookup k := by
  rw [List.lookup_cons]
  by_cases h : e.1 = k
  · rw [if_pos h, beq_iff_eq.mpr h.symm]
  · rw [if_neg h, beq_false_of_ne fun h' => h h'.symm]

theorem lookup_put (k j : κ) (a : α) (es : List (κ × α)) :
    (put k a es).lookup j = if k = j then some a else es.lookup j := by
  induction es with
  | nil => simp [put, lookup_cons]
  | cons e es ih =>
    by_cases h : e.1 = k
    · by_cases hj : k = j <;> simp [put, lookup_cons, h, hj]
    · rw [put, if_neg h]
      by_cases hj : e.1 = j
      · have : ¬ k = j := fun hk => h (hj.trans hk.symm)
        simp [lookup_cons, hj, this]
      · simp [lookup_cons, hj, ih]

theorem forall_bne_iff {k : κ} {es : List (κ × α)} :
    (∀ e ∈ es, (k != e.1) = true) ↔ k ∉ es.map Prod.fst := by
  rw [List.mem_map, not_exists]
  simp only [bne_iff_ne, ne_eq, not_and, eq_comm (a := k)]

theorem lookup_isSome_iff_mem {k : κ} {es : List (κ × α)} :
    (es.lookup k).isSome = true ↔ k ∈ es.map Prod.fst := by
  simp only [List.lookup_isSome_iff, beq_iff_eq, List.mem_map, eq_comm (a := k)]

/-- The value found is the one of the first entry with the key. -/
theorem lookup_eq_some_iff_first {k : κ} {a : α} {es : List (κ × α)} :
    es.lookup k = some a ↔
      ∃ before after, es = before ++ (k, a) :: after ∧ k ∉ before.map Prod.fst := by
  simp only [List.lookup_eq_some_iff, forall_bne_iff]

theorem lookup_eq_some_iff_of_nodup {k : κ} {a : α} {es : List (κ × α)}
    (distinct : (es.map Prod.fst).Nodup) : es.lookup k = some a ↔ (k, a) ∈ es := by
  rw [List.lookup_eq_some_iff]
  constructor
  · rintro ⟨before, after, rfl, -⟩
    simp
  · intro mem
    obtain ⟨before, after, rfl⟩ := List.append_of_mem mem
    refine ⟨before, after, rfl, forall_bne_iff.mpr fun earlier => ?_⟩
    rw [List.map_append, List.nodup_append] at distinct
    exact distinct.2.2 k earlier k (.head _) rfl

end Entries

/-! ## Maps -/

section Maps
variable [DecidableEq κ]

def get? (m : OrderedMap κ α) (k : κ) : Option α := m.toList.lookup k

def contains (m : OrderedMap κ α) (k : κ) : Bool := (m.get? k).isSome

def insert (m : OrderedMap κ α) (k : κ) (a : α) : OrderedMap κ α :=
  ⟨put k a m.toList, nodup_put m.nodup⟩

/-- Write a key that is not there yet; an existing key keeps its value. -/
def insertNew (m : OrderedMap κ α) (k : κ) (a : α) : OrderedMap κ α :=
  if m.contains k then m else m.insert k a

/-- Change the value of a key that is there. -/
def modify (m : OrderedMap κ α) (k : κ) (f : α → α) : OrderedMap κ α :=
  match m.get? k with
  | some a => m.insert k (f a)
  | none => m

def ofList (es : List (κ × α)) : OrderedMap κ α :=
  es.foldl (fun m e => m.insert e.1 e.2) empty

/-- Write all entries of `n`, in its order. -/
def union (m n : OrderedMap κ α) : OrderedMap κ α :=
  n.toList.foldl (fun m e => m.insert e.1 e.2) m

def mapValues (f : κ → α → β) (m : OrderedMap κ α) : OrderedMap κ β :=
  ⟨m.toList.map fun e => (e.1, f e.1 e.2), by
    simpa [List.map_map, Function.comp_def] using m.nodup⟩

def filterKeys (p : κ → Bool) (m : OrderedMap κ α) : OrderedMap κ α :=
  ⟨m.toList.filter fun e => p e.1, m.nodup.sublist (List.filter_sublist.map _)⟩

@[simp] theorem get?_empty (k : κ) : (empty : OrderedMap κ α).get? k = none := rfl

theorem get?_insert (m : OrderedMap κ α) (k j : κ) (a : α) :
    (m.insert k a).get? j = if k = j then some a else m.get? j := lookup_put k j a m.toList

theorem mem_toList {m : OrderedMap κ α} {k : κ} {a : α} :
    (k, a) ∈ m.toList ↔ m.get? k = some a := (lookup_eq_some_iff_of_nodup m.nodup).symm

theorem contains_iff {m : OrderedMap κ α} {k : κ} : m.contains k = true ↔ k ∈ m.keys :=
  lookup_isSome_iff_mem

theorem keys_insert (m : OrderedMap κ α) (k : κ) (a : α) :
    (m.insert k a).keys = if k ∈ m.keys then m.keys else m.keys ++ [k] := map_fst_put k a m.toList

theorem get?_insertNew (m : OrderedMap κ α) (k j : κ) (a : α) :
    (m.insertNew k a).get? j = if k = j then some ((m.get? k).getD a) else m.get? j := by
  unfold insertNew contains
  cases h : m.get? k with
  | none => simp [get?_insert]
  | some b =>
    by_cases hj : k = j
    · subst hj; simp [h]
    · simp [hj]

theorem keys_modify (m : OrderedMap κ α) (k : κ) (f : α → α) : (m.modify k f).keys = m.keys := by
  unfold modify
  cases h : m.get? k with
  | none => rfl
  | some a =>
    have : k ∈ m.keys := contains_iff.mp (by simp [contains, h])
    simp [keys_insert, this]

theorem get?_modify (m : OrderedMap κ α) (k j : κ) (f : α → α) :
    (m.modify k f).get? j = if k = j then (m.get? j).map f else m.get? j := by
  unfold modify
  cases h : m.get? k with
  | none => by_cases hj : k = j <;> simp_all
  | some a => by_cases hj : k = j <;> simp_all [get?_insert]

omit [DecidableEq κ] in
@[simp] theorem keys_mapValues (f : κ → α → β) (m : OrderedMap κ α) :
    (m.mapValues f).keys = m.keys := by simp [mapValues, keys, List.map_map, Function.comp_def]

end Maps

end OrderedMap

end GatewayMigration
