import GatewayMigration.Lowering.Group
import Mathlib.Data.List.Forall2
import Mathlib.Data.List.Induction
import Mathlib.Data.List.Nodup
import Mathlib.Data.List.Pairwise
/-!
# Collections that are written many times

What a map holds after a whole list of writes:

* `get?_ofList_iff`: where every write replaces what is there, the last entry of a key decides;
* `get?_foldl_insertNew`: where a write needs a free key, the first entry decides;
* `toList_ofList`: entries with different keys are kept as they are, in their order;
* `keys_ofList`: keys stand in the order in which they come first;
* `mem_foldl_addNew`, `foldl_addNew_eq`: a list without repetitions holds what was added and
  nothing else, in the order in which it came first;
* `ext_get?`: maps are equal when they have the same keys in the same order, with the same values;
* `perm_iff_get?`: they hold the same values when the order is left out;
* `forall₂_values`: values under the same keys are related one by one;
* `IsFirst`, `IsLast`: the first and the last element with a property, as a search finds them;
* `foldl_last`: where the last writer wins, what is read is what was written last;
* `foldl_comm_of`, `flatMap_eq_of_perm`: what can be done in another order;
* `owner_unique`, `flatMap_of_owner`: what only one entry of a table has a say in;
* `foldl_twice_of_last`, `foldl_twice_of_first`: writing everything once more changes nothing,
  whether it is the last writer that wins or the first one;
* `foldl_addNew_flatMap_copies`: nor does it matter how often one thing is added;
* `foldl_filter_hom`, `foldl_observed`: what some steps leave as it is follows the other steps
  alone, and runs that differ in those steps only leave the same;
* `bind_eq_ok_iff`, `exists_mapM_ok_iff`, `mem_iff_of_mapM_ok`: steps that may fail all succeed, or
  there is no result.
-/

namespace GatewayMigration

namespace OrderedMap

variable {κ α β : Type} [DecidableEq κ]

/-! ## Lists of entries -/

theorem lookup_flatMap {τ : Type} (k : κ) (f : τ → List (κ × α)) (xs : List τ) :
    (xs.flatMap f).lookup k = xs.findSome? fun x => (f x).lookup k := by
  induction xs with
  | nil => rfl
  | cons x xs ih =>
    rw [List.flatMap_cons, List.lookup_append, ih, List.findSome?_cons]
    cases (f x).lookup k with
    | none => exact Option.none_or
    | some a => rfl

theorem lookup_eq_none_iff {k : κ} {es : List (κ × α)} :
    es.lookup k = none ↔ k ∉ es.map Prod.fst := List.lookup_eq_none_iff.trans forall_bne_iff

/-- Entries of which no two with one key differ are all found. -/
theorem lookup_eq_some_iff_mem {k : κ} {es : List (κ × α)}
    (functional : ∀ a b, (k, a) ∈ es → (k, b) ∈ es → a = b) {a : α} :
    es.lookup k = some a ↔ (k, a) ∈ es := by
  have sound : ∀ b, es.lookup k = some b → (k, b) ∈ es := by
    intro b found
    obtain ⟨before, after, rfl, -⟩ := lookup_eq_some_iff_first.mp found
    simp
  constructor
  · exact sound a
  · intro mem
    obtain ⟨b, found⟩ := Option.isSome_iff_exists.mp
      (lookup_isSome_iff_mem.mpr (List.mem_map_of_mem mem))
    rw [found, functional b a (sound b found) mem]

/-- Seen from the end, the value found is the one of the last entry with the key. -/
theorem lookup_reverse_eq_some_iff {k : κ} {a : α} {es : List (κ × α)} :
    es.reverse.lookup k = some a ↔
      ∃ before after, es = before ++ (k, a) :: after ∧ k ∉ after.map Prod.fst := by
  rw [lookup_eq_some_iff_first]
  constructor
  · rintro ⟨after, before, reversed, fresh⟩
    refine ⟨before.reverse, after.reverse, ?_, by simpa using fresh⟩
    have := congrArg List.reverse reversed
    simpa using this
  · rintro ⟨before, after, rfl, fresh⟩
    exact ⟨after.reverse, before.reverse, by simp, by simpa using fresh⟩

theorem put_of_not_mem {k : κ} {a : α} {es : List (κ × α)} (fresh : k ∉ es.map Prod.fst) :
    put k a es = es ++ [(k, a)] := by
  induction es with
  | nil => rfl
  | cons e es ih =>
    simp only [List.map_cons, List.mem_cons, not_or] at fresh
    rw [put, if_neg (fun same => fresh.1 same.symm), ih fresh.2, List.cons_append]

theorem put_of_lookup {k : κ} {a : α} {es : List (κ × α)} (found : es.lookup k = some a) :
    put k a es = es := by
  induction es with
  | nil => cases found
  | cons e es ih =>
    by_cases here : e.1 = k
    · rw [lookup_cons, if_pos here] at found
      rw [put, if_pos here, ← here, ← Option.some.inj found]
    · rw [lookup_cons, if_neg here] at found
      rw [put, if_neg here, ih found]

theorem insert_of_get? {m : OrderedMap κ α} {k : κ} {a : α} (found : m.get? k = some a) :
    m.insert k a = m := ext (put_of_lookup found)

/-! ## Many writes -/

theorem get?_foldl_insert (m : OrderedMap κ α) (es : List (κ × α)) (k : κ) :
    (es.foldl (fun m e => m.insert e.1 e.2) m).get? k = (es.reverse.lookup k).or (m.get? k) := by
  induction es generalizing m with
  | nil => simp
  | cons e es ih =>
    rw [List.foldl_cons, ih, get?_insert, List.reverse_cons, List.lookup_append, Option.or_assoc]
    by_cases h : e.1 = k <;> simp [lookup_cons, h]

theorem get?_ofList (es : List (κ × α)) (k : κ) : (ofList es).get? k = es.reverse.lookup k := by
  rw [ofList, get?_foldl_insert, get?_empty, Option.or_none]

/-- In a map made from entries, the last entry of a key decides. -/
theorem get?_ofList_iff {es : List (κ × α)} {k : κ} {a : α} :
    (ofList es).get? k = some a ↔
      ∃ before after, es = before ++ (k, a) :: after ∧ k ∉ after.map Prod.fst := by
  rw [get?_ofList, lookup_reverse_eq_some_iff]

theorem mem_keys_iff {m : OrderedMap κ α} {k : κ} : k ∈ m.keys ↔ ∃ a, m.get? k = some a := by
  rw [← contains_iff, contains, Option.isSome_iff_exists]

theorem mem_values_iff {m : OrderedMap κ α} {a : α} : a ∈ m.values ↔ ∃ k, m.get? k = some a := by
  simp only [values, List.mem_map, Prod.exists, exists_eq_right, mem_toList]

theorem contains_of_get? {m : OrderedMap κ α} {k : κ} {a : α} (found : m.get? k = some a) :
    m.contains k = true := by
  rw [contains, found]
  rfl

theorem toList_foldl_insert {m : OrderedMap κ α} {es : List (κ × α)}
    (distinct : ((m.toList ++ es).map Prod.fst).Nodup) :
    (es.foldl (fun m e => m.insert e.1 e.2) m).toList = m.toList ++ es := by
  induction es generalizing m with
  | nil => simp
  | cons e es ih =>
    have fresh : e.1 ∉ m.toList.map Prod.fst := by
      intro present
      rw [List.map_append, List.nodup_append] at distinct
      exact distinct.2.2 _ present e.1 (by simp) rfl
    have written : (m.insert e.1 e.2).toList = m.toList ++ [e] := put_of_not_mem fresh
    rw [List.foldl_cons, ih (by rw [written]; simpa using distinct), written]
    simp

/-- Entries with different keys make a map of just these entries. -/
theorem toList_ofList {es : List (κ × α)} (distinct : (es.map Prod.fst).Nodup) :
    (ofList es).toList = es := toList_foldl_insert (m := empty) (by simpa [empty] using distinct)

/-- Writing only free keys, the first entry of a key decides unless the map had one. -/
theorem get?_foldl_insertNew (m : OrderedMap κ α) (es : List (κ × α)) (k : κ) :
    (es.foldl (fun m e => m.insertNew e.1 e.2) m).get? k = (m.get? k).or (es.lookup k) := by
  induction es generalizing m with
  | nil => simp
  | cons e es ih =>
    rw [List.foldl_cons, ih, get?_insertNew]
    by_cases h : e.1 = k
    · subst h
      cases m.get? e.1 <;> simp [lookup_cons]
    · simp [lookup_cons, h]

/-- Writing only free keys keeps the entries of the map in front. -/
theorem toList_foldl_insertNew (m : OrderedMap κ α) (es : List (κ × α)) :
    ∃ new, (es.foldl (fun m e => m.insertNew e.1 e.2) m).toList = m.toList ++ new ∧
      ∀ e ∈ new, e ∈ es := by
  induction es generalizing m with
  | nil => exact ⟨[], (List.append_nil _).symm, nofun⟩
  | cons e es ih =>
    obtain ⟨new, eq, sub⟩ := ih (m.insertNew e.1 e.2)
    have later : ∀ f ∈ new, f ∈ e :: es := fun f mem => .tail _ (sub f mem)
    rw [List.foldl_cons, eq]
    by_cases taken : m.contains e.1 = true
    · refine ⟨new, ?_, later⟩
      rw [insertNew, if_pos taken]
    · have fresh : e.1 ∉ m.toList.map Prod.fst := fun mem => taken (contains_iff.mpr mem)
      have written : (m.insert e.1 e.2).toList = m.toList ++ [e] := put_of_not_mem fresh
      refine ⟨e :: new, ?_, List.forall_mem_cons.mpr ⟨.head _, later⟩⟩
      rw [insertNew, if_neg taken, written]
      simp

theorem toList_insertNew (m : OrderedMap κ α) (k : κ) (a : α) :
    (m.insertNew k a).toList = if m.contains k then m.toList else m.toList ++ [(k, a)] := by
  unfold insertNew
  split
  · rfl
  · rename_i fresh
    exact put_of_not_mem fun mem => fresh (contains_iff.mpr mem)

theorem contains_foldl_insertNew (m : OrderedMap κ α) {e : κ × α} {es : List (κ × α)}
    (mem : e ∈ es) : (es.foldl (fun m e => m.insertNew e.1 e.2) m).contains e.1 = true := by
  have listed : (es.lookup e.1).isSome = true :=
    lookup_isSome_iff_mem.mpr (List.mem_map_of_mem mem)
  rw [contains, get?_foldl_insertNew, Option.isSome_or, listed, Bool.or_true]

theorem toList_prefix_foldl_insertNew (m : OrderedMap κ α) (es : List (κ × α)) :
    m.toList <+: (es.foldl (fun m e => m.insertNew e.1 e.2) m).toList := by
  obtain ⟨new, entries, -⟩ := m.toList_foldl_insertNew es
  exact ⟨new, entries.symm⟩

theorem eq_of_get?_insertNew {m : OrderedMap κ α} {k j : κ} {a b : α}
    (found : (m.insertNew k a).get? j = some b) : m.get? j = some b ∨ k = j ∧ a = b := by
  rw [get?_insertNew] at found
  split at found
  · rename_i same
    subst same
    cases present : m.get? k with
    | some old =>
      rw [present] at found
      exact .inl found
    | none =>
      rw [present] at found
      exact .inr ⟨rfl, Option.some.inj found⟩
  · exact .inl found

/-! ## Mapped values -/

theorem lookup_map_values (f : κ → α → β) (k : κ) (es : List (κ × α)) :
    List.lookup k (es.map fun e => (e.1, f e.1 e.2)) = (es.lookup k).map (f k) := by
  induction es with
  | nil => rfl
  | cons e es ih =>
    by_cases h : e.1 = k
    · simp [lookup_cons, h]
    · simp [lookup_cons, h, ih]

theorem get?_mapValues (f : κ → α → β) (m : OrderedMap κ α) (k : κ) :
    (m.mapValues f).get? k = (m.get? k).map (f k) := lookup_map_values f k m.toList

omit [DecidableEq κ] in
@[simp] theorem mapValues_id (m : OrderedMap κ α) : (m.mapValues fun _ a => a) = m :=
  ext (List.map_id' m.toList)

omit [DecidableEq κ] in
theorem mapValues_eq_self {m : OrderedMap κ α} {f : κ → α → α}
    (still : ∀ e ∈ m.toList, f e.1 e.2 = e.2) : m.mapValues f = m := by
  apply ext
  calc m.toList.map (fun e => (e.1, f e.1 e.2))
      = m.toList.map id := List.map_congr_left fun e mem => Prod.ext rfl (still e mem)
    _ = m.toList := List.map_id _

omit [DecidableEq κ] in
theorem mapValues_mapValues {γ : Type} (f : κ → α → β) (g : κ → β → γ) (m : OrderedMap κ α) :
    (m.mapValues f).mapValues g = m.mapValues fun k a => g k (f k a) := ext List.map_map

theorem map_put (f : κ → α → β) (k : κ) (a : α) (es : List (κ × α)) :
    (put k a es).map (fun e => (e.1, f e.1 e.2)) =
      put k (f k a) (es.map fun e => (e.1, f e.1 e.2)) := by
  induction es with
  | nil => rfl
  | cons e es ih =>
    by_cases here : e.1 = k
    · simp only [put, List.map_cons, if_pos here]
    · simp only [put, List.map_cons, if_neg here, ih]

theorem mapValues_insert (f : κ → α → β) (m : OrderedMap κ α) (k : κ) (a : α) :
    (m.insert k a).mapValues f = (m.mapValues f).insert k (f k a) :=
  ext (map_put f k a m.toList)

omit [DecidableEq κ] in
/-- Changing the values one after the other, key by key. -/
theorem foldl_mapValues {τ : Type} (f : τ → κ → α → α) (m : OrderedMap κ α) (xs : List τ) :
    xs.foldl (fun m x => m.mapValues (f x)) m =
      m.mapValues fun k a => xs.foldl (fun a x => f x k a) a := by
  induction xs generalizing m with
  | nil => exact m.mapValues_id.symm
  | cons x xs ih =>
    rw [List.foldl_cons, ih, mapValues_mapValues]
    rfl

/-! ## Maps that hold the same -/

theorem lookup_ext {es ds : List (κ × α)} (keys : es.map Prod.fst = ds.map Prod.fst)
    (distinct : (es.map Prod.fst).Nodup) (same : ∀ k, es.lookup k = ds.lookup k) : es = ds := by
  induction es generalizing ds with
  | nil => exact (List.map_eq_nil_iff.mp keys.symm).symm
  | cons e es ih =>
    cases ds with
    | nil => cases keys
    | cons d ds =>
      obtain ⟨head, tail⟩ := List.cons.inj keys
      obtain ⟨fresh, others⟩ := List.nodup_cons.mp distinct
      have first := same e.1
      rw [lookup_cons, lookup_cons, if_pos rfl, if_pos head.symm] at first
      have rest : ∀ k, es.lookup k = ds.lookup k := by
        intro k
        by_cases here : e.1 = k
        · subst here
          rw [lookup_eq_none_iff.mpr fresh, lookup_eq_none_iff.mpr (tail ▸ fresh)]
        · have later := same k
          rwa [lookup_cons, lookup_cons, if_neg here, if_neg (head ▸ here)] at later
      rw [Prod.ext head (Option.some.inj first), ih tail others rest]

/-- Maps are equal when they have the same keys in the same order, with the same values. -/
theorem ext_get? {m n : OrderedMap κ α} (keys : m.keys = n.keys)
    (same : ∀ k, m.get? k = n.get? k) : m = n := ext (lookup_ext keys m.nodup same)

/-- The same is found under every key when the entries are the same, in whatever order. -/
theorem perm_iff_get? {m n : OrderedMap κ α} :
    m.toList.Perm n.toList ↔ ∀ k, m.get? k = n.get? k := by
  rw [List.perm_ext_iff_of_nodup (.of_map _ m.nodup) (.of_map _ n.nodup), Prod.forall]
  simp only [mem_toList]
  exact forall_congr' fun k => Option.ext_iff.symm

omit [DecidableEq κ] in
theorem forall₂_map_snd {R : α → β → Prop} {es : List (κ × α)} {ds : List (κ × β)}
    (keys : es.map Prod.fst = ds.map Prod.fst)
    (related : ∀ k a b, (k, a) ∈ es → (k, b) ∈ ds → R a b) :
    List.Forall₂ R (es.map Prod.snd) (ds.map Prod.snd) := by
  induction es generalizing ds with
  | nil =>
    rw [List.map_eq_nil_iff.mp keys.symm]
    exact .nil
  | cons e es ih =>
    cases ds with
    | nil => cases keys
    | cons d ds =>
      obtain ⟨head, tail⟩ := List.cons.inj keys
      have here : (e.1, d.2) ∈ d :: ds := by
        rw [head]
        exact .head _
      refine .cons (related e.1 e.2 d.2 (.head _) here) (ih tail fun k a b own other => ?_)
      exact related k a b (.tail _ own) (.tail _ other)

/-- Values under the same keys, in the order of the keys. -/
theorem forall₂_values {R : α → β → Prop} {m : OrderedMap κ α} {n : OrderedMap κ β}
    (keys : m.keys = n.keys)
    (related : ∀ k a b, m.get? k = some a → n.get? k = some b → R a b) :
    List.Forall₂ R m.values n.values :=
  forall₂_map_snd keys fun k a b own other =>
    related k a b (mem_toList.mp own) (mem_toList.mp other)

theorem modify_eq_mapValues (m : OrderedMap κ α) (k : κ) (f : α → α) :
    m.modify k f = m.mapValues fun j a => if k = j then f a else a := by
  apply ext_get?
  · rw [keys_modify, keys_mapValues]
  · intro j
    rw [get?_modify, get?_mapValues]
    by_cases here : k = j
    · simp only [if_pos here]
    · simp only [if_neg here, Option.map_id']

/-! ## Some of the keys -/

theorem filter_put (p : κ → Bool) (k : κ) (a : α) (es : List (κ × α)) :
    (put k a es).filter (fun e => p e.1) =
      if p k then put k a (es.filter fun e => p e.1) else es.filter fun e => p e.1 := by
  induction es with
  | nil => by_cases own : p k = true <;> simp [put, own]
  | cons e es ih =>
    by_cases here : e.1 = k
    · subst here
      by_cases own : p e.1 = true
      · simp [put, own]
      · simp [put, own]
    · by_cases other : p e.1 = true
      · by_cases own : p k = true
        · simp [put, here, other, own, ih]
        · simp [put, here, other, own, ih]
      · simp [put, here, other, ih]

theorem filterKeys_insert (p : κ → Bool) (m : OrderedMap κ α) (k : κ) (a : α) :
    (m.insert k a).filterKeys p = if p k then (m.filterKeys p).insert k a else m.filterKeys p := by
  apply ext
  have entries : ((m.insert k a).filterKeys p).toList = _ := filter_put p k a m.toList
  rw [entries]
  split
  · rfl
  · rfl

theorem lookup_filter {p : κ → Bool} {k : κ} (own : p k = true) (es : List (κ × α)) :
    List.lookup k (es.filter fun e => p e.1) = es.lookup k := by
  induction es with
  | nil => rfl
  | cons e es ih =>
    by_cases here : e.1 = k
    · subst here
      simp [lookup_cons, own]
    · by_cases kept : p e.1 = true
      · simp [lookup_cons, here, kept, ih]
      · simp [lookup_cons, here, kept, ih]

theorem get?_filterKeys {p : κ → Bool} {k : κ} (own : p k = true) (m : OrderedMap κ α) :
    (m.filterKeys p).get? k = m.get? k := lookup_filter own m.toList

theorem get?_filterKeys_eq_some_iff {p : κ → Bool} {m : OrderedMap κ α} {k : κ} {a : α} :
    (m.filterKeys p).get? k = some a ↔ p k = true ∧ m.get? k = some a := by
  rw [← mem_toList, ← mem_toList]
  exact List.mem_filter.trans and_comm

theorem filterKeys_insertNew (p : κ → Bool) (m : OrderedMap κ α) (k : κ) (a : α) :
    (m.insertNew k a).filterKeys p =
      if p k then (m.filterKeys p).insertNew k a else m.filterKeys p := by
  unfold insertNew contains
  by_cases own : p k = true
  · rw [if_pos own, get?_filterKeys own]
    split
    · rfl
    · rw [filterKeys_insert, if_pos own]
  · rw [if_neg own]
    split
    · rfl
    · rw [filterKeys_insert, if_neg own]

end OrderedMap

/-! ## Lists without repetitions -/

section AddNew
variable {α : Type} [DecidableEq α]

theorem mem_addNew {xs : List α} {x y : α} : y ∈ addNew xs x ↔ y ∈ xs ∨ y = x := by
  unfold addNew
  split
  · rename_i present
    constructor
    · exact .inl
    · rintro (old | rfl)
      · exact old
      · exact present
  · simp

theorem addNew_of_mem {xs : List α} {x : α} (present : x ∈ xs) : addNew xs x = xs := if_pos present

theorem addNew_of_not_mem {xs : List α} {x : α} (fresh : x ∉ xs) : addNew xs x = xs ++ [x] :=
  if_neg fresh

/-- What was there stays in front, and what is new follows in the order of its first
occurrences. -/
theorem foldl_addNew_eq (xs ys : List α) :
    ys.foldl addNew xs = xs ++ (ys.filter (· ∉ xs)).eraseDups := by
  induction ys using List.reverseRecOn with
  | nil => exact (List.append_nil xs).symm
  | append_singleton ys y ih =>
    rw [List.foldl_append, List.foldl_cons, List.foldl_nil, ih, List.filter_append]
    by_cases old : y ∈ xs
    · rw [addNew_of_mem (List.mem_append_left _ old)]
      simp [old]
    · have last : [y].filter (· ∉ xs) = [y] := by simp [old]
      rw [last, List.eraseDups_append]
      by_cases again : y ∈ ys
      · have mem : y ∈ ys.filter (· ∉ xs) := List.mem_filter.mpr ⟨again, by simpa using old⟩
        rw [addNew_of_mem (List.mem_append_right _ (List.mem_eraseDups.mpr mem))]
        simp [List.removeAll, again, old]
      · have alone : [y].removeAll (ys.filter (· ∉ xs)) = [y] := by simp [List.removeAll, again]
        rw [addNew_of_not_mem (by simp [old, again]), alone, List.append_assoc]
        rfl

theorem foldl_addNew_nil (ys : List α) : ys.foldl addNew [] = ys.eraseDups := by
  rw [foldl_addNew_eq, List.nil_append]
  congr 1
  simp

/-- The keys of a map made from entries, in the order in which they come first. -/
theorem OrderedMap.keys_ofList {β : Type} (es : List (α × β)) :
    (ofList es).keys = (es.map Prod.fst).eraseDups := by
  rw [← foldl_addNew_nil, List.foldl_map]
  exact (List.foldl_hom keys fun m e => (keys_insert m e.1 e.2).symm).symm

theorem foldl_addNew_eq_append (xs ys : List α) :
    ∃ new, ys.foldl addNew xs = xs ++ new ∧ ∀ y ∈ new, y ∈ ys :=
  ⟨_, foldl_addNew_eq xs ys, fun _ mem => (List.mem_filter.mp (List.mem_eraseDups.mp mem)).1⟩

theorem mem_foldl_addNew {xs ys : List α} {y : α} : y ∈ ys.foldl addNew xs ↔ y ∈ xs ∨ y ∈ ys := by
  induction ys generalizing xs with
  | nil => simp
  | cons z ys ih => rw [List.foldl_cons, ih, mem_addNew, List.mem_cons, or_assoc]

theorem nodup_foldl_addNew {xs : List α} (distinct : xs.Nodup) (ys : List α) :
    (ys.foldl addNew xs).Nodup := by
  apply List.foldlRecOn ys addNew distinct
  intro zs distinct y _
  unfold addNew
  split
  · exact distinct
  · rename_i fresh
    refine List.nodup_append.mpr ⟨distinct, List.nodup_singleton y, ?_⟩
    rintro z mem w last rfl
    rw [List.mem_singleton.mp last] at mem
    exact fresh mem

/-- Where something comes first does not depend on whether it is added again. -/
theorem eraseDups_foldl_addNew (xs ys : List α) :
    (ys.foldl addNew xs).eraseDups = (xs ++ ys).eraseDups := by
  have adds : ∀ (zs : List α) y, addNew (zs.foldl addNew []) y = (addNew zs y).foldl addNew [] := by
    intro zs y
    by_cases old : y ∈ zs
    · rw [addNew_of_mem old, addNew_of_mem (mem_foldl_addNew.mpr (.inr old))]
    · rw [addNew_of_not_mem old, List.foldl_append]
      rfl
  rw [← foldl_addNew_nil, ← foldl_addNew_nil, List.foldl_append]
  exact (List.foldl_hom (List.foldl addNew []) adds).symm

theorem map_foldl_addNew {β : Type} [DecidableEq β] {f : α → β} (injective : Function.Injective f)
    (xs ys : List α) : (ys.foldl addNew xs).map f = (ys.map f).foldl addNew (xs.map f) := by
  rw [List.foldl_map]
  refine (List.foldl_hom (List.map f) fun zs y => ?_).symm
  by_cases old : y ∈ zs
  · rw [addNew_of_mem old, addNew_of_mem (List.mem_map_of_mem old)]
  · have fresh : f y ∉ zs.map f := fun mem => old ((List.mem_map_of_injective injective).mp mem)
    rw [addNew_of_not_mem old, addNew_of_not_mem fresh, List.map_append]
    rfl

/-- Where all that is added is the same, it is there once. -/
theorem foldl_addNew_eq_singleton {ys : List α} {x : α} (mem : x ∈ ys) (same : ∀ y ∈ ys, y = x) :
    ys.foldl addNew [] = [x] := by
  cases ys with
  | nil => cases mem
  | cons y ys =>
    obtain rfl := same y (.head _)
    have rest : ys.filter (· ∉ [y]) = [] := by
      rw [List.filter_eq_nil_iff]
      intro z later
      rw [same z (.tail _ later)]
      simp
    rw [List.foldl_cons, addNew_of_not_mem List.not_mem_nil, foldl_addNew_eq, List.nil_append, rest]
    rfl

end AddNew

/-! ## Steps over a list -/

theorem getElem?_of_prefix {α : Type} {xs ys : List α} (earlier : xs <+: ys) {i : Nat} {x : α}
    (there : xs[i]? = some x) : ys[i]? = some x := by
  obtain ⟨bound, rfl⟩ := List.getElem?_eq_some_iff.mp there
  exact List.prefix_iff_getElem?.mp earlier i bound

/-- What steps add to a list that is observed, all of them add together. -/
theorem foldl_accumulates {σ τ α : Type} (observe : σ → List α) {step : σ → τ → σ}
    {more : τ → List α} {xs : List τ}
    (adds : ∀ s, ∀ x ∈ xs, observe (step s x) = observe s ++ more x) (s : σ) :
    observe (xs.foldl step s) = observe s ++ xs.flatMap more := by
  induction xs generalizing s with
  | nil => simp
  | cons x xs ih =>
    have rest := ih (fun s y mem => adds s y (.tail _ mem)) (step s x)
    rw [List.foldl_cons, rest, adds s x (.head _), List.flatMap_cons, List.append_assoc]

/-- What each step adds to what was there, all of them add together. -/
theorem foldl_gathers {σ τ : Type} {P : σ → Prop} {Q : τ → Prop} {step : σ → τ → σ}
    (adds : ∀ s x, P (step s x) ↔ P s ∨ Q x) (s : σ) (xs : List τ) :
    P (xs.foldl step s) ↔ P s ∨ ∃ x ∈ xs, Q x := by
  induction xs generalizing s with
  | nil => simp
  | cons x xs ih => simp only [List.foldl_cons, ih, adds, List.mem_cons, exists_eq_or_imp, or_assoc]

/-- What some steps leave as it is follows the other steps alone. -/
theorem foldl_filter_hom {σ τ γ : Type} (observe : σ → γ) (relevant : τ → Bool)
    {step : σ → τ → σ} {step' : γ → τ → γ} {xs : List τ}
    (skip : ∀ s, ∀ x ∈ xs, relevant x = false → observe (step s x) = observe s)
    (follow : ∀ s, ∀ x ∈ xs, relevant x = true → observe (step s x) = step' (observe s) x) (s : σ) :
    observe (xs.foldl step s) = (xs.filter relevant).foldl step' (observe s) := by
  induction xs generalizing s with
  | nil => rfl
  | cons x xs ih =>
    have rest := ih (fun s y mem => skip s y (.tail _ mem))
      (fun s y mem => follow s y (.tail _ mem)) (step s x)
    rw [List.foldl_cons, rest]
    by_cases own : relevant x = true
    · rw [List.filter_cons_of_pos own, List.foldl_cons, follow s x (.head _) own]
    · rw [List.filter_cons_of_neg own, skip s x (.head _) (by simpa using own)]

theorem foldl_keeps {σ τ γ : Type} (observe : σ → γ) {step : σ → τ → σ} {xs : List τ}
    (skip : ∀ s, ∀ x ∈ xs, observe (step s x) = observe s) (s : σ) :
    observe (xs.foldl step s) = observe s := by
  apply List.foldlRecOn (motive := fun t => observe t = observe s) xs step rfl
  intro t kept x mem
  exact (skip t x mem).trans kept

/-- Two runs of steps that are seen to do the same in equal states look the same in the end, if they
differ only in steps that are not seen. -/
theorem foldl_observed {σ τ γ : Type} (observe : σ → γ) (seen : τ → Bool) {step : σ → τ → σ}
    (respects : ∀ s x, seen x = false → observe (step s x) = observe s)
    (consistent : ∀ s t x, observe s = observe t → observe (step s x) = observe (step t x))
    {xs ys : List τ} (same : xs.filter seen = ys.filter seen) (s : σ) :
    observe (xs.foldl step s) = observe (ys.foldl step s) := by
  have unseen : ∀ (xs : List τ) (s t : σ), observe s = observe t →
      observe (xs.foldl step s) = observe ((xs.filter seen).foldl step t) := by
    intro xs
    induction xs with
    | nil => exact fun s t start => start
    | cons x xs ih =>
      intro s t start
      by_cases own : seen x = true
      · rw [List.filter_cons_of_pos own]
        exact ih _ _ (consistent s t x start)
      · rw [List.filter_cons_of_neg own]
        exact ih _ _ ((respects s x (by simpa using own)).trans start)
  rw [unseen xs s s rfl, unseen ys s s rfl, same]

/-- What is kept of all lists together, if a list is kept as a whole or not at all. -/
theorem filter_flatMap_of {α τ : Type} (q : α → Bool) (r : τ → Bool) {f : τ → List α} {xs : List τ}
    (own : ∀ x ∈ xs, ∀ a ∈ f x, q a = r x) : (xs.flatMap f).filter q = (xs.filter r).flatMap f := by
  induction xs with
  | nil => rfl
  | cons x xs ih =>
    have rest := ih fun y mem => own y (.tail _ mem)
    rw [List.flatMap_cons, List.filter_append, rest]
    by_cases kept : r x = true
    · have all : (f x).filter q = f x := by
        apply List.filter_eq_self.mpr
        intro a mem
        rw [own x (.head _) a mem, kept]
      rw [all, List.filter_cons_of_pos kept, List.flatMap_cons]
    · have none : (f x).filter q = [] := by
        apply List.filter_eq_nil_iff.mpr
        intro a mem
        rw [own x (.head _) a mem]
        exact kept
      rw [none, List.filter_cons_of_neg kept, List.nil_append]

theorem flatMap_filter {α τ : Type} (r : τ → Bool) (f : τ → List α) (xs : List τ) :
    (xs.filter r).flatMap f = xs.flatMap fun x => if r x then f x else [] := by
  induction xs with
  | nil => rfl
  | cons x xs ih =>
    rw [List.filter_cons, List.flatMap_cons]
    split
    · rw [List.flatMap_cons, ih]
    · exact ih

theorem OrderedMap.filterKeys_ofList {κ α : Type} [DecidableEq κ] (p : κ → Bool)
    (es : List (κ × α)) : (ofList es).filterKeys p = ofList (es.filter fun e => p e.1) := by
  unfold ofList
  apply foldl_filter_hom (fun m : OrderedMap κ α => m.filterKeys p) fun e : κ × α => p e.1
  · intro m e _ other
    simp [filterKeys_insert, other]
  · intro m e _ own
    simp [filterKeys_insert, own]

/-! ## First and last -/

section Ends
variable {α β : Type} {P Q : α → Prop} {xs : List α} {x : α}

/-- The element has the property, and none in front of it does. -/
def IsFirst (P : α → Prop) (xs : List α) (x : α) : Prop :=
  ∃ before after, xs = before ++ x :: after ∧ P x ∧ ∀ y ∈ before, ¬ P y

/-- The element has the property, and none behind it does. -/
def IsLast (P : α → Prop) (xs : List α) (x : α) : Prop :=
  ∃ before after, xs = before ++ x :: after ∧ P x ∧ ∀ y ∈ after, ¬ P y

theorem isFirst_reverse_iff : IsFirst P xs.reverse x ↔ IsLast P xs x := by
  constructor
  · rintro ⟨after, before, reversed, own, later⟩
    have split := congrArg List.reverse reversed
    refine ⟨before.reverse, after.reverse, by simpa using split, own, fun y mem => ?_⟩
    exact later y (List.mem_reverse.mp mem)
  · rintro ⟨before, after, rfl, own, later⟩
    refine ⟨after.reverse, before.reverse, by simp, own, fun y mem => ?_⟩
    exact later y (List.mem_reverse.mp mem)

theorem IsFirst.mem (first : IsFirst P xs x) : x ∈ xs := by
  obtain ⟨before, after, rfl, -⟩ := first
  exact List.mem_append_right _ (.head _)

theorem IsFirst.holds (first : IsFirst P xs x) : P x := by
  obtain ⟨-, -, -, own, -⟩ := first
  exact own

theorem IsFirst.eq_head {y : α} (first : IsFirst P (x :: xs) y) (own : P x) : y = x := by
  obtain ⟨before, after, split, -, earlier⟩ := first
  cases before with
  | nil => exact (List.cons.inj split).1.symm
  | cons z before =>
    obtain ⟨rfl, -⟩ := List.cons.inj split
    exact absurd own (earlier x (.head _))

theorem IsLast.mem (last : IsLast P xs x) : x ∈ xs := by
  obtain ⟨before, after, rfl, -⟩ := last
  exact List.mem_append_right _ (.head _)

theorem IsLast.holds (last : IsLast P xs x) : P x := by
  obtain ⟨-, -, -, own, -⟩ := last
  exact own

theorem isFirst_congr (same : ∀ y ∈ xs, P y ↔ Q y) : IsFirst P xs x ↔ IsFirst Q xs x := by
  unfold IsFirst
  refine exists₂_congr fun before after => and_congr_right fun split => ?_
  have here : ∀ y ∈ before ++ x :: after, P y ↔ Q y := split ▸ same
  rw [here x (List.mem_append_right _ (.head _))]
  refine and_congr_right fun _ => forall₂_congr fun y mem => ?_
  rw [here y (List.mem_append_left _ mem)]

theorem isLast_congr (same : ∀ y ∈ xs, P y ↔ Q y) : IsLast P xs x ↔ IsLast Q xs x := by
  rw [← isFirst_reverse_iff, ← isFirst_reverse_iff]
  exact isFirst_congr fun y mem => same y (List.mem_reverse.mp mem)

/-- What comes in front does not matter for the last one. -/
theorem IsLast.append_left {ys : List α} (last : IsLast P ys x) (xs : List α) :
    IsLast P (xs ++ ys) x := by
  obtain ⟨before, after, rfl, own, later⟩ := last
  exact ⟨xs ++ before, after, (List.append_assoc ..).symm, own, later⟩

theorem findSome?_eq_some_iff_isFirst {f : α → Option β} {b : β} :
    xs.findSome? f = some b ↔ ∃ x, IsFirst (fun y => (f y).isSome = true) xs x ∧ f x = some b := by
  rw [List.findSome?_eq_some_iff]
  constructor
  · rintro ⟨before, x, after, split, found, earlier⟩
    have given : (f x).isSome = true := Option.isSome_iff_exists.mpr ⟨b, found⟩
    refine ⟨x, ⟨before, after, split, given, fun y mem => ?_⟩, found⟩
    exact Option.not_isSome_iff_eq_none.mpr (earlier y mem)
  · rintro ⟨x, ⟨before, after, split, -, earlier⟩, found⟩
    refine ⟨before, x, after, split, found, fun y mem => ?_⟩
    exact Option.not_isSome_iff_eq_none.mp (earlier y mem)

theorem exists_isFirst (mem : x ∈ xs) (own : P x) : ∃ y, IsFirst P xs y := by
  induction xs with
  | nil => cases mem
  | cons y ys ih =>
    by_cases head : P y
    · exact ⟨y, [], ys, rfl, head, nofun⟩
    · have later : x ∈ ys := (List.mem_cons.mp mem).resolve_left fun same => head (same ▸ own)
      obtain ⟨z, before, after, rfl, found, earlier⟩ := ih later
      exact ⟨z, y :: before, after, rfl, found, List.forall_mem_cons.mpr ⟨head, earlier⟩⟩

theorem exists_isLast (mem : x ∈ xs) (own : P x) : ∃ y, IsLast P xs y := by
  obtain ⟨y, first⟩ := exists_isFirst (List.mem_reverse.mpr mem) own
  exact ⟨y, isFirst_reverse_iff.mp first⟩

/-- Where all values are the same, any of them is the last one. -/
theorem getLast?_eq_some_iff_mem {b : β} {ys : List β} (same : ∀ a ∈ ys, ∀ b ∈ ys, a = b) :
    ys.getLast? = some b ↔ b ∈ ys := by
  constructor
  · exact List.mem_of_getLast?
  · intro mem
    obtain ⟨a, last⟩ :=
      Option.isSome_iff_exists.mp (List.getLast?_isSome.mpr (List.ne_nil_of_mem mem))
    rw [last, same a (List.mem_of_getLast? last) b mem]

/-- Where the last writer wins, what is read is what was written last. -/
theorem foldl_last {σ τ : Type} (read : σ → Option β) {write : τ → Option β} {step : σ → τ → σ}
    (writes : ∀ s x, read (step s x) = (write x).or (read s)) (s : σ) (xs : List τ) :
    read (xs.foldl step s) = ((xs.filterMap write).getLast?).or (read s) := by
  induction xs generalizing s with
  | nil => rfl
  | cons x xs ih =>
    rw [List.foldl_cons, ih, writes]
    cases wrote : write x with
    | none => rw [List.filterMap_cons_none wrote, Option.none_or]
    | some b =>
      rw [List.filterMap_cons_some wrote, Option.some_or, List.getLast?_cons]
      cases (xs.filterMap write).getLast? <;> rfl

end Ends
/-! ## Doing things in another order -/

section Commute
variable {σ τ : Type} {step : σ → τ → σ}

theorem foldl_past {x : τ} {ys : List τ}
    (comm : ∀ y ∈ ys, ∀ s, step (step s x) y = step (step s y) x) (s : σ) :
    ys.foldl step (step s x) = step (ys.foldl step s) x := by
  induction ys generalizing s with
  | nil => rfl
  | cons y ys ih =>
    rw [List.foldl_cons, comm y (.head _), List.foldl_cons]
    exact ih (fun z later => comm z (.tail _ later)) (step s y)

theorem foldl_comm_of {xs ys : List τ}
    (comm : ∀ x ∈ xs, ∀ y ∈ ys, ∀ s, step (step s x) y = step (step s y) x) (s : σ) :
    ys.foldl step (xs.foldl step s) = xs.foldl step (ys.foldl step s) := by
  induction xs generalizing s with
  | nil => rfl
  | cons x xs ih =>
    rw [List.foldl_cons, List.foldl_cons, ← foldl_past (comm x (.head _))]
    exact ih (fun z later => comm z (.tail _ later)) (step s x)

end Commute

/-- Lists of which no two hold anything make the same list in any order. -/
theorem flatMap_eq_of_perm {α β : Type} {f : α → List β} {xs ys : List α} (perm : xs.Perm ys)
    (one : ∀ x ∈ xs, ∀ y ∈ xs, x ≠ y → f x = [] ∨ f y = []) : xs.flatMap f = ys.flatMap f := by
  rw [List.flatMap_eq_foldl, List.flatMap_eq_foldl]
  refine perm.foldl_eq' (fun x mem y mem' made => ?_) []
  by_cases same : x = y
  · rw [same]
  · rcases one x mem y mem' same with nothing | nothing
    · simp [nothing]
    · simp [nothing]

/-- Where every entry of a table has claims of its own, a claim has one owner. -/
theorem owner_unique {τ α : Type} {table : List (τ × List α)} {x y : τ} {as bs : List α} {a : α}
    (disjoint : (table.flatMap Prod.snd).Nodup) (first : (x, as) ∈ table)
    (second : (y, bs) ∈ table) (own : a ∈ as) (own' : a ∈ bs) : x = y := by
  by_contra other
  have pairwise := (List.nodup_flatMap.mp disjoint).2
  have symmetric : Std.Symm (Function.onFun List.Disjoint (@Prod.snd τ (List α))) :=
    ⟨fun _ _ apart _ left right => apart right left⟩
  exact pairwise.forall first second (fun same => other (congrArg Prod.fst same)) own own'

/-- Where every entry of a table has claims of its own, only the owner of a claim adds to what the
claim is about. -/
theorem flatMap_of_owner {τ α β : Type} {table : List (τ × List α)} {f : τ → List β} {x : τ}
    {as : List α} {a : α} (disjoint : (table.flatMap Prod.snd).Nodup) (listed : (x, as) ∈ table)
    (own : a ∈ as) (other : ∀ e ∈ table, a ∉ e.2 → f e.1 = []) :
    (table.map Prod.fst).flatMap f = f x := by
  obtain ⟨before, after, rfl⟩ := List.append_of_mem listed
  rw [List.flatMap_append, List.flatMap_cons, List.nodup_append] at disjoint
  obtain ⟨-, later, earlier⟩ := disjoint
  obtain ⟨-, -, apart⟩ := List.nodup_append.mp later
  have noneBefore : (before.map Prod.fst).flatMap f = [] := by
    apply List.flatMap_eq_nil_iff.mpr
    intro y mem
    obtain ⟨e, there, rfl⟩ := List.mem_map.mp mem
    refine other e (List.mem_append_left _ there) fun taken => ?_
    exact earlier a (List.mem_flatMap.mpr ⟨e, there, taken⟩) a
      (List.mem_append.mpr (.inl own)) rfl
  have noneAfter : (after.map Prod.fst).flatMap f = [] := by
    apply List.flatMap_eq_nil_iff.mpr
    intro y mem
    obtain ⟨e, there, rfl⟩ := List.mem_map.mp mem
    refine other e (List.mem_append_right _ (.tail _ there)) fun taken => ?_
    exact apart a own a (List.mem_flatMap.mpr ⟨e, there, taken⟩) rfl
  rw [List.map_append, List.map_cons, List.flatMap_append, List.flatMap_cons, noneBefore,
    noneAfter, List.nil_append, List.append_nil]

/-! ## Doing everything twice -/

section Twice
variable {σ τ : Type} {step : σ → τ → σ}

/-- A write makes an earlier one of the same kind void, whatever was written in between. -/
theorem foldl_absorbs (repeats : ∀ s x, step (step s x) x = step s x)
    (absorbs : ∀ s x y, step (step (step s x) y) x = step (step s y) x) (s : σ) (x : τ)
    (ys : List τ) : step (ys.foldl step (step s x)) x = step (ys.foldl step s) x := by
  induction ys using List.reverseRecOn with
  | nil => exact repeats s x
  | append_singleton ys y ih =>
    rw [List.foldl_append, List.foldl_append]
    -- The write comes back in front of `y`, where it meets the earlier one.
    calc step (step (ys.foldl step (step s x)) y) x
        = step (step (step (ys.foldl step (step s x)) x) y) x := (absorbs _ x y).symm
      _ = step (step (step (ys.foldl step s) x) y) x := by rw [ih]
      _ = step (step (ys.foldl step s) y) x := absorbs _ x y

theorem foldl_foldl_absorbs (repeats : ∀ s x, step (step s x) x = step s x)
    (absorbs : ∀ s x y, step (step (step s x) y) x = step (step s y) x) (s : σ) (xs ys : List τ) :
    xs.foldl step (ys.foldl step (xs.foldl step s)) = xs.foldl step (ys.foldl step s) := by
  induction xs using List.reverseRecOn generalizing ys with
  | nil => rfl
  | append_singleton xs x ih =>
    -- The last write of the first round counts as one of those in between.
    have earlier := ih (x :: ys)
    simp only [List.foldl_append, List.foldl_cons, List.foldl_nil] at earlier ⊢
    rw [earlier, ← List.foldl_append, ← List.foldl_append, foldl_absorbs repeats absorbs]

/-- Where the last writer wins, writing everything once more changes nothing. -/
theorem foldl_twice_of_last (repeats : ∀ s x, step (step s x) x = step s x)
    (absorbs : ∀ s x y, step (step (step s x) y) x = step (step s y) x) (s : σ) (xs : List τ) :
    xs.foldl step (xs.foldl step s) = xs.foldl step s :=
  foldl_foldl_absorbs repeats absorbs s xs []

theorem foldl_of_still {s : σ} {xs : List τ} (still : ∀ x ∈ xs, step s x = s) :
    xs.foldl step s = s := by
  induction xs with
  | nil => rfl
  | cons x xs ih =>
    rw [List.foldl_cons, still x (.head _)]
    exact ih fun y mem => still y (.tail _ mem)

/-- What was done has nothing left to do, if it never has again. -/
theorem foldl_settles (repeats : ∀ s x, step (step s x) x = step s x)
    (stays : ∀ s x y, step s x = s → step (step s y) x = step s y) {s : σ} {x : τ} {xs : List τ}
    (mem : x ∈ xs) : step (xs.foldl step s) x = xs.foldl step s := by
  have kept : ∀ (xs : List τ) (s : σ), step s x = s →
      step (xs.foldl step s) x = xs.foldl step s := by
    intro xs
    induction xs with
    | nil => exact fun s start => start
    | cons y xs ih => exact fun s start => ih (step s y) (stays s x y start)
  induction xs generalizing s with
  | nil => cases mem
  | cons y xs ih =>
    rw [List.foldl_cons]
    rcases List.mem_cons.mp mem with rfl | later
    · exact kept xs (step s x) (repeats s x)
    · exact ih later

/-- Where the first writer wins, writing everything once more changes nothing. -/
theorem foldl_twice_of_first (repeats : ∀ s x, step (step s x) x = step s x)
    (stays : ∀ s x y, step s x = s → step (step s y) x = step s y) (s : σ) (xs : List τ) :
    xs.foldl step (xs.foldl step s) = xs.foldl step s :=
  foldl_of_still fun _ mem => foldl_settles repeats stays mem

end Twice

section AddTwice
variable {α : Type} [DecidableEq α]

theorem foldl_addNew_twice (xs ys : List α) :
    ys.foldl addNew (ys.foldl addNew xs) = ys.foldl addNew xs := by
  have present : ∀ (xs : List α) (x : α), addNew xs x = xs → x ∈ xs :=
    fun xs x same => same ▸ mem_addNew.mpr (.inr rfl)
  apply foldl_twice_of_first
  · intro xs x
    exact addNew_of_mem (mem_addNew.mpr (.inr rfl))
  · intro xs x y same
    exact addNew_of_mem (mem_addNew.mpr (.inl (present xs x same)))

/-- What is added several times in a row is there once. -/
theorem foldl_addNew_copies {β : Type} {copies : List β} (present : copies ≠ []) (xs ys : List α) :
    (copies.flatMap fun _ => ys).foldl addNew xs = ys.foldl addNew xs := by
  induction copies generalizing xs with
  | nil => exact absurd rfl present
  | cons b copies ih =>
    rw [List.flatMap_cons, List.foldl_append]
    by_cases alone : copies = []
    · rw [alone]
      rfl
    · rw [ih alone, foldl_addNew_twice]

/-- What each of several elements adds may be added several times in a row. -/
theorem foldl_addNew_flatMap_copies {τ β : Type} {copies : τ → List β} {zs : List τ}
    (present : ∀ z ∈ zs, copies z ≠ []) (ys : τ → List α) (xs : List α) :
    (zs.flatMap fun z => (copies z).flatMap fun _ => ys z).foldl addNew xs =
      (zs.flatMap ys).foldl addNew xs := by
  induction zs generalizing xs with
  | nil => rfl
  | cons z zs ih =>
    rw [List.flatMap_cons, List.foldl_append, foldl_addNew_copies (present z (.head _)),
      ih fun y mem => present y (.tail _ mem), List.flatMap_cons, List.foldl_append]

end AddTwice

/-! ## Values that may fail -/

section Fallible
variable {α β ε : Type} {f : α → Except ε β}

theorem bind_eq_ok_iff {r : Except ε α} {b : β} :
    r >>= f = .ok b ↔ ∃ a, r = .ok a ∧ f a = .ok b := by
  cases r with
  | ok a =>
    constructor
    · exact fun made => ⟨a, rfl, made⟩
    · rintro ⟨_, ⟨⟩, made⟩
      exact made
  | error why => exact iff_of_false nofun (fun ⟨_, ok, _⟩ => nomatch ok)

theorem mapM_cons_ok_iff {x : α} {xs : List α} {ys : List β} :
    (x :: xs).mapM f = .ok ys ↔ ∃ z zs, f x = .ok z ∧ xs.mapM f = .ok zs ∧ ys = z :: zs := by
  rw [List.mapM_cons, bind_eq_ok_iff]
  constructor
  · rintro ⟨z, first, made⟩
    obtain ⟨zs, rest, same⟩ := bind_eq_ok_iff.mp made
    cases same
    exact ⟨z, zs, first, rest, rfl⟩
  · rintro ⟨z, zs, first, rest, rfl⟩
    exact ⟨z, first, bind_eq_ok_iff.mpr ⟨zs, rest, rfl⟩⟩

theorem exists_mapM_ok_iff {xs : List α} :
    (∃ ys, xs.mapM f = .ok ys) ↔ ∀ x ∈ xs, ∃ y, f x = .ok y := by
  induction xs with
  | nil => exact iff_of_true ⟨[], rfl⟩ nofun
  | cons x xs ih =>
    rw [List.forall_mem_cons, ← ih]
    constructor
    · rintro ⟨_, made⟩
      obtain ⟨z, zs, first, rest, -⟩ := mapM_cons_ok_iff.mp made
      exact ⟨⟨z, first⟩, zs, rest⟩
    · rintro ⟨⟨z, first⟩, zs, rest⟩
      exact ⟨z :: zs, mapM_cons_ok_iff.mpr ⟨z, zs, first, rest, rfl⟩⟩

theorem mem_iff_of_mapM_ok {xs : List α} {ys : List β} (made : xs.mapM f = .ok ys) {y : β} :
    y ∈ ys ↔ ∃ x ∈ xs, f x = .ok y := by
  induction xs generalizing ys with
  | nil =>
    cases made
    simp
  | cons x xs ih =>
    obtain ⟨z, zs, first, rest, rfl⟩ := mapM_cons_ok_iff.mp made
    simp only [List.mem_cons, exists_eq_or_imp, ih rest, first, Except.ok.injEq]
    rw [eq_comm]

end Fallible

end GatewayMigration
