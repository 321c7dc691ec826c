import GatewayMigration.Proofs.Manifest.Reading
import Mathlib.Data.List.Basic
/-!
# Lists and their objects

Loading opens the lists among the documents, but not the lists among their items. Main statements:

* `objectsFrom_eq_ok_iff`: the documents that can be loaded, and what they give;
* `flatMap_leaves_objectsOf`: nothing is lost, since a list that is left stands for its items;
* `flattens_iff`: a file is flattened completely exactly if none of its lists has a list among its
  items.
-/

namespace GatewayMigration

namespace Manifest

/-! ## Items -/

/-- The items of a list; none if they are no collection. -/
def itemsOf (es : ObjectFields) : List Value :=
  match members ((Value.lookup "items" es).getD .null) with
  | .ok vs => vs
  | .error _ => []

theorem sizeOf_lt_of_lookup {k : String} {es : List (Value × Value)} {v : Value}
    (found : Value.lookup k es = some v) : sizeOf v < sizeOf es := by
  obtain ⟨before, after, rfl, -⟩ := List.lookup_eq_some_iff.mp found
  have smaller : sizeOf (Value.string k, v) < sizeOf (before ++ (.string k, v) :: after) :=
    List.sizeOf_lt_of_mem (by simp)
  simp only [Prod.mk.sizeOf_spec] at smaller
  omega

theorem sizeOf_lt_of_mem_members {v w : Value} {vs : List Value} (made : members v = .ok vs)
    (mem : w ∈ vs) : sizeOf w < sizeOf v := by
  cases v with
  | list us | set us =>
    cases made
    have smaller := List.sizeOf_lt_of_mem mem
    simp only [Value.list.sizeOf_spec, Value.set.sizeOf_spec]
    omega
  | mapping es =>
    cases made
    obtain ⟨⟨k, x⟩, inside, rfl⟩ := List.mem_map.mp mem
    have smaller := List.sizeOf_lt_of_mem inside
    simp only [Prod.mk.sizeOf_spec] at smaller
    simp only [Value.mapping.sizeOf_spec]
    omega
  | string s | bytes o =>
    cases made
    cases mem
  | null | bool b | int i | float x | timestamp t =>
    simp only [members] at made
    split at made
    · cases made
      cases mem
    · cases made

/-- An item is smaller than its list. -/
theorem sizeOf_lt_of_mem_itemsOf {es : ObjectFields} {w : Value} (mem : w ∈ itemsOf es) :
    sizeOf w < sizeOf (Value.mapping es) := by
  unfold itemsOf at mem
  split at mem
  · rename_i vs made
    have inner := sizeOf_lt_of_mem_members made mem
    cases found : Value.lookup "items" es with
    | none =>
      rw [found] at made
      cases made
      cases mem
    | some v =>
      have outer := sizeOf_lt_of_lookup found
      rw [found, Option.getD_some] at inner
      simp only [Value.mapping.sizeOf_spec]
      omega
  · cases mem

/-! ## Objects of a document -/

/-- What loading takes a document for: a list for the mappings among its items. -/
def objectsOf : Value → List ObjectFields
  | .mapping es => if isWrapper es then (itemsOf es).filterMap fields? else [es]
  | _ => []

/-- What a value stands for when lists are opened at any depth: the mappings that are no lists. -/
def leaves (v : Value) : List ObjectFields :=
  match v with
  | .mapping es =>
    if isWrapper es then (itemsOf es).attach.flatMap fun w => leaves w.1 else [es]
  | _ => []
termination_by sizeOf v
decreasing_by exact sizeOf_lt_of_mem_itemsOf w.2

theorem leaves_object {es : ObjectFields} (object : isWrapper es = false) :
    leaves (.mapping es) = [es] := by
  rw [leaves, object]
  rfl

theorem leaves_wrapper {es : ObjectFields} (wrapper : isWrapper es = true) :
    leaves (.mapping es) = (itemsOf es).flatMap leaves := by
  rw [leaves, if_pos wrapper, List.flatMap_subtype (fun _ _ => rfl), List.unattach_attach]

theorem eq_mapping_of_fields? {v : Value} {es : ObjectFields} (own : fields? v = some es) :
    v = .mapping es := by
  cases v with
  | mapping ds => exact congrArg Value.mapping (Option.some.inj own)
  | _ => cases own

theorem leaves_of_fields?_eq_none {v : Value} (other : fields? v = none) : leaves v = [] := by
  cases v with
  | mapping es => cases other
  | _ => simp only [leaves]

/-- What loading leaves of a document stands for the same as the document. -/
theorem flatMap_leaves_objectsOf (d : Value) :
    (objectsOf d).flatMap (fun es => leaves (.mapping es)) = leaves d := by
  cases d with
  | mapping es =>
    rw [objectsOf]
    cases wrapper : isWrapper es with
    | false => exact List.flatMap_singleton ..
    | true =>
      rw [if_pos rfl, leaves_wrapper wrapper]
      induction itemsOf es with
      | nil => rfl
      | cons v vs ih =>
        rw [List.flatMap_cons, ← ih]
        cases v with
        | mapping inner => rfl
        | _ => rw [leaves_of_fields?_eq_none rfl]; rfl
  | _ => exact (leaves_of_fields?_eq_none rfl).symm

/-- A list with a list among its items. -/
def Nests (d : Value) : Prop :=
  ∃ es inner, d = .mapping es ∧ isWrapper es = true ∧ .mapping inner ∈ itemsOf es ∧
    isWrapper inner = true

/-- A list is left of a document exactly if it has one among its items. -/
theorem exists_wrapper_iff (d : Value) : (∃ o ∈ objectsOf d, isWrapper o = true) ↔ Nests d := by
  constructor
  · rintro ⟨o, mem, wrapper⟩
    cases d with
    | mapping es =>
      rw [objectsOf] at mem
      split at mem
      · rename_i outer
        obtain ⟨v, inside, own⟩ := List.mem_filterMap.mp mem
        obtain rfl := eq_mapping_of_fields? own
        exact ⟨es, o, rfl, outer, inside, wrapper⟩
      · rename_i object
        rw [List.mem_singleton.mp mem] at wrapper
        exact absurd wrapper object
    | _ => cases mem
  · rintro ⟨es, inner, rfl, outer, inside, wrapper⟩
    refine ⟨inner, ?_, wrapper⟩
    rw [objectsOf, if_pos outer]
    exact List.mem_filterMap.mpr ⟨_, inside, rfl⟩

/-! ## Documents in order -/

theorem opens_mapping_iff {es : ObjectFields} :
    Opens (.mapping es) ↔ ¬ BreaksList (.mapping es) := by
  constructor
  · rintro (null | ⟨_, ⟨⟩, good⟩)
    · cases null
    · exact good
  · exact fun good => .inr ⟨es, rfl, good⟩

theorem eq_objectsOf_of_unwrap {es : ObjectFields} {objects : List ObjectFields}
    (made : unwrap es = .ok objects) : objects = objectsOf (.mapping es) := by
  show objects = if isWrapper es = true then (itemsOf es).filterMap fields? else [es]
  unfold unwrap at made
  unfold itemsOf
  split at made
  · rename_i wrapper
    rw [if_pos wrapper]
    cases items : members ((Value.lookup "items" es).getD .null) with
    | ok vs =>
      rw [items] at made
      exact (Except.ok.inj made).symm
    | error why =>
      rw [items] at made
      cases made
  · rename_i object
    rw [if_neg object]
    exact (Except.ok.inj made).symm

theorem unwrap_eq_ok_iff {es : ObjectFields} {objects : List ObjectFields} :
    unwrap es = .ok objects ↔ Opens (.mapping es) ∧ objects = objectsOf (.mapping es) := by
  rw [opens_mapping_iff]
  rcases unwrap_cases es with ⟨breaks, message, fails⟩ | ⟨good, own, made⟩
  · rw [fails]
    exact iff_of_false nofun fun both => both.1 breaks
  · rw [and_iff_right good, made, ← eq_objectsOf_of_unwrap made]
    constructor
    · exact fun same => (Except.ok.inj same).symm
    · exact fun same => congrArg Except.ok same.symm

/-- Documents can be loaded exactly if all of them open, and give their objects one document after
the other. -/
theorem objectsFrom_eq_ok_iff {file : Option String} {n : Nat} {ds : List Value}
    {objects : List ObjectFields} :
    objectsFrom file n ds = .ok objects ↔
      (∀ d ∈ ds, Opens d) ∧ objects = ds.flatMap objectsOf := by
  induction ds generalizing n objects with
  | nil =>
    constructor
    · rintro ⟨⟩
      exact ⟨nofun, rfl⟩
    · rintro ⟨-, rfl⟩
      rfl
  | cons d ds ih =>
    rw [List.forall_mem_cons, List.flatMap_cons]
    cases d with
    | null =>
      have empty : Opens .null := .inl rfl
      rw [and_iff_right empty]
      exact ih
    | mapping es =>
      rw [objectsFrom_mapping]
      constructor
      · intro made
        obtain ⟨first, opened, made⟩ := bind_eq_ok_iff.mp made
        obtain ⟨more, rest, same⟩ := bind_eq_ok_iff.mp made
        obtain ⟨opens, rfl⟩ := unwrap_eq_ok_iff.mp opened
        obtain ⟨all, rfl⟩ := ih.mp rest
        exact ⟨⟨opens, all⟩, (Except.ok.inj same).symm⟩
      · rintro ⟨⟨opens, all⟩, rfl⟩
        rw [unwrap_eq_ok_iff.mpr ⟨opens, rfl⟩, ih.mpr ⟨all, rfl⟩]
        rfl
    | _ =>
      refine iff_of_false nofun ?_
      rintro ⟨⟨null | ⟨_, mapping, -⟩, -⟩, -⟩
      · cases null
      · cases mapping

/-- The objects are no lists, and they are the mappings that the documents stand for when lists are
opened at any depth, each once and in document order. -/
structure FlattensTo (ds : List Value) (objects : List ObjectFields) : Prop where
  noWrapper : ∀ o ∈ objects, isWrapper o = false
  complete : objects = ds.flatMap leaves

/-- What is loaded from a file stands for all that its documents stand for. It is flattened
completely exactly if no list of the file has a list among its items. -/
theorem flattens_iff {t : FileTree} {path : FilePath} {ds : List Value} (holds : Holds t path ds)
    {objects : List ObjectFields} (loaded : load t path = .ok objects) :
    objects.flatMap (fun es => leaves (.mapping es)) = ds.flatMap leaves ∧
      (FlattensTo ds objects ↔ ∀ d ∈ ds, ¬ Nests d) := by
  rw [load_of_holds holds] at loaded
  obtain ⟨-, rfl⟩ := objectsFrom_eq_ok_iff.mp loaded
  have kept : (ds.flatMap objectsOf).flatMap (fun es => leaves (.mapping es)) =
      ds.flatMap leaves := by
    rw [List.flatMap_assoc]
    exact List.flatMap_congr fun d _ => flatMap_leaves_objectsOf d
  refine ⟨kept, fun flat d mem nests => ?_, fun plain => ?_⟩
  · obtain ⟨o, inside, wrapper⟩ := (exists_wrapper_iff d).mpr nests
    have object := flat.noWrapper o (List.mem_flatMap.mpr ⟨d, mem, inside⟩)
    exact absurd (object.symm.trans wrapper) Bool.false_ne_true
  · have noWrapper : ∀ o ∈ ds.flatMap objectsOf, isWrapper o = false := by
      intro o mem
      obtain ⟨d, listed, inside⟩ := List.mem_flatMap.mp mem
      refine Bool.eq_false_iff.mpr fun wrapper => ?_
      exact plain d listed ((exists_wrapper_iff d).mp ⟨o, inside, wrapper⟩)
    refine ⟨noWrapper, ?_⟩
    rw [← kept, List.flatMap_congr fun o mem => leaves_object (noWrapper o mem),
      List.flatMap_singleton']

/-- A list of these items. -/
def listOf (items : List Value) : ObjectFields :=
  [(.string "kind", .string "List"), (.string "items", .list items)]

def namelessService : ObjectFields := [(.string "kind", .string "Service")]

/-- A list of one Service is flattened. -/
theorem list_flattened :
    let t := oneFile "in.json"
      "\x7b\"kind\": \"List\", \"items\": [\x7b\"kind\": \"Service\"\x7d]\x7d"
    let ds : List Value := [.mapping (listOf [.mapping namelessService])]
    Holds t inJson ds ∧ load t inJson = .ok [namelessService] ∧
      FlattensTo ds [namelessService] := by
  intro t ds
  have holds : Holds t inJson ds := holds_asciiFile (by decide +kernel) (by decide +kernel)
  have loaded : load t inJson = .ok [namelessService] := by
    rw [load_of_holds holds]
    rfl
  refine ⟨holds, loaded, (flattens_iff holds loaded).2.mpr fun d mem => ?_⟩
  cases List.mem_singleton.mp mem
  rintro ⟨es, inner, ⟨⟩, -, inside, wrapper⟩
  cases List.mem_singleton.mp inside
  exact absurd wrapper (by decide)

/-- Of a list in a list the inner one is left, and the Service in it is not found. -/
theorem inner_list_left :
    let t := oneFile "in.json" ("\x7b\"kind\": \"List\", \"items\": [" ++
      "\x7b\"kind\": \"List\", \"items\": [\x7b\"kind\": \"Service\"\x7d]\x7d]\x7d")
    let inner := listOf [.mapping namelessService]
    let ds : List Value := [.mapping (listOf [.mapping inner])]
    Holds t inJson ds ∧ load t inJson = .ok [inner] ∧
      ds.flatMap leaves = [namelessService] ∧ ¬ FlattensTo ds [inner] := by
  intro t inner ds
  have holds : Holds t inJson ds := holds_asciiFile (by decide +kernel) (by decide +kernel)
  have loaded : load t inJson = .ok [inner] := by
    rw [load_of_holds holds]
    rfl
  have opened (v : Value) : leaves (.mapping (listOf [v])) = leaves v := by
    rw [leaves_wrapper rfl]
    exact List.append_nil _
  have found : ds.flatMap leaves = [namelessService] := by
    rw [List.flatMap_singleton, opened, opened, leaves_object rfl]
  refine ⟨holds, loaded, found, fun flat => ?_⟩
  exact absurd (flat.noWrapper inner (.head _)) (by decide)

end Manifest

end GatewayMigration
