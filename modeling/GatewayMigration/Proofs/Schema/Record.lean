import GatewayMigration.Schema.Record
import GatewayMigration.Proofs.Collections
/-!
# What records write, they read back

A record is described field by field, and so are its laws. The fields of a description find their
own entries among those of the whole record, because no other field has one of their spellings. Main
statements:

* `Fields.Lawful.seq`: descriptions that read back what they write do so together;
* `Fields.closed_lawful`: a closed record of such fields is lawful if no spelling occurs twice;
* `Codec.dictionary_lawful`: so is a mapping from texts, order included;
* `Codec.Lawful.roundTrips`: what is read and written once is not changed by a second time.
-/

namespace GatewayMigration

/-! ## Entries -/

/-- The entries of a mapping whose keys are texts. -/
theorem Value.lookup_object (s : String) (fields : List (String × Value)) :
    Value.lookup s (fields.map fun f => (.string f.1, f.2)) = List.lookup s fields := by
  induction fields with
  | nil => rfl
  | cons f fields ih =>
    by_cases here : f.1 = s
    · simp [Value.lookup, OrderedMap.lookup_cons, here]
    · simpa [Value.lookup, OrderedMap.lookup_cons, here] using ih

namespace FieldName

theorem value?_of_lookup {n : FieldName} {es : List (Value × Value)} {v : Value}
    (found : Value.lookup n.name es = some v) :
    n.present? es = some n.name ∧ n.value? es = some v := by
  have first : n.present? es = some n.name := by
    rw [present?, spellings, List.find?_cons_of_pos (by rw [found]; rfl)]
  exact ⟨first, by rw [value?, first, Option.bind_some, found]⟩

theorem value?_of_absent {n : FieldName} {es : List (Value × Value)}
    (absent : ∀ s ∈ n.spellings, Value.lookup s es = none) :
    n.present? es = none ∧ n.value? es = none := by
  have nowhere : n.present? es = none := by
    rw [present?, List.find?_eq_none]
    intro s mem
    rw [absent s mem]
    exact Bool.false_ne_true
  exact ⟨nowhere, by rw [value?, nowhere, Option.bind_none]⟩

end FieldName

/-! ## Fields -/

namespace Fields

variable {ρ α β : Type}

def spellings (d : Fields ρ α) : List String := d.names.flatMap FieldName.spellings

/-- From entries that are, under all spellings of the fields, those that were written, the fields
read what `get` takes from the record. -/
structure Lawful (d : Fields ρ α) (get : ρ → α) : Prop where
  /-- Fields are written under their names. -/
  named : ∀ nulls r, ∀ f ∈ d.write nulls r, ∃ n ∈ d.names, n.name = f.1
  read_write : d.spellings.Nodup → ∀ nulls r es,
    (∀ s ∈ d.spellings, Value.lookup s es = List.lookup s (d.write nulls r)) →
      d.read es = .valid (get r)

theorem mem_spellings_of_name {d : Fields ρ α} {n : FieldName} (mem : n ∈ d.names) :
    n.name ∈ d.spellings := List.mem_flatMap.mpr ⟨n, mem, .head _⟩

/-- Nothing is written under a spelling of other fields. -/
theorem Lawful.lookup_write_eq_none {d : Fields ρ α} {get : ρ → α} (law : d.Lawful get) {s : String}
    (foreign : s ∉ d.spellings) (nulls : Nulls) (r : ρ) :
    List.lookup s (d.write nulls r) = none := by
  rw [OrderedMap.lookup_eq_none_iff]
  intro mem
  obtain ⟨f, written, rfl⟩ := List.mem_map.mp mem
  obtain ⟨n, own, same⟩ := law.named nulls r f written
  exact foreign (same ▸ mem_spellings_of_name own)

/-! ### Single fields -/

section Single
variable {n : FieldName} {c : Codec α}

theorem spellings_singleton {d : Fields ρ β} (names : d.names = [n]) :
    d.spellings = n.spellings := by
  rw [spellings, names, List.flatMap_singleton]

theorem readAt_of_lookup {absent : Checked α} {read : Value → Checked α}
    {es : List (Value × Value)} {v : Value} {a : α}
    (found : Value.lookup n.name es = some v) (valid : read v = .valid a) :
    readAt n absent read es = .valid a := by
  rw [readAt, (FieldName.value?_of_lookup found).2]
  dsimp only
  rw [valid, Checked.under]

/-- A field that is always written is read where it is. -/
theorem read_written {absent : Checked α} (law : c.Lawful) {get : ρ → α} {nulls : Nulls} {r : ρ}
    {es : List (Value × Value)}
    (same : ∀ s ∈ n.spellings,
      Value.lookup s es = List.lookup s [(n.name, c.write nulls (get r))]) :
    readAt n absent c.read es = .valid (get r) := by
  apply readAt_of_lookup _ (law.read_write nulls (get r))
  rw [same n.name (.head _), OrderedMap.lookup_cons, if_pos rfl]

theorem required_lawful (law : c.Lawful) {get : ρ → α} : (required n c get).Lawful get where
  named _ _ _ mem := ⟨n, .head _, by rw [List.mem_singleton.mp mem]⟩
  read_write _ nulls r es same := by
    rw [spellings_singleton (n := n) rfl] at same
    exact read_written law same

theorem defaulted_lawful (law : c.Lawful) {default : α} {get : ρ → α} :
    (defaulted n default c get).Lawful get where
  named _ _ _ mem := ⟨n, .head _, by rw [List.mem_singleton.mp mem]⟩
  read_write _ nulls r es same := by
    rw [spellings_singleton (n := n) rfl] at same
    exact read_written law same

theorem optional_lawful (law : c.Lawful) {get : ρ → Option α} : (optional n c get).Lawful get where
  named nulls r f mem := by
    refine ⟨n, .head _, ?_⟩
    unfold optional at mem
    dsimp only at mem
    split at mem
    · rw [List.mem_singleton.mp mem]
    · rw [List.mem_singleton.mp mem]
    · cases mem
  read_write _ nulls r es same := by
    rw [spellings_singleton (n := n) rfl] at same
    show readAt n _ _ es = _
    cases given : get r with
    | some a =>
      have written : (optional n c get).write nulls r = [(n.name, c.write nulls a)] := by
        simp only [optional, given]
      rw [written] at same
      apply readAt_of_lookup (v := c.write nulls a)
      · rw [same n.name (.head _), OrderedMap.lookup_cons, if_pos rfl]
      · rw [if_neg (law.write_ne_null nulls a), law.read_write nulls a, Checked.map]
    | none =>
      cases nulls with
      | kept =>
        have written : (optional n c get).write .kept r = [(n.name, .null)] := by
          simp only [optional, given]
        rw [written] at same
        apply readAt_of_lookup (v := .null)
        · rw [same n.name (.head _), OrderedMap.lookup_cons, if_pos rfl]
        · rw [if_pos rfl]
      | dropped =>
        have written : (optional n c get).write .dropped r = [] := by
          simp only [optional, given]
        rw [written] at same
        rw [readAt, (FieldName.value?_of_absent same).2]
        rfl

end Single

/-! ### Several fields -/

theorem Lawful.map {d : Fields ρ α} {get : ρ → α} (law : d.Lawful get) (f : α → β) :
    (f <$> d).Lawful fun r => f (get r) where
  named := law.named
  read_write distinct nulls r es same := by
    show (d.read es).map f = _
    rw [law.read_write distinct nulls r es same, Checked.map]

theorem Lawful.seq {d : Fields ρ (α → β)} {e : Fields ρ α} {get : ρ → α → β} {arg : ρ → α}
    (first : d.Lawful get) (second : e.Lawful arg) :
    (d <*> e).Lawful fun r => get r (arg r) where
  named nulls r f mem := by
    rcases List.mem_append.mp mem with own | own
    · obtain ⟨n, there, same⟩ := first.named nulls r f own
      exact ⟨n, List.mem_append_left _ there, same⟩
    · obtain ⟨n, there, same⟩ := second.named nulls r f own
      exact ⟨n, List.mem_append_right _ there, same⟩
  read_write distinct nulls r es same := by
    have all : (d <*> e).spellings = d.spellings ++ e.spellings := List.flatMap_append
    rw [all, List.nodup_append] at distinct
    rw [all] at same
    obtain ⟨left, right, apart⟩ := distinct
    have split : ∀ s, List.lookup s ((d <*> e).write nulls r) =
        (List.lookup s (d.write nulls r)).or (List.lookup s (e.write nulls r)) :=
      fun s => List.lookup_append
    show (d.read es).seq (e.read es) = _
    rw [first.read_write left nulls r es, second.read_write right nulls r es]
    · rfl
    · intro s mem
      have foreign : s ∉ d.spellings := fun other => apart s other s mem rfl
      rw [same s (List.mem_append_right _ mem), split,
        first.lookup_write_eq_none foreign, Option.none_or]
    · intro s mem
      have foreign : s ∉ e.spellings := fun other => apart s mem s other rfl
      rw [same s (List.mem_append_left _ mem), split,
        second.lookup_write_eq_none foreign, Option.or_none]

/-! ### Records -/

/-- No entry that was written is unknown. -/
theorem Lawful.unknown_write {d : Fields ρ α} {get : ρ → α} (law : d.Lawful get) (nulls : Nulls)
    (r : ρ) : d.unknown ((d.write nulls r).map fun f => (.string f.1, f.2)) = [] := by
  rw [unknown, List.filterMap_eq_nil_iff]
  intro e mem
  obtain ⟨f, written, rfl⟩ := List.mem_map.mp mem
  obtain ⟨n, own, same⟩ := law.named nulls r f written
  obtain ⟨v, found⟩ : ∃ v, List.lookup n.name (d.write nulls r) = some v := by
    rw [← Option.isSome_iff_exists, OrderedMap.lookup_isSome_iff_mem, same]
    exact List.mem_map_of_mem written
  rw [← Value.lookup_object] at found
  have present := (FieldName.value?_of_lookup found).1
  rw [same] at present
  exact if_pos (List.contains_iff_mem.mpr (List.mem_filterMap.mpr ⟨n, own, present⟩))

theorem closed_lawful {d : Fields ρ ρ} {get : ρ → ρ} (law : d.Lawful get)
    (whole : ∀ r, get r = r) (distinct : d.spellings.Nodup) : (closed d).Lawful where
  read_write nulls r := by
    have valid := law.read_write distinct nulls r
      ((d.write nulls r).map fun f => (.string f.1, f.2)) fun s _ => Value.lookup_object s _
    show ((d.read _).along (d.unknown _)) = _
    rw [valid, law.unknown_write, whole]
    rfl
  write_ne_null _ _ := by simp [closed, Value.object]

end Fields

/-! ## Dictionaries -/

namespace Codec

variable {α : Type} {c : Codec α}

theorem readEntries_write (law : c.Lawful) (nulls : Nulls) (es : List (String × α)) :
    readEntries c ((es.map fun e => (e.1, c.write nulls e.2)).map fun f => (.string f.1, f.2)) =
      .valid es := by
  induction es with
  | nil => rfl
  | cons e es ih =>
    simp only [List.map_cons, readEntries, law.read_write, ih]
    rfl

theorem dictionary_lawful (law : c.Lawful) : (dictionary c).Lawful where
  read_write nulls m := by
    have kept : OrderedMap.ofList m.toList = m := OrderedMap.ext (OrderedMap.toList_ofList m.nodup)
    show (readEntries c _).map OrderedMap.ofList = _
    rw [readEntries_write law nulls, Checked.map, kept]
  write_ne_null _ _ := by simp [dictionary, Value.object]

/-! ## Reading and writing again -/

/-- What becomes of a document that is read and written without nulls. -/
def normalize (c : Codec α) (v : Value) : Checked Value := (c.read v).map (c.write .dropped)

/-- A manifest is read as what it was written from, and a document that was read and written once
stays as it is when that is done again. -/
structure RoundTrips (c : Codec α) : Prop where
  read_manifest : ∀ a, c.read (c.write .dropped a) = .valid a
  normalize_normalize : ∀ v, (c.normalize v).bind c.normalize = c.normalize v

theorem Lawful.roundTrips (law : c.Lawful) : c.RoundTrips where
  read_manifest := law.read_write .dropped
  normalize_normalize v := by
    unfold normalize
    cases c.read v with
    | valid a => rw [Checked.map, Checked.bind, law.read_write .dropped a, Checked.map]
    | invalid ps => rfl

end Codec

end GatewayMigration
