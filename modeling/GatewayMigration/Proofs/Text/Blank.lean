import GatewayMigration.Text.Blank
import Mathlib.Data.List.TakeWhile
/-!
# What stripping leaves

Main statements:

* `isStripped_strip`: of a text the blanks at both ends go, and nothing else;
* `strip_eq_empty_iff`: nothing is left exactly if there was nothing but blanks.
-/

namespace GatewayMigration.Text

/-- There is nothing but blanks. The empty text counts too. -/
def IsBlankText (s : String) : Prop := ∀ c ∈ s.toList, isBlank c = true

/-- The ends of the text, if it has any, are no blanks. -/
structure IsTrimmed (s : String) : Prop where
  first : ∀ c ∈ s.toList.head?, isBlank c = false
  last : ∀ c ∈ s.toList.getLast?, isBlank c = false

theorem isTrimmed_of_all {s : String} (free : s.toList.all (fun c => !isBlank c) = true) :
    IsTrimmed s := by
  have none : ∀ c ∈ s.toList, isBlank c = false := by simpa using free
  exact ⟨fun c first => none c (List.mem_of_mem_head? first),
    fun c last => none c (List.mem_of_mem_getLast? last)⟩

/-- The first text is what is left of the second one without the blanks at its ends. -/
structure IsStripped (t s : String) : Prop where
  trimmed : IsTrimmed t
  middle : ∃ before after, s.toList = before ++ t.toList ++ after ∧
    (∀ c ∈ before, isBlank c = true) ∧ ∀ c ∈ after, isBlank c = true

theorem exists_stripBy (p : Char → Bool) (cs : List Char) :
    ∃ before after, cs = before ++ stripBy p cs ++ after ∧ (∀ c ∈ before, p c = true) ∧
      ∀ c ∈ after, p c = true := by
  refine ⟨cs.takeWhile p, ((cs.dropWhile p).reverse.takeWhile p).reverse, ?_,
    fun c => List.mem_takeWhile_imp, fun c mem => ?_⟩
  · have ends : stripBy p cs ++ ((cs.dropWhile p).reverse.takeWhile p).reverse =
        cs.dropWhile p := by
      rw [stripBy, ← List.reverse_append, List.takeWhile_append_dropWhile, List.reverse_reverse]
    rw [List.append_assoc, ends, List.takeWhile_append_dropWhile]
  · exact List.mem_takeWhile_imp (List.mem_reverse.mp mem)

theorem isStripped_strip (s : String) : IsStripped (strip s) s := by
  have left : (strip s).toList = stripBy isBlank s.toList := String.toList_ofList
  refine ⟨⟨?_, ?_⟩, ?_⟩
  · rw [left]
    exact head?_stripBy isBlank s.toList
  · rw [left]
    exact getLast?_stripBy isBlank s.toList
  · rw [left]
    exact exists_stripBy isBlank s.toList

theorem strip_eq_empty_iff {s : String} : strip s = "" ↔ IsBlankText s := by
  have left : (strip s).toList = stripBy isBlank s.toList := String.toList_ofList
  rw [← String.toList_inj, left]
  constructor
  · intro nothing c mem
    obtain ⟨before, after, split, leading, trailing⟩ := exists_stripBy isBlank s.toList
    rw [nothing] at split
    rw [split] at mem
    rcases List.mem_append.mp mem with mem | later
    · exact leading c ((List.mem_append.mp mem).resolve_right nofun)
    · exact trailing c later
  · intro blank
    rw [stripBy, List.dropWhile_eq_nil_iff.mpr blank]
    rfl

end GatewayMigration.Text
