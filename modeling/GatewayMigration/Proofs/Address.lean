import GatewayMigration.Address
import Mathlib.Data.List.TakeWhile
/-!
# What addresses look like

Addresses are read by cutting them at their colons and looking for a part that is empty. The grammar
says what they are as texts. Main statements:

* `writes_iff`: the parts of a text write so many groups exactly if the text is that many groups
  with colons between them;
* `isComplete_iff`: a text is accepted exactly if it is eight groups, or fewer on both sides of a
  gap;
* `isIpv6_iff`, `isFuture_iff`: the same for addresses with a zone and for versions to come.
-/

namespace GatewayMigration.Address

/-! ## The grammar -/

/-- Groups with colons between them, and how many there are. Where `ipv4` allows it, an IPv4 address
may end them and counts for two. -/
inductive Writes (ipv4 : Bool) : Nat → List Char → Prop
  | group {g : List Char} (valid : isGroup g = true) : Writes ipv4 1 g
  | address {a : List Char} (allowed : ipv4 = true) (valid : isIpv4 a = true) : Writes ipv4 2 a
  | cons {g cs : List Char} {n : Nat} (valid : isGroup g = true) (rest : Writes ipv4 n cs) :
      Writes ipv4 (n + 1) (g ++ ':' :: cs)

/-- Groups on one side of a gap, which may be none. -/
inductive WritesSide (ipv4 : Bool) : Nat → List Char → Prop
  | empty : WritesSide ipv4 0 []
  | groups {n : Nat} {cs : List Char} (writes : Writes ipv4 n cs) : WritesSide ipv4 n cs

/-- Eight groups, or fewer around a gap. -/
inductive IsComplete : List Char → Prop
  | full {cs : List Char} (writes : Writes true groupCount cs) : IsComplete cs
  | gap {front back : List Char} {m n : Nat} (before : WritesSide false m front)
      (behind : WritesSide true n back) (few : m + n < groupCount) :
      IsComplete (front ++ ':' :: ':' :: back)

/-- An address, or one and the name of a zone behind a percent sign. -/
inductive IsIpv6 : List Char → Prop
  | bare {cs : List Char} (complete : IsComplete cs) : IsIpv6 cs
  | zoned {cs zone : List Char} (complete : IsComplete cs) (named : zone ≠ [])
      (single : '%' ∉ zone) : IsIpv6 (cs ++ '%' :: zone)

/-- The number of a version in hexadecimal digits, and something behind the point. -/
def IsFuture (cs : List Char) : Prop :=
  ∃ version rest, cs = 'v' :: version ++ '.' :: rest ∧ version ≠ [] ∧
    (∀ c ∈ version, isHexDigit c = true) ∧ rest ≠ []

/-! ## Characters -/

theorem isHexDigit_of_mem_group {g : List Char} (valid : isGroup g = true) :
    ∀ c ∈ g, isHexDigit c = true := by
  simp only [isGroup, Bool.and_eq_true, List.all_eq_true] at valid
  exact valid.1.2

theorem not_mem_group {g : List Char} (valid : isGroup g = true) {c : Char}
    (other : isHexDigit c = false) : c ∉ g := by
  intro mem
  rw [isHexDigit_of_mem_group valid c mem] at other
  cases other

theorem mem_of_mem_intercalate {x c : Char} {ls : List (List Char)}
    (mem : c ∈ [x].intercalate ls) : c = x ∨ ∃ l ∈ ls, c ∈ l := by
  induction ls with
  | nil => cases mem
  | cons l ls ih =>
    by_cases last : ls = []
    · rw [last, List.intercalate_singleton] at mem
      exact .inr ⟨l, .head _, mem⟩
    · rw [List.intercalate_cons_of_ne_nil last, List.mem_append, List.mem_append,
        List.mem_singleton] at mem
      rcases mem with (here | same) | later
      · exact .inr ⟨l, .head _, here⟩
      · exact .inl same
      · exact (ih later).imp id fun ⟨l', there, mem⟩ => ⟨l', .tail _ there, mem⟩

/-- An IPv4 address has digits and points alone. -/
theorem isDigit_of_mem_ipv4 {a : List Char} (valid : isIpv4 a = true) :
    ∀ c ∈ a, c.isDigit = true ∨ c = '.' := by
  intro c mem
  simp only [isIpv4, Bool.and_eq_true, List.all_eq_true] at valid
  have joined : ['.'].intercalate (a.splitOn '.') = a := List.intercalate_splitOn '.'
  rw [← joined] at mem
  rcases mem_of_mem_intercalate mem with point | ⟨octet, there, inside⟩
  · exact .inr point
  · have number := valid.2 octet there
    simp only [isOctet, Bool.and_eq_true, List.all_eq_true] at number
    exact .inl (number.1.1.1.2 c inside)

theorem not_mem_ipv4 {a : List Char} (valid : isIpv4 a = true) {c : Char}
    (other : isHexDigit c = false) (noPoint : c ≠ '.') : c ∉ a := by
  intro mem
  rcases isDigit_of_mem_ipv4 valid c mem with digit | point
  · rw [isHexDigit, digit] at other
    cases other
  · exact noPoint point

theorem point_mem_ipv4 {a : List Char} (valid : isIpv4 a = true) : '.' ∈ a := by
  simp only [isIpv4, Bool.and_eq_true, decide_eq_true_eq] at valid
  refine Decidable.of_not_not fun none => ?_
  rw [List.splitOn_eq_singleton none, List.length_singleton] at valid
  exact absurd valid.1 (by decide)

theorem isGroup_of_isIpv4 {a : List Char} (valid : isIpv4 a = true) : isGroup a = false := by
  rw [← Bool.not_eq_true]
  exact fun group => not_mem_group group (by decide) (point_mem_ipv4 valid)

/-! ## Groups -/

theorem Writes.of_width? {ipv4 : Bool} {parts : List (List Char)} {n : Nat} (filled : parts ≠ [])
    (width : width? ipv4 parts = some n) : Writes ipv4 n ([':'].intercalate parts) := by
  fun_induction width? ipv4 parts generalizing n with
  | case1 => exact absurd rfl filled
  | case2 part valid =>
    cases width
    rw [List.intercalate_singleton]
    exact .group valid
  | case3 part other both =>
    cases width
    rw [Bool.and_eq_true] at both
    rw [List.intercalate_singleton]
    exact .address both.1 both.2
  | case4 => cases width
  | case5 part parts more valid ih =>
    obtain ⟨m, rest, rfl⟩ := Option.map_eq_some_iff.mp width
    have others : parts ≠ [] := more
    rw [List.intercalate_cons_of_ne_nil others, List.append_assoc, List.singleton_append]
    exact .cons valid (ih others rest)
  | case6 => cases width

theorem Writes.width?_splitOn {ipv4 : Bool} {n : Nat} {cs : List Char} (writes : Writes ipv4 n cs) :
    width? ipv4 (cs.splitOn ':') = some n := by
  induction writes with
  | group valid =>
    rw [List.splitOn_eq_singleton (not_mem_group valid (by decide)), width?, if_pos valid]
  | address allowed valid =>
    rw [List.splitOn_eq_singleton (not_mem_ipv4 valid (by decide) (by decide)), width?,
      isGroup_of_isIpv4 valid, allowed, valid]
    rfl
  | @cons g cs n valid rest ih =>
    rw [List.splitOn_append_cons_self_of_not_mem (not_mem_group valid (by decide)),
      width?.eq_3 _ _ _ (List.splitOn_ne_nil ':' cs), if_pos valid, ih]
    rfl

/-- Cut at its colons, a text writes `n` groups exactly if it is `n` groups with colons between
them. -/
theorem writes_iff {ipv4 : Bool} {n : Nat} {cs : List Char} :
    width? ipv4 (cs.splitOn ':') = some n ↔ Writes ipv4 n cs := by
  constructor
  · intro width
    have writes := Writes.of_width? (List.splitOn_ne_nil ':' cs) width
    rwa [List.intercalate_splitOn] at writes
  · exact Writes.width?_splitOn

theorem ne_nil_of_isGroup {g : List Char} (valid : isGroup g = true) : g ≠ [] := by
  rintro rfl
  cases valid

theorem ne_nil_of_isIpv4 {a : List Char} (valid : isIpv4 a = true) : a ≠ [] :=
  List.ne_nil_of_mem (point_mem_ipv4 valid)

theorem ne_nil_of_width? {ipv4 : Bool} {parts : List (List Char)} {n : Nat}
    (width : width? ipv4 parts = some n) : ∀ p ∈ parts, p ≠ [] := by
  fun_induction width? ipv4 parts generalizing n with
  | case1 => nofun
  | case2 part valid => exact List.forall_mem_singleton.mpr (ne_nil_of_isGroup valid)
  | case3 part other both =>
    rw [Bool.and_eq_true] at both
    exact List.forall_mem_singleton.mpr (ne_nil_of_isIpv4 both.2)
  | case4 => cases width
  | case5 part parts more valid ih =>
    obtain ⟨m, rest, -⟩ := Option.map_eq_some_iff.mp width
    exact List.forall_mem_cons.mpr ⟨ne_nil_of_isGroup valid, ih rest⟩
  | case6 => cases width

/-! ## Gaps -/

theorem WritesSide.of_sideWidth? {ipv4 : Bool} {parts : List (List Char)} {n : Nat}
    (filled : parts ≠ []) (width : sideWidth? ipv4 parts = some n) :
    WritesSide ipv4 n ([':'].intercalate parts) := by
  unfold sideWidth? at width
  split at width
  · rename_i none
    cases width
    rw [none]
    exact .empty
  · exact .groups (.of_width? filled width)

theorem WritesSide.sideWidth?_splitOn {ipv4 : Bool} {n : Nat} {cs : List Char}
    (side : WritesSide ipv4 n cs) : sideWidth? ipv4 (cs.splitOn ':') = some n := by
  cases side with
  | empty => rfl
  | groups writes =>
    have width := writes.width?_splitOn
    have some : cs.splitOn ':' ≠ [[]] := by
      intro none
      exact ne_nil_of_width? width [] (by rw [none]; exact .head _) rfl
    rw [sideWidth?, if_neg some, width]

/-- On one side of a gap only the first part may be empty. -/
theorem WritesSide.exists_splitOn_eq {ipv4 : Bool} {n : Nat} {cs : List Char}
    (side : WritesSide ipv4 n cs) :
    ∃ first parts, cs.splitOn ':' = first :: parts ∧ ∀ p ∈ parts, p ≠ [] := by
  cases side with
  | empty => exact ⟨[], [], rfl, nofun⟩
  | groups writes =>
    obtain ⟨first, parts, cut⟩ := List.exists_cons_of_ne_nil (List.splitOn_ne_nil ':' cs)
    have filled := ne_nil_of_width? writes.width?_splitOn
    rw [cut] at filled
    exact ⟨first, parts, cut, (List.forall_mem_cons.mp filled).2⟩

theorem gap?_eq_none {parts : List (List Char)} (filled : ∀ p ∈ parts, p ≠ []) :
    gap? parts = none := by
  cases parts with
  | nil => rfl
  | cons first parts =>
    have rest : parts.dropWhile (!·.isEmpty) = [] := by
      rw [List.dropWhile_eq_nil_iff]
      intro p mem
      simpa using filled p (.tail _ mem)
    rw [gap?, rest]

theorem gap?_append {first next : List Char} {front back : List (List Char)}
    (filled : ∀ p ∈ front, p ≠ []) :
    gap? (first :: front ++ [] :: next :: back) = some (first :: front, next :: back) := by
  have kept : ∀ p ∈ front, (!p.isEmpty) = true := by
    intro p mem
    simpa using filled p mem
  rw [List.cons_append, gap?, List.dropWhile_append_of_pos kept, List.takeWhile_append_of_pos kept]
  simp

theorem eq_append_of_gap? {parts front back : List (List Char)}
    (found : gap? parts = some (front, back)) :
    parts = front ++ [] :: back ∧ front ≠ [] ∧ back ≠ [] := by
  cases parts with
  | nil => cases found
  | cons first parts =>
    have whole := List.takeWhile_append_dropWhile (p := (!·.isEmpty)) (l := parts)
    have stopped := List.head?_dropWhile_not (!·.isEmpty) parts
    rw [gap?] at found
    split at found
    · rename_i empty next back rest
      cases found
      rw [rest] at whole stopped
      have none : empty = [] := by simpa using stopped
      refine ⟨?_, List.cons_ne_nil _ _, List.cons_ne_nil _ _⟩
      rw [← none, List.cons_append, whole]
    · cases found

theorem intercalate_append_nil {x : Char} {front back : List (List Char)} (before : front ≠ [])
    (behind : back ≠ []) :
    [x].intercalate (front ++ [] :: back) =
      [x].intercalate front ++ x :: x :: [x].intercalate back := by
  induction front with
  | nil => exact absurd rfl before
  | cons l ls ih =>
    by_cases last : ls = []
    · subst last
      rw [List.singleton_append, List.intercalate_cons_of_ne_nil (List.cons_ne_nil _ _),
        List.intercalate_cons_of_ne_nil behind, List.intercalate_singleton]
      simp
    · rw [List.cons_append, List.intercalate_cons_of_ne_nil (by simp), ih last,
        List.intercalate_cons_of_ne_nil last]
      simp

/-! ## Addresses -/

/-- What is accepted is eight groups, or fewer on both sides of a gap. -/
theorem isComplete_iff {cs : List Char} : isComplete (cs.splitOn ':') = true ↔ IsComplete cs := by
  constructor
  · intro complete
    have joined : [':'].intercalate (cs.splitOn ':') = cs := List.intercalate_splitOn ':'
    unfold isComplete at complete
    split at complete
    · exact .full (writes_iff.mp (of_decide_eq_true complete))
    · rename_i front back found
      obtain ⟨cut, before, behind⟩ := eq_append_of_gap? found
      split at complete
      · rename_i m n left right
        rw [← joined, cut, intercalate_append_nil before behind]
        exact .gap (.of_sideWidth? before left) (.of_sideWidth? behind right)
          (of_decide_eq_true complete)
      · cases complete
  · intro complete
    cases complete with
    | full writes =>
      have width := writes.width?_splitOn
      rw [isComplete, gap?_eq_none (ne_nil_of_width? width), width]
      rfl
    | gap before behind few =>
      obtain ⟨first, front, cutFront, filled⟩ := before.exists_splitOn_eq
      obtain ⟨next, back, cutBack, -⟩ := behind.exists_splitOn_eq
      have left := before.sideWidth?_splitOn
      have right := behind.sideWidth?_splitOn
      rw [cutFront] at left
      rw [cutBack] at right
      rw [List.splitOn_append_cons_self, cutFront, List.splitOn_cons_eq_if_modifyHead,
        if_pos (by rfl), cutBack, isComplete, gap?_append filled]
      simp only [left, right]
      exact decide_eq_true few

theorem Writes.not_mem {ipv4 : Bool} {n : Nat} {cs : List Char} (writes : Writes ipv4 n cs)
    {c : Char} (other : isHexDigit c = false) (noColon : c ≠ ':') (noPoint : c ≠ '.') :
    c ∉ cs := by
  induction writes with
  | group valid => exact not_mem_group valid other
  | address _ valid => exact not_mem_ipv4 valid other noPoint
  | cons valid _ ih =>
    simp only [List.mem_append, List.mem_cons, not_or]
    exact ⟨not_mem_group valid other, noColon, ih⟩

namespace IsComplete

theorem not_mem {cs : List Char} (complete : IsComplete cs) {c : Char}
    (other : isHexDigit c = false) (noColon : c ≠ ':') (noPoint : c ≠ '.') : c ∉ cs := by
  have side {ipv4 : Bool} {n : Nat} {cs : List Char} (side : WritesSide ipv4 n cs) : c ∉ cs := by
    cases side with
    | empty => nofun
    | groups writes => exact writes.not_mem other noColon noPoint
  cases complete with
  | full writes => exact writes.not_mem other noColon noPoint
  | gap before behind _ =>
    simp only [List.mem_append, List.mem_cons, not_or]
    exact ⟨side before, noColon, noColon, side behind⟩

/-- So where a zone starts is where the first percent sign is. -/
theorem bne_percent {cs : List Char} (complete : IsComplete cs) : ∀ c ∈ cs, (c != '%') = true := by
  intro c mem
  rw [bne_iff_ne]
  rintro rfl
  exact complete.not_mem (by decide) (by decide) (by decide) mem

theorem colon_mem {cs : List Char} (complete : IsComplete cs) : ':' ∈ cs := by
  cases complete with
  | full writes =>
    cases writes with
    | cons => simp
  | gap => simp

end IsComplete

theorem isIpv6_iff {cs : List Char} : isIpv6 cs = true ↔ IsIpv6 cs := by
  rw [isIpv6, Bool.and_eq_true, isComplete_iff]
  constructor
  · rintro ⟨complete, zone⟩
    have whole := List.takeWhile_append_dropWhile (p := (· != '%')) (l := cs)
    have stopped := List.head?_dropWhile_not (· != '%') cs
    split at zone
    · rename_i none
      rw [none, List.append_nil] at whole
      rw [← whole]
      exact .bare complete
    · rename_i sign zone' found
      rw [found] at whole stopped
      have same : sign = '%' := by simpa using stopped
      rw [← whole, same]
      simp only [Bool.and_eq_true, Bool.not_eq_true', List.isEmpty_eq_false_iff,
        List.contains_eq_mem, decide_eq_false_iff_not] at zone
      exact .zoned complete zone.1 zone.2
  · intro address
    cases address with
    | bare complete =>
      have kept := complete.bne_percent
      rw [List.takeWhile_eq_self_iff.mpr kept, List.dropWhile_eq_nil_iff.mpr kept]
      exact ⟨complete, rfl⟩
    | @zoned cs zone complete named single =>
      have kept := complete.bne_percent
      rw [List.takeWhile_append_of_pos kept, List.dropWhile_append_of_pos kept]
      simpa [named, single] using complete

theorem isFuture_iff {cs : List Char} : isFuture cs = true ↔ IsFuture cs := by
  constructor
  · intro future
    unfold isFuture at future
    split at future
    · rename_i cs
      split at future
      · rename_i d ds c rest digits behind
        have whole := List.takeWhile_append_dropWhile (p := isHexDigit) (l := cs)
        refine ⟨cs.takeWhile isHexDigit, c :: rest, ?_, ?_, fun c => List.mem_takeWhile_imp,
          List.cons_ne_nil _ _⟩
        · rw [← behind, List.cons_append, whole]
        · rw [digits]
          exact List.cons_ne_nil _ _
      · cases future
    · cases future
  · rintro ⟨version, rest, rfl, filled, digits, more⟩
    obtain ⟨d, ds, rfl⟩ := List.exists_cons_of_ne_nil filled
    obtain ⟨c, cs, rfl⟩ := List.exists_cons_of_ne_nil more
    have point : isHexDigit '.' = false := by decide
    rw [List.cons_append, isFuture, List.takeWhile_append_of_pos digits,
      List.dropWhile_append_of_pos digits]
    simp [point]

/-! ## Kinds of addresses -/

theorem IsIpv6.colon_mem {cs : List Char} (address : IsIpv6 cs) : ':' ∈ cs := by
  cases address with
  | bare complete => exact complete.colon_mem
  | zoned complete => exact List.mem_append_left _ complete.colon_mem

/-- No IPv4 address is an IPv6 address. -/
theorem IsIpv6.isIpv4_eq_false {cs : List Char} (address : IsIpv6 cs) : isIpv4 cs = false := by
  rw [← Bool.not_eq_true]
  exact fun valid => not_mem_ipv4 valid (by decide) (by decide) address.colon_mem

/-- No IPv6 address looks like one of a version to come. -/
theorem IsIpv6.head?_ne {cs : List Char} (address : IsIpv6 cs) : cs.head? ≠ some 'v' := by
  have apart {cs : List Char} (complete : IsComplete cs) : cs.head? ≠ some 'v' := fun first =>
    complete.not_mem (by decide) (by decide) (by decide) (List.mem_of_head? first)
  cases address with
  | bare complete => exact apart complete
  | zoned complete =>
    obtain ⟨c, cs, rfl⟩ := List.exists_cons_of_ne_nil (List.ne_nil_of_mem complete.colon_mem)
    exact fun first => apart complete first

end GatewayMigration.Address
