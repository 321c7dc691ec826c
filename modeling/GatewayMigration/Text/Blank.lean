/-!
# Blanks around a text

Which characters count as blank, and the text without the blanks at its ends. Main statements:
`stripBy_eq_self` (a text whose ends are no blanks is kept), `head?_stripBy` and
`getLast?_stripBy` (the ends of what remains are no blanks).
-/

namespace GatewayMigration.Text

/-- The white space of all scripts, with the four ASCII separators U+001C to U+001F. -/
def isBlank (c : Char) : Bool :=
  let n := c.toNat
  (0x9 ≤ n && n ≤ 0xD) || (0x1C ≤ n && n ≤ 0x20) || n == 0x85 || n == 0xA0 || n == 0x1680 ||
    (0x2000 ≤ n && n ≤ 0x200A) || n == 0x2028 || n == 0x2029 || n == 0x202F || n == 0x205F ||
    n == 0x3000

/-- The characters without the ones satisfying `p` at the two ends. -/
def stripBy (p : Char → Bool) (cs : List Char) : List Char :=
  ((cs.dropWhile p).reverse.dropWhile p).reverse

def stripChars (cs : List Char) : List Char := stripBy isBlank cs

/-- The text without the blanks at its ends. -/
def strip (s : String) : String := String.ofList (stripChars s.toList)

theorem dropWhile_eq_self {p : Char → Bool} {cs : List Char}
    (h : ∀ c ∈ cs.head?, p c = false) : cs.dropWhile p = cs := by
  cases cs with
  | nil => rfl
  | cons a cs => simp [h a (by simp)]

theorem stripBy_eq_self {p : Char → Bool} {cs : List Char}
    (first : ∀ c ∈ cs.head?, p c = false) (last : ∀ c ∈ cs.getLast?, p c = false) :
    stripBy p cs = cs := by
  have : cs.reverse.dropWhile p = cs.reverse :=
    dropWhile_eq_self (by simpa [List.head?_reverse] using last)
  simp [stripBy, dropWhile_eq_self first, this]

theorem head?_reverse_dropWhile_reverse {p : Char → Bool} {cs : List Char} :
    ∀ c ∈ (cs.reverse.dropWhile p).reverse.head?, c ∈ cs.head? := by
  induction cs with
  | nil => simp
  | cons a cs ih =>
    intro c hc
    rw [List.reverse_cons, List.dropWhile_append] at hc
    split at hc
    · by_cases h : p a <;> simp_all
    · simp_all

theorem head?_stripBy (p : Char → Bool) (cs : List Char) :
    ∀ c ∈ (stripBy p cs).head?, p c = false := by
  intro c first
  have stopped := List.head?_dropWhile_not p cs
  rw [Option.mem_def.mp (head?_reverse_dropWhile_reverse c first)] at stopped
  exact stopped

theorem getLast?_stripBy (p : Char → Bool) (cs : List Char) :
    ∀ c ∈ (stripBy p cs).getLast?, p c = false := by
  intro c last
  rw [stripBy, List.getLast?_reverse, Option.mem_def] at last
  have stopped := List.head?_dropWhile_not p (cs.dropWhile p).reverse
  rw [last] at stopped
  exact stopped

end GatewayMigration.Text
