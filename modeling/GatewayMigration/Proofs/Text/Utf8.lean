import GatewayMigration.Text.Utf8
import Mathlib.Data.Nat.Basic
import Mathlib.Order.Basic
/-!
# Texts of ASCII characters

Such a text is encoded with one octet for each character. Main statement: `decode_ascii`, these
octets decode to the text.
-/

namespace GatewayMigration.Text

/-- The octets of a text of ASCII characters. -/
def asciiOctets (cs : List Char) : List UInt8 := cs.map fun c => UInt8.ofNat c.toNat

theorem width?_ascii {c : Char} (ascii : c.toNat < 128) :
    width? (UInt8.ofNat c.toNat) = some 1 := by
  have below : UInt8.ofNat c.toNat < 0x80 := by
    rw [UInt8.lt_iff_toNat_lt, UInt8.toNat_ofNat']
    exact lt_of_le_of_lt (Nat.mod_le _ _) ascii
  rw [width?, if_pos below]

theorem decodeFrom_ascii {cs acc : List Char} {fuel position : Nat} (enough : cs.length ≤ fuel)
    (ascii : ∀ c ∈ cs, c.toNat < 128) :
    decodeFrom fuel position acc (asciiOctets cs) = .ok (acc.reverse ++ cs) := by
  induction cs generalizing acc fuel position with
  | nil =>
    rw [List.append_nil]
    cases fuel <;> rfl
  | cons c cs ih =>
    have small := ascii c (.head _)
    obtain ⟨fuel, rfl⟩ : ∃ n, fuel = n + 1 := Nat.exists_eq_succ_of_ne_zero (by
      rw [List.length_cons] at enough
      omega)
    have octet : Char.ofNat (UInt8.ofNat c.toNat).toNat = c := by
      have same : c.toNat % 2 ^ 8 = c.toNat := Nat.mod_eq_of_lt (by omega)
      rw [UInt8.toNat_ofNat', same, Char.ofNat_toNat]
    rw [asciiOctets, List.map_cons, decodeFrom, width?_ascii small]
    dsimp only
    rw [octet]
    refine (ih (Nat.le_of_succ_le_succ enough) fun d mem => ascii d (.tail _ mem)).trans ?_
    rw [List.reverse_cons, List.append_assoc, List.singleton_append]

theorem decode_ascii {text : String} (ascii : text.toList.all (·.toNat < 128) = true) :
    decode (asciiOctets text.toList) = .ok text := by
  have all : ∀ c ∈ text.toList, c.toNat < 128 := by simpa using ascii
  rw [decode, decodeFrom_ascii (by rw [asciiOctets, List.length_map]) all, List.reverse_nil,
    List.nil_append]
  exact congrArg Except.ok String.ofList_toList

end GatewayMigration.Text
