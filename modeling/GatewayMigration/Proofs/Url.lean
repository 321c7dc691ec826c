import GatewayMigration.Emission.EnvoyFilter
import GatewayMigration.Proofs.Address
import GatewayMigration.Proofs.Collections
/-!
# Which URLs name a server

Main statement: `authCluster_ok_iff`, a URL names a cluster unless `Url.IsRefused` says what is
wrong with it.
-/

namespace GatewayMigration

namespace Url

/-- The authority that a text writes. -/
def authorityIn (s : String) : List Char := authorityOf (splitScheme (significant s)).2

/-- The port that a text writes, empty if there is none. -/
def portIn (s : String) : List Char := (hostAndPort ⟨"", String.ofList (authorityIn s)⟩).2

/-- What may stand between brackets. -/
def IsLiteral (host : List Char) : Prop := Address.IsIpv6 host ∨ Address.IsFuture host

def IsPortNumber (cs : List Char) : Prop :=
  (∀ c ∈ cs, c.isDigit = true) ∧ cs.length ≤ Text.maxIntegerDigits ∧ Text.digitsValue cs ≤ maxPort

/-- What makes a URL useless: a bracket without its partner, something other than an address between
brackets, a character that stands for a delimiter in disguise, or a port that is no number of a
port. -/
inductive IsRefused (s : String) : Prop
  | bracket (unmatched : ¬ ('[' ∈ authorityIn s ↔ ']' ∈ authorityIn s))
  | literal (opened : '[' ∈ authorityIn s) (bad : ¬ IsLiteral (bracketed (authorityIn s)))
  | disguised {c : Char} (mem : c ∈ authorityIn s) (disguise : c.toNat ∈ disguisedDelimiters)
  | port (given : portIn s ≠ []) (bad : ¬ IsPortNumber (portIn s))

/-! ## Reading -/

theorem unmatchedBracket_eq_false_iff {cs : List Char} :
    unmatchedBracket cs = false ↔ ('[' ∈ cs ↔ ']' ∈ cs) := by
  unfold unmatchedBracket
  rw [bne_eq_false_iff_eq, Bool.eq_iff_iff, List.contains_iff_mem, List.contains_iff_mem]

theorem checkLiteral_ok_iff {host : List Char} : checkLiteral host = .ok () ↔ IsLiteral host := by
  unfold checkLiteral IsLiteral
  by_cases v : host.head? = some 'v'
  · have noIpv6 : ¬ Address.IsIpv6 host := fun address => address.head?_ne v
    rw [if_pos v, or_iff_right noIpv6, ← Address.isFuture_iff]
    split <;> simp_all
  · have noFuture : ¬ Address.IsFuture host := by
      rintro ⟨version, rest, rfl, -⟩
      exact v rfl
    rw [if_neg v, or_iff_left noFuture, ← Address.isIpv6_iff]
    by_cases ipv4 : Address.isIpv4 host = true
    · rw [if_pos ipv4]
      refine iff_of_false nofun fun ipv6 => ?_
      rw [(Address.isIpv6_iff.mp ipv6).isIpv4_eq_false] at ipv4
      cases ipv4
    · rw [if_neg ipv4]
      split <;> simp_all

theorem checkBrackets_ok_iff {cs : List Char} :
    checkBrackets cs = .ok () ↔
      ('[' ∈ cs ↔ ']' ∈ cs) ∧ ('[' ∈ cs → IsLiteral (bracketed cs)) := by
  unfold checkBrackets
  rw [← unmatchedBracket_eq_false_iff, ← checkLiteral_ok_iff, ← List.contains_iff_mem]
  cases unmatchedBracket cs with
  | true => exact iff_of_false nofun fun well => nomatch well.1
  | false => cases cs.contains '[' <;> simp

theorem any_disguised_iff {cs : List Char} :
    (cs.any fun c => disguisedDelimiters.contains c.toNat) = true ↔
      ∃ c ∈ cs, c.toNat ∈ disguisedDelimiters := by
  simp only [List.any_eq_true, List.contains_iff_mem]

theorem checkDelimiters_ok_iff {cs : List Char} :
    checkDelimiters cs = .ok () ↔ ¬ ∃ c ∈ cs, c.toNat ∈ disguisedDelimiters := by
  unfold checkDelimiters
  rw [← any_disguised_iff]
  cases cs.any fun c => disguisedDelimiters.contains c.toNat <;> simp

theorem read_eq_ok_iff {s : String} {u : Url} :
    read s = .ok u ↔
      ('[' ∈ authorityIn s ↔ ']' ∈ authorityIn s) ∧
        ('[' ∈ authorityIn s → IsLiteral (bracketed (authorityIn s))) ∧
        (¬ ∃ c ∈ authorityIn s, c.toNat ∈ disguisedDelimiters) ∧
        u = ⟨(splitScheme (significant s)).1, String.ofList (authorityIn s)⟩ := by
  have steps : read s =
      (checkBrackets (authorityIn s) >>= fun _ => checkDelimiters (authorityIn s) >>= fun _ =>
        .ok ⟨(splitScheme (significant s)).1, String.ofList (authorityIn s)⟩) := rfl
  rw [steps, bind_eq_ok_iff, ← and_assoc, ← checkBrackets_ok_iff, ← checkDelimiters_ok_iff]
  constructor
  · rintro ⟨⟨⟩, brackets, made⟩
    obtain ⟨⟨⟩, delimiters, same⟩ := bind_eq_ok_iff.mp made
    cases same
    exact ⟨brackets, delimiters, rfl⟩
  · rintro ⟨brackets, delimiters, rfl⟩
    exact ⟨(), brackets, bind_eq_ok_iff.mpr ⟨(), delimiters, rfl⟩⟩

/-! ## Ports -/

theorem port?_ok_iff {u : Url} :
    (∃ port, u.port? = .ok port) ↔ (hostAndPort u).2 = [] ∨ IsPortNumber (hostAndPort u).2 := by
  unfold port? IsPortNumber Text.readDigits
  dsimp only
  rw [← List.all_eq_true, ← List.isEmpty_iff]
  cases empty : (hostAndPort u).2.isEmpty with
  | true => simp
  | false =>
    cases digits : (hostAndPort u).2.all Char.isDigit with
    | false => simp
    | true =>
      by_cases long : Text.maxIntegerDigits < (hostAndPort u).2.length
      · simp [long, Nat.not_le.mpr long]
      · by_cases high : Text.digitsValue (hostAndPort u).2 ≤ maxPort
        · simp [long, high, Nat.not_lt.mp long]
        · simp [long, high]

end Url

namespace EnvoyFilter

theorem authCluster_ok_iff {url : String} :
    (∃ cluster, authCluster url = .ok cluster) ↔ ¬ Url.IsRefused url := by
  have steps : (∃ cluster, authCluster url = .ok cluster) ↔
      ∃ u, Url.read url = .ok u ∧ ∃ port, u.port? = .ok port := by
    unfold authCluster
    simp only [bind_eq_ok_iff]
    constructor
    · rintro ⟨cluster, u, read, port, ported, -⟩
      exact ⟨u, read, port, ported⟩
    · rintro ⟨u, read, port, ported⟩
      exact ⟨_, u, read, port, ported, rfl⟩
  rw [steps]
  constructor
  · rintro ⟨u, read, ported⟩ refused
    obtain ⟨brackets, literal, plain, rfl⟩ := Url.read_eq_ok_iff.mp read
    have port := Url.port?_ok_iff.mp ported
    cases refused with
    | bracket unmatched => exact unmatched brackets
    | literal opened bad => exact bad (literal opened)
    | disguised mem disguise => exact plain ⟨_, mem, disguise⟩
    | port given bad => exact port.elim given bad
  · intro fine
    have brackets : '[' ∈ Url.authorityIn url ↔ ']' ∈ Url.authorityIn url :=
      Decidable.of_not_not fun unmatched => fine (.bracket unmatched)
    have literal (opened : '[' ∈ Url.authorityIn url) :
        Url.IsLiteral (Url.bracketed (Url.authorityIn url)) :=
      Classical.byContradiction fun bad => fine (.literal opened bad)
    have plain : ¬ ∃ c ∈ Url.authorityIn url, c.toNat ∈ Url.disguisedDelimiters := by
      rintro ⟨c, mem, disguise⟩
      exact fine (.disguised mem disguise)
    refine ⟨_, Url.read_eq_ok_iff.mpr ⟨brackets, literal, plain, rfl⟩, Url.port?_ok_iff.mpr ?_⟩
    by_cases given : Url.portIn url = []
    · exact .inl given
    · exact .inr (Classical.byContradiction fun bad => fine (.port given bad))

example : authCluster "http://[fe80::1%eth0]:9000/x" = .ok "outbound|9000||fe80::1%eth0" := rfl

example : authCluster "http://[1.2.3.4]/auth" =
    .error (.badValue "An IPv4 address cannot be in brackets") := rfl

end EnvoyFilter

end GatewayMigration
