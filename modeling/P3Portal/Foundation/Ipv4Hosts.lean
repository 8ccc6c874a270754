import Mathlib.Data.List.Range
import Mathlib.Tactic.Common
import P3Portal.Foundation.IpAddress

namespace P3Portal.Foundation.IpAddress

/-- `hosts()` leaves out the ends of a network, of which an IPv6 network has only the first one. A network of one or
two addresses has no ends. -/
def Network.hosts (network : Network) : List Nat :=
  let size := 2 ^ (network.version.width - network.prefixLength)
  if network.prefixLength + 1 = network.version.width then List.range' network.networkAddress size
  else if network.prefixLength = network.version.width then [network.networkAddress]
  else match network.version with
    | .v4 => List.range' (network.networkAddress + 1) (size - 2)
    | .v6 => List.range' (network.networkAddress + 1) (size - 1)

/-- The last address of a network. -/
def Network.broadcast (network : Network) : Nat :=
  network.networkAddress + 2 ^ (network.version.width - network.prefixLength) - 1

/-- A host of an IPv4 network is one of its addresses, but neither the first nor the last one of more than two. -/
structure Network.IsHost (network : Network) (address : Nat) : Prop where
  inside : network.contains (.v4, address) = true
  between : network.prefixLength ≤ 30 → address ≠ network.networkAddress ∧ address ≠ network.broadcast

/-- The loop over the hosts meets them in their order. -/
theorem hosts_sorted (network : Network) : network.hosts.Pairwise (· < ·) := by
  unfold Network.hosts
  dsimp only
  split
  · exact List.pairwise_lt_range'
  · split
    · exact List.pairwise_singleton _ _
    · split
      · exact List.pairwise_lt_range'
      · exact List.pairwise_lt_range'

section Networks
variable {network : Network} {text : List Char} {address : Nat}

/-- An IPv4 network holds the addresses from its first to its last one. -/
theorem contains_v4_iff (parsed : ipNetwork text = some network) (family : network.version = .v4) :
    network.contains (.v4, address) = true ↔
      network.networkAddress ≤ address ∧ address < network.networkAddress + 2 ^ (32 - network.prefixLength) := by
  obtain ⟨base, prefixLength, -, -, rfl⟩ := ipNetwork_v4 parsed family
  have positive : 0 < 2 ^ (32 - prefixLength) := Nat.two_pow_pos _
  unfold Network.contains
  rw [Bool.and_eq_true, decide_eq_true_iff, decide_eq_true_iff]
  show (Version.v4 = .v4 ∧ address / 2 ^ (32 - prefixLength) * 2 ^ (32 - prefixLength) =
      base / 2 ^ (32 - prefixLength) * 2 ^ (32 - prefixLength)) ↔
    base / 2 ^ (32 - prefixLength) * 2 ^ (32 - prefixLength) ≤ address ∧
      address < base / 2 ^ (32 - prefixLength) * 2 ^ (32 - prefixLength) + 2 ^ (32 - prefixLength)
  rw [eq_self, true_and]
  generalize 2 ^ (32 - prefixLength) = size at positive
  rw [Nat.mul_left_inj (Nat.ne_of_gt positive), Nat.div_eq_iff positive]
  have whole : base / size * size + size - 1 + 1 = base / size * size + size := by omega
  omega

theorem prefixLength_le (parsed : ipNetwork text = some network) (family : network.version = .v4) :
    network.prefixLength ≤ 32 := by
  obtain ⟨base, prefixLength, -, short, rfl⟩ := ipNetwork_v4 parsed family
  exact Nat.le_of_lt_succ short

/-- The hosts of an IPv4 network. -/
theorem mem_hosts_iff (parsed : ipNetwork text = some network) (family : network.version = .v4) :
    address ∈ network.hosts ↔ network.IsHost address := by
  have short := prefixLength_le parsed family
  have inside := @contains_v4_iff network text address parsed family
  have host : network.IsHost address ↔ (network.networkAddress ≤ address ∧
      address < network.networkAddress + 2 ^ (32 - network.prefixLength)) ∧
        (network.prefixLength ≤ 30 → address ≠ network.networkAddress ∧ address ≠ network.broadcast) := by
    rw [← inside]
    exact ⟨fun host => ⟨host.inside, host.between⟩, fun ⟨inside, between⟩ => ⟨inside, between⟩⟩
  rw [host]
  unfold Network.hosts Network.broadcast
  rw [family]
  dsimp only
  split
  · rename_i two
    simp only [Version.width] at two ⊢
    have small : 32 - network.prefixLength = 1 := by omega
    rw [small, List.mem_range'_1]
    omega
  · rename_i more
    split
    · rename_i one
      simp only [Version.width] at one ⊢
      rw [one, List.mem_singleton]
      simp only [Nat.sub_self, pow_zero]
      omega
    · rename_i many
      simp only [Version.width] at more many ⊢
      have large : 2 ^ 2 ≤ 2 ^ (32 - network.prefixLength) := Nat.pow_le_pow_right (by omega) (by omega)
      rw [List.mem_range'_1]
      omega

/-- A host has four octets. -/
theorem host_lt (parsed : ipNetwork text = some network) (family : network.version = .v4)
    (host : network.IsHost address) : address < 2 ^ 32 := by
  have inside := (contains_v4_iff parsed family).mp host.inside
  obtain ⟨base, prefixLength, small, short, rfl⟩ := ipNetwork_v4 parsed family
  simp only [networkOf, Version.width] at inside
  have split : (2 : Nat) ^ 32 = 2 ^ prefixLength * 2 ^ (32 - prefixLength) := by
    rw [← pow_add, Nat.add_sub_cancel' (Nat.le_of_lt_succ short)]
  have block : base / 2 ^ (32 - prefixLength) < 2 ^ prefixLength := by
    rw [Nat.div_lt_iff_lt_mul (Nat.two_pow_pos _), ← split]
    exact small
  calc address < base / 2 ^ (32 - prefixLength) * 2 ^ (32 - prefixLength) + 2 ^ (32 - prefixLength) := inside.2
    _ = (base / 2 ^ (32 - prefixLength) + 1) * 2 ^ (32 - prefixLength) := (Nat.succ_mul _ _).symm
    _ ≤ 2 ^ prefixLength * 2 ^ (32 - prefixLength) := Nat.mul_le_mul_right _ block
    _ = 2 ^ 32 := split.symm

end Networks

section Written

theorem digitChar_of_isDigit {c : Char} (digit : isDigit c = true) :
    c.toNat - 48 < 10 ∧ Nat.digitChar (c.toNat - 48) = c := by
  simp only [isDigit, Bool.and_eq_true, decide_eq_true_eq] at digit
  have low : 48 ≤ c.toNat := digit.1
  have high : c.toNat ≤ 57 := digit.2
  have small : c.toNat - 48 < 10 := by omega
  refine ⟨small, Char.toNat_inj.mp ?_⟩
  rw [Nat.toNat_digitChar_of_lt_ten small]
  omega

/-- Digits without a leading zero are the decimal form of their value. -/
theorem toDigits_decimalValue {text : List Char} (present : text ≠ []) (digits : text.all isDigit = true)
    (leading : text = ['0'] ∨ text.head? ≠ some '0') : Nat.toDigits 10 (decimalValue text) = text := by
  induction text using List.reverseRecOn with
  | nil => exact absurd rfl present
  | append_singleton front last ih =>
      rw [List.all_append, Bool.and_eq_true] at digits
      have lastDigit : isDigit last = true := by simpa using digits.2
      obtain ⟨small, written⟩ := digitChar_of_isDigit lastDigit
      have value : decimalValue (front ++ [last]) = 10 * decimalValue front + (last.toNat - 48) := by
        simp [decimalValue, digitsValue, Nat.mul_comm]
      cases front with
      | nil =>
          rw [value]
          have nothing : decimalValue [] = 0 := rfl
          rw [nothing, Nat.mul_zero, Nat.zero_add, Nat.toDigits_of_lt_base small, written]
          rfl
      | cons first rest =>
          have nonzero : first ≠ '0' := by
            rintro rfl
            rcases leading with short | head
            · simp at short
            · exact head rfl
          have shorter := ih (List.cons_ne_nil first rest) digits.1 (.inr fun head => nonzero (Option.some.inj head))
          have positive : 0 < decimalValue (first :: rest) := by
            rcases Nat.eq_zero_or_pos (decimalValue (first :: rest)) with zero | positive
            · rw [zero] at shorter
              exact absurd (List.cons.inj shorter).1.symm nonzero
            · exact positive
          rw [value, ← Nat.toDigits_append_toDigits (by decide) positive small, shorter,
            Nat.toDigits_of_lt_base small, written]

theorem toDigits_octet {text : List Char} {octet : Nat} (parsed : parseOctet text = some octet) :
    Nat.toDigits 10 octet = text ∧ octet < 256 := by
  unfold parseOctet at parsed
  split at parsed
  · cases parsed
  · rename_i accepted
    simp only [not_or, Bool.not_eq_true', Bool.not_eq_false, not_and_or, not_not] at accepted
    obtain ⟨present, digits, -, leading, small⟩ := accepted
    rw [← Option.some.inj parsed]
    exact ⟨toDigits_decimalValue present digits leading, by omega⟩

/-- An IPv4 address has one written form. -/
theorem renderIpv4_of_parsed {text : List Char} {address : Nat} (parsed : ipAddress text = some (.v4, address)) :
    renderIpv4 address = text := by
  obtain ⟨value, read⟩ := ipv4FromString_of_ipAddress parsed (show Version.v4 ≠ Version.v6 by decide)
  have same : value = address := by
    unfold ipAddress at parsed
    rw [read] at parsed
    cases parsed
    rfl
  rw [same] at read
  unfold ipv4FromString at read
  split at read
  · rename_i first second third fourth parts
    obtain ⟨a, rest, cut, readA, parts⟩ := List.map_eq_cons_iff.mp parts
    obtain ⟨b, rest, rfl, readB, parts⟩ := List.map_eq_cons_iff.mp parts
    obtain ⟨c, rest, rfl, readC, parts⟩ := List.map_eq_cons_iff.mp parts
    obtain ⟨d, rest, rfl, readD, parts⟩ := List.map_eq_cons_iff.mp parts
    obtain ⟨writtenA, smallA⟩ := toDigits_octet readA
    obtain ⟨writtenB, smallB⟩ := toDigits_octet readB
    obtain ⟨writtenC, smallC⟩ := toDigits_octet readC
    obtain ⟨writtenD, smallD⟩ := toDigits_octet readD
    have joined := congrArg (List.intercalate ['.']) cut
    rw [List.intercalate_splitOn, List.map_eq_nil_iff.mp parts] at joined
    have value := Option.some.inj read
    unfold renderIpv4
    rw [show address / 256 ^ 3 % 256 = first by omega, show address / 256 ^ 2 % 256 = second by omega,
      show address / 256 % 256 = third by omega, show address % 256 = fourth by omega, writtenA, writtenB, writtenC,
      writtenD, joined]
    simp [List.intercalate]
  · cases read

end Written

/-- The first element of a sorted list with a property is the least one. -/
theorem find?_sorted_iff {addresses : List Nat} (sorted : addresses.Pairwise (· < ·)) {free : Nat → Bool} {address : Nat} :
    addresses.find? free = some address ↔
      (address ∈ addresses ∧ free address = true) ∧ ∀ other ∈ addresses, free other = true → address ≤ other := by
  induction addresses with
  | nil => simp
  | cons first rest ih =>
      obtain ⟨least, ordered⟩ := List.pairwise_cons.mp sorted
      cases taken : free first with
      | true =>
          rw [List.find?_cons_of_pos taken]
          constructor
          · rintro same
            cases same
            refine ⟨⟨List.mem_cons_self, taken⟩, fun other member _ => ?_⟩
            rcases List.mem_cons.mp member with rfl | later
            · exact le_refl _
            · exact le_of_lt (least other later)
          · rintro ⟨⟨member, -⟩, lowest⟩
            rcases List.mem_cons.mp member with rfl | later
            · rfl
            · exact absurd (lowest first List.mem_cons_self taken) (not_le.mpr (least address later))
      | false =>
          rw [List.find?_cons_of_neg (by simp [taken]), ih ordered]
          constructor
          · rintro ⟨⟨member, free_address⟩, lowest⟩
            refine ⟨⟨List.mem_cons_of_mem first member, free_address⟩, fun other found free_other => ?_⟩
            rcases List.mem_cons.mp found with rfl | later
            · rw [taken] at free_other
              cases free_other
            · exact lowest other later free_other
          · rintro ⟨⟨member, free_address⟩, lowest⟩
            rcases List.mem_cons.mp member with rfl | later
            · rw [taken] at free_address
              cases free_address
            · exact ⟨⟨later, free_address⟩, fun other found => lowest other (List.mem_cons_of_mem first found)⟩

end P3Portal.Foundation.IpAddress
