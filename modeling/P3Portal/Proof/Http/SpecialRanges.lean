import P3Portal.Construction.Http.HttpClient

namespace P3Portal.Http
open Foundation IpAddress

section Ranges

def Loopback : Version × Nat → Prop
  | (.v4, address) => address / 2 ^ 24 = 127
  | (.v6, address) => address = 1

def LinkLocal : Version × Nat → Prop
  | (.v4, address) => address / 2 ^ 16 = 169 * 256 + 254
  | (.v6, address) => address / 2 ^ 118 = 0x3fa

def Multicast : Version × Nat → Prop
  | (.v4, address) => address / 2 ^ 28 = 14
  | (.v6, address) => address / 2 ^ 120 = 0xff

def Unspecified (addr : Version × Nat) : Prop := addr.2 = 0

def Special (addr : Version × Nat) : Prop := Loopback addr ∨ LinkLocal addr ∨ Multicast addr ∨ Unspecified addr

/-- The addresses of RFC 1918 and the unique-local ones. -/
def Internal : Version × Nat → Prop
  | (.v4, address) => address / 2 ^ 24 = 10 ∨ address / 2 ^ 20 = 172 * 16 + 1 ∨ address / 2 ^ 16 = 192 * 256 + 168
  | (.v6, address) => address / 2 ^ 121 = 0x7e

/-- An address is in a range itself, or carries an IPv4 address of the range. -/
def PlainOrMapped (range : Version × Nat → Prop) (addr : Version × Nat) : Prop :=
  range addr ∨ ∃ mapped, ipv4Mapped addr = some mapped ∧ range mapped

/-- The IPv4 address inside an IPv6 address. -/
def mappedForm (address : Nat) : Version × Nat := (.v6, 65535 * 2 ^ 32 + address)

end Ranges

section Blocks

/-- The network with these leading bits. -/
def block (version : Version) (leading prefixLength : Nat) : Network where
  version := version
  networkAddress := leading * 2 ^ (version.width - prefixLength)
  prefixLength := prefixLength

theorem contains_block (version : Version) (leading prefixLength : Nat) (addr : Version × Nat) :
    (block version leading prefixLength).contains addr = true ↔
      addr.1 = version ∧ addr.2 / 2 ^ (version.width - prefixLength) = leading := by
  unfold Network.contains block
  rw [Bool.and_eq_true, decide_eq_true_eq, decide_eq_true_eq]
  show _ ∧ _ * _ = _ * _ ↔ _
  rw [Nat.mul_left_inj (Nat.ne_of_gt (Nat.two_pow_pos _))]

theorem setupBlockedNetworks_eq : setupBlockedNetworks =
    [block .v4 127 8, block .v4 (169 * 256 + 254) 16, block .v4 14 4, block .v4 0 8, block .v6 1 128,
      block .v6 0x3fa 10, block .v6 0xff 8] := by
  decide +kernel

theorem blockedNetworks_eq : blockedNetworks =
    [block .v4 127 8, block .v4 10 8, block .v4 (172 * 16 + 1) 12, block .v4 (192 * 256 + 168) 16,
      block .v4 (169 * 256 + 254) 16, block .v4 (100 * 4 + 1) 10, block .v4 14 4, block .v6 1 128, block .v6 0x7e 7,
      block .v6 0x3fa 10, block .v6 0xff 8, block .v6 (0x64ff9b * 2 ^ 64) 96, block .v4 0 8] := by
  decide +kernel

/-- The setup list covers the special ranges but for one address. -/
theorem setup_of_special {addr : Version × Nat} (special : Special addr) (other : addr ≠ (.v6, 0)) :
    setupBlockedNetworks.any (·.contains addr) = true := by
  rw [setupBlockedNetworks_eq]
  simp only [List.any_cons, List.any_nil, Bool.or_eq_true, contains_block, Version.width]
  obtain ⟨version, address⟩ := addr
  cases version with
  | v4 =>
      simp only [Special, Loopback, LinkLocal, Multicast, Unspecified] at special
      simp only [true_and, reduceCtorEq, false_and, or_false]
      omega
  | v6 =>
      have some_bit : address ≠ 0 := fun zero => other (congrArg (Prod.mk Version.v6) zero)
      simp only [Special, Loopback, LinkLocal, Multicast, Unspecified] at special
      simp only [true_and, reduceCtorEq, false_and, false_or]
      omega

/-- So does the list of the webhooks. -/
theorem blocked_of_special {addr : Version × Nat} (special : Special addr) (other : addr ≠ (.v6, 0)) :
    blockedNetworks.any (·.contains addr) = true := by
  rw [blockedNetworks_eq]
  simp only [List.any_cons, List.any_nil, Bool.or_eq_true, contains_block, Version.width]
  obtain ⟨version, address⟩ := addr
  cases version with
  | v4 =>
      simp only [Special, Loopback, LinkLocal, Multicast, Unspecified] at special
      simp only [true_and, reduceCtorEq, false_and, or_false, false_or]
      omega
  | v6 =>
      have some_bit : address ≠ 0 := fun zero => other (congrArg (Prod.mk Version.v6) zero)
      simp only [Special, Loopback, LinkLocal, Multicast, Unspecified] at special
      simp only [true_and, reduceCtorEq, false_and, or_false, false_or]
      omega

theorem blocked_of_internal {addr : Version × Nat} (internal : Internal addr) :
    blockedNetworks.any (·.contains addr) = true := by
  rw [blockedNetworks_eq]
  simp only [List.any_cons, List.any_nil, Bool.or_eq_true, contains_block, Version.width]
  obtain ⟨version, address⟩ := addr
  cases version with
  | v4 =>
      simp only [Internal] at internal
      simp only [true_and, reduceCtorEq, false_and, or_false, false_or]
      omega
  | v6 =>
      simp only [Internal] at internal
      simp only [true_and, reduceCtorEq, false_and, or_false, false_or]
      omega

/-- No network of IPv6 on the lists holds an address that carries an IPv4 address. -/
theorem mappedForm_outside {address : Nat} (inside : address < 2 ^ 32) :
    setupBlockedNetworks.any (·.contains (mappedForm address)) = false ∧
      blockedNetworks.any (·.contains (mappedForm address)) = false := by
  rw [Bool.eq_false_iff, Bool.eq_false_iff, setupBlockedNetworks_eq, blockedNetworks_eq]
  simp only [List.any_cons, List.any_nil, ne_eq, Bool.or_eq_true, contains_block, Version.width, mappedForm, reduceCtorEq,
    false_and, true_and, false_or, or_false]
  omega

theorem ipv4Mapped_mappedForm {address : Nat} (inside : address < 2 ^ 32) :
    ipv4Mapped (mappedForm address) = some (.v4, address) := by
  have leading : (65535 * 2 ^ 32 + address) / 2 ^ 32 = 65535 := by omega
  have rest : (65535 * 2 ^ 32 + address) % 2 ^ 32 = address := by omega
  show (if _ = _ then some (Version.v4, _) else none) = _
  rw [leading, rest, if_pos rfl]

end Blocks

section Classification

theorem addrInNetworks_of_direct {addr : Version × Nat} {networks : List Network}
    (direct : networks.any (·.contains addr) = true) : addrInNetworks addr networks = true := by
  unfold addrInNetworks
  rw [direct]
  rfl

theorem addrInNetworks_of_mapped {addr mapped : Version × Nat} {networks : List Network}
    (carries : ipv4Mapped addr = some mapped) (direct : networks.any (·.contains mapped) = true) :
    addrInNetworks addr networks = true := by
  unfold addrInNetworks
  rw [carries, Option.any_some, direct, Bool.or_true]

theorem ipv4Mapped_version {addr mapped : Version × Nat} (carries : ipv4Mapped addr = some mapped) : mapped.1 = .v4 := by
  unfold ipv4Mapped at carries
  split at carries
  · cases carries
  · split at carries
    · rw [← Option.some.inj carries]
    · cases carries

/-- An address in a range of the list, itself or mapped, is found on the list. -/
theorem addrInNetworks_of_range {range : Version × Nat → Prop} {networks : List Network} {addr : Version × Nat}
    (covers : ∀ addr, range addr → addr ≠ (.v6, 0) → networks.any (·.contains addr) = true)
    (inside : PlainOrMapped range addr) (other : addr ≠ (.v6, 0)) : addrInNetworks addr networks = true := by
  rcases inside with plain | ⟨mapped, carries, special⟩
  · exact addrInNetworks_of_direct (covers addr plain other)
  · have family : mapped ≠ (.v6, 0) := by
      rintro rfl
      cases ipv4Mapped_version carries
    exact addrInNetworks_of_mapped carries (covers mapped special family)

theorem addrInNetworks_mappedForm {networks : List Network} {address : Nat} (inside : address < 2 ^ 32)
    (outside : networks.any (·.contains (mappedForm address)) = false) :
    addrInNetworks (mappedForm address) networks = addrInNetworks (.v4, address) networks := by
  unfold addrInNetworks
  rw [outside, ipv4Mapped_mappedForm inside, Option.any_some, Bool.false_or]
  show _ = (_ || Option.any _ none)
  rw [Option.any_none, Bool.or_false]

/-- Both functions cover the special ranges, one of them the private ones as well, and an IPv4 address is treated like its
mapped form. -/
structure Classified (ip : List Char) : Prop where
  special : ∀ addr, ipAddress ip = some addr → PlainOrMapped Special addr →
    isUnsafeSetupTarget ip = true ∧ isPrivateIp ip = true
  internal : ∀ addr, ipAddress ip = some addr → PlainOrMapped Internal addr → isPrivateIp ip = true
  mapped : ∀ address other, ipAddress ip = some (.v4, address) → ipAddress other = some (mappedForm address) →
    isUnsafeSetupTarget other = isUnsafeSetupTarget ip ∧ isPrivateIp other = isPrivateIp ip

theorem isUnsafeSetupTarget_eq {ip : List Char} {addr : Version × Nat} (parsed : ipAddress ip = some addr) :
    isUnsafeSetupTarget ip = addrInNetworks addr setupBlockedNetworks := by
  unfold isUnsafeSetupTarget
  rw [parsed]

theorem isPrivateIp_eq {ip : List Char} {addr : Version × Nat} (parsed : ipAddress ip = some addr) :
    isPrivateIp ip = addrInNetworks addr blockedNetworks := by
  unfold isPrivateIp
  rw [parsed]

/-- The unspecified IPv6 address is the only one that is not classified. -/
theorem classified_iff (ip : List Char) : Classified ip ↔ ipAddress ip ≠ some (.v6, 0) := by
  constructor
  · intro classified parsed
    have covered := (classified.special _ parsed (.inl (.inr (.inr (.inr rfl))))).1
    rw [isUnsafeSetupTarget_eq parsed] at covered
    revert covered
    decide +kernel
  · intro other
    refine ⟨?_, ?_, ?_⟩
    · intro addr parsed special
      have apart : addr ≠ (.v6, 0) := fun same => other (same ▸ parsed)
      rw [isUnsafeSetupTarget_eq parsed, isPrivateIp_eq parsed]
      exact ⟨addrInNetworks_of_range (fun _ => setup_of_special) special apart,
        addrInNetworks_of_range (fun _ => blocked_of_special) special apart⟩
    · intro addr parsed internal
      have apart : addr ≠ (.v6, 0) := fun same => other (same ▸ parsed)
      rw [isPrivateIp_eq parsed]
      exact addrInNetworks_of_range (fun _ inside _ => blocked_of_internal inside) internal apart
    · intro address text parsed mapped
      have inside := ipAddress_v4_lt parsed
      rw [isUnsafeSetupTarget_eq parsed, isPrivateIp_eq parsed, isUnsafeSetupTarget_eq mapped, isPrivateIp_eq mapped]
      exact ⟨addrInNetworks_mappedForm inside (mappedForm_outside inside).1,
        addrInNetworks_mappedForm inside (mappedForm_outside inside).2⟩

/-- The unspecified IPv6 address passes both checks. -/
theorem unspecified_passes :
    ipAddress "::".toList = some (.v6, 0) ∧ Unspecified (.v6, 0) ∧ isUnsafeSetupTarget "::".toList = false ∧
      isPrivateIp "::".toList = false :=
  ⟨by decide +kernel, rfl, by decide +kernel, by decide +kernel⟩

end Classification
end P3Portal.Http
