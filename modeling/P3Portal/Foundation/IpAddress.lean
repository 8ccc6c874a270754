import Mathlib.Algebra.Ring.Nat
import Mathlib.Data.List.Basic
import Mathlib.Data.List.TakeDrop
import Mathlib.Data.List.TakeWhile
import Mathlib.Tactic.Common

namespace P3Portal.Foundation.IpAddress

/-- The two families differ in their width. -/
inductive Version where
  | v4
  | v6
  deriving DecidableEq

def Version.width : Version → Nat
  | .v4 => 32
  | .v6 => 128

/-- A parsed network keeps its family, the masked address, the prefix and the scope of an IPv6 text. -/
structure Network where
  version : Version
  networkAddress : Nat
  prefixLength : Nat
  scopeId : Option (List Char) := none
  deriving DecidableEq

/-- An ASCII digit is one of the ten Latin digits. -/
def isDigit (character : Char) : Bool := '0' ≤ character && character ≤ '9'

/-- A run of digits denotes this number in the base. -/
def digitsValue (base : Nat) (value : Char → Nat) (text : List Char) : Nat :=
  text.foldl (fun total character => total * base + value character) 0

def decimalValue (text : List Char) : Nat := digitsValue 10 (fun character => character.toNat - 48) text

/-- An octet has one to three digits, no leading zero and a value below 256. -/
def parseOctet (text : List Char) : Option Nat :=
  if text = [] ∨ !text.all isDigit ∨ 3 < text.length ∨ (text ≠ ['0'] ∧ text.head? = some '0') ∨
      255 < decimalValue text then none
  else some (decimalValue text)

/-- Four octets with points between them make an IPv4 address. -/
def ipv4FromString (text : List Char) : Option Nat :=
  match (text.splitOn '.').map parseOctet with
  | [some first, some second, some third, some fourth] =>
      some (((first * 256 + second) * 256 + third) * 256 + fourth)
  | _ => none

def isHexDigit (character : Char) : Bool :=
  isDigit character || ('a' ≤ character && character ≤ 'f') || ('A' ≤ character && character ≤ 'F')

def hexValue (character : Char) : Nat :=
  if isDigit character then character.toNat - 48
  else if 'a' ≤ character then character.toNat - 87 else character.toNat - 55

/-- A hextet has one to four hexadecimal digits. -/
def parseHextet (text : List Char) : Option Nat :=
  if text = [] ∨ !text.all isHexDigit ∨ 4 < text.length then none
  else some (digitsValue 16 hexValue text)

/-- A run of hextets denotes this number. -/
def hextetsValue (parts : List (List Char)) : Option Nat :=
  (parts.mapM parseHextet).map fun values => values.foldl (fun total value => total * 65536 + value) 0

/-- An embedded IPv4 address stands for the last two hextets. -/
def expandIpv4Suffix (parts : List (List Char)) : Option (List (List Char)) :=
  match parts.getLast? with
  | none => some parts
  | some last =>
      if last.contains '.' then
        (ipv4FromString last).map fun address => parts.dropLast ++
          [Nat.toDigits 16 (address / 65536), Nat.toDigits 16 (address % 65536)]
      else some parts

/-- An empty outer part is allowed only when it stands next to `::`. -/
def trimEndpoint (parts : List (List Char)) (endpoint : Option (List Char)) :
    Option (List (List Char)) :=
  if endpoint = some [] then (if parts.length = 1 then some [] else none) else some parts

/-- The parts around `::` leave room for at least one zero hextet. -/
def skippedValue (high low : List (List Char)) : Option Nat := do
  let high ← trimEndpoint high high.head?
  let low ← trimEndpoint low low.getLast?
  if 7 < high.length + low.length then none
  else do
    let highValue ← hextetsValue high
    let lowValue ← hextetsValue low
    return highValue * 65536 ^ (8 - high.length) + lowValue

/-- An IPv6 address has eight hextets, or fewer with one `::` between them. -/
def ipv6FromString (text : List Char) : Option Nat :=
  let parts := text.splitOn ':'
  if parts.length < 3 then none
  else match expandIpv4Suffix parts with
    | none => none
    | some parts =>
        let inner := parts.tail.dropLast
        if 9 < parts.length || 1 < inner.count [] then none
        else if inner.count [] = 1 then
          let skipIndex := inner.idxOf [] + 1
          skippedValue (parts.take skipIndex) (parts.drop (skipIndex + 1))
        else if parts.length = 8 then hextetsValue parts else none

/-- The text after the first percent sign names the scope of an IPv6 address. -/
def splitScopeId (text : List Char) : Option (List Char × Option (List Char)) :=
  match text.span fun character => character ≠ '%' with
  | (address, []) => some (address, none)
  | (address, _ :: scope) => if scope = [] || scope.contains '%' then none else some (address, some scope)

/-- A run of ASCII digits is a prefix length when it does not exceed the width. -/
def prefixFromPrefixString (version : Version) (text : List Char) : Option Nat :=
  -- `int` refuses to read more than 4300 digits.
  if text = [] || !text.all isDigit || 4300 < text.length || version.width < decimalValue text then none
  else some (decimalValue text)

/-- The mask of a prefix has that many leading ones. -/
def maskOf (version : Version) (prefixLength : Nat) : Nat :=
  2 ^ version.width - 2 ^ (version.width - prefixLength)

/-- A dotted mask is the mask of a prefix, or the inverse of one. -/
def prefixFromIpString (text : List Char) : Option Nat :=
  match ipv4FromString text with
  | none => none
  | some mask =>
      let prefixOf (mask : Nat) := (List.range 33).find? fun length => maskOf .v4 length = mask
      (prefixOf mask).or (prefixOf (2 ^ 32 - 1 - mask))

def makeNetmask (version : Version) (mask : Option (List Char)) : Option Nat :=
  match mask with
  | none => some version.width
  | some text =>
      match version with
      | .v4 => (prefixFromPrefixString .v4 text).or (prefixFromIpString text)
      | .v6 => prefixFromPrefixString .v6 text

/-- The host bits of the address are cleared, as `strict=False` does. -/
def networkOf (version : Version) (scopeId : Option (List Char)) (address prefixLength : Nat) : Network where
  version := version
  networkAddress := address / 2 ^ (version.width - prefixLength) * 2 ^ (version.width - prefixLength)
  prefixLength := prefixLength
  scopeId := scopeId

/-- At most one slash divides the address from its mask. -/
def splitOptionalNetmask (text : List Char) : Option (List Char × Option (List Char)) :=
  match text.splitOn '/' with
  | [address] => some (address, none)
  | [address, mask] => some (address, some mask)
  | _ => none

def ipv4Network (text : List Char) : Option Network := do
  let (address, mask) ← splitOptionalNetmask text
  let value ← ipv4FromString address
  let prefixLength ← makeNetmask .v4 mask
  return networkOf .v4 none value prefixLength

def ipv6Network (text : List Char) : Option Network := do
  let (address, mask) ← splitOptionalNetmask text
  let (address, scopeId) ← splitScopeId address
  let value ← ipv6FromString address
  let prefixLength ← makeNetmask .v6 mask
  return networkOf .v6 scopeId value prefixLength

/-- `ipaddress.ip_network` with `strict=False` tries both families. -/
def ipNetwork (text : List Char) : Option Network := (ipv4Network text).or (ipv6Network text)

/-- `ipaddress.ip_address` tries both families; the scope of an IPv6 address does not count. -/
def ipAddress (text : List Char) : Option (Version × Nat) :=
  match ipv4FromString text with
  | some value => some (.v4, value)
  | none =>
      if text.contains '/' then none
      else do
        let (address, _) ← splitScopeId text
        let value ← ipv6FromString address
        return (.v6, value)

/-- A network holds the addresses of its family with its leading bits. -/
def Network.contains (network : Network) (address : Version × Nat) : Bool :=
  address.1 = network.version &&
    address.2 / 2 ^ (network.version.width - network.prefixLength) *
      2 ^ (network.version.width - network.prefixLength) = network.networkAddress

/-- An IPv6 address of the form `::ffff:a.b.c.d` carries an IPv4 address. -/
def ipv4Mapped : Version × Nat → Option (Version × Nat)
  | (.v4, _) => none
  | (.v6, value) => if value / 2 ^ 32 = 65535 then some (.v4, value % 2 ^ 32) else none

/-- The four octets are written in decimal with points between them. -/
def renderIpv4 (address : Nat) : List Char :=
  Nat.toDigits 10 (address / 256 ^ 3 % 256) ++ '.' :: (Nat.toDigits 10 (address / 256 ^ 2 % 256) ++
    '.' :: (Nat.toDigits 10 (address / 256 % 256) ++ '.' :: Nat.toDigits 10 (address % 256)))

/-- An IPv4 network is written with its masked address and its prefix length. -/
def Network.renderIpv4 (network : Network) : List Char :=
  IpAddress.renderIpv4 network.networkAddress ++ '/' :: Nat.toDigits 10 network.prefixLength

theorem parseOctet_digits {text : List Char} {value : Nat} (parsed : parseOctet text = some value) {character : Char}
    (inside : character ∈ text) : isDigit character = true := by
  unfold parseOctet at parsed
  split at parsed
  · cases parsed
  · rename_i wellFormed
    simp only [not_or, Bool.not_eq_true', Bool.not_eq_false] at wellFormed
    exact List.all_eq_true.mp wellFormed.2.1 character inside

/-- Only digits and points occur in an IPv4 address. -/
theorem ipv4FromString_chars {text : List Char} {value : Nat} (parsed : ipv4FromString text = some value)
    {character : Char} (inside : character ∈ text) : isDigit character = true ∨ character = '.' := by
  unfold ipv4FromString at parsed
  split at parsed
  · rename_i first second third fourth octets
    obtain ⟨one, rest, split, one', octets⟩ := List.map_eq_cons_iff.mp octets
    obtain ⟨two, rest, rfl, two', octets⟩ := List.map_eq_cons_iff.mp octets
    obtain ⟨three, rest, rfl, three', octets⟩ := List.map_eq_cons_iff.mp octets
    obtain ⟨four, rest, rfl, four', octets⟩ := List.map_eq_cons_iff.mp octets
    rw [List.map_eq_nil_iff.mp octets] at split
    have joined : List.intercalate ['.'] (text.splitOn '.') = text := List.intercalate_splitOn '.'
    rw [← joined, split] at inside
    simp only [List.intercalate, List.intersperse_cons_cons, List.intersperse_singleton, List.flatten_cons,
      List.flatten_nil, List.mem_append, List.mem_singleton, List.append_nil] at inside
    rcases inside with here | dot | here | dot | here | dot | here
    · exact .inl (parseOctet_digits one' here)
    · exact .inr dot
    · exact .inl (parseOctet_digits two' here)
    · exact .inr dot
    · exact .inl (parseOctet_digits three' here)
    · exact .inr dot
    · exact .inl (parseOctet_digits four' here)
  · cases parsed

/-- An address that is not of version 6 was read as an IPv4 address. -/
theorem ipv4FromString_of_ipAddress {text : List Char} {addr : Version × Nat} (parsed : ipAddress text = some addr)
    (other : addr.1 ≠ .v6) : ∃ value, ipv4FromString text = some value := by
  unfold ipAddress at parsed
  cases first : ipv4FromString text with
  | some value => exact ⟨value, rfl⟩
  | none =>
      simp only [first, Option.bind_eq_bind] at parsed
      split at parsed
      · cases parsed
      · simp only [Option.bind_eq_some_iff] at parsed
        obtain ⟨parts, -, value, -, same⟩ := parsed
        exact absurd (congrArg Prod.fst (Option.some.inj same)).symm other

/-- An accepted text has an address part that parses and, after a slash, a mask that parses. -/
theorem ipNetwork_parts {text : List Char} (accepted : (ipNetwork text).isSome) :
    ∃ address mask, splitOptionalNetmask text = some (address, mask) ∧
      ((ipv4FromString address).isSome ∧ (makeNetmask .v4 mask).isSome ∨
        (∃ host scopeId, splitScopeId address = some (host, scopeId) ∧ (ipv6FromString host).isSome) ∧
          (makeNetmask .v6 mask).isSome) := by
  rw [ipNetwork, Option.isSome_or, Bool.or_eq_true] at accepted
  rcases accepted with first | second
  · obtain ⟨network, parsed⟩ := Option.isSome_iff_exists.mp first
    simp only [ipv4Network, Option.bind_eq_bind, Option.bind_eq_some_iff] at parsed
    obtain ⟨⟨address, mask⟩, split, value, host, prefixLength, masked, rest⟩ := parsed
    exact ⟨address, mask, split, .inl ⟨by rw [host]; rfl, by rw [masked]; rfl⟩⟩
  · obtain ⟨network, parsed⟩ := Option.isSome_iff_exists.mp second
    simp only [ipv6Network, Option.bind_eq_bind, Option.bind_eq_some_iff] at parsed
    obtain ⟨⟨address, mask⟩, split, ⟨host, scopeId⟩, named, value, read, prefixLength, masked, rest⟩ :=
      parsed
    exact ⟨address, mask, split, .inr ⟨⟨host, scopeId, named, by rw [read]; rfl⟩, by rw [masked]; rfl⟩⟩

/-- No part of an accepted text is a dot segment. -/
theorem ipNetwork_noDots {text : List Char} (accepted : (ipNetwork text).isSome)
    {part : List Char} (member : part ∈ text.splitOn '/') : part ≠ ['.'] ∧ part ≠ ['.', '.'] := by
  obtain ⟨address, mask, split, parsed⟩ := ipNetwork_parts accepted
  have dotless (dots : List Char) (dotted : dots = ['.'] ∨ dots = ['.', '.']) :
      ipv4FromString dots = none ∧ splitScopeId dots = some (dots, none) ∧ ipv6FromString dots = none ∧
        makeNetmask .v4 (some dots) = none ∧ makeNetmask .v6 (some dots) = none := by
    rcases dotted with rfl | rfl <;> decide
  have located : part = address ∨ mask = some part := by
    unfold splitOptionalNetmask at split
    split at split
    · rename_i only parts
      rw [parts, List.mem_singleton] at member
      exact .inl (member.trans (Prod.ext_iff.mp (Option.some.inj split)).1)
    · rename_i first second parts
      rw [parts] at member
      have pair := Prod.ext_iff.mp (Option.some.inj split)
      rcases List.mem_cons.mp member with here | there
      · exact .inl (here.trans pair.1)
      · exact .inr (pair.2.symm.trans (by rw [List.mem_singleton.mp there]))
    · cases split
  rw [← not_or]
  intro dotted
  obtain ⟨first, scope, second, third, fourth⟩ := dotless part dotted
  rcases located with rfl | same
  · rcases parsed with ⟨host, masked⟩ | ⟨⟨host, scopeId, named, read⟩, masked⟩
    · rw [first] at host
      cases host
    · rw [scope] at named
      have same : part = host := (Prod.ext_iff.mp (Option.some.inj named)).1
      rw [← same, second] at read
      cases read
  · rw [same] at parsed
    rcases parsed with ⟨host, masked⟩ | ⟨host, masked⟩
    · rw [third] at masked
      cases masked
    · rw [fourth] at masked
      cases masked

/-- A written octet is read back and has no point and no slash. -/
theorem octet_digits :
    ∀ octet < 256, parseOctet (Nat.toDigits 10 octet) = some octet ∧ '.' ∉ Nat.toDigits 10 octet ∧
      '/' ∉ Nat.toDigits 10 octet := by
  decide +kernel

/-- A written prefix length is read back and has no slash. -/
theorem prefix_digits :
    ∀ prefixLength < 33, prefixFromPrefixString .v4 (Nat.toDigits 10 prefixLength) = some prefixLength ∧
      '/' ∉ Nat.toDigits 10 prefixLength := by
  decide +kernel

/-- A written IPv4 address is read back. -/
theorem ipv4FromString_render {address : Nat} (inside : address < 2 ^ 32) :
    ipv4FromString (renderIpv4 address) = some address := by
  obtain ⟨first, noPoint, -⟩ := octet_digits (address / 256 ^ 3 % 256) (Nat.mod_lt _ (by omega))
  obtain ⟨second, alsoNone, -⟩ := octet_digits (address / 256 ^ 2 % 256) (Nat.mod_lt _ (by omega))
  obtain ⟨third, norHere, -⟩ := octet_digits (address / 256 % 256) (Nat.mod_lt _ (by omega))
  obtain ⟨fourth, norThere, -⟩ := octet_digits (address % 256) (Nat.mod_lt _ (by omega))
  unfold ipv4FromString renderIpv4
  rw [List.splitOn_append_cons_self_of_not_mem noPoint, List.splitOn_append_cons_self_of_not_mem alsoNone,
    List.splitOn_append_cons_self_of_not_mem norHere, List.splitOn_eq_singleton norThere]
  simp only [List.map_cons, List.map_nil, first, second, third, fourth]
  congr 1
  omega

theorem slash_renderIpv4 (address : Nat) : '/' ∉ renderIpv4 address := by
  have plain (number : Nat) : '/' ∉ Nat.toDigits 10 (number % 256) :=
    (octet_digits (number % 256) (Nat.mod_lt _ (by omega))).2.2
  unfold renderIpv4
  simp only [List.mem_append, List.mem_cons, not_or]
  exact ⟨plain _, by decide, plain _, by decide, plain _, by decide, plain _⟩

theorem parseOctet_le {text : List Char} {value : Nat} (parsed : parseOctet text = some value) : value ≤ 255 := by
  unfold parseOctet at parsed
  split at parsed
  · cases parsed
  · rename_i fine
    rw [← Option.some.inj parsed]
    simp only [not_or, not_lt] at fine
    exact fine.2.2.2.2

/-- A parsed IPv4 address has 32 bits. -/
theorem ipv4FromString_lt {text : List Char} {value : Nat} (parsed : ipv4FromString text = some value) :
    value < 2 ^ 32 := by
  unfold ipv4FromString at parsed
  split at parsed
  · rename_i first second third fourth octets
    obtain ⟨_, _, _, one, octets⟩ := List.map_eq_cons_iff.mp octets
    obtain ⟨_, _, _, two, octets⟩ := List.map_eq_cons_iff.mp octets
    obtain ⟨_, _, _, three, octets⟩ := List.map_eq_cons_iff.mp octets
    obtain ⟨_, _, _, four, octets⟩ := List.map_eq_cons_iff.mp octets
    have bounds := And.intro (parseOctet_le one)
      (And.intro (parseOctet_le two) (And.intro (parseOctet_le three) (parseOctet_le four)))
    rw [← Option.some.inj parsed]
    omega
  · cases parsed

/-- A parsed mask of an IPv4 network has at most 32 leading ones. -/
theorem makeNetmask_le {mask : Option (List Char)} {prefixLength : Nat}
    (parsed : makeNetmask .v4 mask = some prefixLength) : prefixLength < 33 := by
  have found {wanted : Nat → Bool} {length : Nat} (first : (List.range 33).find? wanted = some length) :
      length < 33 := List.mem_range.mp (List.mem_of_find?_eq_some first)
  unfold makeNetmask at parsed
  cases mask with
  | none =>
      rw [← Option.some.inj parsed]
      decide
  | some text =>
      dsimp only at parsed
      rcases Option.or_eq_some_iff.mp parsed with decimal | ⟨-, dotted⟩
      · unfold prefixFromPrefixString at decimal
        split at decimal
        · cases decimal
        · rename_i fine
          rw [← Option.some.inj decimal]
          simp only [Bool.or_eq_true, decide_eq_true_eq, not_or, not_lt] at fine
          have bound := fine.2
          simp only [Version.width] at bound
          omega
      · unfold prefixFromIpString at dotted
        split at dotted
        · cases dotted
        · rcases Option.or_eq_some_iff.mp dotted with direct | ⟨-, inverse⟩
          · exact found direct
          · exact found inverse

/-- A parsed IPv4 network is the masked network of an address and a prefix length. -/
theorem ipNetwork_v4 {text : List Char} {network : Network} (parsed : ipNetwork text = some network)
    (family : network.version = .v4) :
    ∃ address prefixLength, address < 2 ^ 32 ∧ prefixLength < 33 ∧
      network = networkOf .v4 none address prefixLength := by
  rcases Option.or_eq_some_iff.mp parsed with first | ⟨-, second⟩
  · simp only [ipv4Network, Option.bind_eq_bind, Option.bind_eq_some_iff] at first
    obtain ⟨parts, -, address, read, prefixLength, masked, same⟩ := first
    exact ⟨address, prefixLength, ipv4FromString_lt read, makeNetmask_le masked, (Option.some.inj same).symm⟩
  · simp only [ipv6Network, Option.bind_eq_bind, Option.bind_eq_some_iff] at second
    obtain ⟨parts, -, host, -, value, -, prefixLength, -, same⟩ := second
    rw [← Option.some.inj same] at family
    cases family

/-- A written IPv4 network is read back. -/
theorem ipNetwork_render {text : List Char} {network : Network} (parsed : ipNetwork text = some network)
    (family : network.version = .v4) : ipNetwork network.renderIpv4 = some network := by
  obtain ⟨address, prefixLength, inside, short, same⟩ := ipNetwork_v4 parsed family
  obtain ⟨length, plain⟩ := prefix_digits prefixLength short
  have masked : network.networkAddress < 2 ^ 32 := by
    rw [same]
    exact lt_of_le_of_lt (Nat.div_mul_le_self address _) inside
  have kept : networkOf .v4 none network.networkAddress prefixLength = network := by
    rw [same]
    simp only [networkOf, Network.mk.injEq, true_and, and_true]
    rw [Nat.mul_div_cancel _ (Nat.two_pow_pos _)]
  have parts : splitOptionalNetmask network.renderIpv4 =
      some (renderIpv4 network.networkAddress, some (Nat.toDigits 10 prefixLength)) := by
    have stored : network.prefixLength = prefixLength := by rw [same]; rfl
    unfold splitOptionalNetmask Network.renderIpv4
    rw [List.splitOn_append_cons_self_of_not_mem (slash_renderIpv4 _), stored, List.splitOn_eq_singleton plain]
  rw [ipNetwork, Option.or_eq_some_iff]
  left
  simp only [ipv4Network, Option.bind_eq_bind, Option.bind_eq_some_iff]
  refine ⟨_, parts, _, ipv4FromString_render masked, prefixLength, ?_, congrArg some kept⟩
  simp only [makeNetmask, length, Option.some_or]

theorem ipAddress_v4_lt {text : List Char} {address : Nat} (parsed : ipAddress text = some (.v4, address)) :
    address < 2 ^ 32 := by
  unfold ipAddress at parsed
  split at parsed
  · rename_i read
    cases parsed
    exact ipv4FromString_lt read
  · split at parsed
    · cases parsed
    · simp only [Option.bind_eq_bind, Option.bind_eq_some_iff] at parsed
      obtain ⟨_, -, _, -, same⟩ := parsed
      cases same

/-- A written IPv4 address is read back by the function for both families. -/
theorem ipAddress_render {text : List Char} {address : Nat} (parsed : ipAddress text = some (.v4, address)) :
    ipAddress (renderIpv4 address) = some (.v4, address) := by
  rw [ipAddress, ipv4FromString_render (ipAddress_v4_lt parsed)]

/-- The characters of addresses without a scope. -/
def isAddressChar (c : Char) : Bool := isHexDigit c || c = ':' || c = '.'

def Written (text : List Char) : Prop := ∀ c ∈ text, isAddressChar c = true

theorem written_of_ipv4 {text : List Char} {value : Nat} (parsed : ipv4FromString text = some value) : Written text := by
  intro c member
  unfold isAddressChar isHexDigit
  rcases ipv4FromString_chars parsed member with digit | dot
  · simp [digit]
  · simp [dot]

theorem written_of_hextet {text : List Char} {value : Nat} (parsed : parseHextet text = some value) : Written text := by
  intro c member
  unfold parseHextet at parsed
  split at parsed
  · cases parsed
  · rename_i fine
    simp only [not_or, Bool.not_eq_true', Bool.not_eq_false] at fine
    have hex := List.all_eq_true.mp fine.2.1 c member
    unfold isAddressChar
    rw [hex]
    rfl

theorem written_of_hextets {parts : List (List Char)} {value : Nat} (parsed : hextetsValue parts = some value) :
    ∀ part ∈ parts, Written part := by
  obtain ⟨values, read, -⟩ := Option.map_eq_some_iff.mp parsed
  clear parsed
  induction parts generalizing values with
  | nil => simp
  | cons part rest ih =>
      rw [List.mapM_cons] at read
      obtain ⟨first, here, others⟩ := Option.bind_eq_some_iff.mp read
      obtain ⟨later, there, _⟩ := Option.bind_eq_some_iff.mp others
      exact List.forall_mem_cons.mpr ⟨written_of_hextet here, ih later there⟩

theorem written_nil : Written [] := by
  intro c member
  cases member

/-- Trimmed parts leave out an empty part only. -/
theorem written_of_trimmed {parts trimmed : List (List Char)} {endpoint : Option (List Char)}
    (same : trimEndpoint parts endpoint = some trimmed) (inside : ∀ part ∈ endpoint, part ∈ parts)
    (written : ∀ part ∈ trimmed, Written part) : ∀ part ∈ parts, Written part := by
  unfold trimEndpoint at same
  split at same
  · rename_i empty
    split at same
    · rename_i single
      obtain ⟨only, shape⟩ := List.length_eq_one_iff.mp single
      have known := inside [] empty
      rw [shape, List.mem_singleton] at known
      rw [shape, ← known]
      intro part member
      rw [List.mem_singleton.mp member]
      exact written_nil
    · cases same
  · rw [Option.some.inj same]
    exact written

theorem written_of_skipped {high low : List (List Char)} {value : Nat} (parsed : skippedValue high low = some value) :
    (∀ part ∈ high, Written part) ∧ ∀ part ∈ low, Written part := by
  unfold skippedValue at parsed
  obtain ⟨first, left, rest⟩ := Option.bind_eq_some_iff.mp parsed
  obtain ⟨second, right, rest⟩ := Option.bind_eq_some_iff.mp rest
  split at rest
  · cases rest
  · obtain ⟨firstValue, front, rest⟩ := Option.bind_eq_some_iff.mp rest
    obtain ⟨secondValue, back, rest⟩ := Option.bind_eq_some_iff.mp rest
    exact ⟨written_of_trimmed left (fun part member => List.mem_of_head? member) (written_of_hextets front),
      written_of_trimmed right (fun part member => List.mem_of_getLast? member) (written_of_hextets back)⟩

/-- A character of a text is a separator or stands in a part. -/
theorem mem_splitOn_cases {separator c : Char} {text : List Char} (member : c ∈ text) :
    c = separator ∨ ∃ part ∈ text.splitOn separator, c ∈ part := by
  induction text with
  | nil => cases member
  | cons first rest ih =>
      rw [List.splitOn_cons_eq_if_modifyHead]
      split
      · rename_i same
        rcases List.mem_cons.mp member with here | later
        · exact .inl (here.trans (beq_iff_eq.mp same))
        · rcases ih later with mark | ⟨part, listed, inside⟩
          · exact .inl mark
          · exact .inr ⟨part, List.mem_cons_of_mem _ listed, inside⟩
      · obtain ⟨head, others, parts⟩ := List.exists_cons_of_ne_nil (List.splitOn_ne_nil separator rest)
        rw [parts, List.modifyHead_cons]
        rcases List.mem_cons.mp member with here | later
        · exact .inr ⟨first :: head, List.mem_cons_self, here ▸ List.mem_cons_self⟩
        · rcases ih later with mark | ⟨part, listed, inside⟩
          · exact .inl mark
          · rw [parts] at listed
            rcases List.mem_cons.mp listed with same | behind
            · exact .inr ⟨first :: head, List.mem_cons_self, List.mem_cons_of_mem _ (same ▸ inside)⟩
            · exact .inr ⟨part, List.mem_cons_of_mem _ behind, inside⟩

/-- The empty part inside is left out, and the others are on its sides. -/
theorem mem_sides {parts : List (List Char)} (skips : parts.tail.dropLast.count [] = 1) {part : List Char}
    (member : part ∈ parts) :
    part = [] ∨ part ∈ parts.take (parts.tail.dropLast.idxOf [] + 1) ∨
      part ∈ parts.drop (parts.tail.dropLast.idxOf [] + 1 + 1) := by
  have occurs : [] ∈ parts.tail.dropLast := by
    rw [← List.count_pos_iff, skips]
    exact Nat.one_pos
  have short := List.idxOf_lt_length_of_mem occurs
  have empty : parts.tail.dropLast[parts.tail.dropLast.idxOf []]? = some [] := by
    rw [List.getElem?_eq_getElem short, List.getElem_idxOf short]
  have here : parts[parts.tail.dropLast.idxOf [] + 1]? = some [] := by
    rw [List.getElem?_dropLast] at empty
    split at empty
    · rwa [List.getElem?_tail] at empty
    · cases empty
  obtain ⟨index, found⟩ := List.mem_iff_getElem?.mp member
  rcases Nat.lt_trichotomy index (parts.tail.dropLast.idxOf [] + 1) with before | same | behind
  · refine .inr (.inl (List.mem_iff_getElem?.mpr ⟨index, ?_⟩))
    rw [List.getElem?_take_of_lt before, found]
  · rw [same, here] at found
    exact .inl (Option.some.inj found).symm
  · refine .inr (.inr (List.mem_iff_getElem?.mpr ⟨index - (parts.tail.dropLast.idxOf [] + 1 + 1), ?_⟩))
    rw [List.getElem?_drop, Nat.add_sub_cancel' behind, found]

/-- The last part may be an IPv4 address. -/
theorem written_of_expanded {parts expanded : List (List Char)} (same : expandIpv4Suffix parts = some expanded)
    (written : ∀ part ∈ expanded, Written part) : ∀ part ∈ parts, Written part := by
  unfold expandIpv4Suffix at same
  cases ending : parts.getLast? with
  | none =>
      rw [ending] at same
      rw [Option.some.inj same]
      exact written
  | some last =>
      rw [ending] at same
      dsimp only at same
      split at same
      · obtain ⟨address, read, rest⟩ := Option.map_eq_some_iff.mp same
        obtain ⟨front, rfl⟩ := List.getLast?_eq_some_iff.mp ending
        rw [List.dropLast_concat] at rest
        rw [← rest] at written
        intro part member
        rcases List.mem_append.mp member with before | here
        · exact written part (List.mem_append_left _ before)
        · rw [List.mem_singleton.mp here]
          exact written_of_ipv4 read
      · rw [Option.some.inj same]
        exact written

theorem written_of_ipv6 {text : List Char} {value : Nat} (parsed : ipv6FromString text = some value) : Written text := by
  have parts_written : ∀ part ∈ text.splitOn ':', Written part := by
    unfold ipv6FromString at parsed
    dsimp only at parsed
    split at parsed
    · cases parsed
    · cases expanded : expandIpv4Suffix (text.splitOn ':') with
      | none =>
          rw [expanded] at parsed
          cases parsed
      | some parts =>
          rw [expanded] at parsed
          have written : ∀ part ∈ parts, Written part := by
            dsimp only at parsed
            split at parsed
            · cases parsed
            · split at parsed
              · rename_i skips
                obtain ⟨high, low⟩ := written_of_skipped parsed
                intro part member
                rcases mem_sides skips member with empty | left | right
                · rw [empty]
                  exact written_nil
                · exact high part left
                · exact low part right
              · split at parsed
                · exact written_of_hextets parsed
                · cases parsed
          exact written_of_expanded expanded written
  intro c member
  rcases @mem_splitOn_cases ':' c text member with mark | ⟨part, listed, inside⟩
  · rw [mark]
    decide
  · exact parts_written part listed c inside

/-- An address without a scope is written in these characters. -/
theorem written_of_unscoped {text : List Char} (parsed : (ipAddress text).isSome = true) (unscoped : '%' ∉ text) :
    Written text := by
  obtain ⟨addr, same⟩ := Option.isSome_iff_exists.mp parsed
  unfold ipAddress at same
  cases first : ipv4FromString text with
  | some value => exact written_of_ipv4 first
  | none =>
      rw [first] at same
      dsimp only at same
      split at same
      · cases same
      · obtain ⟨⟨address, scope⟩, divided, rest⟩ := Option.bind_eq_some_iff.mp same
        obtain ⟨value, read, _⟩ := Option.bind_eq_some_iff.mp rest
        have whole : address = text := by
          have passes : ∀ c ∈ text, decide (c ≠ '%') = true := by
            intro c member
            exact decide_eq_true fun same => unscoped (same ▸ member)
          have spanned : text.span (fun character => character ≠ '%') = (text, []) := by
            rw [List.span_eq_takeWhile_dropWhile, List.takeWhile_eq_self_iff.mpr passes,
              List.dropWhile_eq_nil_iff.mpr passes]
          unfold splitScopeId at divided
          rw [spanned] at divided
          exact (Prod.mk.inj (Option.some.inj divided)).1.symm
        rw [whole] at read
        exact written_of_ipv6 read
end P3Portal.Foundation.IpAddress
