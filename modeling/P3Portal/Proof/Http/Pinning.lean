import Mathlib.Data.Bool.AllAny
import P3Portal.Foundation.IpAddress
import P3Portal.Foundation.UrlRoundTrip
import P3Portal.Proof.Http.Webhook

namespace P3Portal.Http
open Foundation IpAddress PythonUrl

/-- The host of an authority is a name, an IPv4 address, or an address in brackets. -/
inductive Host where
  | plain (text : List Char)
  | bracketed (text : List Char)

namespace Host

def inner : Host → List Char
  | plain text => text
  | bracketed text => text

def text : Host → List Char
  | plain text => text
  | bracketed text => '[' :: (text ++ [']'])

/-- The host of a URL has ASCII characters and does not end early. -/
structure Valid (host : Host) : Prop where
  present : host.inner ≠ []
  ascii : ∀ c ∈ host.inner, c.toNat < 128
  undivided : '[' ∉ host.inner ∧ ']' ∉ host.inner ∧ '@' ∉ host.inner
  colon : ∀ text, host = .plain text → ':' ∉ text

end Host

def portText : Option (List Char) → List Char
  | none => []
  | some digits => ':' :: digits

/-- The authority of a URL, with a port that can be read. -/
structure Authority where
  userinfo : Option (List Char)
  host : Host
  port : Option (List Char)
  host_valid : host.Valid
  port_valid : ∀ digits, port = some digits → digits.all isDigit = true ∧ digits.length ≤ 4300 ∧ decimalValue digits ≤ 65535

namespace Authority

/-- The host and the port as they stand in the authority. -/
def location (authority : Authority) : List Char := authority.host.text ++ portText authority.port

def text (authority : Authority) : List Char :=
  match authority.userinfo with
  | none => authority.location
  | some userinfo => userinfo ++ '@' :: authority.location

end Authority

section Reading
variable {authority : Authority} {parsed : ParseResult}

/-- The part behind the last separator is found from behind. -/
theorem lastPart {separator : Char} {last : List Char} (free : separator ∉ last) (front : List Char) :
    ((front ++ separator :: last).reverse.takeWhile (· ≠ separator)).reverse = last ∧
      (last.reverse.takeWhile (· ≠ separator)).reverse = last := by
  have passes : ∀ c ∈ last.reverse, decide (c ≠ separator) = true := by
    intro c member
    exact decide_eq_true fun same => free (same ▸ List.mem_reverse.mp member)
  constructor
  · rw [List.reverse_append, List.reverse_cons, List.append_assoc, List.takeWhile_append_of_pos passes]
    simp
  · rw [List.takeWhile_eq_self_iff.mpr passes, List.reverse_reverse]

/-- A digit is none of the marks of a network location. -/
theorem digit_other {c : Char} (digit : isDigit c = true) : c ≠ '[' ∧ c ≠ ']' ∧ c ≠ '@' ∧ c ≠ ':' := by
  refine ⟨?_, ?_, ?_, ?_⟩
  all_goals
    rintro rfl
    revert digit
    decide

/-- A port has no mark but its colon. -/
theorem mem_portText {c : Char} (member : c ∈ portText authority.port) : c = ':' ∨ isDigit c = true := by
  cases port : authority.port with
  | none =>
      rw [port] at member
      cases member
  | some digits =>
      rw [port] at member
      have digits_only := (authority.port_valid digits port).1
      rcases List.mem_cons.mp member with colon | inside
      · exact .inl colon
      · exact .inr (List.all_eq_true.mp digits_only c inside)

/-- A port has no brackets and no at sign. -/
theorem portText_free : '[' ∉ portText authority.port ∧ ']' ∉ portText authority.port ∧ '@' ∉ portText authority.port := by
  refine ⟨?_, ?_, ?_⟩
  all_goals
    intro member
    rcases mem_portText member with colon | digit
    · cases colon
    · revert digit
      decide

/-- Behind the colon of a port stand its digits. -/
theorem divide_portText : ((divide ':' (portText authority.port)).2).getD [] = authority.port.getD [] := by
  cases authority.port with
  | none => rfl
  | some digits =>
      have split := divide_append (List.not_mem_nil : ':' ∉ ([] : List Char)) digits
      rw [List.nil_append] at split
      show ((divide ':' (':' :: digits)).2).getD [] = digits
      rw [split]
      rfl

/-- A location has no at sign. -/
theorem location_free : '@' ∉ authority.location := by
  have undivided := authority.host_valid.undivided
  unfold Authority.location
  rw [List.mem_append]
  rintro (host | port)
  · cases kind : authority.host with
    | plain text =>
        rw [kind] at host undivided
        exact undivided.2.2 host
    | bracketed text =>
        rw [kind] at host undivided
        simp only [Host.text, List.mem_cons, List.mem_append, List.not_mem_nil, or_false] at host
        rcases host with mark | inside | mark
        · cases mark
        · exact undivided.2.2 inside
        · cases mark
  · exact portText_free.2.2 port

/-- The host and the port are read from the authority. -/
theorem hostinfo_authority (form : parsed.netloc = authority.text) :
    parsed.hostinfo = (authority.host.inner, authority.port.getD []) := by
  have last : (parsed.netloc.reverse.takeWhile (· ≠ '@')).reverse = authority.location := by
    rw [form]
    unfold Authority.text
    cases authority.userinfo with
    | none => exact (lastPart location_free []).2
    | some userinfo => exact (lastPart location_free userinfo).1
  have undivided := authority.host_valid.undivided
  have colon := authority.host_valid.colon
  unfold ParseResult.hostinfo
  dsimp only
  rw [last]
  unfold Authority.location
  cases kind : authority.host with
  | plain text =>
      rw [kind] at undivided
      have unbracketed : '[' ∉ text ++ portText authority.port := by
        rw [List.mem_append]
        rintro (inside | inside)
        · exact undivided.1 inside
        · exact portText_free.1 inside
      simp only [Host.text, Host.inner, divide_absent unbracketed]
      cases port : authority.port with
      | none =>
          have single : ':' ∉ text ++ portText none := by
            rw [portText, List.append_nil]
            exact colon text kind
          rw [divide_absent single, portText, List.append_nil]
      | some digits =>
          have split := divide_append (colon text kind) digits
          rw [portText, split]
  | bracketed text =>
      rw [kind] at undivided
      have opened := divide_append (List.not_mem_nil : '[' ∉ ([] : List Char)) (text ++ ']' :: portText authority.port)
      have closed := divide_append undivided.2.1 (portText authority.port)
      rw [List.nil_append] at opened
      have whole : Host.text (.bracketed text) ++ portText authority.port = '[' :: (text ++ ']' :: portText authority.port) := by
        simp [Host.text]
      simp only [whole, Host.inner, opened]
      rw [show divide ']' (text ++ ']' :: portText authority.port) = _ from closed]
      dsimp only
      rw [Option.getD_some, divide_portText]
      rfl

end Reading

section Pinning
variable {checkNetloc : List Char → Except String Unit} {url : List Char} {parsed : ParseResult}

/-- The text of an IP address, whose scope does not divide a URL. -/
structure IpText where
  text : List Char
  parsed : (ipAddress text).isSome = true
  ascii : ∀ c ∈ text, c.toNat < 128
  undivided : ∀ c ∈ text, endsNetloc c = false ∧ isControl c = false ∧ c ∉ ['[', ']', '@']

/-- A character of an address is plain in a URL. -/
theorem addressChar_plain {c : Char} (written : isAddressChar c = true) :
    c.toNat < 128 ∧ endsNetloc c = false ∧ isControl c = false ∧ c ∉ ['[', ']', '@'] := by
  have bounds : 48 ≤ c.toNat ∧ c.toNat ≤ 58 ∨ 65 ≤ c.toNat ∧ c.toNat ≤ 70 ∨ 97 ≤ c.toNat ∧ c.toNat ≤ 102 ∨ c.toNat = 46 := by
    simp only [isAddressChar, isHexDigit, isDigit, Bool.or_eq_true, Bool.and_eq_true, decide_eq_true_eq] at written
    rcases written with (((⟨low, high⟩ | ⟨low, high⟩) | ⟨low, high⟩) | colon) | dot
    · exact .inl ⟨low, Nat.le_succ_of_le high⟩
    · exact .inr (.inr (.inl ⟨low, high⟩))
    · exact .inr (.inl ⟨low, high⟩)
    · rw [colon]
      decide
    · rw [dot]
      decide
  have apart : ∀ other : Char, (¬ (48 ≤ other.toNat ∧ other.toNat ≤ 58 ∨ 65 ≤ other.toNat ∧ other.toNat ≤ 70 ∨
      97 ≤ other.toNat ∧ other.toNat ≤ 102 ∨ other.toNat = 46)) → c ≠ other := by
    rintro other outside rfl
    exact outside bounds
  refine ⟨by omega, ?_, ?_, ?_⟩
  · have slash := apart '/' (by decide)
    have question := apart '?' (by decide)
    have hash := apart '#' (by decide)
    simp [endsNetloc, slash, question, hash]
  · have tab := apart '\t' (by decide)
    have carriage := apart '\r' (by decide)
    have feed := apart '\n' (by decide)
    simp [isControl, tab, carriage, feed]
  · have opens := apart '[' (by decide)
    have closes := apart ']' (by decide)
    have sign := apart '@' (by decide)
    simp [opens, closes, sign]

/-- Every address without a scope is such a text. -/
def IpText.unscoped (text : List Char) (parsed : (ipAddress text).isSome = true) (unscoped : '%' ∉ text) : IpText where
  text := text
  parsed := parsed
  ascii c member := (addressChar_plain (written_of_unscoped parsed unscoped c member)).1
  undivided c member := (addressChar_plain (written_of_unscoped parsed unscoped c member)).2

/-- The name in lower case, but for the scope of an address. -/
def lowered (name : List Char) : List Char := (name.takeWhile (· ≠ '%')).map Char.toLower ++ name.dropWhile (· ≠ '%')

/-- Only the host of the URL is another one, and the header names the host and the port of the authority. -/
structure Pinned (parsed : ParseResult) (authority : Authority) (ip : IpText) (rewritten header : List Char) : Prop where
  url : ∃ again port, urlparse (fun _ => .ok ()) rewritten = .ok again ∧ again.netloc = ipInUrl ip.text ++ port ∧
    IsPort port ∧ again.port = parsed.port ∧ again.scheme = parsed.scheme ∧ again.path = parsed.path ∧
      again.params = parsed.params ∧ again.query = parsed.query ∧ again.fragment = parsed.fragment
  header : header = authority.location

/-- The host is a name in lower case, and the port is a positive number without leading zeros. -/
structure KeepsForm (authority : Authority) : Prop where
  host : ∃ name, authority.host = .plain name ∧ lowered name = name
  port : ∀ digits, authority.port = some digits →
    decimalValue digits ≠ 0 ∧ Nat.toDigits 10 (decimalValue digits) = digits

/-- The port that the library reads from the authority. -/
def Authority.portNumber (authority : Authority) : Option Nat :=
  match authority.port with
  | none => none
  | some digits => if digits = [] then none else some (decimalValue digits)

/-- The port of a parsed URL is the one of its network location. -/
theorem port_authority {authority : Authority} (form : parsed.netloc = authority.text) :
    parsed.port = .ok authority.portNumber := by
  unfold ParseResult.port Authority.portNumber
  rw [hostinfo_authority form]
  cases port : authority.port with
  | none => rfl
  | some digits =>
      obtain ⟨numeric, short, small⟩ := authority.port_valid digits port
      dsimp only
      rw [Option.getD_some]
      split
      · rfl
      · rw [numeric, decide_eq_false (Nat.not_lt.mpr short), if_neg (by decide), if_neg (Nat.not_lt.mpr small)]

/-- Lower case does not change the length. -/
theorem lowered_length (name : List Char) : (lowered name).length = name.length := by
  unfold lowered
  rw [List.length_append, List.length_map, ← List.length_append, List.takeWhile_append_dropWhile]

/-- What the function answers for an authority. -/
theorem pinUrlToIp_eq {authority : Authority} (read : urlparse checkNetloc url = .ok parsed)
    (form : parsed.netloc = authority.text) (ip : List Char) :
    pinUrlToIp checkNetloc url ip =
      .ok ({ parsed with netloc := ipInUrl ip ++ portPart authority.portNumber }.geturl,
        lowered authority.host.inner ++ portPart authority.portNumber) := by
  have named : parsed.hostname = some (lowered authority.host.inner) := by
    unfold ParseResult.hostname
    rw [hostinfo_authority form]
    exact if_neg authority.host_valid.present
  have present : lowered authority.host.inner ≠ [] := by
    intro empty
    have size := lowered_length authority.host.inner
    rw [empty] at size
    exact authority.host_valid.present (List.length_eq_zero_iff.mp size.symm)
  unfold pinUrlToIp
  rw [read]
  simp only [Bind.bind, Except.bind, port_authority form, named, Option.getD_some, if_neg present]
  rfl

/-- The authority with the address instead of the host. -/
def IpText.host (ip : IpText) : Host :=
  if (ipAddress ip.text).any fun addr => addr.1 = .v6 then .bracketed ip.text else .plain ip.text

/-- An address stands in a URL with its brackets. -/
theorem IpText.host_text (ip : IpText) : ip.host.text = ipInUrl ip.text := by
  unfold IpText.host ipInUrl
  split
  · rfl
  · rfl

/-- Inside of the brackets stands the address itself. -/
theorem IpText.inner (ip : IpText) : ip.host.inner = ip.text := by
  unfold IpText.host
  split
  · rfl
  · rfl

/-- An address is a valid host. -/
theorem IpText.host_valid (ip : IpText) : ip.host.Valid where
  present := by
    rw [ip.inner]
    intro empty
    have parsed := ip.parsed
    rw [empty] at parsed
    revert parsed
    decide
  ascii := by
    rw [ip.inner]
    exact ip.ascii
  undivided := by
    rw [ip.inner]
    refine ⟨?_, ?_, ?_⟩
    all_goals
      intro member
      have other := (ip.undivided _ member).2.2
      revert other
      decide
  colon := by
    intro text same
    unfold IpText.host at same
    split at same
    · cases same
    · rename_i other
      obtain ⟨addr, parsed⟩ := Option.isSome_iff_exists.mp ip.parsed
      rw [parsed, Option.any_some, decide_eq_true_iff] at other
      obtain ⟨value, read⟩ := ipv4FromString_of_ipAddress parsed other
      rw [← Host.plain.inj same]
      intro member
      rcases ipv4FromString_chars read member with digit | dot
      · revert digit
        decide
      · cases dot

/-- Lower case makes no brackets. -/
theorem toLower_bracket {c : Char} (same : c.toLower = '[') : c = '[' := by
  unfold Char.toLower at same
  split at same
  · rename_i upper
    have value := congrArg (fun c => c.val.toNat) same
    have low : 65 ≤ c.val.toNat := upper.1
    have high : c.val.toNat ≤ 90 := upper.2
    simp only [UInt32.toNat_add] at value
    have shifted : (c.val.toNat + 32) % 2 ^ 32 = 91 := value
    omega
  · exact same

/-- A bracket of a lowered name was one before. -/
theorem bracket_lowered {name : List Char} (member : '[' ∈ lowered name) : '[' ∈ name := by
  rcases List.mem_append.mp member with front | behind
  · obtain ⟨c, inside, same⟩ := List.mem_map.mp front
    rw [toLower_bracket same] at inside
    exact (List.takeWhile_prefix _).subset inside
  · exact (List.dropWhile_suffix _).subset behind

/-- A port is written as before unless it is zero or has leading zeros. -/
theorem portPart_eq_iff (authority : Authority) :
    portPart authority.portNumber = portText authority.port ↔ ∀ digits, authority.port = some digits →
      decimalValue digits ≠ 0 ∧ Nat.toDigits 10 (decimalValue digits) = digits := by
  unfold Authority.portNumber
  cases authority.port with
  | none => simp [portPart, portText]
  | some digits =>
      have single : (∀ other, some digits = some other → decimalValue other ≠ 0 ∧
          Nat.toDigits 10 (decimalValue other) = other) ↔
          decimalValue digits ≠ 0 ∧ Nat.toDigits 10 (decimalValue digits) = digits := by simp
      rw [single]
      dsimp only
      split
      · rename_i empty
        rw [empty]
        decide
      · cases value : decimalValue digits with
        | zero => simp [portPart, portText]
        | succ number => simp [portPart, portText]

/-- The header repeats the host and the port of the authority exactly when they keep their form. -/
theorem header_iff (authority : Authority) :
    lowered authority.host.inner ++ portPart authority.portNumber = authority.location ↔ KeepsForm authority := by
  unfold Authority.location
  cases kind : authority.host with
  | plain name =>
      constructor
      · intro same
        obtain ⟨host, port⟩ := List.append_inj same (lowered_length name)
        exact ⟨⟨name, kind, host⟩, (portPart_eq_iff authority).mp port⟩
      · rintro ⟨⟨other, found, host⟩, port⟩
        rw [kind] at found
        rw [← Host.plain.inj found] at host
        show lowered name ++ _ = name ++ _
        rw [host, (portPart_eq_iff authority).mpr port]
  | bracketed text =>
      constructor
      · intro same
        have undivided := authority.host_valid.undivided.1
        have present := authority.host_valid.present
        rw [kind] at undivided present
        cases name : lowered text with
        | nil =>
            have size := lowered_length text
            rw [name] at size
            exact absurd (List.length_eq_zero_iff.mp size.symm) present
        | cons c rest =>
            have same : lowered text ++ portPart authority.portNumber = '[' :: (text ++ [']'] ++ portText authority.port) := same
            rw [name, List.cons_append] at same
            have bracket : '[' ∈ lowered text := by
              rw [name, (List.cons.inj same).1]
              exact List.mem_cons_self
            exact absurd (bracket_lowered bracket) undivided
      · rintro ⟨⟨other, found, _⟩, _⟩
        rw [kind] at found
        cases found

/-- A port has plain characters only. -/
theorem port_plain {port : List Char} (isPort : IsPort port) {c : Char} (member : c ∈ port) :
    endsNetloc c = false ∧ isControl c = false ∧ c ≠ '[' ∧ c ≠ ']' := by
  have shape : c = ':' ∨ isDigit c = true := by
    rcases isPort with rfl | ⟨digits, rfl, numeric⟩
    · cases member
    · rcases List.mem_cons.mp member with colon | inside
      · exact .inl colon
      · exact .inr (List.all_eq_true.mp numeric c inside)
  rcases shape with rfl | digit
  · decide
  · refine ⟨isPort.plain member, ?_, (digit_other digit).1, (digit_other digit).2.1⟩
    unfold isControl
    simp only [Bool.or_eq_false_iff, decide_eq_false_iff_not]
    refine ⟨⟨?_, ?_⟩, ?_⟩
    all_goals
      rintro rfl
      revert digit
      decide

/-- The address and the port stay inside the authority. -/
theorem pinned_plain (ip : IpText) {port : List Char} (isPort : IsPort port) :
    (∀ c ∈ ipInUrl ip.text ++ port, endsNetloc c = false ∧ isControl c = false) ∧
      (ipInUrl ip.text ++ port).contains '[' = (ipInUrl ip.text ++ port).contains ']' := by
  have inside : ∀ c ∈ ip.text, (endsNetloc c = false ∧ isControl c = false) ∧ c ≠ '[' ∧ c ≠ ']' := by
    intro c member
    obtain ⟨ends, control, marks⟩ := ip.undivided c member
    simp only [List.mem_cons, not_or] at marks
    exact ⟨⟨ends, control⟩, marks.1, marks.2.1⟩
  have behind : ∀ c ∈ port, (endsNetloc c = false ∧ isControl c = false) ∧ c ≠ '[' ∧ c ≠ ']' := by
    intro c member
    obtain ⟨ends, control, marks⟩ := port_plain isPort member
    exact ⟨⟨ends, control⟩, marks⟩
  unfold ipInUrl
  split
  · constructor
    · intro c member
      simp only [List.mem_append, List.mem_cons, List.not_mem_nil, or_false] at member
      rcases member with (rfl | address | rfl) | digits
      · decide
      · exact (inside c address).1
      · decide
      · exact (behind c digits).1
    · rw [List.contains_iff_mem.mpr (by simp), List.contains_iff_mem.mpr (by simp)]
  · constructor
    · intro c member
      rcases List.mem_append.mp member with address | digits
      · exact (inside c address).1
      · exact (behind c digits).1
    · have free : ∀ c ∈ ip.text ++ port, c ≠ '[' ∧ c ≠ ']' := by
        intro c member
        rcases List.mem_append.mp member with address | digits
        · exact (inside c address).2
        · exact (behind c digits).2
      have opens : '[' ∉ ip.text ++ port := fun member => (free _ member).1 rfl
      have closes : ']' ∉ ip.text ++ port := fun member => (free _ member).2 rfl
      rw [List.contains_eq_mem, List.contains_eq_mem, decide_eq_false opens, decide_eq_false closes]

/-- A network location is not empty. -/
theorem text_ne_nil (authority : Authority) : authority.text ≠ [] := by
  have host : authority.host.text ≠ [] := by
    have present := authority.host_valid.present
    cases kind : authority.host with
    | plain text =>
        rw [kind] at present
        exact present
    | bracketed text => exact List.cons_ne_nil _ _
  unfold Authority.text
  cases authority.userinfo with
  | none => exact List.append_ne_nil_of_left_ne_nil host _
  | some userinfo => exact List.append_ne_nil_of_right_ne_nil _ (List.cons_ne_nil _ _)

/-- The URL names the address at the host, and reads as before otherwise. -/
theorem pinUrlToIp_iff {authority : Authority} (read : urlparse checkNetloc url = .ok parsed)
    (web : parsed.scheme = "http".toList ∨ parsed.scheme = "https".toList) (form : parsed.netloc = authority.text)
    (ip : IpText) :
    (∃ rewritten header, pinUrlToIp checkNetloc url ip.text = .ok (rewritten, header) ∧
      Pinned parsed authority ip rewritten header) ↔ KeepsForm authority := by
  rw [← header_iff authority]
  constructor
  · rintro ⟨rewritten, header, pinned, kept⟩
    rw [pinUrlToIp_eq read form] at pinned
    rw [(Prod.mk.inj (Except.ok.inj pinned)).2]
    exact kept.header
  · intro header
    have form_kept := (header_iff authority).mp header
    refine ⟨_, _, pinUrlToIp_eq read form ip.text, ?_, header⟩
    have present : parsed.netloc ≠ [] := by
      rw [form]
      exact text_ne_nil authority
    have split := wellSplit_of_urlparse read (usesParams_of_web web) present
    -- The authority of the new URL is one as well.
    let pinned : Authority := ⟨none, ip.host, authority.port, ip.host_valid, authority.port_valid⟩
    have netloc : ipInUrl ip.text ++ portPart authority.portNumber = pinned.text := by
      rw [(portPart_eq_iff authority).mpr form_kept.port, ← ip.host_text]
      rfl
    obtain ⟨plain, brackets⟩ := pinned_plain ip (portPart_isPort authority.portNumber)
    refine ⟨_, portPart authority.portNumber, urlparse_geturl split web plain brackets, rfl, portPart_isPort _, ?_, rfl,
      rfl, rfl, rfl, rfl⟩
    rw [port_authority form, port_authority netloc]
    rfl

end Pinning

section Servers

/-- A server under a name with this port. -/
def namedServer (port : Option (List Char)) (valid : ∀ digits, port = some digits →
    digits.all isDigit = true ∧ digits.length ≤ 4300 ∧ decimalValue digits ≤ 65535) : Authority where
  userinfo := some "root".toList
  host := .plain "pve.lan".toList
  port := port
  host_valid := {
    present := by decide
    ascii := List.all_iff_forall_prop.mp (by decide)
    undivided := by decide
    colon := by
      rintro text same
      rw [← Host.plain.inj same]
      decide }
  port_valid := valid

/-- An IPv6 server with a port. -/
def addressServer : Authority where
  userinfo := none
  host := .bracketed "fd00::7".toList
  port := some "8006".toList
  host_valid := {
    present := by decide
    ascii := List.all_iff_forall_prop.mp (by decide)
    undivided := by decide
    colon := by
      rintro text same
      cases same }
  port_valid := by
    rintro digits same
    rw [← Option.some.inj same]
    decide

/-- A port that can be read has digits only and is small. -/
theorem numeric_port {text digits : List Char} (small : text.all isDigit = true ∧ text.length ≤ 4300 ∧
    decimalValue text ≤ 65535) (same : some text = some digits) :
    digits.all isDigit = true ∧ digits.length ≤ 4300 ∧ decimalValue digits ≤ 65535 := by
  rw [← Option.some.inj same]
  exact small

/-- A URL of a named server is pinned to an address of the network. -/
theorem pinned_server :
    ∃ rewritten header, pinUrlToIp (fun _ => .ok ()) "https://root@pve.lan:8006/api2;a?node=1#top".toList "10.0.0.7".toList =
        .ok (rewritten, header) ∧
      Pinned ⟨"https".toList, "root@pve.lan:8006".toList, "/api2".toList, "a".toList, "node=1".toList, "top".toList⟩
        (namedServer (some "8006".toList) fun _ => numeric_port (by decide))
        (.unscoped "10.0.0.7".toList (by decide) (by decide)) rewritten header :=
  (pinUrlToIp_iff (by decide) (.inr rfl) (by decide +kernel)
    (.unscoped "10.0.0.7".toList (by decide) (by decide))).mpr
      ⟨⟨_, rfl, by decide⟩, fun digits same => by
        rw [← Option.some.inj same]
        decide⟩

/-- The port 0 is missing in the URL and in the header, and an IPv6 host has no brackets in the header. -/
theorem lost_forms :
    (∃ parsed, urlparse (fun _ => .ok ()) "http://root@pve.lan:0/api2".toList = .ok parsed ∧
      parsed.netloc = (namedServer (some "0".toList) fun _ => numeric_port (by decide)).text ∧
      ¬ ∃ rewritten header, pinUrlToIp (fun _ => .ok ()) "http://root@pve.lan:0/api2".toList "10.0.0.7".toList =
          .ok (rewritten, header) ∧
        Pinned parsed (namedServer (some "0".toList) fun _ => numeric_port (by decide))
          (.unscoped "10.0.0.7".toList (by decide) (by decide)) rewritten header) ∧
    ∃ parsed, urlparse (fun _ => .ok ()) "http://[fd00::7]:8006/".toList = .ok parsed ∧
      parsed.netloc = addressServer.text ∧
      ¬ ∃ rewritten header, pinUrlToIp (fun _ => .ok ()) "http://[fd00::7]:8006/".toList "10.0.0.7".toList =
          .ok (rewritten, header) ∧
        Pinned parsed addressServer (.unscoped "10.0.0.7".toList (by decide) (by decide)) rewritten header := by
  constructor
  · refine ⟨⟨"http".toList, "root@pve.lan:0".toList, "/api2".toList, [], [], []⟩, by decide, by decide +kernel, ?_⟩
    rintro ⟨rewritten, header, pinned, kept⟩
    have answer : pinUrlToIp (fun _ => .ok ()) "http://root@pve.lan:0/api2".toList "10.0.0.7".toList =
        .ok ("http://10.0.0.7/api2".toList, "pve.lan".toList) := by decide
    rw [answer] at pinned
    have same := (Prod.mk.inj (Except.ok.inj pinned)).2.trans kept.header
    revert same
    decide
  · refine ⟨⟨"http".toList, "[fd00::7]:8006".toList, "/".toList, [], [], []⟩, by decide, by decide +kernel, ?_⟩
    rintro ⟨rewritten, header, pinned, kept⟩
    have answer : pinUrlToIp (fun _ => .ok ()) "http://[fd00::7]:8006/".toList "10.0.0.7".toList =
        .ok ("http://10.0.0.7:8006/".toList, "fd00::7:8006".toList) := by decide
    rw [answer] at pinned
    have same := (Prod.mk.inj (Except.ok.inj pinned)).2.trans kept.header
    revert same
    decide

end Servers
end P3Portal.Http
