import P3Portal.Construction.Proxmox.ObjectWrites
import P3Portal.Foundation.TextFields
import P3Portal.Foundation.UriPath

namespace P3Portal.Proxmox.Firewall
open Foundation Foundation.Text

section Names

/-- A letter, and then letters, digits, dashes and underscores. -/
def isNameText : List Char → Bool
  | [] => false
  | c :: rest => c.isAlpha && rest.all isNameChar

def isName (name : String) : Bool := isNameText name.toList

/-- The expression also matches a name that a newline ends. -/
theorem fwNameRe_iff (text : List Char) : fwNameRe.atStart text = true ↔
    isNameText text = true ∨ ∃ name, text = name ++ ['\n'] ∧ isNameText name = true := by
  rw [Regex.atStart_iff]
  constructor
  · rintro ⟨finish, first, ⟨_, rfl⟩, second, ⟨c, rest, split, letter, rfl⟩, third, spans, ended, rfl⟩
    obtain ⟨word, parts, accepted⟩ := Regex.word_of_spans_many spans
    have whole : text = c :: (word ++ finish.rest) := by
      rw [show text = c :: rest from split, show rest = word ++ finish.rest from parts]
    have named : isNameText (c :: word) = true := by
      rw [isNameText, letter, Bool.true_and]
      exact List.all_eq_true.mpr accepted
    simp only [Regex.Cursor.atEnd, Bool.or_eq_true, decide_eq_true_eq] at ended
    rcases ended with none_left | newline
    · left
      rw [whole, none_left, List.append_nil]
      exact named
    · right
      refine ⟨c :: word, ?_, named⟩
      rw [whole, newline, List.cons_append]
  · intro shape
    have found : ∀ name behind, isNameText name = true → behind = [] ∨ behind = ['\n'] →
        ∃ finish, fwNameRe.Spans ⟨none, name ++ behind⟩ finish := by
      intro name behind named ended
      cases name with
      | nil => cases named
      | cons c word =>
          obtain ⟨letter, accepted⟩ := (Bool.and_eq_true _ _).mp named
          refine ⟨⟨word.getLast?.or (some c), behind⟩, _, ⟨rfl, rfl⟩, ⟨some c, word ++ behind⟩,
            ⟨c, word ++ behind, rfl, letter, rfl⟩, _, Regex.spans_many (List.all_eq_true.mp accepted) _ _, ?_, rfl⟩
          simpa [Regex.Cursor.atEnd] using ended
    rcases shape with named | ⟨name, rfl, named⟩
    · have spans := found text [] named (.inl rfl)
      rwa [List.append_nil] at spans
    · exact found name ['\n'] named (.inr rfl)

/-- Without a newline at its end, a name is one of the grammar. -/
theorem isName_of_match {name : String} (matched : fwNameMatch name = true) (bare : name.toList.getLast? ≠ some '\n') :
    isName name = true := by
  rcases (fwNameRe_iff name.toList).mp matched with named | ⟨front, split, _⟩
  · exact named
  · rw [split, List.getLast?_concat] at bare
    exact absurd rfl bare

end Names

section Characters

/-- The control characters of ASCII and those above it. -/
def isControl (c : Char) : Bool := c.toNat < 32 || 127 ≤ c.toNat && c.toNat < 160

/-- A visible character of ASCII is no control character. -/
theorem visible_not_control {c : Char} (low : 32 ≤ c.toNat) (high : c.toNat < 127) : isControl c = false := by
  simp only [isControl, Bool.or_eq_false_iff, Bool.and_eq_false_iff, decide_eq_false_iff_not]
  omega

/-- A character of a name is no control character. -/
theorem nameChar_not_control {c : Char} (plain : isNameChar c = true) : isControl c = false := by
  simp only [isNameChar, Bool.or_eq_true, decide_eq_true_eq] at plain
  rcases plain with (word | rfl) | rfl
  · have bounds := alphanum_bounds word
    exact visible_not_control (by omega) (by omega)
  · decide
  · decide

/-- A name has no control character. -/
theorem isName_not_control {name : String} (named : isName name = true) : ∀ c ∈ name.toList, isControl c = false := by
  unfold isName at named
  cases text : name.toList with
  | nil =>
      intro c member
      cases member
  | cons first rest =>
      rw [text] at named
      obtain ⟨letter, others⟩ := (Bool.and_eq_true _ _).mp named
      have word : isNameChar first = true := by
        rw [isNameChar, Char.isAlphanum, letter]
        rfl
      intro c member
      rcases List.mem_cons.mp member with rfl | later
      · exact nameChar_not_control word
      · exact nameChar_not_control (List.all_eq_true.mp others c later)

/-- A character of an address is no control character. -/
theorem address_not_control {c : Char} (plain : IpAddress.isAddressChar c = true) : isControl c = false := by
  have digit : ∀ low high : Char, 32 ≤ low.toNat → high.toNat < 127 → low ≤ c → c ≤ high → isControl c = false := by
    intro low high first last above below
    have lower : low.toNat ≤ c.toNat := above
    have upper : c.toNat ≤ high.toNat := below
    exact visible_not_control (by omega) (by omega)
  simp only [IpAddress.isAddressChar, IpAddress.isHexDigit, IpAddress.isDigit, Bool.or_eq_true, Bool.and_eq_true,
    decide_eq_true_eq] at plain
  rcases plain with (((range | range) | range) | rfl) | rfl
  · exact digit '0' '9' (by decide) (by decide) range.1 range.2
  · exact digit 'a' 'f' (by decide) (by decide) range.1 range.2
  · exact digit 'A' 'F' (by decide) (by decide) range.1 range.2
  · decide
  · decide

end Characters

section Networks
open IpAddress

/-- A text without a percent sign has no scope. -/
theorem splitScopeId_unscoped {text : List Char} (unscoped : '%' ∉ text) : splitScopeId text = some (text, none) := by
  have passes : ∀ c ∈ text, decide (c ≠ '%') = true := by
    intro c member
    exact decide_eq_true fun same => unscoped (same ▸ member)
  unfold splitScopeId
  rw [List.span_eq_takeWhile_dropWhile, List.takeWhile_eq_self_iff.mpr passes, List.dropWhile_eq_nil_iff.mpr passes]

/-- The parts around the slash are the address and the mask. -/
theorem part_of_splitOptionalNetmask {text address part : List Char} {mask : Option (List Char)}
    (split : splitOptionalNetmask text = some (address, mask)) (member : part ∈ text.splitOn '/') :
    part = address ∨ mask = some part := by
  unfold splitOptionalNetmask at split
  split at split
  · rename_i only parts
    rw [parts, List.mem_singleton] at member
    exact .inl (member.trans (Prod.ext_iff.mp (Option.some.inj split)).1)
  · rename_i first second parts
    rw [parts] at member
    have pair := Prod.ext_iff.mp (Option.some.inj split)
    rcases List.mem_cons.mp member with here | there
    · exact .inl (here.trans pair.1)
    · exact .inr (pair.2.symm.trans (by rw [List.mem_singleton.mp there]))
  · cases split

/-- A prefix that is read from digits is written like an address. -/
theorem written_of_digits {version : Version} {text : List Char}
    (read : (prefixFromPrefixString version text).isSome = true) : Written text := by
  unfold prefixFromPrefixString at read
  split at read
  · cases read
  · rename_i plain
    simp only [Bool.or_eq_true, not_or, Bool.not_eq_true', Bool.not_eq_false] at plain
    intro c member
    have digit := List.all_eq_true.mp plain.1.1.2 c member
    rw [isAddressChar, isHexDigit, digit]
    rfl

/-- A mask that is read is written like an address. -/
theorem written_of_mask {version : Version} {text : List Char}
    (masked : (makeNetmask version (some text)).isSome = true) : Written text := by
  cases version with
  | v6 => exact written_of_digits masked
  | v4 =>
      have either : (prefixFromPrefixString .v4 text).isSome = true ∨ (prefixFromIpString text).isSome = true := by
        rw [makeNetmask, Option.isSome_or, Bool.or_eq_true] at masked
        exact masked
      rcases either with number | dotted
      · exact written_of_digits number
      · unfold prefixFromIpString at dotted
        cases read : ipv4FromString text with
        | none =>
            rw [read] at dotted
            cases dotted
        | some mask => exact written_of_ipv4 read

/-- A network without a scope is written with the characters of addresses and a slash. -/
theorem written_of_network {text : List Char} (accepted : (ipNetwork text).isSome = true) (unscoped : '%' ∉ text) :
    ∀ c ∈ text, isAddressChar c = true ∨ c = '/' := by
  obtain ⟨address, mask, split, parsed⟩ := ipNetwork_parts accepted
  intro c member
  rcases @mem_splitOn_cases '/' c text member with slash | ⟨part, listed, inside⟩
  · exact .inr slash
  left
  rcases part_of_splitOptionalNetmask split listed with rfl | masked
  · rcases parsed with ⟨host, _⟩ | ⟨⟨host, scopeId, named, read⟩, _⟩
    · obtain ⟨value, found⟩ := Option.isSome_iff_exists.mp host
      exact written_of_ipv4 found c inside
    · have free : '%' ∉ part := fun percent => unscoped (UriPath.mem_of_mem_splitOn text listed percent)
      rw [splitScopeId_unscoped free] at named
      obtain ⟨value, found⟩ := Option.isSome_iff_exists.mp read
      rw [← (Prod.mk.inj (Option.some.inj named)).1] at found
      exact written_of_ipv6 found c inside
  · rw [masked] at parsed
    rcases parsed with ⟨_, read⟩ | ⟨_, read⟩
    · exact written_of_mask read c inside
    · exact written_of_mask read c inside

end Networks

section Tokens

/-- Two addresses with a dash between them. -/
def isRange (token : String) : Bool :=
  '-' ∈ token.toList && isIpAddress (strip (partition '-' token).1) && isIpAddress (strip (partition '-' token).2)

/-- A range of one family that begins at the lower address. -/
def isOrderedRange (token : String) : Bool :=
  '-' ∈ token.toList &&
    match IpAddress.ipAddress (strip (partition '-' token).1).toList,
      IpAddress.ipAddress (strip (partition '-' token).2).toList with
    | some (version, low), some (other, high) => version = other && low ≤ high
    | _, _ => false

/-- An address, a network, an alias, a reference to a set or a range. -/
def isTokenWith (range : String → Bool) (token : String) : Bool :=
  isIpAddress token || isIpNetwork token || isName token || startsWith "+" token && isName (sliceFrom 1 token) ||
    range token

/-- A stripped text ends with no newline. -/
theorem strip_not_newline (text : String) : (strip text).toList.getLast? ≠ some '\n' := by
  intro newline
  have space := (strip_edges text).2 '\n' newline
  revert space
  decide

/-- A token that is accepted is one of the grammar up to the white space around it. -/
theorem isTokenWith_of_ok {token : String} (accepted : addrTokenOk token = true) :
    isTokenWith isRange (strip token) = true := by
  unfold addrTokenOk at accepted
  dsimp only at accepted
  have bare := strip_not_newline token
  generalize strip token = text at accepted bare
  by_cases empty : text = ""
  · rw [if_pos empty] at accepted
    cases accepted
  rw [if_neg empty] at accepted
  by_cases plus : startsWith "+" text = true
  · rw [if_pos plus] at accepted
    obtain ⟨rest, split⟩ := (startsWith_iff "+" text).mp plus
    have sliced : (sliceFrom 1 text).toList = rest := by
      rw [sliceFrom, split, String.toList_ofList]
      rfl
    have last : (sliceFrom 1 text).toList.getLast? ≠ some '\n' := by
      rw [sliced]
      intro newline
      rw [split, List.getLast?_append, newline] at bare
      exact bare rfl
    have named := isName_of_match accepted last
    simp [isTokenWith, plus, named]
  rw [if_neg plus] at accepted
  by_cases aliased : fwNameMatch text = true
  · simp [isTokenWith, isName_of_match aliased bare]
  rw [if_neg aliased] at accepted
  by_cases network : isIpNetwork text = true
  · simp [isTokenWith, network]
  rw [if_neg network] at accepted
  by_cases dash : '-' ∈ text.toList
  · rw [if_pos dash] at accepted
    have range : isRange text = true := by
      rw [isRange, decide_eq_true dash, Bool.true_and]
      exact accepted
    simp [isTokenWith, range]
  · rw [if_neg dash] at accepted
    simp [isTokenWith, accepted]

/-- A character stands at the first hyphen or on one of its sides. -/
theorem mem_partition_cases {text : String} {c : Char} (member : c ∈ text.toList) :
    c = '-' ∨ c ∈ (partition '-' text).1.toList ∨ c ∈ (partition '-' text).2.toList := by
  have whole := List.takeWhile_append_dropWhile (p := (· ≠ '-')) (l := text.toList)
  unfold partition
  rw [String.toList_ofList, String.toList_ofList]
  rw [← whole] at member
  rcases List.mem_append.mp member with early | late
  · exact .inr (.inl early)
  · cases tail : text.toList.dropWhile (· ≠ '-') with
    | nil =>
        rw [tail] at late
        cases late
    | cons first rest =>
        have stops := List.head?_dropWhile_not (· ≠ '-') text.toList
        rw [tail] at stops late
        have dash : first = '-' := by simpa using stops
        rcases List.mem_cons.mp late with rfl | later
        · exact .inl dash
        · exact .inr (.inr later)

/-- Both sides of a hyphen are parts of the text. -/
theorem mem_of_mem_partition {text : String} {c : Char}
    (member : c ∈ (partition '-' text).1.toList ∨ c ∈ (partition '-' text).2.toList) : c ∈ text.toList := by
  unfold partition at member
  rw [String.toList_ofList, String.toList_ofList] at member
  rcases member with early | late
  · exact (List.takeWhile_prefix _).sublist.subset early
  · exact (List.dropWhile_suffix _).sublist.subset (List.mem_of_mem_drop late)

/-- Around an end of a range there is white space only. -/
theorem end_not_control {text : String} (address : isIpAddress (strip text) = true) (unscoped : '%' ∉ text.toList)
    {c : Char} (member : c ∈ text.toList) (control : isControl c = true) : isSpace c = true := by
  rcases mem_strip_cases member with space | kept
  · exact space
  · have free : '%' ∉ (strip text).toList := fun percent => unscoped (mem_of_mem_strip percent)
    rw [address_not_control (IpAddress.written_of_unscoped address free c kept)] at control
    cases control

/-- A token of the grammar without a scope has no control characters but white space. -/
theorem token_not_control {token : String} (known : isTokenWith isRange token = true) (unscoped : '%' ∉ token.toList)
    {c : Char} (member : c ∈ token.toList) (control : isControl c = true) : isSpace c = true := by
  simp only [isTokenWith, Bool.or_eq_true, Bool.and_eq_true] at known
  rcases known with (((address | network) | named) | ⟨plus, named⟩) | range
  · rw [address_not_control (IpAddress.written_of_unscoped address unscoped c member)] at control
    cases control
  · rcases written_of_network network unscoped c member with written | rfl
    · rw [address_not_control written] at control
      cases control
    · cases control
  · rw [isName_not_control named c member] at control
    cases control
  · obtain ⟨rest, split⟩ := (startsWith_iff "+" token).mp plus
    have sliced : (sliceFrom 1 token).toList = rest := by
      rw [sliceFrom, split, String.toList_ofList]
      rfl
    rw [split] at member
    rcases List.mem_append.mp member with sign | inside
    · have same : c = '+' := by simpa using sign
      rw [same] at control
      cases control
    · rw [isName_not_control named c (sliced ▸ inside)] at control
      cases control
  · simp only [isRange, Bool.and_eq_true] at range
    have free : ∀ part ∈ [(partition '-' token).1, (partition '-' token).2], '%' ∉ part.toList := by
      intro part listed percent
      rcases List.mem_pair.mp listed with rfl | rfl
      · exact unscoped (mem_of_mem_partition (.inl percent))
      · exact unscoped (mem_of_mem_partition (.inr percent))
    rcases mem_partition_cases member with rfl | first | second
    · cases control
    · exact end_not_control range.1.2 (free _ List.mem_cons_self) first control
    · exact end_not_control range.2 (free _ (List.mem_cons_of_mem _ List.mem_cons_self)) second control

end Tokens

section Requests
variable (literal : String → String)

/-- A name is sent as it was checked, and it is one of the grammar unless a newline ends it. -/
def NameKept (name : String) (sent : Option Param) : Prop :=
  sent = some (.text name) ∧
    (name.toList.getLast? ≠ some '\n' → isName name = true ∧ ∀ c ∈ name.toList, isControl c = false)

/-- An entry is sent as it was checked, and it is a network. -/
def CidrKept (cidr : String) (sent : Option Param) : Prop :=
  sent = some (.text cidr) ∧ isIpNetwork cidr = true ∧
    ('%' ∉ cidr.toList → ∀ c ∈ cidr.toList, isControl c = false)

/-- A list of addresses is sent as it was given. Its tokens are those of the grammar, with any range of two addresses
and with white space around them. -/
def SpecKept (given : Option String) (sent : Option Param) : Prop :=
  match given with
  | none => sent = none
  | some text =>
      if strip text = "" then sent = none
      else sent = some (.text text) ∧ (∀ token ∈ splitCommas text, isTokenWith isRange (strip token) = true) ∧
        ('%' ∉ text.toList → ∀ c ∈ text.toList, isControl c = true → isSpace c = true)

/-- A name that matches the pattern is kept. -/
theorem nameKept_of_match {name : String} (matched : fwNameMatch name = true) : NameKept name (some (.text name)) := by
  refine ⟨rfl, ?_⟩
  intro bare
  have named := isName_of_match matched bare
  exact ⟨named, isName_not_control named⟩

/-- A network is kept. -/
theorem cidrKept_of_network {cidr : String} (network : isIpNetwork cidr = true) : CidrKept cidr (some (.text cidr)) := by
  refine ⟨rfl, network, ?_⟩
  intro unscoped c member
  rcases written_of_network network unscoped c member with written | rfl
  · exact address_not_control written
  · decide

/-- An accepted name is unchanged and matches the pattern. -/
theorem match_of_validName {kind field name result : String} (accepted : validName literal kind field name = .ok result) :
    result = name ∧ fwNameMatch name = true := by
  unfold validName at accepted
  split at accepted
  · rename_i matched
    exact ⟨(Except.ok.inj accepted).symm, matched⟩
  · cases accepted

/-- An accepted network is unchanged and read as a network. -/
theorem network_of_validCidr {cidr result : String} (accepted : validCidr literal cidr = .ok result) :
    result = cidr ∧ isIpNetwork cidr = true := by
  unfold validCidr at accepted
  split at accepted
  · rename_i network
    exact ⟨(Except.ok.inj accepted).symm, network⟩
  · cases accepted

/-- A list that is accepted is kept as it is, and each of its tokens is accepted. -/
theorem specKept_of_accepted {given result : Option String} {field : String}
    (accepted : validateAddrSpec literal given field = .ok result) : SpecKept given (filled result) := by
  cases given with
  | none =>
      cases accepted
      rfl
  | some text =>
      by_cases blank : strip text = ""
      · simp only [validateAddrSpec, if_pos blank, Except.ok.injEq] at accepted
        rw [← accepted, SpecKept, if_pos blank]
        rfl
      · simp only [validateAddrSpec, if_neg blank] at accepted
        split at accepted
        · cases accepted
        · rename_i all
          have tokens : ∀ token ∈ splitCommas text, isTokenWith isRange (strip token) = true := by
            intro token listed
            have refused := List.find?_eq_none.mp all token listed
            exact isTokenWith_of_ok (by simpa using refused)
          have present : text ≠ "" := by
            rintro rfl
            exact blank rfl
          have sent : filled (some text) = some (.text text) := by
            rw [filled, (truthy_eq_some (some text) text).mpr ⟨rfl, present⟩]
            rfl
          rw [← Except.ok.inj accepted, SpecKept, if_neg blank]
          refine ⟨sent, tokens, ?_⟩
          intro unscoped c member control
          rcases @IpAddress.mem_splitOn_cases ',' c text.toList member with rfl | ⟨part, listed, inside⟩
          · cases control
          · have token : String.ofList part ∈ splitCommas text := List.mem_map_of_mem listed
            have same : (String.ofList part).toList = part := String.toList_ofList
            rcases mem_strip_cases (same.symm ▸ inside) with space | kept
            · exact space
            · have free : '%' ∉ (strip (String.ofList part)).toList := by
                intro percent
                have early := mem_of_mem_strip percent
                rw [same] at early
                exact unscoped (UriPath.mem_of_mem_splitOn text.toList listed early)
              exact token_not_control (tokens _ token) free kept control

/-- A security group sends its name as it was checked. -/
theorem securityGroup_kept {body checked : SecurityGroupCreateRequest} (accepted : body.validate literal = .ok checked) :
    NameKept body.group (checked.toProxmoxParams.get? "group") := by
  unfold SecurityGroupCreateRequest.validate at accepted
  split at accepted
  · rename_i group named
    obtain ⟨rfl, matched⟩ := match_of_validName literal named
    cases accepted
    have sent : (SecurityGroupCreateRequest.toProxmoxParams { body with group := body.group }).get? "group" =
        some (.text body.group) := by simp [SecurityGroupCreateRequest.toProxmoxParams]
    rw [sent]
    exact nameKept_of_match matched
  · cases accepted

/-- A set of addresses sends its name as it was checked. -/
theorem ipSet_kept {body checked : IpSetCreateRequest} (accepted : body.validate literal = .ok checked) :
    NameKept body.name (checked.toProxmoxParams.get? "name") := by
  unfold IpSetCreateRequest.validate at accepted
  split at accepted
  · rename_i name named
    obtain ⟨rfl, matched⟩ := match_of_validName literal named
    cases accepted
    have sent : (IpSetCreateRequest.toProxmoxParams { body with name := body.name }).get? "name" =
        some (.text body.name) := by simp [IpSetCreateRequest.toProxmoxParams]
    rw [sent]
    exact nameKept_of_match matched
  · cases accepted

/-- An entry of a set sends its network as it was checked. -/
theorem ipSetEntry_kept {body checked : IpSetEntryRequest} (accepted : body.validate literal = .ok checked) :
    CidrKept body.cidr (checked.toProxmoxParams.get? "cidr") := by
  unfold IpSetEntryRequest.validate at accepted
  split at accepted
  · rename_i cidr read
    obtain ⟨rfl, network⟩ := network_of_validCidr literal read
    cases accepted
    have sent : (IpSetEntryRequest.toProxmoxParams { body with cidr := body.cidr }).get? "cidr" =
        some (.text body.cidr) := by simp [IpSetEntryRequest.toProxmoxParams]
    rw [sent]
    exact cidrKept_of_network network
  · cases accepted

/-- An alias sends its entry with every request and its name when it is created. -/
theorem alias_kept {body checked : AliasWriteRequest} (accepted : body.validate literal = .ok checked) :
    NameKept body.name ((checked.toProxmoxParams false).get? "name") ∧
      ∀ forUpdate, CidrKept body.cidr ((checked.toProxmoxParams forUpdate).get? "cidr") := by
  unfold AliasWriteRequest.validate at accepted
  split at accepted
  · rename_i name cidr named read
    obtain ⟨rfl, matched⟩ := match_of_validName literal named
    obtain ⟨rfl, network⟩ := network_of_validCidr literal read
    cases accepted
    constructor
    · have sent : (AliasWriteRequest.toProxmoxParams { body with name := body.name, cidr := body.cidr } false).get?
          "name" = some (.text body.name) := by simp [AliasWriteRequest.toProxmoxParams]
      rw [sent]
      exact nameKept_of_match matched
    · intro forUpdate
      have sent : (AliasWriteRequest.toProxmoxParams { body with name := body.name, cidr := body.cidr } forUpdate).get?
          "cidr" = some (.text body.cidr) := by simp [AliasWriteRequest.toProxmoxParams]
      rw [sent]
      exact cidrKept_of_network network
  · cases accepted

/-- A rule sends its source unless it is blank. -/
theorem sent_source (body : FirewallRuleWriteRequest) (withPos : Bool) :
    (body.toProxmoxParams withPos).get? "source" = filled body.source := by
  simp [FirewallRuleWriteRequest.toProxmoxParams]

/-- A rule sends its destination unless it is blank. -/
theorem sent_dest (body : FirewallRuleWriteRequest) (withPos : Bool) :
    (body.toProxmoxParams withPos).get? "dest" = filled body.dest := by
  simp [FirewallRuleWriteRequest.toProxmoxParams]

/-- A rule sends its source and its destination as they were checked. -/
theorem rule_kept {body checked : FirewallRuleWriteRequest} (accepted : body.validate literal = .ok checked)
    (withPos : Bool) : SpecKept body.source ((checked.toProxmoxParams withPos).get? "source") ∧
      SpecKept body.dest ((checked.toProxmoxParams withPos).get? "dest") := by
  unfold FirewallRuleWriteRequest.validate at accepted
  split at accepted
  · rename_i type source dest typed first second
    dsimp only at accepted
    split at accepted
    · cases accepted
      rw [sent_source, sent_dest]
      exact ⟨specKept_of_accepted literal first, specKept_of_accepted literal second⟩
    · cases accepted
  · cases accepted

/-- What the requests of the firewall send was checked, and it is of the grammar that they check. -/
theorem firewall_requests_kept :
    (∀ body checked : SecurityGroupCreateRequest, body.validate literal = .ok checked →
      NameKept body.group (checked.toProxmoxParams.get? "group")) ∧
    (∀ body checked : IpSetCreateRequest, body.validate literal = .ok checked →
      NameKept body.name (checked.toProxmoxParams.get? "name")) ∧
    (∀ body checked : IpSetEntryRequest, body.validate literal = .ok checked →
      CidrKept body.cidr (checked.toProxmoxParams.get? "cidr")) ∧
    (∀ body checked : AliasWriteRequest, body.validate literal = .ok checked →
      NameKept body.name ((checked.toProxmoxParams false).get? "name") ∧
        ∀ forUpdate, CidrKept body.cidr ((checked.toProxmoxParams forUpdate).get? "cidr")) ∧
    ∀ body checked : FirewallRuleWriteRequest, body.validate literal = .ok checked → ∀ withPos,
      SpecKept body.source ((checked.toProxmoxParams withPos).get? "source") ∧
        SpecKept body.dest ((checked.toProxmoxParams withPos).get? "dest") :=
  ⟨fun _ _ => securityGroup_kept literal, fun _ _ => ipSet_kept literal, fun _ _ => ipSetEntry_kept literal,
    fun _ _ => alias_kept literal, fun _ _ => rule_kept literal⟩

end Requests

/-- A rule for the traffic from a network, an alias and the addresses of a set. -/
def webRule : FirewallRuleWriteRequest :=
  { type := "in", action := "ACCEPT", source := some "10.0.0.0/24, office,+admins" }

/-- A group, an entry of a set and a rule of the grammar are accepted. -/
theorem web_group_kept :
    NameKept "web" (SecurityGroupCreateRequest.toProxmoxParams ⟨"web", none⟩ |>.get? "group") ∧
    CidrKept "10.0.0.0/24" (IpSetEntryRequest.toProxmoxParams { cidr := "10.0.0.0/24" } |>.get? "cidr") ∧
    SpecKept webRule.source ((webRule.toProxmoxParams true).get? "source") := by
  have group : SecurityGroupCreateRequest.validate id ⟨"web", none⟩ = .ok ⟨"web", none⟩ := by decide +kernel
  have entry : IpSetEntryRequest.validate id { cidr := "10.0.0.0/24" } = .ok { cidr := "10.0.0.0/24" } := by
    decide +kernel
  have rule : webRule.validate id = .ok webRule := by decide +kernel
  obtain ⟨groups, _, entries, _, rules⟩ := firewall_requests_kept id
  exact ⟨groups _ _ group, entries _ _ entry, (rules _ _ rule true).1⟩

/-- The rule for any traffic from a range that ends before it begins. -/
def reversedRule : FirewallRuleWriteRequest :=
  { type := "in", action := "ACCEPT", source := some "10.0.0.9-10.0.0.1" }

/-- A range is accepted although it ends before it begins. -/
theorem reversed_range_sent : reversedRule.validate id = .ok reversedRule ∧
    reversedRule.toProxmoxParams.get? "source" = some (.text "10.0.0.9-10.0.0.1") ∧
    isTokenWith isOrderedRange (strip "10.0.0.9-10.0.0.1") = false := by
  refine ⟨by decide +kernel, ?_, by decide +kernel⟩
  rw [sent_source]
  decide +kernel

end P3Portal.Proxmox.Firewall
