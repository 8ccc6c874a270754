import P3Portal.Construction.Proxmox.Dialogs
import P3Portal.Proof.Proxmox.HaRules

namespace P3Portal.Foundation.Text

/-- A text without white space is one word. -/
def IsWord (text : String) : Prop := text ≠ "" ∧ ∀ c ∈ text.toList, isSpace c = false

/-- The words of a text with blanks between them are found again. -/
theorem splitSpace_intercalate {words : List String} (plain : ∀ word ∈ words, IsWord word) :
    splitSpace (" ".intercalate words) = words := by
  have clear : ∀ word ∈ words, ∀ c ∈ word.toList, isSpace c = false := fun word member => (plain word member).2
  unfold splitSpace
  induction words with
  | nil => rfl
  | cons first rest ih =>
      have filled : first.toList ≠ [] := fun empty => (plain first List.mem_cons_self).1 (String.toList_eq_nil_iff.mp empty)
      have bare := clear first List.mem_cons_self
      cases rest with
      | nil =>
          rw [String.intercalate_singleton, List.splitOnP_eq_singleton bare]
          simp [filled]
      | cons second others =>
          have later := ih (fun word member => plain word (List.mem_cons_of_mem _ member))
            fun word member => clear word (List.mem_cons_of_mem _ member)
          have joined : (" ".intercalate (first :: second :: others)).toList =
              first.toList ++ ' ' :: (" ".intercalate (second :: others)).toList := by
            rw [String.intercalate_cons_cons, String.toList_append, String.toList_append, List.append_assoc]
            rfl
          rw [joined, List.splitOnP_append_cons_of_forall_mem bare ' ' (by decide), List.filter_cons_of_pos (by simpa using filled),
            List.map_cons, later, String.ofList_toList]

end P3Portal.Foundation.Text

namespace P3Portal.Foundation.Js

/-- Trimming twice is trimming once. -/
theorem trim_trim (text : String) : trim (trim text) = trim text := by
  unfold trim
  rw [String.toList_ofList, Foundation.trim_trim]

/-- A digit is no white space. -/
theorem digit_not_space {c : Char} (digit : c.isDigit = true) : isSpace c = false := by
  have bounds := Number.digit_bounds digit
  simp only [isSpace, List.mem_cons, List.not_mem_nil, or_false, Bool.or_eq_false_iff, Bool.and_eq_false_iff,
    decide_eq_false_iff_not]
  omega

/-- Small numbers are no infinity of the browser. -/
theorem small_lt_infinity {value : Nat} (small : value < 131072) : value < infinity :=
  small.trans (by decide +kernel)

/-- A written number is read again. -/
theorem parseInt_toString {value : Int} (low : 0 ≤ value) (high : value < 131072) :
    parseInt (toString value) = some value := by
  obtain ⟨number, rfl⟩ := Int.eq_ofNat_of_zero_le low
  have chars : (toString (number : Int)).toList = Nat.toDigits 10 number := String.toList_ofList
  have digits : ∀ c ∈ Nat.toDigits 10 number, c.isDigit = true :=
    fun c member => Nat.isDigit_of_mem_toDigits (by decide) (by decide) member
  have read : leadingDigits (Nat.toDigits 10 number) = some number := by
    unfold leadingDigits
    rw [List.takeWhile_eq_self_iff.mpr digits]
    dsimp only
    rw [if_neg Nat.toDigits_ne_nil, Nat.ofDigitChars_ten_toDigits, Option.filter_some, if_pos]
    have small : number < 131072 := by omega
    exact decide_eq_true (small_lt_infinity small)
  have start : (Nat.toDigits 10 number).dropWhile isSpace = Nat.toDigits 10 number := by
    cases first : Nat.toDigits 10 number with
    | nil => rfl
    | cons c rest =>
        have digit := digits c (by rw [first]; exact List.mem_cons_self)
        exact List.dropWhile_cons_of_neg (Bool.eq_false_iff.mp (digit_not_space digit))
  unfold parseInt
  rw [chars, start]
  split
  · rename_i rest same
    have digit := digits '-' (by rw [same]; exact List.mem_cons_self)
    exact absurd digit (by decide)
  · rename_i rest same
    have digit := digits '+' (by rw [same]; exact List.mem_cons_self)
    exact absurd digit (by decide)
  · rw [read]
    rfl

end P3Portal.Foundation.Js

namespace P3Portal.Proxmox
open Foundation

section Echo

/-- Proxmox answers with a stored parameter in one of these types. -/
inductive Echo : Param → JsonValue → Prop
  | text (content : String) : Echo (.text content) (.text content)
  | number (value : Int) : Echo (.number value) (.int value)
  | numeral (value : Int) : Echo (.number value) (.text (toString value))
  | truth (value : Bool) : Echo (flag value) (.bool value)

/-- The types in which a parameter may come back. -/
def echoes (param : Param) (shown : JsonValue) : Bool :=
  match shown with
  | .text content => param = .text content || match param with
    | .number value => content = toString value
    | _ => false
  | .int value => param = .number value
  | .bool value => param = flag value
  | _ => false

theorem echo_iff {param : Param} {shown : JsonValue} : Echo param shown ↔ echoes param shown = true := by
  constructor
  · intro echo
    cases echo with
    | truth value => cases value <;> rfl
    | _ => simp [echoes]
  · intro echoed
    unfold echoes at echoed
    split at echoed
    · rcases (Bool.or_eq_true _ _).mp echoed with same | written
      · rw [of_decide_eq_true same]
        exact .text _
      · split at written
        · rw [of_decide_eq_true written]
          exact .numeral _
        · cases written
    · rw [of_decide_eq_true echoed]
      exact .number _
    · rw [of_decide_eq_true echoed]
      exact .truth _
    · cases echoed

instance (param : Param) (shown : JsonValue) : Decidable (Echo param shown) := decidable_of_iff _ echo_iff.symm

/-- An entry of Proxmox echoes the parameters under these keys, and what was not sent is missing or empty. -/
def EchoesAll (keys : List String) (params : Params) (raw : JsonObject) : Prop :=
  ∀ key ∈ keys, match params.get? key with
    | some value => Echo value (raw.get key)
    | none => (raw.get key).blank = true

theorem echoesAll_iff {keys : List String} {params : Params} {raw : JsonObject} : EchoesAll keys params raw ↔
    ∀ key ∈ keys, ((params.get? key).elim (raw.get key).blank fun value => echoes value (raw.get key)) = true := by
  unfold EchoesAll
  apply forall₂_congr
  intro key _
  cases params.get? key with
  | none => rfl
  | some value => exact echo_iff

instance (keys : List String) (params : Params) (raw : JsonObject) : Decidable (EchoesAll keys params raw) :=
  decidable_of_iff _ echoesAll_iff.symm

/-- A written number is not blank. -/
theorem numeral_filled (value : Int) : (JsonValue.text (toString value)).blank = false := by
  have present : toString value ≠ "" := by
    intro empty
    have chars := congrArg String.toList empty
    cases value with
    | ofNat number =>
        have written : (toString (Int.ofNat number)).toList = Nat.toDigits 10 number := String.toList_ofList
        rw [written] at chars
        exact Nat.toDigits_ne_nil chars
    | negSucc number =>
        have written : toString (Int.negSucc number) = "-" ++ toString (number + 1) := rfl
        rw [written, String.toList_append] at chars
        simp at chars
  simpa [JsonValue.blank] using present

/-- A small number is read in each of its types. -/
theorem cleanInt_echo {value : Int} (low : 0 ≤ value) (high : value < 131072) {param : Param} {shown : JsonValue}
    (sent : param = .number value) (echo : Echo param shown) : cleanInt shown = some value := by
  cases echo with
  | text content => cases sent
  | number other =>
      cases sent
      rfl
  | numeral other =>
      cases sent
      obtain ⟨number, rfl⟩ := Int.eq_ofNat_of_zero_le low
      have same : toString (number : Int) = toString number := rfl
      have small : number < 10 ^ 4300 := by
        have six : 10 ^ 6 ≤ 10 ^ 4300 := Nat.pow_le_pow_right (by decide) (by decide)
        omega
      rw [cleanInt, numeral_filled, if_neg Bool.false_ne_true, JsonValue.toInt, same, Number.intOfText_toString,
        if_pos small]
  | truth other =>
      rw [← Param.number.inj sent]
      cases other <;> rfl

/-- A flag that Proxmox answers is read back. -/
theorem cleanFlag_echo {value : Bool} {param : Param} {shown : JsonValue} (sent : param = flag value)
    (echo : Echo param shown) : cleanFlag shown = value := by
  cases echo with
  | text content => cases sent
  | number other =>
      rw [Param.number.inj sent]
      cases value <;> rfl
  | numeral other =>
      rw [Param.number.inj sent]
      cases value <;> decide +kernel
  | truth other =>
      have same : other = value := by
        cases other <;> cases value <;> first | rfl | exact absurd sent (by decide)
      rw [same]
      cases value <;> rfl

/-- A text that Proxmox answers is the text. -/
theorem text_echo {content : String} {shown : JsonValue} (echo : Echo (.text content) shown) : shown = .text content := by
  cases echo
  rfl

/-- A number other than zero counts as true in each of its types. -/
theorem truthy_echo {value : Int} (other : value ≠ 0) {param : Param} {shown : JsonValue} (sent : param = .number value)
    (echo : Echo param shown) : shown.truthy = true := by
  cases echo with
  | text content => cases sent
  | number same =>
      cases sent
      simpa [JsonValue.truthy] using other
  | numeral same =>
      have filled := numeral_filled same
      simpa [JsonValue.truthy, JsonValue.blank] using filled
  | truth same =>
      cases same with
      | true => rfl
      | false => exact absurd (Param.number.inj sent).symm other

section Reads
variable {keys : List String} {params : Params} {raw : JsonObject} {key : String}

/-- What was not sent reads as absent. -/
theorem EchoesAll.unsent (echoes : EchoesAll keys params raw) (listed : key ∈ keys) (unsent : params.get? key = none) :
    (raw.get key).blank = true := by
  have here := echoes key listed
  rwa [unsent] at here

/-- A parameter that was sent is answered under its key. -/
theorem EchoesAll.sent (echoes : EchoesAll keys params raw) (listed : key ∈ keys) {value : Param}
    (sent : params.get? key = some value) : Echo value (raw.get key) := by
  have here := echoes key listed
  rwa [sent] at here

/-- An optional text is read back. -/
theorem EchoesAll.text (echoes : EchoesAll keys params raw) (listed : key ∈ keys) {content : Option String}
    (sent : params.get? key = filled content) : cleanText (raw.get key) = Text.truthy content := by
  unfold filled at sent
  cases present : Text.truthy content with
  | none =>
      rw [present] at sent
      rw [cleanText, echoes.unsent listed sent]
      rfl
  | some word =>
      rw [present] at sent
      rw [text_echo (echoes.sent listed sent), cleanText_text]
      exact (Text.truthy_eq_some _ _).mpr ⟨rfl, ((Text.truthy_eq_some _ _).mp present).2⟩

/-- An optional number is read back. -/
theorem EchoesAll.number (echoes : EchoesAll keys params raw) (listed : key ∈ keys) {number : Option Int}
    (small : ∀ value ∈ number, 0 ≤ value ∧ value < 131072) (sent : params.get? key = number.map .number) :
    cleanInt (raw.get key) = number := by
  cases number with
  | none =>
      rw [cleanInt, echoes.unsent listed sent]
      rfl
  | some value =>
      obtain ⟨low, high⟩ := small value rfl
      exact cleanInt_echo low high rfl (echoes.sent listed sent)

/-- A flag that was sent is read back. -/
theorem EchoesAll.flag (echoes : EchoesAll keys params raw) (listed : key ∈ keys) {value : Bool}
    (sent : params.get? key = some (Proxmox.flag value)) : cleanFlag (raw.get key) = value :=
  cleanFlag_echo rfl (echoes.sent listed sent)

end Reads
end Echo

section Fields

/-- A given text counts. -/
theorem truthy_given (content : String) : Text.truthy (given content) = given content := by
  unfold given
  split
  · rfl
  · rename_i filled
    exact (Text.truthy_eq_some _ _).mpr ⟨rfl, filled⟩

/-- A text field shows what was sent. -/
theorem getD_given (content : String) : (given content).getD "" = Js.trim content := by
  unfold given
  split
  · rename_i empty
    exact empty.symm
  · rfl

/-- A trimmed text is given as the text is. -/
theorem given_trim (content : String) : given (Js.trim content) = given content := by
  unfold given
  rw [Js.trim_trim]

/-- A number that is shown is sent again. -/
theorem givenNumber_shownNumber {number : Option Int} (small : ∀ value ∈ number, 0 ≤ value ∧ value < 131072) :
    givenNumber (shownNumber number) = number := by
  cases number with
  | none => rfl
  | some value =>
      obtain ⟨low, high⟩ := small value rfl
      have read := Js.parseInt_toString low high
      show givenNumber (toString value) = some value
      unfold givenNumber
      rw [if_neg, read]
      intro empty
      rw [empty] at read
      cases read

/-- Numbers within the bounds are small. -/
theorem small_of_within {low high : Int} {number : Option Int} (bounded : within low high number = true)
    (below : 0 ≤ low) (above : high < 131072) : ∀ value ∈ number, 0 ≤ value ∧ value < 131072 := by
  intro value same
  rw [Option.mem_def.mp same] at bounded
  simp only [within, Option.all_some, Bool.and_eq_true, decide_eq_true_eq] at bounded
  omega

end Fields

section Kept

/-- The keys that the dialogs of a network may write, with the older names of two of them. -/
def networkKeys : List String :=
  ["iface", "type", "autostart", "gateway", "cidr6", "gateway6", "mtu", "comments", "bridge_ports",
    "bridge_vlan_aware", "bridge_vids", "vlan-raw-device", "vlan-id", "vlan_raw_device", "vlan_id"]

def zoneKeys : List String := ["zone", "type", "mtu", "nodes", "bridge", "dns", "dnszone", "ipam"]

def vnetKeys : List String := ["vnet", "zone", "tag", "alias", "vlanaware"]

/-- An older version of Proxmox answers with the address and its mask. -/
def EchoesCidr (params : Params) (raw : JsonObject) : Prop :=
  match params.get? "cidr" with
  | some (.text cidr) => raw.get "cidr" = .text cidr ∨ (raw.get "cidr").blank = true ∧ ∃ address netmask,
      cleanText (raw.get "address") = some address ∧ cleanText (raw.get "netmask") = some netmask ∧
        IpAddress.withPrefixlen (address ++ "/" ++ netmask).toList = some cidr.toList
  | _ => (raw.get "cidr").blank = true ∧ (raw.get "address").blank = true

/-- The address of an interface is read back. -/
theorem cidrFromRaw_echo {params : Params} {raw : JsonObject} {cidr : Option String} (echoes : EchoesCidr params raw)
    (sent : params.get? "cidr" = filled cidr) : cidrFromRaw raw = Text.truthy cidr := by
  unfold EchoesCidr at echoes
  rw [sent, filled] at echoes
  unfold cidrFromRaw
  cases present : Text.truthy cidr with
  | none =>
      rw [present] at echoes
      obtain ⟨missing, unaddressed⟩ := echoes
      simp only [cleanText, missing, unaddressed, if_true]
  | some word =>
      rw [present] at echoes
      have filled := ((Text.truthy_eq_some _ _).mp present).2
      rcases echoes with new | ⟨missing, address, netmask, first, second, joined⟩
      · have read : cleanText (raw.get "cidr") = some word := by
          rw [new, cleanText_text]
          exact (Text.truthy_eq_some _ _).mpr ⟨rfl, filled⟩
        rw [read]
      · have unread : cleanText (raw.get "cidr") = none := by
          rw [cleanText, missing]
          rfl
        rw [unread, first, second]
        dsimp only
        rw [joined, Option.map_some, String.ofList_toList]

namespace Dialog

/-- Proxmox lists the created object. -/
def ListedAs (raw : JsonObject) (dialog : Dialog) : Prop :=
  match dialog with
  | .bridge _ => EchoesAll networkKeys dialog.createParams raw ∧ EchoesCidr dialog.createParams raw
  | .vlan _ => EchoesAll networkKeys dialog.createParams raw ∧ EchoesCidr dialog.createParams raw
  | .zone _ => EchoesAll zoneKeys dialog.createParams raw
  | .vnet _ _ => EchoesAll vnetKeys dialog.createParams raw

/-- The ports of a bridge are names of devices. -/
def portsNamed : Dialog → Prop
  | .bridge form => ∀ port ∈ form.bridgePorts, Text.IsWord port ∧ port ≠ "none"
  | _ => True

/-- The dialog with trimmed texts and written numbers. -/
def tidied : Dialog → Dialog
  | .bridge form => .bridge { form with
      name := Js.trim form.name
      vids := if form.vlanAware then Js.trim form.vids else ""
      cidr := Js.trim form.cidr
      gateway := Js.trim form.gateway
      cidr6 := Js.trim form.cidr6
      gateway6 := Js.trim form.gateway6
      mtu := shownNumber (givenNumber form.mtu)
      comments := Js.trim form.comments }
  | .vlan form => .vlan { form with
      tag := shownNumber (Js.parseInt form.tag)
      cidr := Js.trim form.cidr
      gateway := Js.trim form.gateway
      mtu := shownNumber (givenNumber form.mtu)
      comments := Js.trim form.comments }
  | .zone form => .zone { form with
      id := Js.trim form.id
      bridge := if form.type = .vlan then Js.trim form.bridge else ""
      mtu := shownNumber (givenNumber form.mtu)
      nodes := Js.trim form.nodes
      dns := Js.trim form.dns
      dnszone := Js.trim form.dnszone }
  | .vnet form zoneIsVlan => .vnet { form with
      id := Js.trim form.id
      tag := shownNumber (givenNumber form.tag)
      aliasText := Js.trim form.aliasText } zoneIsVlan

end Dialog

variable {raw : JsonObject}

/-- A name that was sent is read back. -/
theorem cleanText_name {params : Params} {keys : List String} {key name : String} (echoes : EchoesAll keys params raw)
    (listed : key ∈ keys) (sent : params.get? key = some (.text name)) : cleanText (raw.get key) = Text.truthy (some name) := by
  rw [text_echo (echoes.sent listed sent), cleanText_text]

/-- A missing name is shown as an empty one. -/
theorem orElse_truthy (name : String) : Text.orElse (Text.truthy (some name)) "" = name := by
  by_cases empty : name = ""
  · rw [empty]
    rfl
  · rw [(Text.truthy_eq_some _ _).mpr ⟨rfl, empty⟩, Text.orElse, if_neg empty]

/-- The ports of a bridge are read back. -/
theorem portsFromRaw_echo {form : BridgeForm} (named : ∀ port ∈ form.bridgePorts, Text.IsWord port ∧ port ≠ "none")
    (echoes : EchoesAll networkKeys form.payload.createParams raw) :
    portsFromRaw (raw.get "bridge_ports") = form.bridgePorts := by
  have all : form.bridgePorts.filter (· ≠ "") = form.bridgePorts :=
    List.filter_eq_self.mpr fun port member => by simpa using (named port member).1.1
  have sent : form.payload.createParams.get? "bridge_ports" =
      if form.bridgePorts.isEmpty then none else some (.text (" ".intercalate form.bridgePorts)) := by
    unfold NetworkIfaceWriteRequest.createParams NetworkIfaceWriteRequest.toProxmoxParams BridgeForm.payload
    dsimp only
    rw [all]
    simp
  cases ports : form.bridgePorts with
  | nil =>
      rw [ports] at sent
      have missing := echoes.unsent (by decide) sent
      generalize raw.get "bridge_ports" = seen at missing
      have empty : seen = .null ∨ seen = .text "" := by simpa [JsonValue.blank] using missing
      rcases empty with rfl | rfl
      · rfl
      · decide +kernel
  | cons first rest =>
      rw [ports] at sent
      have shown := text_echo (echoes.sent (by decide) sent)
      rw [shown, portsFromRaw, Text.splitSpace_intercalate fun port member => (named port (ports ▸ member)).1]
      apply List.filter_eq_self.mpr
      intro port member
      obtain ⟨word, other⟩ := named port (ports ▸ member)
      simp [word.1, other]

end Kept

section Networks
variable {raw : JsonObject} {body : NetworkIfaceWriteRequest}

/-- What both kinds of interfaces have in common is read as it was sent. -/
structure ReadsShared (body : NetworkIfaceWriteRequest) (seen : NetworkInterface) : Prop where
  iface : seen.iface = body.iface
  cidr : seen.cidr = Text.truthy body.cidr
  gateway : seen.gateway = Text.truthy body.gateway
  cidr6 : seen.cidr6 = Text.truthy body.cidr6
  gateway6 : seen.gateway6 = Text.truthy body.gateway6
  mtu : seen.mtu = body.mtu
  autostart : seen.autostart = body.autostart
  comments : seen.comments = Text.truthy body.comments

/-- The parameters that both kinds of interfaces send. -/
def sharedParams (body : NetworkIfaceWriteRequest) : Params :=
  let params := ((OrderedMap.empty : Params).set "type" (.text body.type.name)).set "autostart" (flag body.autostart)
  ((((((params.setSome "cidr" (filled body.cidr)).setSome "gateway" (filled body.gateway)).setSome "cidr6"
    (filled body.cidr6)).setSome "gateway6" (filled body.gateway6)).setSome "mtu" (body.mtu.map .number)).setSome
    "comments" (filled body.comments))

/-- The parameters of both kinds of interfaces are the same. -/
theorem createParams_shared (key : String)
    (shared : key ∉ ["iface", "bridge_ports", "bridge_vlan_aware", "bridge_vids", "vlan-raw-device", "vlan-id"]) :
    body.createParams.get? key = (sharedParams body).get? key := by
  simp only [List.mem_cons, List.not_mem_nil, or_false, not_or] at shared
  obtain ⟨name, ports, aware, vids, device, tag⟩ := shared
  unfold NetworkIfaceWriteRequest.createParams NetworkIfaceWriteRequest.toProxmoxParams sharedParams
  cases body.type <;> simp [name, ports, aware, vids, device, tag]

/-- The fields of both kinds of interfaces are read back. -/
theorem readsShared (bounded : body.inBounds = true) (echoes : EchoesAll networkKeys body.createParams raw)
    (cidr : EchoesCidr body.createParams raw) : ReadsShared body (parseNetworkIface raw) where
  iface := by
    have sent : body.createParams.get? "iface" = some (.text body.iface) := by
      simp [NetworkIfaceWriteRequest.createParams]
    rw [parseNetworkIface, cleanText_name echoes (by decide) sent, orElse_truthy]
  cidr := cidrFromRaw_echo cidr (by rw [createParams_shared _ (by decide)]; simp [sharedParams])
  gateway := echoes.text (by decide) (by rw [createParams_shared _ (by decide)]; simp [sharedParams])
  cidr6 := echoes.text (by decide) (by rw [createParams_shared _ (by decide)]; simp [sharedParams])
  gateway6 := echoes.text (by decide) (by rw [createParams_shared _ (by decide)]; simp [sharedParams])
  mtu := by
    have small := small_of_within ((Bool.and_eq_true _ _).mp bounded).1 (by decide) (by decide)
    exact echoes.number (by decide) small (by rw [createParams_shared _ (by decide)]; simp [sharedParams])
  autostart := echoes.flag (by decide) (by rw [createParams_shared _ (by decide)]; simp [sharedParams])
  comments := echoes.text (by decide) (by rw [createParams_shared _ (by decide)]; simp [sharedParams])

/-- A known bridge opens with the form that created it. -/
theorem bridge_initialState {form : BridgeForm} (bounded : form.payload.inBounds = true)
    (named : ∀ port ∈ form.bridgePorts, Text.IsWord port ∧ port ≠ "none")
    (echoes : EchoesAll networkKeys form.payload.createParams raw) (cidr : EchoesCidr form.payload.createParams raw) :
    Dialog.bridge (BridgeForm.initialState (parseNetworkIface raw)) = (Dialog.bridge form).tidied := by
  have shared := readsShared bounded echoes cidr
  have ports : (parseNetworkIface raw).bridgePorts = form.bridgePorts := portsFromRaw_echo named echoes
  have aware : (parseNetworkIface raw).bridgeVlanAware = form.vlanAware :=
    echoes.flag (by decide)
      (by simp [NetworkIfaceWriteRequest.createParams, NetworkIfaceWriteRequest.toProxmoxParams, BridgeForm.payload])
  have vids : (parseNetworkIface raw).bridgeVids = if form.vlanAware then given form.vids else none := by
    have read : cleanText (raw.get "bridge_vids") = Text.truthy (if form.vlanAware then given form.vids else none) := by
      apply echoes.text (by decide)
      unfold NetworkIfaceWriteRequest.createParams NetworkIfaceWriteRequest.toProxmoxParams BridgeForm.payload
      cases form.vlanAware <;> simp [filled, Text.truthy]
    refine Eq.trans read ?_
    split
    · exact truthy_given _
    · rfl
  unfold BridgeForm.initialState
  rw [shared.iface, shared.cidr, shared.gateway, shared.cidr6, shared.gateway6, shared.mtu, shared.autostart,
    shared.comments, ports, aware, vids]
  simp only [BridgeForm.payload, Dialog.tidied, truthy_given, getD_given]
  cases form.vlanAware <;> simp [getD_given]

/-- A known VLAN opens with the form that created it. -/
theorem vlan_initialState {form : VlanForm} (bounded : (form.payload form.derivedName).inBounds = true)
    (submitted : (Dialog.vlan form).submits = true)
    (echoes : EchoesAll networkKeys (form.payload form.derivedName).createParams raw)
    (cidr : EchoesCidr (form.payload form.derivedName).createParams raw) :
    Dialog.vlan (VlanForm.initialState (parseNetworkIface raw)) = (Dialog.vlan form).tidied := by
  have shared := readsShared bounded echoes cidr
  obtain ⟨chosen, tagged⟩ : form.rawDevice ≠ "" ∧ ∃ tag, Js.parseInt form.tag = some tag ∧ 1 ≤ tag ∧ tag ≤ 4094 := by
    simpa [Dialog.submits, Option.any_eq_true] using submitted
  obtain ⟨tag, read, low, high⟩ := tagged
  have device : (parseNetworkIface raw).vlanRawDevice = some form.rawDevice := by
    have sent : (form.payload form.derivedName).createParams.get? "vlan-raw-device" = some (.text form.rawDevice) := by
      simp [NetworkIfaceWriteRequest.createParams, NetworkIfaceWriteRequest.toProxmoxParams, VlanForm.payload, filled,
        Text.truthy, chosen]
    have shown := text_echo (echoes.sent (by decide) sent)
    have kept : orValue (.text form.rawDevice) (raw.get "vlan_raw_device") = .text form.rawDevice := by
      simp [orValue, JsonValue.truthy, chosen]
    show cleanText (orValue (raw.get "vlan-raw-device") _) = _
    rw [shown, kept, cleanText_text]
    exact (Text.truthy_eq_some _ _).mpr ⟨rfl, chosen⟩
  have number : (parseNetworkIface raw).vlanId = some tag := by
    have sent : (form.payload form.derivedName).createParams.get? "vlan-id" = some (.number tag) := by
      simp [NetworkIfaceWriteRequest.createParams, NetworkIfaceWriteRequest.toProxmoxParams, VlanForm.payload, read]
    have echo := echoes.sent (by decide) sent
    have kept : orValue (raw.get "vlan-id") (raw.get "vlan_id") = raw.get "vlan-id" :=
      if_pos (truthy_echo (by omega) rfl echo)
    show cleanInt (orValue (raw.get "vlan-id") _) = _
    rw [kept]
    exact cleanInt_echo (by omega) (by omega) rfl echo
  have found : VlanForm.deviceAndTag (parseNetworkIface raw) = (form.rawDevice, shownNumber (some tag)) := by
    have written : shownNumber (some tag) ≠ "" := by
      intro empty
      have filled := numeral_filled tag
      simp [JsonValue.blank] at filled
      exact filled empty
    unfold VlanForm.deviceAndTag
    rw [device, number, Option.getD_some]
    split <;> simp [chosen, written]
  unfold VlanForm.initialState
  rw [shared.cidr, shared.gateway, shared.mtu, shared.autostart, shared.comments, found]
  simp only [VlanForm.payload, Dialog.tidied, truthy_given, getD_given, read]

end Networks

section Sdn
variable {raw : JsonObject}

/-- A valid id is not empty. -/
theorem isSdnId_filled {name : String} (valid : isSdnId name = true) : name ≠ "" := by
  intro empty
  rw [empty] at valid
  exact absurd valid (by decide)

/-- What the creation of a zone sends. -/
theorem zone_sent {form : ZoneForm} (key : String) :
    (WriteRequest.sdnZone form.payload).createParams.get? key =
      if key = "zone" then some (.text (Js.trim form.id))
      else if key = "type" then some (.text form.type.name)
      else if key = "mtu" then (givenNumber form.mtu).map .number
      else if key = "nodes" then filled (given form.nodes)
      else if key = "bridge" then filled (if form.type = .vlan then given form.bridge else none)
      else if key = "dns" then filled (given form.dns)
      else if key = "dnszone" then filled (given form.dnszone)
      else none := by
  have unsent : filled none = none := rfl
  simp only [WriteRequest.createParams, SdnZoneWriteRequest.toProxmoxParams, ZoneForm.payload, OrderedMap.get?_set,
    OrderedMap.get?_setSome, OrderedMap.get?_empty, Bool.false_eq_true, if_false, unsent]
  by_cases vlan : form.type = .vlan
  · simp only [vlan, if_true, Option.none_or]
    grind
  · simp only [vlan, if_false, Option.none_or]
    grind

/-- A known zone opens with the form that created it. -/
theorem zone_initialState {form : ZoneForm} (bounded : form.payload.inBounds = true)
    (submitted : (Dialog.zone form).submits = true)
    (echoes : EchoesAll zoneKeys (WriteRequest.sdnZone form.payload).createParams raw) :
    Dialog.zone (ZoneForm.initialState (parseZone raw)) = (Dialog.zone form).tidied := by
  simp only [Dialog.submits, Bool.and_eq_true] at submitted
  have named : Js.trim form.id ≠ "" := isSdnId_filled submitted.1
  have id : (parseZone raw).id = Js.trim form.id := by
    have sent : (WriteRequest.sdnZone form.payload).createParams.get? "zone" = some (.text (Js.trim form.id)) := by
      simp [zone_sent]
    have read := cleanText_name echoes (by decide) sent
    rw [parseZone, read, (Text.truthy_eq_some _ _).mpr ⟨rfl, named⟩, Text.orElse, if_neg named]
  have type : (parseZone raw).type = form.type.name := by
    have sent : (WriteRequest.sdnZone form.payload).createParams.get? "type" = some (.text form.type.name) := by
      simp [zone_sent]
    have read := cleanText_name echoes (by decide) sent
    rw [parseZone, read]
    cases form.type <;> rfl
  have mtu : (parseZone raw).mtu = givenNumber form.mtu :=
    echoes.number (by decide) (small_of_within bounded (by decide) (by decide)) (by simp [zone_sent])
  have nodes : (parseZone raw).nodes = Text.truthy (given form.nodes) := echoes.text (by decide) (by simp [zone_sent])
  have dns : (parseZone raw).dns = Text.truthy (given form.dns) := echoes.text (by decide) (by simp [zone_sent])
  have dnszone : (parseZone raw).dnszone = Text.truthy (given form.dnszone) :=
    echoes.text (by decide) (by simp [zone_sent])
  have bridge : (parseZone raw).bridge = Text.truthy (if form.type = .vlan then given form.bridge else none) :=
    echoes.text (by decide) (by simp [zone_sent])
  unfold ZoneForm.initialState
  rw [id, type, mtu, nodes, dns, dnszone, bridge]
  simp only [Dialog.tidied, truthy_given, getD_given]
  cases kind : form.type with
  | simple => rfl
  | vlan =>
      rw [if_pos rfl, if_pos rfl, truthy_given, getD_given]
      rfl

/-- What the creation of a VNet sends. -/
theorem vnet_sent {form : VnetForm} (key : String) :
    (WriteRequest.sdnVnet form.payload).createParams.get? key =
      if key = "vnet" then some (.text (Js.trim form.id))
      else if key = "zone" then some (.text form.zone)
      else if key = "tag" then (givenNumber form.tag).map .number
      else if key = "alias" then filled (given form.aliasText)
      else if key = "vlanaware" then some (flag form.vlanaware)
      else none := by
  simp only [WriteRequest.createParams, SdnVnetWriteRequest.toProxmoxParams, VnetForm.payload, OrderedMap.get?_set,
    OrderedMap.get?_setSome, OrderedMap.get?_empty]
  grind

/-- A known VNet opens with the form that created it. -/
theorem vnet_initialState {form : VnetForm} {zoneIsVlan : Bool} (bounded : form.payload.inBounds = true)
    (submitted : (Dialog.vnet form zoneIsVlan).submits = true)
    (echoes : EchoesAll vnetKeys (WriteRequest.sdnVnet form.payload).createParams raw) :
    Dialog.vnet (VnetForm.initialState (parseVnet raw)) zoneIsVlan = (Dialog.vnet form zoneIsVlan).tidied := by
  simp only [Dialog.submits, Bool.and_eq_true, decide_eq_true_eq] at submitted
  have named : Js.trim form.id ≠ "" := isSdnId_filled submitted.1.1
  have zoned : form.zone ≠ "" := submitted.1.2
  have id : (parseVnet raw).id = Js.trim form.id := by
    have sent : (WriteRequest.sdnVnet form.payload).createParams.get? "vnet" = some (.text (Js.trim form.id)) := by
      simp [vnet_sent]
    have read := cleanText_name echoes (by decide) sent
    rw [parseVnet, read, (Text.truthy_eq_some _ _).mpr ⟨rfl, named⟩, Text.orElse, if_neg named]
  have zone : (parseVnet raw).zone = some form.zone := by
    have sent : (WriteRequest.sdnVnet form.payload).createParams.get? "zone" = some (.text form.zone) := by
      simp [vnet_sent]
    have read := cleanText_name echoes (by decide) sent
    exact read.trans ((Text.truthy_eq_some _ _).mpr ⟨rfl, zoned⟩)
  have tag : (parseVnet raw).tag = givenNumber form.tag :=
    echoes.number (by decide) (small_of_within bounded (by decide) (by decide)) (by simp [vnet_sent])
  have aliased : (parseVnet raw).aliasText = Text.truthy (given form.aliasText) :=
    echoes.text (by decide) (by simp [vnet_sent])
  have aware : (parseVnet raw).vlanaware = form.vlanaware := echoes.flag (by decide) (by simp [vnet_sent])
  unfold VnetForm.initialState
  rw [id, zone, tag, aliased, aware]
  simp only [Dialog.tidied, truthy_given, getD_given, Option.getD_some]

end Sdn

namespace Dialog
variable {dialog : Dialog}

/-- Saving the tidied form sends what saving the form sends. -/
theorem updateParams_tidied (submitted : dialog.submits = true) (bounded : dialog.inBounds = true) :
    dialog.tidied.updateParams = dialog.updateParams := by
  cases dialog with
  | bridge form =>
      have small : ∀ value ∈ givenNumber form.mtu, 0 ≤ value ∧ value < 131072 :=
        small_of_within ((Bool.and_eq_true _ _).mp bounded).1 (by decide) (by decide)
      simp only [tidied, updateParams, BridgeForm.payload, given_trim, givenNumber_shownNumber small, Js.trim_trim]
      cases form.vlanAware <;> simp [NetworkIfaceWriteRequest.toProxmoxParams, given_trim]
  | vlan form =>
      have small : ∀ value ∈ givenNumber form.mtu, 0 ≤ value ∧ value < 131072 :=
        small_of_within ((Bool.and_eq_true _ _).mp bounded).1 (by decide) (by decide)
      obtain ⟨tag, read, low, high⟩ : ∃ tag, Js.parseInt form.tag = some tag ∧ 1 ≤ tag ∧ tag ≤ 4094 := by
        simp only [submits, Bool.and_eq_true] at submitted
        simpa [Option.any_eq_true] using submitted.2
      have again : Js.parseInt (shownNumber (some tag)) = some tag := Js.parseInt_toString (by omega) (by omega)
      simp only [tidied, updateParams, VlanForm.payload, given_trim, givenNumber_shownNumber small, read, again,
        NetworkIfaceWriteRequest.toProxmoxParams]
  | zone form =>
      have small : ∀ value ∈ givenNumber form.mtu, 0 ≤ value ∧ value < 131072 :=
        small_of_within bounded (by decide) (by decide)
      simp only [tidied, updateParams, WriteRequest.updateParams, ZoneForm.payload, given_trim,
        givenNumber_shownNumber small, Js.trim_trim]
      cases form.type <;> simp [given_trim]
  | vnet form zoneIsVlan =>
      have small : ∀ value ∈ givenNumber form.tag, 0 ≤ value ∧ value < 131072 :=
        small_of_within bounded (by decide) (by decide)
      simp only [tidied, updateParams, WriteRequest.updateParams, VnetForm.payload, given_trim,
        givenNumber_shownNumber small, Js.trim_trim]

/-- Saving sends nothing that the creation did not send. -/
theorem createParams_of_updateParams {key : String} {value : Param} (sent : dialog.updateParams.get? key = some value) :
    dialog.createParams.get? key = some value := by
  cases dialog with
  | bridge form =>
      have other : key ≠ "iface" := by
        rintro rfl
        simp [updateParams, NetworkIfaceWriteRequest.toProxmoxParams, BridgeForm.payload] at sent
      simpa [createParams, updateParams, NetworkIfaceWriteRequest.createParams, other] using sent
  | vlan form =>
      have other : key ≠ "iface" := by
        rintro rfl
        simp [updateParams, NetworkIfaceWriteRequest.toProxmoxParams, VlanForm.payload] at sent
      simpa [createParams, updateParams, NetworkIfaceWriteRequest.createParams, other] using sent
  | zone form =>
      have other : key ≠ "zone" ∧ key ≠ "type" := by
        constructor <;> rintro rfl <;>
          simp [updateParams, WriteRequest.updateParams, SdnZoneWriteRequest.toProxmoxParams, ZoneForm.payload] at sent
      simpa [createParams, updateParams, WriteRequest.createParams, WriteRequest.updateParams,
        SdnZoneWriteRequest.toProxmoxParams, other.1, other.2] using sent
  | vnet form zoneIsVlan =>
      have other : key ≠ "vnet" := by
        rintro rfl
        simp [updateParams, WriteRequest.updateParams, SdnVnetWriteRequest.toProxmoxParams, VnetForm.payload] at sent
      simpa [createParams, updateParams, WriteRequest.createParams, WriteRequest.updateParams,
        SdnVnetWriteRequest.toProxmoxParams, other] using sent

/-- The dialog of an object that was created with it opens with the entered values, in whichever type Proxmox answers,
and saving it unchanged sends only what the creation sent. -/
theorem reopened_unchanged (dialog : Dialog) (raw : JsonObject) (submitted : dialog.submits = true)
    (bounded : dialog.inBounds = true) (named : dialog.portsNamed) (listed : dialog.ListedAs raw) :
    dialog.reopened raw = dialog.tidied ∧ (dialog.reopened raw).updateParams = dialog.updateParams ∧
      ∀ key value, (dialog.reopened raw).updateParams.get? key = some value → dialog.createParams.get? key = some value := by
  have opened : dialog.reopened raw = dialog.tidied := by
    cases dialog with
    | bridge form => exact bridge_initialState bounded named listed.1 listed.2
    | vlan form => exact vlan_initialState bounded submitted listed.1 listed.2
    | zone form => exact zone_initialState bounded submitted listed
    | vnet form zoneIsVlan => exact vnet_initialState bounded submitted listed
  have same := opened ▸ updateParams_tidied submitted bounded
  refine ⟨opened, same, ?_⟩
  intro key value sent
  rw [same] at sent
  exact createParams_of_updateParams sent

/-- A bridge as it is typed in, with blanks around some of the texts. -/
@[irreducible] def labForm : BridgeForm where
  name := " vmbr1"
  bridgePorts := ["enp3s0", "enp4s0"]
  vlanAware := true
  vids := "2-100 "
  cidr := "10.0.0.1/24"
  gateway := ""
  cidr6 := ""
  gateway6 := ""
  mtu := "1500"
  autostart := true
  comments := "lab"

/-- An older version of Proxmox lists it with a mask and with numbers as texts. -/
def labListing : JsonObject := .ofMembers [("iface", .text "vmbr1"), ("type", .text "bridge"), ("autostart", .int 1),
  ("address", .text "10.0.0.1"), ("netmask", .text "255.255.255.0"), ("mtu", .text "1500"), ("comments", .text "lab"),
  ("bridge_ports", .text "enp3s0 enp4s0"), ("bridge_vlan_aware", .bool true), ("bridge_vids", .text "2-100")]

/-- The bridge is opened again as it was typed in, without the blanks. -/
theorem labBridge_reopened : (Dialog.bridge labForm).reopened labListing = (Dialog.bridge labForm).tidied ∧
    ((Dialog.bridge labForm).reopened labListing).updateParams = (Dialog.bridge labForm).updateParams := by
  have named : (Dialog.bridge labForm).portsNamed := by
    have checked : labForm.bridgePorts.all (fun port =>
        port ≠ "" && port ≠ "none" && port.toList.all fun c => !Text.isSpace c) = true := by decide +kernel
    intro port member
    have each := List.all_eq_true.mp checked port member
    simp only [Bool.and_eq_true, decide_eq_true_eq, List.all_eq_true, Bool.not_eq_true'] at each
    exact ⟨⟨each.1.1, each.2⟩, each.1.2⟩
  have address : (Dialog.bridge labForm).createParams.get? "cidr" = some (.text "10.0.0.1/24") := by decide +kernel
  have cidr : EchoesCidr (Dialog.bridge labForm).createParams labListing := by
    unfold EchoesCidr
    rw [address]
    exact .inr ⟨by decide +kernel, "10.0.0.1", "255.255.255.0", by decide +kernel, by decide +kernel, by decide +kernel⟩
  have echoed : EchoesAll networkKeys (Dialog.bridge labForm).createParams labListing := by decide +kernel
  have listed : (Dialog.bridge labForm).ListedAs labListing := ⟨echoed, cidr⟩
  obtain ⟨opened, same, _⟩ := reopened_unchanged _ labListing (by decide +kernel) (by decide +kernel) named listed
  exact ⟨opened, same⟩

end Dialog
end P3Portal.Proxmox
