import P3Portal.Construction.Proxmox.HaRules

namespace P3Portal.Foundation.Text

/-- `str.split` without a separator. -/
def splitSpace (text : String) : List String :=
  ((text.toList.splitOnP isSpace).filter (· ≠ [])).map String.ofList

end P3Portal.Foundation.Text

namespace P3Portal.Foundation.Js

/-- `String.prototype.trim` removes these characters. -/
def isSpace (character : Char) : Bool :=
  let code := character.toNat
  9 ≤ code && code ≤ 13 || 0x2000 ≤ code && code ≤ 0x200a ||
    code ∈ [0x20, 0xa0, 0x1680, 0x2028, 0x2029, 0x202f, 0x205f, 0x3000, 0xfeff]

/-- `String.prototype.trim`. -/
def trim (text : String) : String := String.ofList ((text.toList.dropWhile isSpace).rdropWhile isSpace)

/-- A number from here on is no finite double. -/
def infinity : Nat := 2 ^ 1024 - 2 ^ 970

/-- JSON writes what is no finite number as null. -/
def leadingDigits (text : List Char) : Option Nat :=
  let digits := text.takeWhile Char.isDigit
  if digits = [] then none else (some (Nat.ofDigitChars 10 digits 0)).filter (· < infinity)

/-- `parseInt` with the base ten, as JSON carries its result. -/
def parseInt (text : String) : Option Int :=
  match text.toList.dropWhile isSpace with
  | '-' :: rest => (leadingDigits rest).map fun value => -(value : Int)
  | '+' :: rest => (leadingDigits rest).map Int.ofNat
  | rest => (leadingDigits rest).map Int.ofNat

end P3Portal.Foundation.Js

namespace P3Portal.Foundation.IpAddress

/-- `with_prefixlen` of `ipaddress.ip_interface` for an IPv4 text. -/
def ipv4WithPrefixlen (text : List Char) : Option (List Char) := do
  let (address, mask) ← splitOptionalNetmask text
  let value ← ipv4FromString address
  let prefixLength ← makeNetmask .v4 mask
  return renderIpv4 value ++ '/' :: Nat.toDigits 10 prefixLength

/-- The number of zero hextets from a place on. -/
def zeroRun (hextets : List Nat) (start : Nat) : Nat := ((hextets.drop start).takeWhile (· = 0)).length

/-- The first of the longest runs of zeros. -/
def longestZeroRun (hextets : List Nat) : Nat :=
  (List.range hextets.length).foldl
    (fun best start => if zeroRun hextets best < zeroRun hextets start then start else best) 0

/-- The longest run of at least two zero hextets is written as `::`. -/
def renderIpv6 (address : Nat) : List Char :=
  let hextets := (List.range 8).map fun index => address / 65536 ^ (7 - index) % 65536
  let written (part : List Nat) : List Char := List.intercalate [':'] (part.map (Nat.toDigits 16))
  let start := longestZeroRun hextets
  let length := zeroRun hextets start
  if 1 < length then written (hextets.take start) ++ [':', ':'] ++ written (hextets.drop (start + length))
  else written hextets

/-- `with_prefixlen` leaves the scope of an IPv6 text out. -/
def ipv6WithPrefixlen (text : List Char) : Option (List Char) := do
  let (address, mask) ← splitOptionalNetmask text
  let (address, _) ← splitScopeId address
  let value ← ipv6FromString address
  let prefixLength ← makeNetmask .v6 mask
  return renderIpv6 value ++ '/' :: Nat.toDigits 10 prefixLength

def withPrefixlen (text : List Char) : Option (List Char) := (ipv4WithPrefixlen text).or (ipv6WithPrefixlen text)

example : withPrefixlen "2001:DB8:0:0:1:0:0:0/64".toList = some "2001:db8:0:0:1::/64".toList := by decide +kernel

end P3Portal.Foundation.IpAddress

namespace P3Portal.Proxmox
open Foundation

/-- `or` of two values. -/
def orValue (first second : JsonValue) : JsonValue := if first.truthy then first else second

section Networks

inductive NetworkType where
  | bridge
  | vlan
  deriving DecidableEq

def NetworkType.name : NetworkType → String
  | .bridge => "bridge"
  | .vlan => "vlan"

structure NetworkIfaceWriteRequest where
  type : NetworkType
  iface : String
  cidr : Option String := none
  gateway : Option String := none
  cidr6 : Option String := none
  gateway6 : Option String := none
  mtu : Option Int := none
  autostart : Bool := false
  comments : Option String := none
  bridgePorts : List String := []
  bridgeVlanAware : Bool := false
  bridgeVids : Option String := none
  vlanRawDevice : Option String := none
  vlanId : Option Int := none
  deriving DecidableEq

/-- The bounds of a number field. -/
def within (low high : Int) (value : Option Int) : Bool := value.all fun number => low ≤ number && number ≤ high

namespace NetworkIfaceWriteRequest

/-- The bounds that the fields of the body have. -/
def inBounds (body : NetworkIfaceWriteRequest) : Bool := within 128 65520 body.mtu && within 1 4094 body.vlanId

/-- A bridge has its own keys, and so has a VLAN. -/
def toProxmoxParams (body : NetworkIfaceWriteRequest) : Params :=
  let params := ((OrderedMap.empty : Params).set "type" (.text body.type.name)).set "autostart" (flag body.autostart)
  let params := (((((params.setSome "cidr" (filled body.cidr)).setSome "gateway" (filled body.gateway)).setSome "cidr6"
    (filled body.cidr6)).setSome "gateway6" (filled body.gateway6)).setSome "mtu" (body.mtu.map .number)).setSome
    "comments" (filled body.comments)
  match body.type with
  | .bridge =>
      let ports := body.bridgePorts.filter (· ≠ "")
      ((params.setSome "bridge_ports" (if ports.isEmpty then none else some (.text (" ".intercalate ports)))).set
        "bridge_vlan_aware" (flag body.bridgeVlanAware)).setSome "bridge_vids"
        (if body.bridgeVlanAware then filled body.bridgeVids else none)
  | .vlan =>
      (params.setSome "vlan-raw-device" (filled body.vlanRawDevice)).setSome "vlan-id" (body.vlanId.map .number)

/-- `create_network_iface` adds the name. -/
def createParams (body : NetworkIfaceWriteRequest) : Params := body.toProxmoxParams.set "iface" (.text body.iface)

end NetworkIfaceWriteRequest

structure NetworkInterface where
  iface : String
  type : String
  method : Option String
  cidr : Option String
  gateway : Option String
  cidr6 : Option String
  gateway6 : Option String
  mtu : Option Int
  autostart : Bool
  comments : Option String
  active : Option Bool
  pending : Bool
  bridgePorts : List String
  bridgeVlanAware : Bool
  bridgeVids : Option String
  vlanRawDevice : Option String
  vlanId : Option Int
  deriving DecidableEq

/-- An older version of Proxmox tells the address and its mask apart. -/
def cidrFromRaw (raw : JsonObject) : Option String :=
  match cleanText (raw.get "cidr") with
  | some cidr => some cidr
  | none =>
      match cleanText (raw.get "address"), cleanText (raw.get "netmask") with
      | some address, some netmask => (IpAddress.withPrefixlen (address ++ "/" ++ netmask).toList).map String.ofList
      | _, _ => none

/-- The ports come as one text or as a list of texts. -/
def portsFromRaw : JsonValue → List String
  | .text ports => (Text.splitSpace ports).filter fun port => port ≠ "" && port ≠ "none"
  | .list items => (items.map Shown.str).filter fun port => port ≠ "" && port ≠ "none"
  | _ => []

def parseNetworkIface (raw : JsonObject) : NetworkInterface where
  iface := Text.orElse (cleanText (raw.get "iface")) ""
  type := Text.orElse (cleanText (raw.get "type")) "unknown"
  method := cleanText (raw.get "method")
  cidr := cidrFromRaw raw
  gateway := cleanText (raw.get "gateway")
  cidr6 := cleanText (raw.get "cidr6")
  gateway6 := cleanText (raw.get "gateway6")
  mtu := cleanInt (raw.get "mtu")
  autostart := cleanFlag (raw.get "autostart")
  comments := cleanText (raw.get "comments")
  active := if (raw.get "active").blank then none else some (cleanFlag (raw.get "active"))
  pending := cleanFlag (raw.get "pending")
  bridgePorts := portsFromRaw (raw.get "bridge_ports")
  bridgeVlanAware := cleanFlag (raw.get "bridge_vlan_aware")
  bridgeVids := cleanText (raw.get "bridge_vids")
  vlanRawDevice := cleanText (orValue (raw.get "vlan-raw-device") (raw.get "vlan_raw_device"))
  vlanId := cleanInt (orValue (raw.get "vlan-id") (raw.get "vlan_id"))

end Networks

section Sdn

structure SdnZone where
  id : String
  type : String
  mtu : Option Int
  nodes : Option String
  bridge : Option String
  dns : Option String
  dnszone : Option String
  ipam : Option String
  pending : Bool
  state : Option String
  deriving DecidableEq

structure SdnVnet where
  id : String
  zone : Option String
  tag : Option Int
  aliasText : Option String
  vlanaware : Bool
  pending : Bool
  state : Option String
  deriving DecidableEq

/-- A staged object has a state, or a mark in an older version. -/
def objPending (raw : JsonObject) : Bool :=
  (cleanText (raw.get "state")).isSome ||
    match raw.get "pending" with
    | .object _ filled => filled
    | mark => cleanFlag mark

def parseZone (raw : JsonObject) : SdnZone where
  id := Text.orElse (cleanText (raw.get "zone")) (Text.orElse (cleanText (raw.get "id")) "")
  type := Text.orElse (cleanText (raw.get "type")) "unknown"
  mtu := cleanInt (raw.get "mtu")
  nodes := cleanText (raw.get "nodes")
  bridge := cleanText (raw.get "bridge")
  dns := cleanText (raw.get "dns")
  dnszone := cleanText (raw.get "dnszone")
  ipam := cleanText (raw.get "ipam")
  pending := objPending raw
  state := cleanText (raw.get "state")

def parseVnet (raw : JsonObject) : SdnVnet where
  id := Text.orElse (cleanText (raw.get "vnet")) (Text.orElse (cleanText (raw.get "id")) "")
  zone := cleanText (raw.get "zone")
  tag := cleanInt (raw.get "tag")
  aliasText := cleanText (raw.get "alias")
  vlanaware := cleanFlag (raw.get "vlanaware")
  pending := objPending raw
  state := cleanText (raw.get "state")

def SdnZoneWriteRequest.inBounds (body : SdnZoneWriteRequest) : Bool := within 128 65520 body.mtu

def SdnVnetWriteRequest.inBounds (body : SdnVnetWriteRequest) : Bool := within 1 4094 body.tag

end Sdn

section Forms

/-- A trimmed text is sent when something is left of it. -/
def given (content : String) : Option String := if Js.trim content = "" then none else some (Js.trim content)

/-- An empty number field is not sent. -/
def givenNumber (content : String) : Option Int := if content = "" then none else Js.parseInt content

/-- A number field shows the number. -/
def shownNumber (number : Option Int) : String := (number.map toString).getD ""

structure BridgeForm where
  name : String
  bridgePorts : List String
  vlanAware : Bool
  vids : String
  cidr : String
  gateway : String
  cidr6 : String
  gateway6 : String
  mtu : String
  autostart : Bool
  comments : String
  deriving DecidableEq

namespace BridgeForm

/-- `buildInitialState` of a known bridge. -/
def initialState (iface : NetworkInterface) : BridgeForm where
  name := iface.iface
  bridgePorts := iface.bridgePorts
  vlanAware := iface.bridgeVlanAware
  vids := iface.bridgeVids.getD ""
  cidr := iface.cidr.getD ""
  gateway := iface.gateway.getD ""
  cidr6 := iface.cidr6.getD ""
  gateway6 := iface.gateway6.getD ""
  mtu := shownNumber iface.mtu
  autostart := iface.autostart
  comments := iface.comments.getD ""

/-- `buildPayload`, as the backend reads it. -/
def payload (form : BridgeForm) : NetworkIfaceWriteRequest where
  type := .bridge
  iface := Js.trim form.name
  bridgePorts := form.bridgePorts
  bridgeVlanAware := form.vlanAware
  autostart := form.autostart
  bridgeVids := if form.vlanAware then given form.vids else none
  cidr := given form.cidr
  gateway := given form.gateway
  cidr6 := given form.cidr6
  gateway6 := given form.gateway6
  mtu := givenNumber form.mtu
  comments := given form.comments

end BridgeForm

structure VlanForm where
  rawDevice : String
  tag : String
  cidr : String
  gateway : String
  mtu : String
  autostart : Bool
  comments : String
  deriving DecidableEq

namespace VlanForm

/-- The device and the tag of a known interface, from its fields or else from its name. -/
def deviceAndTag (iface : NetworkInterface) : String × String :=
  let rawDevice := iface.vlanRawDevice.getD ""
  let tag := shownNumber iface.vlanId
  match (iface.iface.toList.splitOn '.').map String.ofList with
  | dev :: vid :: _ =>
      if rawDevice = "" || tag = "" then
        (if rawDevice = "" then dev else rawDevice,
          if tag = "" && vid ≠ "" && vid.toList.all Char.isDigit then vid else tag)
      else (rawDevice, tag)
  | _ => (rawDevice, tag)

def initialState (iface : NetworkInterface) : VlanForm where
  rawDevice := (deviceAndTag iface).1
  tag := (deviceAndTag iface).2
  cidr := iface.cidr.getD ""
  gateway := iface.gateway.getD ""
  mtu := shownNumber iface.mtu
  autostart := iface.autostart
  comments := iface.comments.getD ""

def derivedName (form : VlanForm) : String :=
  if form.rawDevice ≠ "" && form.tag ≠ "" then form.rawDevice ++ "." ++ form.tag else ""

def payload (form : VlanForm) (ifaceName : String) : NetworkIfaceWriteRequest where
  type := .vlan
  iface := ifaceName
  vlanRawDevice := some form.rawDevice
  vlanId := Js.parseInt form.tag
  autostart := form.autostart
  cidr := given form.cidr
  gateway := given form.gateway
  mtu := givenNumber form.mtu
  comments := given form.comments

end VlanForm

structure ZoneForm where
  type : SdnZoneType
  id : String
  bridge : String
  mtu : String
  nodes : String
  dns : String
  dnszone : String
  deriving DecidableEq

namespace ZoneForm

def initialState (zone : SdnZone) : ZoneForm where
  type := if zone.type = "vlan" then .vlan else .simple
  id := zone.id
  bridge := zone.bridge.getD ""
  mtu := shownNumber zone.mtu
  nodes := zone.nodes.getD ""
  dns := zone.dns.getD ""
  dnszone := zone.dnszone.getD ""

def payload (form : ZoneForm) : SdnZoneWriteRequest where
  type := form.type
  zone := Js.trim form.id
  bridge := if form.type = .vlan then given form.bridge else none
  mtu := givenNumber form.mtu
  nodes := given form.nodes
  dns := given form.dns
  dnszone := given form.dnszone

end ZoneForm

structure VnetForm where
  id : String
  zone : String
  tag : String
  aliasText : String
  vlanaware : Bool
  deriving DecidableEq

namespace VnetForm

def initialState (vnet : SdnVnet) : VnetForm where
  id := vnet.id
  zone := vnet.zone.getD ""
  tag := shownNumber vnet.tag
  aliasText := vnet.aliasText.getD ""
  vlanaware := vnet.vlanaware

def payload (form : VnetForm) : SdnVnetWriteRequest where
  vnet := Js.trim form.id
  zone := form.zone
  vlanaware := form.vlanaware
  tag := givenNumber form.tag
  aliasText := given form.aliasText

end VnetForm

/-- `/^vmbr\d{1,4}$/`. -/
def isBridgeName (name : String) : Bool :=
  match name.toList with
  | 'v' :: 'm' :: 'b' :: 'r' :: digits => digits ≠ [] && digits.length ≤ 4 && digits.all Char.isDigit
  | _ => false

/-- `/^[A-Za-z][A-Za-z0-9]{0,7}$/`. -/
def isSdnId (name : String) : Bool :=
  match name.toList with
  | first :: rest => first.isAlpha && rest.length ≤ 7 && rest.all Char.isAlphanum
  | [] => false

/-- The content of a dialog that creates an object. -/
inductive Dialog where
  | bridge (form : BridgeForm)
  | vlan (form : VlanForm)
  | zone (form : ZoneForm)
  | vnet (form : VnetForm) (zoneIsVlan : Bool)
  deriving DecidableEq

namespace Dialog

/-- `handleSubmit` sends a form that passes these checks. -/
def submits : Dialog → Bool
  | .bridge form => isBridgeName (Js.trim form.name)
  | .vlan form => form.rawDevice ≠ "" && (Js.parseInt form.tag).any fun tag => 1 ≤ tag && tag ≤ 4094
  | .zone form => isSdnId (Js.trim form.id) && !(form.type = .vlan && Js.trim form.bridge = "")
  | .vnet form zoneIsVlan => isSdnId (Js.trim form.id) && form.zone ≠ "" && !(zoneIsVlan && form.tag = "")

/-- The number fields of the body. -/
def inBounds : Dialog → Bool
  | .bridge form => form.payload.inBounds
  | .vlan form => (form.payload form.derivedName).inBounds
  | .zone form => form.payload.inBounds
  | .vnet form _ => form.payload.inBounds

/-- What the creation of the object sends to Proxmox. -/
def createParams : Dialog → Params
  | .bridge form => form.payload.createParams
  | .vlan form => (form.payload form.derivedName).createParams
  | .zone form => (WriteRequest.sdnZone form.payload).createParams
  | .vnet form _ => (WriteRequest.sdnVnet form.payload).createParams

/-- What saving the dialog of the known object sends. -/
def updateParams : Dialog → Params
  | .bridge form => form.payload.toProxmoxParams
  | .vlan form => (form.payload form.derivedName).toProxmoxParams
  | .zone form => (WriteRequest.sdnZone form.payload).updateParams
  | .vnet form _ => (WriteRequest.sdnVnet form.payload).updateParams

/-- The dialog that opens for the object that Proxmox then lists. -/
def reopened (raw : JsonObject) : Dialog → Dialog
  | .bridge _ => .bridge (BridgeForm.initialState (parseNetworkIface raw))
  | .vlan _ => .vlan (VlanForm.initialState (parseNetworkIface raw))
  | .zone _ => .zone (ZoneForm.initialState (parseZone raw))
  | .vnet _ zoneIsVlan => .vnet (VnetForm.initialState (parseVnet raw)) zoneIsVlan

end Dialog
end Forms
end P3Portal.Proxmox
