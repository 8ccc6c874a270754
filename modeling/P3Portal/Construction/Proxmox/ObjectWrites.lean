import P3Portal.Construction.Http.Failure
import P3Portal.Foundation.IpAddress
import P3Portal.Foundation.Precedence
import P3Portal.Foundation.PythonText
import P3Portal.Foundation.PythonValue
import P3Portal.Foundation.Regex

namespace P3Portal.Proxmox
open Foundation Http

/-- A value of the form that is sent to Proxmox. -/
inductive Param where
  | null
  | number (value : Int)
  | text (content : String)
  deriving DecidableEq

abbrev Params := OrderedMap String Param

def flag (value : Bool) : Param := .number (if value then 1 else 0)

/-- An optional text is only sent when it is there and not empty. -/
def filled (content : Option String) : Option Param := (Text.truthy content).map .text

inductive HaRuleType where
  | nodeAffinity
  | resourceAffinity
  deriving DecidableEq

def HaRuleType.name : HaRuleType → String
  | nodeAffinity => "node-affinity"
  | resourceAffinity => "resource-affinity"

structure HaRuleNodeInput where
  node : String
  priority : Option Int := none

structure HaRuleWriteRequest where
  rule : String
  type : HaRuleType
  resources : List String
  nodes : List HaRuleNodeInput := []
  strict : Bool := false
  affinity : Option String := none
  comment : Option String := none
  disable : Bool := false

namespace HaRuleWriteRequest

def duplicateNode : List String → List HaRuleNodeInput → Option String
  | _, [] => none
  | seen, input :: rest => if input.node ∈ seen then some input.node else duplicateNode (input.node :: seen) rest

def checkTypeFields (body : HaRuleWriteRequest) : Except String Unit :=
  match body.type with
  | .nodeAffinity =>
      if body.nodes.isEmpty then .error "a node-affinity rule needs at least one node"
      else
        match duplicateNode [] body.nodes with
        | some node => .error ("duplicate node in rule: " ++ node)
        | none => if body.resources.isEmpty then .error "a node-affinity rule needs at least one resource" else .ok ()
  | .resourceAffinity =>
      if body.affinity ∉ [some "positive", some "negative"] then
        .error "affinity must be one of ('positive', 'negative')"
      else if body.resources.length < 2 then .error "a resource-affinity rule needs at least two resources"
      else .ok ()

def nodesParam (body : HaRuleWriteRequest) : String :=
  ",".intercalate (body.nodes.map fun input =>
    input.priority.elim input.node fun priority => input.node ++ ":" ++ toString priority)

def resourcesParam (body : HaRuleWriteRequest) : String := ",".intercalate body.resources

/-- The encoder of a rule ignores whether it is for an update. -/
def toProxmoxParams (body : HaRuleWriteRequest) (_forUpdate : Bool := false) : Params :=
  let params := (OrderedMap.empty : Params).set "resources" (.text body.resourcesParam)
  let params := match body.type with
    | .nodeAffinity => (params.set "nodes" (.text body.nodesParam)).set "strict" (flag body.strict)
    | .resourceAffinity => params.set "affinity" (body.affinity.elim .null .text)
  (params.set "disable" (flag body.disable)).setSome "comment" (filled body.comment)

end HaRuleWriteRequest

structure HaResourceWriteRequest where
  sid : String
  state : String := "started"
  maxRestart : Option Int := none
  maxRelocate : Option Int := none
  failback : Option Bool := none
  comment : Option String := none

def HaResourceWriteRequest.toProxmoxParams (body : HaResourceWriteRequest) (_forUpdate : Bool := false) : Params :=
  ((((OrderedMap.empty.set "state" (.text body.state)).setSome "max_restart"
    (body.maxRestart.map .number)).setSome "max_relocate" (body.maxRelocate.map .number)).setSome "failback"
    (body.failback.map flag)).setSome "comment" (filled body.comment)

inductive SdnZoneType where
  | simple
  | vlan
  deriving DecidableEq

def SdnZoneType.name : SdnZoneType → String
  | simple => "simple"
  | vlan => "vlan"

structure SdnZoneWriteRequest where
  type : SdnZoneType
  zone : String
  mtu : Option Int := none
  nodes : Option String := none
  bridge : Option String := none
  dns : Option String := none
  dnszone : Option String := none
  ipam : Option String := none

namespace SdnZoneWriteRequest

def typeSpecific (body : SdnZoneWriteRequest) : Except String Unit :=
  if body.type = .vlan ∧ (body.bridge.map Text.strip).getD "" = "" then
    .error "VLAN zone requires a 'bridge'"
  else .ok ()

def toProxmoxParams (body : SdnZoneWriteRequest) (forUpdate : Bool := false) : Params :=
  let params := if forUpdate then OrderedMap.empty else OrderedMap.empty.set "type" (.text body.type.name)
  (((((params.setSome "mtu" (body.mtu.map .number)).setSome "nodes" (filled body.nodes)).setSome "bridge"
    (if body.type = .vlan then filled body.bridge else none)).setSome "dns" (filled body.dns)).setSome "dnszone"
    (filled body.dnszone)).setSome "ipam" (filled body.ipam)

end SdnZoneWriteRequest

structure SdnVnetWriteRequest where
  vnet : String
  zone : String
  tag : Option Int := none
  aliasText : Option String := none
  vlanaware : Bool := false

def SdnVnetWriteRequest.toProxmoxParams (body : SdnVnetWriteRequest) (_forUpdate : Bool := false) : Params :=
  (((OrderedMap.empty.set "zone" (.text body.zone)).setSome "tag" (body.tag.map .number)).setSome "alias"
    (filled body.aliasText)).set "vlanaware" (flag body.vlanaware)

structure SdnSubnetWriteRequest where
  vnet : String
  cidr : String
  gateway : Option String := none
  snat : Bool := false

def SdnSubnetWriteRequest.toProxmoxParams (body : SdnSubnetWriteRequest) (forUpdate : Bool := false) : Params :=
  let params := if forUpdate then OrderedMap.empty
    else (OrderedMap.empty.set "type" (.text "subnet")).set "subnet" (.text body.cidr)
  (params.setSome "gateway" (filled body.gateway)).set "snat" (flag body.snat)

structure BackupRetention where
  keepLast : Option Nat := none
  keepDaily : Option Nat := none
  keepWeekly : Option Nat := none
  keepMonthly : Option Nat := none

def BackupRetention.toProxmoxParam (retention : BackupRetention) : Option String :=
  let part (name : String) (count : Option Nat) : Option String := count.map fun number => name ++ "=" ++ toString number
  let parts := [part "keep-last" retention.keepLast, part "keep-daily" retention.keepDaily,
    part "keep-weekly" retention.keepWeekly, part "keep-monthly" retention.keepMonthly].reduceOption
  if parts.isEmpty then none else some (",".intercalate parts)

structure BackupJobCreateRequest where
  schedule : String
  storage : String
  mode : String := "snapshot"
  compress : String := "zstd"
  enabled : Bool := true
  comment : String := ""
  mailto : String := ""
  allVms : Bool := false
  vmids : String := ""
  pool : String := ""
  exclude : String := ""
  retention : BackupRetention := {}

namespace BackupJobCreateRequest

def validateSelection (body : BackupJobCreateRequest) : Except String Unit :=
  if !body.allVms ∧ body.vmids = "" ∧ body.pool = "" then
    .error "At least one VM-selection mode must be active (all, vmids, or pool)"
  else .ok ()

/-- The create and the update endpoint send the same parameters. -/
def toProxmoxParams (body : BackupJobCreateRequest) : Params :=
  let params := (((((OrderedMap.empty : Params).set "schedule" (.text body.schedule)).set "storage" (.text body.storage)).set
    "mode" (.text body.mode)).set "compress" (.text body.compress)).set "enabled" (flag body.enabled)
  let params := (params.setSome "comment" (filled (some body.comment))).setSome "mailto" (filled (some body.mailto))
  let params :=
    if body.allVms then (params.set "all" (.number 1)).setSome "exclude" (filled (some body.exclude))
    else if body.vmids ≠ "" then params.set "vmid" (.text body.vmids)
    else params.setSome "pool" (filled (some body.pool))
  params.setSome "prune-backups" (filled body.retention.toProxmoxParam)

end BackupJobCreateRequest

/-- A body of one of the endpoints that create or fully edit an object of Proxmox. -/
inductive WriteRequest where
  | haRule (body : HaRuleWriteRequest)
  | haResource (body : HaResourceWriteRequest)
  | sdnZone (body : SdnZoneWriteRequest)
  | sdnVnet (body : SdnVnetWriteRequest)
  | sdnSubnet (body : SdnSubnetWriteRequest)
  | backupJob (body : BackupJobCreateRequest)

namespace WriteRequest

/-- The checks of a whole body, which look at several fields. -/
def check : WriteRequest → Except String Unit
  | haRule body => body.checkTypeFields
  | sdnZone body => body.typeSpecific
  | backupJob body => body.validateSelection
  | _ => .ok ()

/-- The create endpoints add the identity to the parameters. -/
def createParams : WriteRequest → Params
  | haRule body => (body.toProxmoxParams.set "rule" (.text body.rule)).set "type" (.text body.type.name)
  | haResource body => body.toProxmoxParams.set "sid" (.text body.sid)
  | sdnZone body => body.toProxmoxParams.set "zone" (.text body.zone)
  | sdnVnet body => body.toProxmoxParams.set "vnet" (.text body.vnet)
  | sdnSubnet body => body.toProxmoxParams
  | backupJob body => body.toProxmoxParams

/-- The update endpoints take the identity from the path. -/
def updateParams : WriteRequest → Params
  | haRule body => body.toProxmoxParams true
  | haResource body => body.toProxmoxParams true
  | sdnZone body => body.toProxmoxParams true
  | sdnVnet body => body.toProxmoxParams true
  | sdnSubnet body => body.toProxmoxParams true
  | backupJob body => body.toProxmoxParams

/-- The keys that say which object it is, which the path of an update or Proxmox itself supplies. -/
def identity : WriteRequest → List String
  | haRule _ => ["rule", "type"]
  | haResource _ => ["sid", "type"]
  | sdnZone _ => ["zone", "type"]
  | sdnVnet _ => ["vnet", "type"]
  | sdnSubnet _ => ["subnet", "vnet", "type"]
  | backupJob _ => ["id", "type"]

/-- A refused body is answered with 422 before Proxmox is asked. -/
def checked (request : WriteRequest) : Except Failure Unit :=
  match request.check with
  | .error message => raise 422 message
  | .ok _ => .ok ()

/-- A `POST` stores the parameters that it is given. -/
def create (request : WriteRequest) : Except Failure Params := do
  request.checked
  return request.createParams

/-- The keys that a `PUT` removes are the comma separated ones of its `delete` parameter. -/
def removedKeys (params : Params) : List String :=
  match params.get? "delete" with
  | some (.text keys) => (keys.splitToList (· = ',')).filter (· ≠ "")
  | _ => []

/-- A `PUT` sets the keys that it is given, removes the ones it names and keeps all others. -/
def update (request : WriteRequest) (stored : Params) : Except Failure Params := do
  request.checked
  return stored.put (request.updateParams.filter fun key _ => key ≠ "delete") (removedKeys request.updateParams)

end WriteRequest
end P3Portal.Proxmox

namespace P3Portal.Proxmox.Firewall
open Foundation

def isNameChar (c : Char) : Bool := c.isAlphanum || c = '_' || c = '-'

/-- `^[A-Za-z][A-Za-z0-9_-]*$`. -/
def fwNameRe : Regex.Pattern :=
  .seq .initial (.seq (.one Char.isAlpha) (.seq (.many (.one isNameChar)) .final))

def fwNameMatch (name : String) : Bool := fwNameRe.atStart name.toList

def isIpNetwork (text : String) : Bool := (IpAddress.ipNetwork text.toList).isSome

def isIpAddress (text : String) : Bool := (IpAddress.ipAddress text.toList).isSome

/-- A token is looked at without the white space around it. -/
def addrTokenOk (token : String) : Bool :=
  let token := Text.strip token
  if token = "" then false
  else if Text.startsWith "+" token then fwNameMatch (Text.sliceFrom 1 token)
  else if fwNameMatch token then true
  else if isIpNetwork token then true
  else if '-' ∈ token.toList then
    let (a, b) := Text.partition '-' token
    isIpAddress (Text.strip a) && isIpAddress (Text.strip b)
  else isIpAddress token

/-- A message about a field of a body; one about the body as a whole has no field. -/
structure FieldError where
  field : Option String
  message : String
deriving DecidableEq

section Requests

-- The parameter is `repr` of a text.
variable (literal : String → String)

def validateAddrSpec (value : Option String) (field : String) : Except FieldError (Option String) :=
  match value with
  | none => .ok none
  | some text =>
      if Text.strip text = "" then .ok none
      else
        match (Text.splitCommas text).find? fun token => !addrTokenOk token with
        | some token => .error ⟨some field, "Invalid " ++ field ++ " segment " ++ literal (Text.strip token) ++
            " (expected IP / CIDR / range / alias name / +ipset)"⟩
        | none => .ok (some text)

/-- The three requests that create a named object have one check. -/
def validName (kind field name : String) : Except FieldError String :=
  if fwNameMatch name then .ok name
  else .error ⟨some field, "Invalid " ++ kind ++ " name " ++ literal name ++
    ": must start with a letter and contain only letters, digits, '-' or '_'"⟩

def validCidr (cidr : String) : Except FieldError String :=
  if isIpNetwork cidr then .ok cidr else .error ⟨some "cidr", "Invalid IP/CIDR: " ++ literal cidr⟩

/-- The errors of a field. -/
def errorsOf {A : Type} : Except FieldError A → List FieldError
  | .ok _ => []
  | .error error => [error]

structure SecurityGroupCreateRequest where
  group : String
  comment : Option String := none
deriving DecidableEq

namespace SecurityGroupCreateRequest

def validate (body : SecurityGroupCreateRequest) : Except (List FieldError) SecurityGroupCreateRequest :=
  match validName literal "security-group" "group" body.group with
  | .ok group => .ok { body with group := group }
  | .error error => .error [error]

def toProxmoxParams (body : SecurityGroupCreateRequest) : Params :=
  (OrderedMap.empty.set "group" (.text body.group)).setSome "comment" (filled body.comment)

end SecurityGroupCreateRequest

structure IpSetCreateRequest where
  name : String
  comment : Option String := none
deriving DecidableEq

namespace IpSetCreateRequest

def validate (body : IpSetCreateRequest) : Except (List FieldError) IpSetCreateRequest :=
  match validName literal "IPSet" "name" body.name with
  | .ok name => .ok { body with name := name }
  | .error error => .error [error]

def toProxmoxParams (body : IpSetCreateRequest) : Params :=
  (OrderedMap.empty.set "name" (.text body.name)).setSome "comment" (filled body.comment)

end IpSetCreateRequest

structure IpSetEntryRequest where
  cidr : String
  noMatch : Bool := false
  comment : Option String := none
deriving DecidableEq

namespace IpSetEntryRequest

def validate (body : IpSetEntryRequest) : Except (List FieldError) IpSetEntryRequest :=
  match validCidr literal body.cidr with
  | .ok cidr => .ok { body with cidr := cidr }
  | .error error => .error [error]

def toProxmoxParams (body : IpSetEntryRequest) : Params :=
  ((OrderedMap.empty.set "cidr" (.text body.cidr)).setSome "nomatch"
    (if body.noMatch then some (.number 1) else none)).setSome "comment" (filled body.comment)

end IpSetEntryRequest

structure AliasWriteRequest where
  name : String
  cidr : String
  comment : Option String := none
deriving DecidableEq

namespace AliasWriteRequest

def validate (body : AliasWriteRequest) : Except (List FieldError) AliasWriteRequest :=
  match validName literal "alias" "name" body.name, validCidr literal body.cidr with
  | .ok name, .ok cidr => .ok { body with name := name, cidr := cidr }
  | name, cidr => .error (errorsOf name ++ errorsOf cidr)

/-- An update leaves the name to the path. -/
def toProxmoxParams (body : AliasWriteRequest) (forUpdate : Bool := false) : Params :=
  ((OrderedMap.empty.set "cidr" (.text body.cidr)).setSome "name"
    (if forUpdate then none else some (.text body.name))).setSome "comment" (body.comment.map .text)

end AliasWriteRequest

structure FirewallRuleWriteRequest where
  type : String
  action : String
  enable : Bool := true
  macroName : Option String := none
  source : Option String := none
  dest : Option String := none
  proto : Option String := none
  sport : Option String := none
  dport : Option String := none
  iface : Option String := none
  log : Option String := none
  comment : Option String := none
  icmpType : Option String := none
  pos : Option Nat := none
deriving DecidableEq

namespace FirewallRuleWriteRequest

def validType (type : String) : Except FieldError String :=
  if type ∈ ["in", "out", "group"] then .ok type
  else .error ⟨some "type", "type must be one of ['group', 'in', 'out']"⟩

/-- `validate_rule_semantics`: the meaning of the action depends on the type. -/
def semantics (body : FirewallRuleWriteRequest) : Except FieldError Unit :=
  if body.type = "group" ∧ Text.strip body.action = "" then
    .error ⟨none, "group rule requires a security-group name as action"⟩
  else if body.type ≠ "group" ∧ body.action ∉ ["ACCEPT", "DROP", "REJECT"] then
    .error ⟨none, "action must be one of ['ACCEPT', 'DROP', 'REJECT'] for in/out rules"⟩
  else if (Text.truthy body.macroName).isSome ∧
      ((Text.truthy body.proto).isSome ∨ (Text.truthy body.sport).isSome ∨ (Text.truthy body.dport).isSome) then
    .error ⟨none, "macro and explicit proto/sport/dport are mutually exclusive " ++
      "(a macro already defines protocol and ports)"⟩
  else .ok ()

def validate (body : FirewallRuleWriteRequest) : Except (List FieldError) FirewallRuleWriteRequest :=
  match validType body.type, validateAddrSpec literal body.source "source", validateAddrSpec literal body.dest "dest" with
  | .ok type, .ok source, .ok dest =>
      let checked := { body with type := type, source := source, dest := dest }
      match semantics checked with
      | .ok _ => .ok checked
      | .error error => .error [error]
  | type, source, dest => .error (errorsOf type ++ errorsOf source ++ errorsOf dest)

/-- `rule_to_proxmox_params`. -/
def toProxmoxParams (body : FirewallRuleWriteRequest) (withPos : Bool := false) : Params :=
  let params : Params := ((OrderedMap.empty.set "type" (.text body.type)).set "action" (.text body.action)).set "enable"
    (flag body.enable)
  let params := ((params.setSome "macro" (filled body.macroName)).setSome "source" (filled body.source)).setSome "dest"
    (filled body.dest)
  let params := ((params.setSome "proto" (filled body.proto)).setSome "sport" (filled body.sport)).setSome "dport"
    (filled body.dport)
  let params := ((params.setSome "iface" (filled body.iface)).setSome "log" (filled body.log)).setSome "comment"
    (body.comment.map .text)
  (params.setSome "icmp-type" (filled body.icmpType)).setSome "pos"
    (if withPos then body.pos.map fun pos => .number pos else none)

end FirewallRuleWriteRequest

end Requests
end P3Portal.Proxmox.Firewall
