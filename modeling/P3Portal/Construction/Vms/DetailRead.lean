import P3Portal.Construction.ApiSurface.DefaultDeny
import P3Portal.Construction.Vms.VmAccess

namespace P3Portal.Vms
open Schema Foundation Http Auth Nodes Proxmox Access ApiSurface

/-- The guest agent reports a mounted file system. -/
structure FilesystemInfo where
  mountpoint : String
  totalBytes : Int
  usedBytes : Int
  fstype : String
  deriving DecidableEq

/-- The guest agent fills these fields as far as its commands succeed. -/
structure GuestInfo where
  osName : Option String := none
  osVersion : Option String := none
  kernel : Option String := none
  arch : Option String := none
  hostname : Option String := none
  timezone : Option String := none
  timezoneOffset : Option Int := none
  filesystems : List FilesystemInfo := []
  truncatedCount : Nat := 0
  deriving DecidableEq

structure LxcNetworkInterface where
  name : String
  inet : Option String
  inet6 : Option String
  hwaddr : Option String
  deriving DecidableEq

/-- One installation tells one login this about one guest; the last three reads swallow every error. -/
structure GuestAnswers (Status Config : Type) where
  statusCurrent : Except ProxmoxError Status
  config : Except ProxmoxError Config
  /-- When both reads fail, the first failure to arrive is raised. -/
  configFailsFirst : Bool := false
  ip : Option String := none
  guestInfo : GuestInfo := {}
  interfaces : List LxcNetworkInterface := []

/-- A read of a guest reaches this address. -/
structure GuestSite where
  client : ProxmoxClient
  auth : ProxmoxAuth
  node : String
  vmid : Int
  vmType : ResourceType
  deriving DecidableEq

/-- The response of the detail page is rendered from these parts. -/
structure VmDetail (Status Config Stack : Type) where
  vmid : Int
  type : ResourceType
  node : String
  status : Status
  config : Config
  ip : Option String
  portalNodeId : Option Int
  managedByStack : Option Stack

/-- An endpoint answers with one of these bodies. -/
inductive GuestBody (Status Config Stack : Type) where
  | detail (detail : VmDetail Status Config Stack)
  | guestInfo (info : GuestInfo)
  | interfaces (interfaces : List LxcNetworkInterface)
  | ip (ip : Option String)

/-- Every endpoint falls back to the default node when no node has the name. -/
def nodeOrDefault (db : Database) (proxmoxNode : String) : Option NodeRow :=
  (getNodeForProxmoxName db proxmoxNode).or (getDefaultNode db)

/-- A local user reads with the first service account of the listed roles. -/
def getClientAuthForNode (db : Database) (installations : Installations) (currentUser : CurrentUser)
    (proxmoxNode : String) (roles : List Role) : Except Failure (ProxmoxClient × ProxmoxAuth) :=
  match currentUser.authType with
  | .proxmox =>
      match installations.getSession currentUser.username with
      | none => raise 503 "No Proxmox session – login via Proxmox tab to access cluster data"
      | some session => .ok (.create none none, .cookie session.ticket session.csrf)
  | .localUser =>
      match nodeOrDefault db proxmoxNode with
      | none => raise 503 "No Proxmox node configured"
      | some nodeRow =>
          match roles.findSome? (extractToken nodeRow) with
          | none => raise 503 ("No " ++ "/".intercalate (roles.map Role.name) ++
              " service account configured for this node")
          | some (tokenId, secret) => .ok (clientForNode nodeRow, .token tokenId secret)

/-- A viewer without any grant sees everything; a viewer with a grant needs the view right here. -/
def checkDetailAccess (db : Database) (getPoolPermissions : Int → List PoolGrant)
    (currentUser : CurrentUser) (vmid : Int) (resType : ResourceType) (pveNode : Option String) :
    Except Failure Unit :=
  if currentUser.authType = .proxmox || currentUser.role = .admin || currentUser.role = .operator
  then .ok ()
  else if currentUser.role = .restricted then raise 403 "Access denied"
  else match getUserByUsername db currentUser.username with
    | none => raise 403 "Not authorized"
    | some user =>
        let portalNodeId := checkedNodeId db pveNode
        let (permMap, hasAnyGrant) := resolveUserVmAccess db getPoolPermissions user.id
          [⟨portalNodeId, vmid, resType⟩]
        if !hasAnyGrant then .ok ()
        else if "view" ∉ permMap.members (portalNodeId, vmid) then
          raise 403 ("Not authorized to view " ++ resourceTypeName resType ++ " " ++ toString vmid)
        else .ok ()

/-- A refused service account is a fault of the portal and must not log the user out. -/
def clusterHttpExc (auth : ProxmoxAuth) : ProxmoxError → HttpException
  | .statusError statusCode =>
      match auth with
      | .token _ _ =>
          if statusCode = 401 || statusCode = 403
          then ⟨502, "Proxmox auth error – service account token may be invalid or deleted"⟩
          else ⟨statusCode, "Proxmox API error"⟩
      | .cookie _ _ => ⟨statusCode, "Proxmox API error"⟩
  | .requestError => ⟨502, "Could not reach Proxmox API"⟩

/-- The doorman refuses a personal key on an endpoint that declares no scope. -/
def refuseUnscopedKey (currentUser : CurrentUser) : Except Failure Unit :=
  if currentUser.authKind = .upk
  then raise 403 "This endpoint is not available to API keys (no scope declared)" else .ok ()

/-- The portal's own data and hooks stand beside the login of the request. -/
structure ReadContext (Status Stack : Type) where
  db : Database
  getPoolPermissions : Int → List PoolGrant
  installations : Installations
  /-- The hook of the stacks answers nothing when it fails. -/
  getStackForVm : Int → Int → Option Stack
  runState : Status → Option String

variable {Status Config Stack : Type} (context : ReadContext Status Stack) (currentUser : CurrentUser)

/-- The reads of the detail page share their client, their login and their check. -/
def ReadContext.openDetail (node : String) (vmid : Int) (vmType : ResourceType) :
    Except Failure GuestSite := do
  refuseUnscopedKey currentUser
  let (client, auth) ← getClientAuthForNode context.db context.installations currentUser node [.viewer]
  checkDetailAccess context.db context.getPoolPermissions currentUser vmid vmType (some node)
  return ⟨client, auth, node, vmid, vmType⟩

/-- The detail reads status and configuration together and the address of a running guest after them. -/
def ReadContext.renderDetail (site : GuestSite) (answers : GuestAnswers Status Config) :
    Except Failure (GuestBody Status Config Stack) :=
  match answers.statusCurrent, answers.config with
  | .ok vmStatus, .ok vmConfig =>
      let portalNode := getNodeForProxmoxName context.db site.node
      .ok <| .detail
        { vmid := site.vmid
          type := site.vmType
          node := site.node
          status := vmStatus
          config := vmConfig
          ip := if context.runState vmStatus = some "running" then answers.ip else none
          portalNodeId := portalNode.map NodeRow.id
          managedByStack := portalNode.bind fun row => context.getStackForVm row.id site.vmid }
  | .error error, .ok _ => .error (.http (clusterHttpExc site.auth error))
  | .ok _, .error error => .error (.http (clusterHttpExc site.auth error))
  | .error statusError, .error configError => .error <| .http <| clusterHttpExc site.auth <|
      if answers.configFailsFirst then configError else statusError

variable (world : GuestSite → GuestAnswers Status Config)

def ReadContext.getVmDetail (node : String) (vmType : ResourceType) (vmid : Int) :
    Except Failure (GuestBody Status Config Stack) := do
  let site ← context.openDetail currentUser node vmid vmType
  context.renderDetail site (world site)

def ReadContext.getVmGuestInfo (node : String) (vmid : Int) :
    Except Failure (GuestBody Status Config Stack) := do
  let site ← context.openDetail currentUser node vmid .vm
  return .guestInfo (world site).guestInfo

def ReadContext.getLxcInterfaces (node : String) (vmid : Int) :
    Except Failure (GuestBody Status Config Stack) := do
  let site ← context.openDetail currentUser node vmid .lxc
  return .interfaces (world site).interfaces

/-- The address endpoint checks the scope of a key and takes the login of the guest actions. -/
def ReadContext.openIp (node : String) (vmid : Int) (type : ResourceType) :
    Except Failure GuestSite := do
  (requireScopeForUpk "cluster:read" currentUser).mapError .http
  match nodeOrDefault context.db node with
  | none => raise 503 "No Portal node configured"
  | some nodeRow =>
      let auth ← buildAuthForNode context.installations currentUser nodeRow
      return ⟨clientForNode nodeRow, auth, node, vmid, type⟩

def ReadContext.getVmIp (node : String) (vmid : Int) (type : ResourceType) :
    Except Failure (GuestBody Status Config Stack) := do
  let site ← context.openIp currentUser node vmid type
  return .ip (world site).ip

/-- These requests read one guest; its status is part of the detail. -/
inductive GuestRead where
  | detail (node : String) (vmType : ResourceType) (vmid : Int)
  | guestInfo (node : String) (vmid : Int)
  | interfaces (node : String) (vmid : Int)
  | ip (node : String) (vmid : Int) (type : ResourceType)

def ReadContext.respond : GuestRead → Except Failure (GuestBody Status Config Stack)
  | .detail node vmType vmid => context.getVmDetail currentUser world node vmType vmid
  | .guestInfo node vmid => context.getVmGuestInfo currentUser world node vmid
  | .interfaces node vmid => context.getLxcInterfaces currentUser world node vmid
  | .ip node vmid type => context.getVmIp currentUser world node vmid type

end P3Portal.Vms
