import P3Portal.Construction.Access.Resolver
import P3Portal.Construction.Auth.CurrentUser
import P3Portal.Construction.Nodes.Registry
import P3Portal.Construction.Proxmox.Client

namespace P3Portal.Vms
open Schema Foundation Http Auth Nodes Proxmox Access

/-- A role selects its own pair of token columns, and a pair counts only when both are set. -/
def extractToken (node : NodeRow) (role : Role) : Option (String × String) :=
  let token := match role with
    | .viewer => (node.viewerTokenId, node.viewerTokenSecret)
    | .operator => (node.operatorTokenId, node.operatorTokenSecret)
    | .admin => (node.adminTokenId, node.adminTokenSecret)
    | .restricted => ("", "")
  if token.1 = "" || token.2 = "" then none else some token

/-- `str.capitalize` of the role name. -/
def roleTitle : Role → String
  | .admin => "Admin"
  | .operator => "Operator"
  | .viewer => "Viewer"
  | .restricted => "Restricted"

/-- A scoped role borrows the operator or admin token because the portal checks its grants. -/
def buildAuthForNode (installations : Installations) (user : CurrentUser) (node : NodeRow) :
    Except Failure ProxmoxAuth :=
  match user.authType with
  | .proxmox =>
      match installations.getSession user.username with
      | none => raise 503 "No Proxmox session – login via Proxmox tab"
      | some session => .ok (.cookie session.ticket session.csrf)
  | .localUser =>
      let own := extractToken node user.role
      let token := if user.role = .viewer || user.role = .restricted
        then ((extractToken node .operator).or (extractToken node .admin)).or own else own
      match token with
      | none => raise 503 (roleTitle user.role ++ " service account not configured for node '" ++
          node.name ++ "'")
      | some (tokenId, secret) => .ok (.token tokenId secret)

/-- The located guest, with the portal node whose client and credentials the endpoint receives. -/
structure VmAccess where
  portalNode : NodeRow
  auth : ProxmoxAuth
  pveNode : String
  vmType : String
  deriving DecidableEq

def VmAccess.client (access : VmAccess) : ProxmoxClient := clientForNode access.portalNode

/-- One lookup asks one installation for the guest; the caller says how a missing name is reported. -/
def locateOn (installations : Installations) (user : CurrentUser) (vmid : Int)
    (report : Option String → String) (node : NodeRow) : Except Failure (Option VmAccess) := do
  let auth ← buildAuthForNode installations user node
  match installations.getClusterResources (clientForNode node) auth with
  | .error error => .error (.proxmox error)
  | .ok resources => .ok <|
      (resources.find? fun resource => resource.vmid.getD (-1) = vmid).map fun resource =>
        { portalNode := node
          auth := auth
          pveNode := report resource.node
          vmType := resource.type.getD "qemu" }

/-- A lookup that finds no guest is answered with 404. -/
def foundOr (detail : String) : Except Failure (Option VmAccess) → Except Failure VmAccess
  | .error failure => .error failure
  | .ok none => raise 404 detail
  | .ok (some access) => .ok access

/-- The fan-out skips a node that fails for any reason. -/
def firstFound (installations : Installations) (user : CurrentUser) (vmid : Int) :
    List NodeRow → Option VmAccess
  | [] => none
  | node :: rest =>
      match locateOn installations user vmid (fun name => Text.orElse name node.name) node with
      | .ok (some access) => some access
      | _ => firstFound installations user vmid rest

def resolveVmAccess (db : Database) (installations : Installations) (canUseClusterResources : Bool)
    (user : CurrentUser) (vmid : Int) (proxmoxNode : Option String) : Except Failure VmAccess :=
  match Text.truthy proxmoxNode with
  | some proxmoxNode =>
      match getNodeForProxmoxName db proxmoxNode with
      | none => raise 404 ("Portal node for Proxmox node '" ++ proxmoxNode ++ "' not configured")
      | some node =>
          foundOr ("VM " ++ toString vmid ++ " not found on node '" ++ proxmoxNode ++ "'")
            (locateOn installations user vmid (fun name => Text.orElse name proxmoxNode) node)
  | none =>
      if canUseClusterResources && user.authType ≠ .proxmox then
        let allNodes := listNodes db
        if allNodes.isEmpty then raise 503 "No Portal node configured – run the setup wizard"
        else foundOr ("VM " ++ toString vmid ++ " not found")
          (.ok (firstFound installations user vmid allNodes))
      else
        match getDefaultNode db with
        | none => raise 503 "No Portal node configured – run the setup wizard"
        | some node =>
            -- `str(None)` is the text "None".
            foundOr ("VM " ++ toString vmid ++ " not found")
              (locateOn installations user vmid (fun name => name.getD "None") node)

/-- The check reads the kind of a guest from the type that Proxmox reports. -/
def resourceTypeOf (vmType : String) : ResourceType := if vmType = "lxc" then .lxc else .vm

def resourceTypeName : ResourceType → String
  | .vm => "vm"
  | .lxc => "lxc"

/-- The check resolves the reported name to a portal node once more. -/
def checkedNodeId (db : Database) (pveNode : Option String) : Option Int :=
  match Text.truthy pveNode with
  | some name => (getNodeForProxmoxName db name).map NodeRow.id
  | none => none

def checkRbac (db : Database) (getPoolPermissions : Int → List PoolGrant) (user : CurrentUser)
    (vmid : Int) (vmType : String) (action : Action) (pveNode : Option String) :
    Except Failure Unit :=
  if user.authType = .proxmox || user.role = .admin || user.role = .operator then .ok ()
  else match getUserByUsername db user.username with
    | none => raise 403 "Not authorized"
    | some row =>
        let resType := resourceTypeOf vmType
        let allowed := resolveUserPermissions db getPoolPermissions row.id (checkedNodeId db pveNode)
          vmid resType
        if action ∈ allowed then .ok ()
        else raise 403 ("Action '" ++ action ++ "' not permitted on " ++ resourceTypeName resType ++
          " " ++ toString vmid)

/-- Every guest endpoint starts with these two steps and hands the result to the client. -/
def authorizeVmRequest (db : Database) (getPoolPermissions : Int → List PoolGrant)
    (installations : Installations) (canUseClusterResources : Bool) (user : CurrentUser) (vmid : Int)
    (proxmoxNode : Option String) (action : Action) : Except Failure VmAccess := do
  let access ← resolveVmAccess db installations canUseClusterResources user vmid proxmoxNode
  checkRbac db getPoolPermissions user vmid access.vmType action (some access.pveNode)
  return access

end P3Portal.Vms
