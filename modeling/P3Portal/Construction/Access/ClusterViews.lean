import Mathlib.Data.Finset.Sort
import Mathlib.Data.String.Basic
import P3Portal.Construction.Access.Resolver
import P3Portal.Construction.Auth.CurrentUser
import P3Portal.Construction.Http.Failure
import P3Portal.Construction.Nodes.Registry
import P3Portal.Foundation.JsonReader

namespace P3Portal.Access
open Schema Foundation Auth Http

/-- A guest as the dashboard lists it. Absent permissions stand for full access. -/
structure VmInfo where
  vmid : Int
  type : String
  node : String
  portalNodeId : Option Int := none
  permissions : Option (List Action) := none
  deriving DecidableEq

/-- A Proxmox node as the dashboard lists it. -/
structure NodeInfo where
  node : String
  portalNodeId : Option Int := none
  deriving DecidableEq

/-- Every guest that is no container counts as a machine. -/
def VmInfo.resource (vm : VmInfo) : Resource where
  nodeId := vm.portalNodeId
  vmid := vm.vmid
  resourceType := if vm.type = "lxc" then .lxc else .vm

/-- A direct assignment as `get_user_permissions` returns it. -/
structure UserPermission where
  resourceType : ResourceType
  resourceId : Int
  portalNodeId : Option Int
  permissions : List Action
  deriving DecidableEq

def getUserPermissions (db : Database) (userId : Int) : List UserPermission :=
  (db.resourceAssignments.filter fun assignment => assignment.userId = userId).flatMap fun assignment =>
    (presetPermissions db assignment.presetId).map fun permissions =>
      ⟨assignment.resourceType, assignment.resourceId, assignment.portalNodeId, permissions⟩

/-- The count asks for no preset. -/
def hasAnyAssignments (db : Database) (userId : Int) : Bool :=
  db.resourceAssignments.any fun assignment => assignment.userId = userId

/-- Without an assignment to a portal node the list of the nodes stays whole. -/
def filterNodesForRbacUser (db : Database) (userId : Int) (nodes : List NodeInfo) : List NodeInfo :=
  let assignedNodeIds := (getUserPermissions db userId).filterMap UserPermission.portalNodeId
  if assignedNodeIds.isEmpty then nodes
  else nodes.filter fun node => node.portalNodeId.any assignedNodeIds.contains

/-- A guest stays in the list when the user may view it, and it shows the permissions of the user. -/
def keepViewed (permMap : PermMap) (vm : VmInfo) : Option VmInfo :=
  let perms := permMap.members (vm.portalNodeId, vm.vmid)
  if "view" ∈ perms then some { vm with permissions := some (perms.sort (· ≤ ·)) } else none

def applyVmRbacFilter (db : Database) (getPoolPermissions : Int → List PoolGrant) (currentUser : CurrentUser)
    (vms : List VmInfo) : List VmInfo :=
  if currentUser.authType = .localUser && currentUser.role ≠ .admin && currentUser.role ≠ .operator then
    match getUserByUsername db currentUser.username with
    | none => vms
    | some user =>
        let (permMap, hasAnyGrant) :=
          resolveUserVmAccess db getPoolPermissions user.id (vms.map VmInfo.resource)
        if hasAnyGrant then vms.filterMap (keepViewed permMap)
        else if currentUser.role = .restricted then []
        else vms
  else vms

inductive PythonError where
  | typeError
  deriving DecidableEq

/-- A row of the registry is an instance of a data class, which has attributes and no items: a subscription of it
raises. -/
def nodeItem (_node : NodeRow) (_key : String) : Except PythonError Int := .error .typeError

/-- The body of the handler that looks the node up and asks the resolver. -/
def checkNodeAction (db : Database) (user : CurrentUser) (node : String) (action : Action) : Except PythonError Bool :=
  match user.userId with
  | none => .ok false
  | some userId =>
      match Nodes.getNodeForProxmoxName db node with
      | none => .ok false
      | some portalNode => (nodeItem portalNode "id").map fun nodeId => resolveNodeAction db userId nodeId action

/-- Every exception of the body is passed over. -/
def allowsNodeAction (db : Database) (user : CurrentUser) (node : String) (action : Action) : Bool :=
  (checkNodeAction db user node action).toOption.getD false

def isOperator (user : CurrentUser) : Bool :=
  user.authType = .proxmox || user.role = .admin || user.role = .operator

/-- The check in front of the tasks and of the backups of a node. -/
def requireNodeAction (action : Action) (detail : String) (db : Database) (user : CurrentUser) (node : String) :
    Except HttpException Unit :=
  if isOperator user || allowsNodeAction db user node action then .ok () else .error ⟨403, detail⟩

def getNodeTasks := requireNodeAction "node:view_tasks" "node_view_tasks_not_authorized"

def getNodeBackups := requireNodeAction "node:view_backups" "node_view_backups_not_authorized"

/-- The check in front of the ISO endpoints leaves a note in the audit log when it refuses. -/
def requireIsoUploadPermission (db : Database) (user : CurrentUser) (node now : String) :
    Database × Except HttpException Unit :=
  if isOperator user then (db, .ok ())
  else if allowsNodeAction db user node "node:upload_iso" then (db, .ok ())
  else
    (writeAuditLog db "playbook_permission_denied" (some user.username) (some user.authType.name)
      (some (Json.object [("playbook_name", Json.quoted ("iso_upload@" ++ node)),
        ("actor", Json.quoted ("user:" ++ (user.userId.map toString).getD "None")),
        ("source", Json.quoted "iso_upload"), ("reason", Json.quoted "iso_action_missing")])) now,
      .error ⟨403, "iso_upload_not_authorized"⟩)

/-- The endpoints that a right on a node opens for a viewer. -/
inductive NodeEndpoint where
  | getNodeTasks
  | getNodeBackups
  | downloadIso
  | deleteProxmoxIso
  deriving DecidableEq

namespace NodeEndpoint

def action : NodeEndpoint → Action
  | getNodeTasks => "node:view_tasks"
  | getNodeBackups => "node:view_backups"
  | downloadIso | deleteProxmoxIso => "node:upload_iso"

/-- The first step of an endpoint; the ISO endpoints take the configured node when none is named. -/
def enter (endpoint : NodeEndpoint) (configured : String) (db : Database) (user : CurrentUser) (node : Option String)
    (now : String) : Database × Except HttpException Unit :=
  match endpoint with
  | getNodeTasks => (db, Access.getNodeTasks db user (node.getD ""))
  | getNodeBackups => (db, Access.getNodeBackups db user (node.getD ""))
  | downloadIso | deleteProxmoxIso => requireIsoUploadPermission db user (Text.orElse node configured) now

/-- The Proxmox node that a request is about. -/
def target (endpoint : NodeEndpoint) (configured : String) (node : Option String) : String :=
  match endpoint with
  | getNodeTasks | getNodeBackups => node.getD ""
  | downloadIso | deleteProxmoxIso => Text.orElse node configured

end NodeEndpoint
end P3Portal.Access
