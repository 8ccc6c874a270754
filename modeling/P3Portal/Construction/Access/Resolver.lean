import P3Portal.Construction.Database.Schema
import P3Portal.Foundation.OrderedMap

namespace P3Portal.Access
open Schema Foundation

/-- An action is the name that a preset or a pool grant stores. -/
abbrev Action := String

/-- The Plus hook returns one entry per resource that a pool grants. -/
structure PoolGrant where
  nodeId : Int
  vmid : Option Int
  permissions : List Action
  deriving DecidableEq

/-- The bulk resolver reads these fields of each listed resource. -/
structure Resource where
  nodeId : Option Int
  vmid : Int
  resourceType : ResourceType
  deriving DecidableEq

/-- The result map of the bulk resolver keys a resource without its kind. -/
def Resource.key (resource : Resource) : Option Int × Int := (resource.nodeId, resource.vmid)

def getGroupIds (db : Database) (userId : Int) : List Int :=
  (db.groupMembers.filter fun member => member.userId = userId).map GroupMember.groupId

def isAdmin (db : Database) (userId : Int) : Bool :=
  match db.localUsers.find? fun user => user.id = userId with
  | some user => user.role = .admin
  | none => false

/-- An owner holds these actions; deletion is not among them. -/
def ownerActions : Finset Action :=
  {"view", "start", "stop", "reboot", "snapshot", "configure", "clone"}

/-- An administrator holds all actions. -/
def allActions : Finset Action :=
  {"view", "start", "stop", "reboot", "snapshot", "configure", "delete", "clone", "migrate", "template"}

/-- The join with `role_presets` yields the permissions of every preset with the id. -/
def presetPermissions (db : Database) (presetId : Int) : List (List Action) :=
  (db.rolePresets.filter fun preset => preset.id = presetId).map RolePreset.permissions

/-- The same join reads the node actions. -/
def presetNodeActions (db : Database) (presetId : Int) : List (List Action) :=
  (db.rolePresets.filter fun preset => preset.id = presetId).map RolePreset.nodeActions

def ownerActionsForResource (db : Database) (userId : Int) (resourceType : ResourceType)
    (nodeId : Option Int) (vmid : Int) : Finset Action :=
  if db.vmOwners.any fun owner => owner.userId = userId && owner.resourceType = resourceType &&
      sqlEq (some owner.nodeId) nodeId && owner.vmid = vmid && owner.deletedAt.isNone
  then ownerActions else ∅

/-- The loop over a result set adds the actions of each row. -/
def updateAll (permissions : Finset Action) (rows : List (List Action)) : Finset Action :=
  rows.foldl (fun permissions row => permissions ∪ row.toFinset) permissions

/-- Path 1 selects the direct assignments of the node and the legacy rows without a node. -/
def directRows (db : Database) (userId : Int) (nodeId : Option Int) (vmid : Int)
    (resourceType : ResourceType) : List (List Action) :=
  (db.resourceAssignments.filter fun assignment =>
    assignment.userId = userId && assignment.resourceType = resourceType &&
      assignment.resourceId = vmid &&
      (assignment.portalNodeId.isNone || sqlEq assignment.portalNodeId nodeId)).flatMap
    fun assignment => presetPermissions db assignment.presetId

/-- Path 2 selects the pool grants of exactly this node and guest. -/
def poolRows (grants : List PoolGrant) (nodeId : Option Int) (vmid : Int) : List (List Action) :=
  (grants.filter fun grant => some grant.nodeId = nodeId && grant.vmid = some vmid).map
    PoolGrant.permissions

/-- Path 3 selects the assignments of the user on the node. -/
def nodeUserAssignments (db : Database) (userId : Int) (nodeId : Option Int) : List NodeAssignment :=
  db.nodeAssignments.filter fun assignment =>
    sqlEq (some assignment.nodeId) nodeId && assignment.subjectType = .user &&
      assignment.subjectId = userId

/-- Path 3b selects the assignments of the user's groups on the node. -/
def nodeGroupAssignments (db : Database) (groupIds : List Int) (nodeId : Option Int) :
    List NodeAssignment :=
  db.nodeAssignments.filter fun assignment =>
    sqlEq (some assignment.nodeId) nodeId && assignment.subjectType = .group &&
      groupIds.contains assignment.subjectId

/-- The single resolver unites the four grant paths for one resource. -/
def resolveUserPermissions (db : Database) (getPoolPermissions : Int → List PoolGrant)
    (userId : Int) (nodeId : Option Int) (vmid : Int) (resourceType : ResourceType) :
    Finset Action :=
  if isAdmin db userId then allActions
  else
    let groupIds := getGroupIds db userId
    let permissions := updateAll ∅ (directRows db userId nodeId vmid resourceType)
    let permissions := updateAll permissions (poolRows (getPoolPermissions userId) nodeId vmid)
    let permissions := updateAll permissions
      ((nodeUserAssignments db userId nodeId).flatMap fun row => presetPermissions db row.rolePresetId)
    let permissions := if groupIds.isEmpty then permissions else updateAll permissions
      ((nodeGroupAssignments db groupIds nodeId).flatMap fun row => presetPermissions db row.rolePresetId)
    permissions ∪ ownerActionsForResource db userId resourceType nodeId vmid

/-- A node action comes from a node assignment of the user or of a group only. -/
def resolveNodeAction (db : Database) (userId nodeId : Int) (action : Action) : Bool :=
  if isAdmin db userId then true
  else
    let groupIds := getGroupIds db userId
    let userRows := (nodeUserAssignments db userId (some nodeId)).flatMap fun row =>
      presetNodeActions db row.rolePresetId
    if userRows.any fun row => row.contains action then true
    else if groupIds.isEmpty then false
    else ((nodeGroupAssignments db groupIds (some nodeId)).flatMap fun row =>
      presetNodeActions db row.rolePresetId).any fun row => row.contains action

/-- The direct rows of the bulk resolver are keyed by kind, node and guest. -/
def bulkDirectRows (db : Database) (userId : Int) :
    List ((ResourceType × Option Int × Int) × List Action) :=
  (db.resourceAssignments.filter fun assignment => assignment.userId = userId).flatMap
    fun assignment => (presetPermissions db assignment.presetId).map fun permissions =>
      ((assignment.resourceType, assignment.portalNodeId, assignment.resourceId), permissions)

/-- The pool rows of the bulk resolver are keyed by node and guest. -/
def bulkPoolRows (grants : List PoolGrant) : List ((Option Int × Option Int) × List Action) :=
  grants.map fun grant => ((some grant.nodeId, grant.vmid), grant.permissions)

/-- The node rows of the bulk resolver are keyed by the node. -/
def bulkNodeRows (db : Database) (assignments : List NodeAssignment) :
    List (Option Int × List Action) :=
  assignments.flatMap fun assignment =>
    (presetPermissions db assignment.rolePresetId).map fun permissions =>
      (some assignment.nodeId, permissions)

/-- The maps that the bulk resolver fills before it looks at the listed resources. -/
structure BulkGrants where
  directPerms : OrderedMap (ResourceType × Option Int × Int) (Finset Action)
  poolPerms : OrderedMap (Option Int × Option Int) (Finset Action)
  nodePerms : OrderedMap (Option Int) (Finset Action)
  ownerVms : List (Option Int × Int)

def bulkGrants (db : Database) (getPoolPermissions : Int → List PoolGrant) (userId : Int) :
    BulkGrants :=
  let groupIds := getGroupIds db userId
  let userNodes := OrderedMap.empty.gather (bulkNodeRows db
    (db.nodeAssignments.filter fun row => row.subjectType = .user && row.subjectId = userId))
  { directPerms := OrderedMap.empty.gather (bulkDirectRows db userId)
    poolPerms := OrderedMap.empty.gather (bulkPoolRows (getPoolPermissions userId))
    nodePerms := if groupIds.isEmpty then userNodes else userNodes.gather (bulkNodeRows db
      (db.nodeAssignments.filter fun row =>
        row.subjectType = .group && groupIds.contains row.subjectId))
    -- The query selects no kind here, unlike `ownerActionsForResource`.
    ownerVms := (db.vmOwners.filter fun owner => owner.userId = userId && owner.deletedAt.isNone).map
      fun owner => (some owner.nodeId, owner.vmid) }

/-- The lookup of one listed resource unites the four paths. -/
def BulkGrants.combined (grants : BulkGrants) (resource : Resource) : Finset Action :=
  let combined := grants.directPerms.members (resource.resourceType, resource.nodeId, resource.vmid)
  let combined := combined ∪ grants.directPerms.members (resource.resourceType, none, resource.vmid)
  let combined := combined ∪ grants.poolPerms.members (resource.nodeId, some resource.vmid)
  let combined := combined ∪ grants.nodePerms.members resource.nodeId
  if grants.ownerVms.contains (resource.nodeId, resource.vmid) then combined ∪ ownerActions
  else combined

/-- The result map has one key for each node and guest, without the kind. -/
abbrev PermMap := OrderedMap (Option Int × Int) (Finset Action)

/-- The bulk resolver returns the map and whether the user holds any grant at all. -/
def resolveUserVmAccess (db : Database) (getPoolPermissions : Int → List PoolGrant) (userId : Int)
    (resources : List Resource) : PermMap × Bool :=
  if resources.isEmpty then (OrderedMap.empty, false)
  else if isAdmin db userId then
    (resources.foldl (fun map resource => map.set resource.key allActions) OrderedMap.empty, true)
  else
    let grants := bulkGrants db getPoolPermissions userId
    let hasAnyGrant := !(grants.directPerms.entries.isEmpty && grants.poolPerms.entries.isEmpty &&
      grants.nodePerms.entries.isEmpty && grants.ownerVms.isEmpty)
    (resources.foldl (OrderedMap.storeNonempty Resource.key grants.combined) OrderedMap.empty,
      hasAnyGrant)

end P3Portal.Access
