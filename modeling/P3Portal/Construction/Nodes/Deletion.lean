import P3Portal.Construction.Access.Resolver
import P3Portal.Construction.Http.Failure
import P3Portal.Construction.Nodes.Registry
import P3Portal.Foundation.ForeignKey
import P3Portal.Foundation.JsonReader
import P3Portal.Foundation.Renumber

namespace P3Portal.Nodes
open Schema Foundation Http Access

/-- The tables of Plus are kept apart; its hooks and foreign keys change them. -/
structure PlusNodeHooks (Store : Type) where
  getPoolPermissions : Store → Int → List PoolGrant
  onNodeDeletedPools : Store → Int → String → Store
  onNodeDeletedScheduledJobs : Store → Int → String → Store
  onNodeDeletedAutoSnapshots : Store → Int → String → Store
  nodeRowDeleted : Store → Int → Option Store

/-- The stored state of the portal. -/
structure Portal (Store : Type) where
  db : Database
  plus : Store
  deriving DecidableEq

/-- `ON DELETE RESTRICT` on `vm_owners.node_id` also counts soft-deleted rows. -/
def ownerNodeKey : ForeignKey VmOwner Int where
  reference := fun owner => some owner.nodeId
  onDelete := .restrict

/-- `ON DELETE SET NULL` on `resource_assignments.portal_node_id`. -/
def resourceNodeKey : ForeignKey ResourceAssignment Int where
  reference := ResourceAssignment.portalNodeId
  onDelete := .setNull (fun assignment => { assignment with portalNodeId := none }) fun _ => rfl

/-- `ON DELETE CASCADE` on `node_assignments.node_id`. -/
def assignmentNodeKey : ForeignKey NodeAssignment Int where
  reference := fun assignment => some assignment.nodeId
  onDelete := .cascade

/-- `ON DELETE CASCADE` on `ansible_managed_hosts.portal_node_id`. -/
def hostNodeKey : ForeignKey ManagedHost Int where
  reference := fun host => some host.portalNodeId
  onDelete := .cascade

/-- The index `uq_resource_assignments_no_node` covers the rows without a portal node. -/
def LegacyRowsUnique (assignments : List ResourceAssignment) : Prop :=
  ((assignments.filter fun assignment => assignment.portalNodeId.isNone).map fun assignment =>
    (assignment.userId, assignment.resourceType, assignment.resourceId)).Nodup

instance (assignments : List ResourceAssignment) : Decidable (LegacyRowsUnique assignments) :=
  inferInstanceAs (Decidable (List.Nodup _))

/-- The statement `DELETE FROM nodes` with the actions of all foreign keys; a violation undoes it. -/
def deleteNodeRow (db : Database) (nodeId : Int) : Option Database := do
  let vmOwners ← ownerNodeKey.delete nodeId db.vmOwners
  let resourceAssignments ← resourceNodeKey.delete nodeId db.resourceAssignments
  let nodeAssignments ← assignmentNodeKey.delete nodeId db.nodeAssignments
  let ansibleManagedHosts ← hostNodeKey.delete nodeId db.ansibleManagedHosts
  guard (LegacyRowsUnique resourceAssignments)
  return { db with
    vmOwners := vmOwners
    resourceAssignments := resourceAssignments
    nodeAssignments := nodeAssignments
    ansibleManagedHosts := ansibleManagedHosts
    nodes := db.nodes.filter fun row => row.id ≠ nodeId }

def setDefaultNode (db : Database) (nodeId : Int) : Database :=
  if (getNode db nodeId).isSome then
    { db with nodes := db.nodes.map fun row => { row with isDefault := row.id = nodeId } }
  else db

/-- When the deleted node was the default, the next one is promoted. -/
def promoteDefault (db : Database) : Database :=
  match getDefaultNode db with
  | some node => if node.isDefault then db else setDefaultNode db node.id
  | none => db

section
variable {Store : Type} (hooks : PlusNodeHooks Store)

/-- The last node is kept; an unknown node deletes nothing; a violated constraint raises. -/
def deleteNode (portal : Portal Store) (nodeId : Int) : Option (Bool × Portal Store) :=
  if countNodes portal.db ≤ 1 then some (false, portal)
  else match getNode portal.db nodeId with
    | none => some (false, portal)
    | some _ => do
        let db ← deleteNodeRow portal.db nodeId
        let plus ← hooks.nodeRowDeleted portal.plus nodeId
        return (true, ⟨promoteDefault db, plus⟩)

def SubjectType.name : SubjectType → String
  | .user => "user"
  | .group => "group"

/-- One audit row for each assignment that the cascade is going to remove. -/
def cleanupAssignmentsForNode (db : Database) (nodeId : Int) (nodeName deletedBy now : String) : Database :=
  { db with auditLogs := db.auditLogs ++
      (db.nodeAssignments.filter fun assignment => assignment.nodeId = nodeId).map fun assignment =>
        { eventType := "node_assignment_removed"
          username := some deletedBy
          authType := none
          detail := some (Json.object
            [("node_id", toString nodeId), ("node_name", Json.quoted nodeName),
              ("subject_type", Json.quoted (SubjectType.name assignment.subjectType)),
              ("subject_id", toString assignment.subjectId),
              ("role_preset_id", toString assignment.rolePresetId), ("removed_by", Json.quoted deletedBy),
              ("source", Json.quoted "node_deleted")])
          createdAt := now } }

def activeOwners (db : Database) (nodeId : Int) : List VmOwner :=
  db.vmOwners.filter fun owner => owner.nodeId = nodeId && owner.deletedAt.isNone

/-- The active owners of the node are soft-deleted, and one audit row counts them. -/
def onNodeDelete (db : Database) (nodeId : Int) (actor now : String) : Database :=
  if activeOwners db nodeId = [] then db
  else
    { db with
      vmOwners := db.vmOwners.map fun owner =>
        if owner.nodeId = nodeId && owner.deletedAt.isNone then
          { owner with deletedAt := some now, deletedReason := some .nodeDeleted }
        else owner
      auditLogs := db.auditLogs ++
        [{ eventType := "owner_resource_deleted"
           username := some actor
           authType := some "local"
           detail := some ("Node-Delete: node=" ++ toString nodeId ++ " owner_entries_removed=" ++
             toString (activeOwners db nodeId).length)
           createdAt := now }] }

/-- The hooks of Plus run in turn; what they raise is ignored. -/
def plusCleanup (store : Store) (nodeId : Int) (actor : String) : Store :=
  let store := hooks.onNodeDeletedPools store nodeId actor
  let store := hooks.onNodeDeletedScheduledJobs store nodeId actor
  hooks.onNodeDeletedAutoSnapshots store nodeId actor

/-- Every cleanup is committed before the node itself is deleted. -/
def cleanup (portal : Portal Store) (nodeId : Int) (actor now : String) : Portal Store where
  db := onNodeDelete (cleanupAssignmentsForNode portal.db nodeId
    (((getNode portal.db nodeId).map NodeRow.name).getD (toString nodeId)) actor now) nodeId actor now
  plus := plusCleanup hooks portal.plus nodeId actor

/-- The endpoint answers with no content, with an exception of its own, or lets the database error pass. -/
inductive DeletionAnswer where
  | noContent
  | refused (exception : HttpException)
  | integrityError
  deriving DecidableEq

/-- `DELETE /api/nodes/{node_id}`. -/
def deletePortalNode (portal : Portal Store) (nodeId : Int) (actor now : String) :
    DeletionAnswer × Portal Store :=
  let cleaned := cleanup hooks portal nodeId actor now
  match deleteNode hooks cleaned nodeId with
  | none => (.integrityError, cleaned)
  | some (true, after) => (.noContent, after)
  | some (false, after) =>
      if countNodes after.db ≤ 1 then (.refused ⟨409, "Cannot delete the last node"⟩, after)
      else (.refused ⟨404, "Node not found"⟩, after)
end

/-- A position is written to the row with the identifier. -/
def positioned : Positioned NodeRow where
  key := NodeRow.id
  position := NodeRow.position
  place row index := { row with position := index }
  key_place _ _ := rfl
  position_place _ _ := rfl
  place_place _ _ _ := rfl

/-- The request has to name the stored nodes and no others. The rows are updated one identifier after the other. -/
def reorderNodes (db : Database) (nodeIds : List Int) : Except String (Database × List NodeRow) :=
  if sameKeys nodeIds (db.nodes.map NodeRow.id) then
    let db := { db with nodes := positioned.renumber (fun _ => true) nodeIds db.nodes }
    .ok (db, listNodes db)
  else .error "node_ids must contain exactly all existing node ids"

/-- The operations on the nodes. Between them other requests may write the other tables. -/
inductive NodeEvent (Store : Type) where
  | create (row : NodeRow)
  | update (nodeId : Int) (update : NodeUpdate)
  | delete (nodeId : Int)
  | setDefault (nodeId : Int)
  | reorder (nodeIds : List Int)
  | elsewhere (others : Portal Store)

section
variable {Store : Type} (hooks : PlusNodeHooks Store)

/-- A deletion that violates a constraint and a refused order change nothing. -/
def nodeStep (portal : Portal Store) : NodeEvent Store → Portal Store
  | .create row => { portal with db := createNode portal.db row }
  | .update nodeId update => { portal with db := updateNode portal.db nodeId update }
  | .delete nodeId => match deleteNode hooks portal nodeId with
    | some (_, after) => after
    | none => portal
  | .setDefault nodeId => { portal with db := setDefaultNode portal.db nodeId }
  | .reorder nodeIds => match reorderNodes portal.db nodeIds with
    | .ok (db, _) => { portal with db := db }
    | .error _ => portal
  | .elsewhere others => ⟨{ others.db with nodes := portal.db.nodes }, others.plus⟩
end
end P3Portal.Nodes
