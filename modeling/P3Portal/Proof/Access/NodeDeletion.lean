import P3Portal.Proof.Access.Grants
import P3Portal.Proof.Nodes.Deletion

namespace P3Portal.Access
open Schema Foundation Nodes

theorem resourceNodeKey_refers (nodeId : Int) (assignment : ResourceAssignment) :
    resourceNodeKey.refers nodeId assignment = true ↔ assignment.portalNodeId = some nodeId :=
  decide_eq_true_iff

/-- A row of the deleted node stays for its user, kind and guest, and now applies everywhere. -/
theorem mem_legacyRows_of_bound {db : Database} {nodeId : Int} {assignment : ResourceAssignment}
    (stored : assignment ∈ db.resourceAssignments) (bound : assignment.portalNodeId = some nodeId) :
    { assignment with portalNodeId := none } ∈ legacyRows db nodeId := by
  refine List.mem_map.mpr ⟨assignment, stored, ?_⟩
  rw [if_pos ((resourceNodeKey_refers nodeId assignment).mpr bound)]

/-- The promotion of a default node changes nodes only. -/
theorem promoteDefault_frame (db : Database) : ∃ nodes, promoteDefault db = { db with nodes := nodes } := by
  unfold promoteDefault
  split
  · split
    · exact ⟨db.nodes, rfl⟩
    · unfold setDefaultNode
      split
      · exact ⟨_, rfl⟩
      · exact ⟨db.nodes, rfl⟩
  · exact ⟨db.nodes, rfl⟩

section Rows
variable {db : Database} {nodeId : Int} {owners : List VmOwner} {audits : List AuditLog}
  {nodes : List NodeRow} {pools poolsAfter : List PoolGrant} {userId node vmid : Int}
  {resourceType : ResourceType} {action : Action}

/-- The rows that decide access after a deletion, whatever nodes and audit rows are left. -/
def remainingRows (db : Database) (nodeId : Int) (owners : List VmOwner) (audits : List AuditLog)
    (nodes : List NodeRow) : Database :=
  { withoutNode db nodeId with vmOwners := owners, auditLogs := audits, nodes := nodes }

/-- On a remaining node, the deletion adds at most the grants of the rows that lost their node. -/
theorem Granted.of_remaining
    (granted : Granted (remainingRows db nodeId owners audits nodes) poolsAfter userId (some node) vmid
      resourceType action)
    (other : node ≠ nodeId) (ownersKept : ∀ owner ∈ owners, owner.deletedAt = none → owner ∈ db.vmOwners)
    (poolsKept : ∀ grant ∈ poolsAfter, grant.nodeId ≠ nodeId → grant ∈ pools) :
    Granted db pools userId (some node) vmid resourceType action ∨
      ∃ assignment ∈ db.resourceAssignments, assignment.portalNodeId = some nodeId ∧
        assignment.userId = userId ∧ assignment.resourceType = resourceType ∧
          assignment.resourceId = vmid ∧ PresetGrants db assignment.presetId action := by
  cases granted with
  | direct grant =>
      obtain ⟨assignment, stored, owned, kind, guest, applies, grants⟩ := grant
      obtain ⟨old, inside, changed⟩ := List.mem_map.mp stored
      by_cases bound : resourceNodeKey.refers nodeId old = true
      · rw [if_pos bound] at changed
        rw [← changed] at owned kind guest grants
        exact .inr ⟨old, inside, (resourceNodeKey_refers nodeId old).mp bound, owned, kind, guest, grants⟩
      · rw [if_neg bound] at changed
        rw [← changed] at owned kind guest applies grants
        exact .inl (.direct ⟨old, inside, owned, kind, guest, applies, grants⟩)
  | pool grant =>
      obtain ⟨pool, stored, bound, guest, member⟩ := grant
      have elsewhere : pool.nodeId ≠ nodeId := fun same => other ((Option.some.inj bound).symm.trans same)
      exact .inl (.pool ⟨pool, poolsKept pool stored elsewhere, bound, guest, member⟩)
  | node grant =>
      obtain ⟨assignment, stored, bound, addresses, grants⟩ := grant
      exact .inl (.node ⟨assignment, (List.mem_filter.mp stored).1, bound, addresses, grants⟩)
  | owner owns member =>
      obtain ⟨owner, stored, owned, kind, bound, guest, active⟩ := owns
      exact .inl (.owner ⟨owner, ownersKept owner stored active, owned, kind, bound, guest, active⟩ member)

/-- A row that lost its node grants its actions on every node. -/
theorem granted_of_bound {assignment : ResourceAssignment} (stored : assignment ∈ db.resourceAssignments)
    (bound : assignment.portalNodeId = some nodeId) (grants : PresetGrants db assignment.presetId action) :
    Granted (remainingRows db nodeId owners audits nodes) poolsAfter assignment.userId (some node)
      assignment.resourceId assignment.resourceType action :=
  .direct ⟨_, mem_legacyRows_of_bound stored bound, rfl, rfl, rfl, .inl rfl, grants⟩

end Rows

variable {Store : Type} (hooks : PlusNodeHooks Store) (portal : Portal Store) (nodeId : Int)
  (actor now : String)

/-- The deletion of a node leaves Plus no pool grant on another node that it did not have. -/
def PoolsOnlyShrink : Prop :=
  ∀ store nodeId actor after, hooks.nodeRowDeleted (plusCleanup hooks store nodeId actor) nodeId = some after →
    ∀ userId, ∀ grant ∈ hooks.getPoolPermissions after userId, grant.nodeId ≠ nodeId →
      grant ∈ hooks.getPoolPermissions store userId

/-- After a successful deletion no user holds more on a remaining node than before. -/
def DeletionNarrows : Prop :=
  (deletePortalNode hooks portal nodeId actor now).1 = .noContent →
    ∀ userId, ∀ node ∈ portal.db.nodes, node.id ≠ nodeId → ∀ vmid resourceType,
      resolveUserPermissions (deletePortalNode hooks portal nodeId actor now).2.db
          (hooks.getPoolPermissions (deletePortalNode hooks portal nodeId actor now).2.plus) userId
          (some node.id) vmid resourceType ⊆
        resolveUserPermissions portal.db (hooks.getPoolPermissions portal.plus) userId (some node.id) vmid
          resourceType

/-- What an ordinary user is assigned on the deleted node is granted to that user on every other node. -/
def BoundRowsCovered : Prop :=
  ∀ assignment ∈ portal.db.resourceAssignments, assignment.portalNodeId = some nodeId →
    isAdmin portal.db assignment.userId = false → ∀ node ∈ portal.db.nodes, node.id ≠ nodeId →
      ∀ action, PresetGrants portal.db assignment.presetId action →
        Granted portal.db (hooks.getPoolPermissions portal.plus assignment.userId) assignment.userId
          (some node.id) assignment.resourceId assignment.resourceType action

/-- A successful deletion leaves the remaining rows, and no owner that was not active before. -/
theorem deletePortalNode_rows (deletable : Deletable hooks portal nodeId actor) :
    ∃ owners audits nodes plus,
      hooks.nodeRowDeleted (plusCleanup hooks portal.plus nodeId actor) nodeId = some plus ∧
        (∀ owner ∈ owners, owner.deletedAt = none → owner ∈ portal.db.vmOwners) ∧
          deletePortalNode hooks portal nodeId actor now =
            (.noContent, ⟨remainingRows portal.db nodeId owners audits nodes, plus⟩) := by
  obtain ⟨plus, accepted, answered⟩ := deletePortalNode_deletable hooks portal nodeId actor now deletable
  obtain ⟨owners, audits, framed⟩ := cleanup_frame hooks portal nodeId actor now
  obtain ⟨nodes, promoted⟩ :=
    promoteDefault_frame (withoutNode (cleanup hooks portal nodeId actor now).db nodeId)
  refine ⟨owners, audits, nodes, plus, accepted, ?_, ?_⟩
  · intro owner stored active
    have inside : owner ∈ (cleanup hooks portal nodeId actor now).db.vmOwners := by
      rw [framed]
      exact stored
    exact mem_cleanup_active hooks portal nodeId actor now inside active
  · rw [answered, promoted, framed]
    rfl

/-- What a successful deletion means for an ordinary user, with the rows that it leaves. -/
theorem narrows_rows {db : Database} {owners : List VmOwner} {audits : List AuditLog} {nodes : List NodeRow}
    {getPools getPoolsAfter : Int → List PoolGrant} {userId node vmid : Int} {resourceType : ResourceType}
    {action : Action} (other : node ≠ nodeId)
    (ownersKept : ∀ owner ∈ owners, owner.deletedAt = none → owner ∈ db.vmOwners)
    (poolsKept : ∀ grant ∈ getPoolsAfter userId, grant.nodeId ≠ nodeId → grant ∈ getPools userId)
    (member : action ∈ resolveUserPermissions (remainingRows db nodeId owners audits nodes) getPoolsAfter userId
      (some node) vmid resourceType) :
    action ∈ resolveUserPermissions db getPools userId (some node) vmid resourceType ∨
      isAdmin db userId = false ∧ ∃ assignment ∈ db.resourceAssignments,
        assignment.portalNodeId = some nodeId ∧ assignment.userId = userId ∧
          assignment.resourceType = resourceType ∧ assignment.resourceId = vmid ∧
            PresetGrants db assignment.presetId action := by
  have sameRole : isAdmin (remainingRows db nodeId owners audits nodes) userId = isAdmin db userId := rfl
  cases admin : isAdmin db userId with
  | true =>
      rw [admin] at sameRole
      rw [resolveUserPermissions_admin _ _ _ _ _ _ sameRole] at member
      rw [resolveUserPermissions_admin _ _ _ _ _ _ admin]
      exact .inl member
  | false =>
      rw [admin] at sameRole
      rw [mem_resolveUserPermissions _ _ _ _ _ _ _ sameRole] at member
      rw [mem_resolveUserPermissions _ _ _ _ _ _ _ admin]
      rcases member.of_remaining other ownersKept poolsKept with before | lost
      · exact .inl before
      · exact .inr ⟨rfl, lost⟩

/-- A deletion widens access exactly when a row that loses its node is not covered elsewhere. -/
theorem node_deletion_narrows_iff (shrink : PoolsOnlyShrink hooks) :
    DeletionNarrows hooks portal nodeId actor now ↔
      (Deletable hooks portal nodeId actor → BoundRowsCovered hooks portal nodeId) := by
  unfold DeletionNarrows
  rw [deletePortalNode_noContent_iff]
  apply imp_congr_right
  intro deletable
  obtain ⟨owners, audits, nodes, plus, accepted, ownersKept, answered⟩ :=
    deletePortalNode_rows hooks portal nodeId actor now deletable
  rw [answered]
  constructor
  · intro narrows assignment stored bound ordinary node present other action grants
    have sameRole : isAdmin (remainingRows portal.db nodeId owners audits nodes) assignment.userId = false :=
      ordinary
    have before := narrows assignment.userId node present other assignment.resourceId assignment.resourceType
      ((mem_resolveUserPermissions _ _ _ _ _ _ _ sameRole).mpr (granted_of_bound stored bound grants))
    exact (mem_resolveUserPermissions _ _ _ _ _ _ _ ordinary).mp before
  · intro covered userId node present other vmid resourceType action member
    have poolsKept := shrink portal.plus nodeId actor plus accepted userId
    rcases narrows_rows nodeId other ownersKept poolsKept member with before | ⟨ordinary, lost⟩
    · exact before
    · obtain ⟨assignment, stored, bound, owned, kind, guest, grants⟩ := lost
      rw [mem_resolveUserPermissions _ _ _ _ _ _ _ ordinary]
      have elsewhere := covered assignment stored bound (owned ▸ ordinary) node present other action grants
      rw [owned, kind, guest] at elsewhere
      exact elsewhere

/-- Two installations, and user 7 may start one guest of the first one. -/
def assignedNode : Database where
  nodes := [{ id := 1, name := "a", url := "https://a", proxmoxNode := "a", isDefault := true },
    { id := 2, name := "b", url := "https://b", proxmoxNode := "b" }]
  localUsers := [{ id := 7, username := "op", role := .operator }]
  rolePresets := [{ id := 1, permissions := ["start"] }]
  resourceAssignments :=
    [{ id := 1, userId := 7, resourceType := .vm, resourceId := 100, portalNodeId := some 1, presetId := 1 }]

/-- The assignment on the first installation ends up on the guest with the same number on the second one. -/
theorem node_deletion_widens : ¬ DeletionNarrows coreHooks ⟨assignedNode, ()⟩ 1 "admin" "now" := by
  intro narrows
  have contained := narrows (by decide) 7 { id := 2, name := "b", url := "https://b", proxmoxNode := "b" }
    (by decide) (by decide) 100 .vm
  have before : "start" ∉
      resolveUserPermissions assignedNode (coreHooks.getPoolPermissions ()) 7 (some 2) 100 .vm := by
    decide
  exact before (contained (by decide))

/-- A Plus store with the grants of each user, from which the deletion of a node removes its members. -/
def memberHooks : PlusNodeHooks (List (Int × PoolGrant)) where
  getPoolPermissions := fun members userId =>
    (members.filter fun member => member.1 = userId).map Prod.snd
  onNodeDeletedPools := fun members nodeId _ => members.filter fun member => member.2.nodeId ≠ nodeId
  onNodeDeletedScheduledJobs := fun members _ _ => members
  onNodeDeletedAutoSnapshots := fun members _ _ => members
  nodeRowDeleted := fun members _ => some members

theorem memberHooks_poolsOnlyShrink : PoolsOnlyShrink memberHooks := by
  intro members nodeId actor after accepted userId grant stored elsewhere
  have kept : members.filter (fun member => member.2.nodeId ≠ nodeId) = after := Option.some.inj accepted
  rw [← kept] at stored
  obtain ⟨member, found, same⟩ := List.mem_map.mp stored
  obtain ⟨remaining, owned⟩ := List.mem_filter.mp found
  exact List.mem_map.mpr ⟨member, List.mem_filter.mpr ⟨(List.mem_filter.mp remaining).1, owned⟩, same⟩

/-- A pool that already grants the same action on the second installation covers the lost row. -/
theorem node_deletion_narrows_covered :
    DeletionNarrows memberHooks ⟨assignedNode, [(7, ⟨2, some 100, ["start"]⟩)]⟩ 1 "admin" "now" := by
  apply (node_deletion_narrows_iff memberHooks _ 1 "admin" "now" memberHooks_poolsOnlyShrink).mpr
  intro deletable assignment stored bound ordinary node present other action grants
  obtain ⟨preset, known, -, inside⟩ := grants
  cases List.mem_singleton.mp stored
  cases List.mem_singleton.mp known
  cases List.mem_singleton.mp inside
  have second : node.id = 2 := by
    rcases List.mem_pair.mp present with first | second
    · exact absurd (congrArg NodeRow.id first) other
    · exact congrArg NodeRow.id second
  exact .pool ⟨⟨2, some 100, ["start"]⟩, by decide, congrArg some second.symm, rfl, by decide⟩

end P3Portal.Access
