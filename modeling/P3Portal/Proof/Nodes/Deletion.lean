import P3Portal.Construction.Nodes.Deletion

namespace P3Portal.Nodes
open Schema Foundation Http Access

section Statement
variable (db : Database) (nodeId : Int)

/-- The assignments of the node lose it and become legacy rows. -/
def legacyRows : List ResourceAssignment :=
  db.resourceAssignments.map fun assignment =>
    if resourceNodeKey.refers nodeId assignment then { assignment with portalNodeId := none } else assignment

/-- The rows that an accepted deletion leaves. -/
def withoutNode : Database :=
  { db with
    resourceAssignments := legacyRows db nodeId
    nodeAssignments := db.nodeAssignments.filter fun assignment => !assignmentNodeKey.refers nodeId assignment
    ansibleManagedHosts := db.ansibleManagedHosts.filter fun host => !hostNodeKey.refers nodeId host
    nodes := db.nodes.filter fun row => row.id ≠ nodeId }

variable {db nodeId}

theorem resourceNodeKey_delete :
    resourceNodeKey.delete nodeId db.resourceAssignments = some (legacyRows db nodeId) := rfl

theorem assignmentNodeKey_delete :
    assignmentNodeKey.delete nodeId db.nodeAssignments = some (withoutNode db nodeId).nodeAssignments := rfl

theorem hostNodeKey_delete :
    hostNodeKey.delete nodeId db.ansibleManagedHosts = some (withoutNode db nodeId).ansibleManagedHosts := rfl

theorem ownerNodeKey_refers {owner : VmOwner} :
    ownerNodeKey.refers nodeId owner = false ↔ owner.nodeId ≠ nodeId := by
  unfold ForeignKey.refers
  rw [decide_eq_false_iff_not]
  exact not_congr Option.some_inj

theorem ownerNodeKey_delete_eq_some {owners after : List VmOwner} :
    ownerNodeKey.delete nodeId owners = some after ↔
      (∀ owner ∈ owners, owner.nodeId ≠ nodeId) ∧ after = owners := by
  rw [ForeignKey.delete_restrict_eq_some rfl]
  simp only [ownerNodeKey_refers]

/-- The statement is accepted when no owner row refers to the node and the legacy rows stay unique. -/
theorem deleteNodeRow_eq_some {after : Database} :
    deleteNodeRow db nodeId = some after ↔
      (∀ owner ∈ db.vmOwners, owner.nodeId ≠ nodeId) ∧ LegacyRowsUnique (legacyRows db nodeId) ∧
        after = withoutNode db nodeId := by
  unfold deleteNodeRow
  rw [resourceNodeKey_delete, assignmentNodeKey_delete, hostNodeKey_delete]
  simp only [Option.bind_eq_bind, Option.bind_eq_some_iff, ownerNodeKey_delete_eq_some, Option.some.injEq,
    exists_eq_left', Option.guard_eq_some', Option.pure_def]
  constructor
  · intro found
    obtain ⟨owners, ⟨unowned, same⟩, -, unique, result⟩ := found
    refine ⟨unowned, unique, ?_⟩
    rw [← result, same]
    rfl
  · intro found
    obtain ⟨unowned, unique, result⟩ := found
    refine ⟨db.vmOwners, ⟨unowned, rfl⟩, (), unique, ?_⟩
    rw [result]
    rfl

/-- The assignments and the managed hosts of other nodes survive as they are. -/
theorem deleteNodeRow_keeps {after : Database} (deleted : deleteNodeRow db nodeId = some after) :
    (∀ assignment ∈ db.resourceAssignments, resourceNodeKey.refers nodeId assignment = false →
        assignment ∈ after.resourceAssignments) ∧
      (∀ assignment ∈ db.nodeAssignments, assignmentNodeKey.refers nodeId assignment = false →
        assignment ∈ after.nodeAssignments) ∧
      ∀ host ∈ db.ansibleManagedHosts, hostNodeKey.refers nodeId host = false →
        host ∈ after.ansibleManagedHosts := by
  obtain ⟨-, -, same⟩ := deleteNodeRow_eq_some.mp deleted
  rw [same]
  refine ⟨?_, ?_, ?_⟩
  · intro assignment stored other
    exact ForeignKey.mem_delete_of_not_refers resourceNodeKey_delete stored other
  · intro assignment stored other
    exact ForeignKey.mem_delete_of_not_refers assignmentNodeKey_delete stored other
  · intro host stored other
    exact ForeignKey.mem_delete_of_not_refers hostNodeKey_delete stored other

end Statement

section Cleanup
variable (db : Database) (nodeId : Int) (nodeName actor now : String)

/-- The soft deletion of the owners touches the owner and the audit rows only. -/
theorem onNodeDelete_frame :
    ∃ owners audits, onNodeDelete db nodeId actor now = { db with vmOwners := owners, auditLogs := audits } := by
  unfold onNodeDelete
  split
  · exact ⟨db.vmOwners, db.auditLogs, rfl⟩
  · exact ⟨_, _, rfl⟩

/-- No row changes its node. -/
theorem onNodeDelete_unowned :
    (∀ owner ∈ (onNodeDelete db nodeId actor now).vmOwners, owner.nodeId ≠ nodeId) ↔
      ∀ owner ∈ db.vmOwners, owner.nodeId ≠ nodeId := by
  unfold onNodeDelete
  split
  · rfl
  · simp only [List.forall_mem_map]
    constructor
    · intro unowned owner stored
      have kept := unowned owner stored
      split at kept
      · exact kept
      · exact kept
    · intro unowned owner stored
      split
      · exact unowned owner stored
      · exact unowned owner stored

/-- An ownership that is active after the soft deletion was active before. -/
theorem mem_onNodeDelete_active {owner : VmOwner}
    (stored : owner ∈ (onNodeDelete db nodeId actor now).vmOwners) (active : owner.deletedAt = none) :
    owner ∈ db.vmOwners := by
  unfold onNodeDelete at stored
  split at stored
  · exact stored
  · obtain ⟨old, inside, changed⟩ := List.mem_map.mp stored
    split at changed
    · rw [← changed] at active
      cases active
    · rw [← changed]
      exact inside

/-- The audit log grows by one row for each assignment of the node and one row for its active owners. -/
theorem cleanup_auditLogs_length :
    (onNodeDelete (cleanupAssignmentsForNode db nodeId nodeName actor now) nodeId actor now).auditLogs.length =
      db.auditLogs.length + (db.nodeAssignments.filter fun assignment => assignment.nodeId = nodeId).length +
        if activeOwners db nodeId = [] then 0 else 1 := by
  have same : activeOwners (cleanupAssignmentsForNode db nodeId nodeName actor now) nodeId =
      activeOwners db nodeId := rfl
  unfold onNodeDelete
  rw [same]
  split
  · simp [cleanupAssignmentsForNode]
  · simp [cleanupAssignmentsForNode, Nat.add_assoc]

end Cleanup

variable {Store : Type} (hooks : PlusNodeHooks Store) (portal : Portal Store) (nodeId : Int)
  (actor now : String)

/-- The node is not the last one, it is stored, no owner row of any age refers to it, its assignments stay
unique as legacy rows, and the tables of Plus let it go. -/
structure Deletable : Prop where
  notLast : 1 < countNodes portal.db
  known : (getNode portal.db nodeId).isSome
  unowned : ∀ owner ∈ portal.db.vmOwners, owner.nodeId ≠ nodeId
  legacyUnique : LegacyRowsUnique (legacyRows portal.db nodeId)
  plusAccepts : (hooks.nodeRowDeleted (plusCleanup hooks portal.plus nodeId actor) nodeId).isSome

/-- The cleanup changes owner rows, audit rows and the tables of Plus only. -/
theorem cleanup_frame :
    ∃ owners audits, (cleanup hooks portal nodeId actor now).db =
      { portal.db with vmOwners := owners, auditLogs := audits } := by
  obtain ⟨owners, audits, same⟩ := onNodeDelete_frame (cleanupAssignmentsForNode portal.db nodeId
    (((getNode portal.db nodeId).map NodeRow.name).getD (toString nodeId)) actor now) nodeId actor now
  exact ⟨owners, audits, same⟩

theorem cleanup_unowned :
    (∀ owner ∈ (cleanup hooks portal nodeId actor now).db.vmOwners, owner.nodeId ≠ nodeId) ↔
      ∀ owner ∈ portal.db.vmOwners, owner.nodeId ≠ nodeId :=
  onNodeDelete_unowned _ _ _ _

theorem mem_cleanup_active {owner : VmOwner}
    (stored : owner ∈ (cleanup hooks portal nodeId actor now).db.vmOwners) (active : owner.deletedAt = none) :
    owner ∈ portal.db.vmOwners :=
  mem_onNodeDelete_active (cleanupAssignmentsForNode portal.db nodeId
    (((getNode portal.db nodeId).map NodeRow.name).getD (toString nodeId)) actor now) _ _ _ stored active

/-- A successful deletion needs all its conditions and leaves the rows without the node. -/
theorem deleteNode_eq_true {after : Portal Store} :
    deleteNode hooks portal nodeId = some (true, after) ↔
      1 < countNodes portal.db ∧ (getNode portal.db nodeId).isSome ∧
        (∀ owner ∈ portal.db.vmOwners, owner.nodeId ≠ nodeId) ∧
          LegacyRowsUnique (legacyRows portal.db nodeId) ∧
            ∃ plus, hooks.nodeRowDeleted portal.plus nodeId = some plus ∧
              after = ⟨promoteDefault (withoutNode portal.db nodeId), plus⟩ := by
  unfold deleteNode
  split
  · rename_i last
    simp [Nat.not_lt.mpr last]
  · rename_i more
    cases known : getNode portal.db nodeId with
    | none => simp
    | some row =>
        simp only [Option.bind_eq_bind, Option.bind_eq_some_iff, deleteNodeRow_eq_some, Option.pure_def,
          Option.some.injEq, Prod.mk.injEq, true_and, Option.isSome_some]
        constructor
        · intro found
          obtain ⟨db, ⟨unowned, unique, same⟩, plus, accepted, result⟩ := found
          exact ⟨Nat.lt_of_not_le more, unowned, unique, plus, accepted, by rw [← result, same]⟩
        · intro found
          obtain ⟨_, unowned, unique, plus, accepted, result⟩ := found
          exact ⟨_, ⟨unowned, unique, rfl⟩, plus, accepted, result.symm⟩

/-- A deletion that finds nothing to delete changes nothing. -/
theorem deleteNode_eq_false {after : Portal Store} (kept : deleteNode hooks portal nodeId = some (false, after)) :
    after = portal := by
  unfold deleteNode at kept
  split at kept
  · cases kept
    rfl
  · split at kept
    · cases kept
      rfl
    · simp [Option.bind_eq_some_iff] at kept

/-- The conditions do not depend on what the cleanup changes. -/
theorem deletable_iff :
    Deletable hooks portal nodeId actor ↔
      ∃ after, deleteNode hooks (cleanup hooks portal nodeId actor now) nodeId = some (true, after) := by
  obtain ⟨owners, audits, same⟩ := cleanup_frame hooks portal nodeId actor now
  have nodes : (cleanup hooks portal nodeId actor now).db.nodes = portal.db.nodes := by rw [same]
  have assignments : (cleanup hooks portal nodeId actor now).db.resourceAssignments =
      portal.db.resourceAssignments := by rw [same]
  have unowned := cleanup_unowned hooks portal nodeId actor now
  simp only [deleteNode_eq_true, unowned, countNodes, getNode, legacyRows, nodes, assignments]
  constructor
  · intro deletable
    obtain ⟨plus, accepted⟩ := Option.isSome_iff_exists.mp deletable.plusAccepts
    exact ⟨_, deletable.notLast, deletable.known, deletable.unowned, deletable.legacyUnique, plus, accepted, rfl⟩
  · intro found
    obtain ⟨after, notLast, known, unowned, unique, plus, accepted, -⟩ := found
    exact ⟨notLast, known, unowned, unique, Option.isSome_iff_exists.mpr ⟨plus, accepted⟩⟩

/-- A deletable node is answered without content. -/
theorem deletePortalNode_deletable (deletable : Deletable hooks portal nodeId actor) :
    ∃ plus, hooks.nodeRowDeleted (plusCleanup hooks portal.plus nodeId actor) nodeId = some plus ∧
      deletePortalNode hooks portal nodeId actor now =
        (.noContent, ⟨promoteDefault (withoutNode (cleanup hooks portal nodeId actor now).db nodeId), plus⟩) := by
  obtain ⟨after, deleted⟩ := (deletable_iff hooks portal nodeId actor now).mp deletable
  obtain ⟨-, -, -, -, plus, accepted, result⟩ := (deleteNode_eq_true hooks _ nodeId).mp deleted
  refine ⟨plus, accepted, ?_⟩
  unfold deletePortalNode
  simp only [deleted]
  rw [result]

/-- Every other node is answered with an error, and what the cleanup has committed stays. -/
theorem deletePortalNode_refused (refused : ¬ Deletable hooks portal nodeId actor) :
    (deletePortalNode hooks portal nodeId actor now).1 ≠ .noContent ∧
      (deletePortalNode hooks portal nodeId actor now).2 = cleanup hooks portal nodeId actor now := by
  rw [deletable_iff hooks portal nodeId actor now] at refused
  unfold deletePortalNode
  cases deleted : deleteNode hooks (cleanup hooks portal nodeId actor now) nodeId with
  | none => simp [deleted]
  | some result =>
      obtain ⟨done, after⟩ := result
      cases done with
      | true => exact absurd ⟨after, deleted⟩ refused
      | false =>
          have same := deleteNode_eq_false hooks _ nodeId deleted
          simp only [deleted]
          split
          · exact ⟨by simp, same⟩
          · exact ⟨by simp, same⟩

theorem deletePortalNode_noContent_iff :
    (deletePortalNode hooks portal nodeId actor now).1 = .noContent ↔ Deletable hooks portal nodeId actor := by
  constructor
  · intro answered
    by_contra refused
    exact (deletePortalNode_refused hooks portal nodeId actor now refused).1 answered
  · intro deletable
    obtain ⟨plus, accepted, same⟩ := deletePortalNode_deletable hooks portal nodeId actor now deletable
    rw [same]

/-- There is nothing to clean up: no assignment and no active owner of the node, and nothing in Plus. -/
structure Untouched : Prop where
  unassigned : ∀ assignment ∈ portal.db.nodeAssignments, assignment.nodeId ≠ nodeId
  ownerless : activeOwners portal.db nodeId = []
  plusKept : plusCleanup hooks portal.plus nodeId actor = portal.plus

/-- The cleanup leaves the state alone only when there is nothing to clean up. -/
theorem cleanup_eq_iff :
    cleanup hooks portal nodeId actor now = portal ↔ Untouched hooks portal nodeId actor := by
  constructor
  · intro same
    have grown := cleanup_auditLogs_length portal.db nodeId
      (((getNode portal.db nodeId).map NodeRow.name).getD (toString nodeId)) actor now
    have kept : (cleanup hooks portal nodeId actor now).db.auditLogs.length = portal.db.auditLogs.length := by
      rw [same]
    change (onNodeDelete _ nodeId actor now).auditLogs.length = _ at kept
    rw [kept] at grown
    constructor
    · have none_removed : (portal.db.nodeAssignments.filter fun assignment =>
          assignment.nodeId = nodeId).length = 0 := by omega
      intro assignment stored bound
      have absent := List.filter_eq_nil_iff.mp (List.length_eq_zero_iff.mp none_removed) assignment stored
      exact absent (decide_eq_true bound)
    · by_contra owned
      rw [if_neg owned] at grown
      omega
    · exact congrArg Portal.plus same
  · intro untouched
    have silent : cleanupAssignmentsForNode portal.db nodeId
        (((getNode portal.db nodeId).map NodeRow.name).getD (toString nodeId)) actor now = portal.db := by
      have none_left : (portal.db.nodeAssignments.filter fun assignment => assignment.nodeId = nodeId) = [] := by
        apply List.filter_eq_nil_iff.mpr
        intro assignment stored bound
        exact untouched.unassigned assignment stored (of_decide_eq_true bound)
      unfold cleanupAssignmentsForNode
      rw [none_left, List.map_nil, List.append_nil]
    unfold cleanup
    rw [silent, untouched.plusKept, onNodeDelete, if_pos untouched.ownerless]

/-- A deletion that is answered with an error leaves the stored state as it was. -/
def DeletionAtomic : Prop :=
  (deletePortalNode hooks portal nodeId actor now).1 ≠ .noContent →
    (deletePortalNode hooks portal nodeId actor now).2 = portal

instance [DecidableEq Store] : Decidable (DeletionAtomic hooks portal nodeId actor now) :=
  inferInstanceAs (Decidable (_ → _))

/-- The endpoint is all or nothing exactly for the nodes that it can delete and for those without
anything to clean up. -/
theorem node_deletion_atomic_iff :
    DeletionAtomic hooks portal nodeId actor now ↔
      Deletable hooks portal nodeId actor ∨ Untouched hooks portal nodeId actor := by
  constructor
  · intro atomic
    by_cases deletable : Deletable hooks portal nodeId actor
    · exact .inl deletable
    · obtain ⟨answered, left⟩ := deletePortalNode_refused hooks portal nodeId actor now deletable
      have same := atomic answered
      rw [left] at same
      exact .inr ((cleanup_eq_iff hooks portal nodeId actor now).mp same)
  · intro possible answered
    have refused : ¬ Deletable hooks portal nodeId actor := fun deletable =>
      answered ((deletePortalNode_noContent_iff hooks portal nodeId actor now).mpr deletable)
    rcases possible with deletable | untouched
    · exact absurd deletable refused
    · rw [(deletePortalNode_refused hooks portal nodeId actor now refused).2]
      exact (cleanup_eq_iff hooks portal nodeId actor now).mpr untouched

/-- The hooks of a portal without Plus do nothing. -/
def coreHooks : PlusNodeHooks Unit where
  getPoolPermissions := fun _ _ => []
  onNodeDeletedPools := fun store _ _ => store
  onNodeDeletedScheduledJobs := fun store _ _ => store
  onNodeDeletedAutoSnapshots := fun store _ _ => store
  nodeRowDeleted := fun store _ => some store

/-- Two installations, and the first one has a guest with an owner. -/
def ownedNode : Database where
  nodes := [{ id := 1, name := "a", url := "https://a", proxmoxNode := "a", isDefault := true },
    { id := 2, name := "b", url := "https://b", proxmoxNode := "b" }]
  vmOwners := [{ id := 1, resourceType := .vm, nodeId := 1, vmid := 100, userId := 7 }]

/-- The database refuses the node because of the owner row, which has already been soft-deleted. -/
theorem node_deletion_not_atomic :
    (deletePortalNode coreHooks ⟨ownedNode, ()⟩ 1 "admin" "now").1 = .integrityError ∧
      ¬ DeletionAtomic coreHooks ⟨ownedNode, ()⟩ 1 "admin" "now" := by
  decide

end P3Portal.Nodes
