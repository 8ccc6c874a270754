import P3Portal.Construction.Access.Resolver

namespace P3Portal.Access
open Schema Foundation

/-- A preset grants an action when some stored row of it names the action. -/
def PresetGrants (db : Database) (presetId : Int) (action : Action) : Prop :=
  ∃ preset ∈ db.rolePresets, preset.id = presetId ∧ action ∈ preset.permissions

/-- A row without a portal node applies everywhere; any other row applies to its own node. -/
def AppliesTo (portalNodeId nodeId : Option Int) : Prop :=
  portalNodeId = none ∨ ∃ node, portalNodeId = some node ∧ nodeId = some node

/-- A direct assignment names the guest itself. -/
def DirectGrant (db : Database) (userId : Int) (nodeId : Option Int) (vmid : Int)
    (resourceType : ResourceType) (action : Action) : Prop :=
  ∃ assignment ∈ db.resourceAssignments, assignment.userId = userId ∧
    assignment.resourceType = resourceType ∧ assignment.resourceId = vmid ∧
    AppliesTo assignment.portalNodeId nodeId ∧ PresetGrants db assignment.presetId action

/-- A pool membership reaches the guest on exactly one node. -/
def PoolGranted (pools : List PoolGrant) (nodeId : Option Int) (vmid : Int) (action : Action) : Prop :=
  ∃ grant ∈ pools, some grant.nodeId = nodeId ∧ grant.vmid = some vmid ∧ action ∈ grant.permissions

/-- A node assignment addresses the user or a group of the user. -/
def Addresses (db : Database) (userId : Int) (assignment : NodeAssignment) : Prop :=
  (assignment.subjectType = .user ∧ assignment.subjectId = userId) ∨
    (assignment.subjectType = .group ∧
      ∃ member ∈ db.groupMembers, member.userId = userId ∧ member.groupId = assignment.subjectId)

/-- A node assignment reaches every guest of the node. -/
def NodeGrant (db : Database) (userId : Int) (nodeId : Option Int) (action : Action) : Prop :=
  ∃ assignment ∈ db.nodeAssignments, some assignment.nodeId = nodeId ∧
    Addresses db userId assignment ∧ PresetGrants db assignment.rolePresetId action

/-- An ownership counts until it is soft-deleted. -/
def ActiveOwner (db : Database) (userId : Int) (resourceType : ResourceType)
    (nodeId : Option Int) (vmid : Int) : Prop :=
  ∃ owner ∈ db.vmOwners, owner.userId = userId ∧ owner.resourceType = resourceType ∧
    some owner.nodeId = nodeId ∧ owner.vmid = vmid ∧ owner.deletedAt = none

/-- The access policy: each of four kinds of stored rows gives actions, and nothing else does. -/
inductive Granted (db : Database) (pools : List PoolGrant) (userId : Int) (nodeId : Option Int)
    (vmid : Int) (resourceType : ResourceType) (action : Action) : Prop where
  | direct (grant : DirectGrant db userId nodeId vmid resourceType action)
  | pool (grant : PoolGranted pools nodeId vmid action)
  | node (grant : NodeGrant db userId nodeId action)
  | owner (owns : ActiveOwner db userId resourceType nodeId vmid) (member : action ∈ ownerActions)

section Rows
variable (db : Database) (userId : Int) (action : Action)

theorem mem_presetPermissions (presetId : Int) :
    (∃ row ∈ presetPermissions db presetId, action ∈ row) ↔ PresetGrants db presetId action := by
  simp only [presetPermissions, PresetGrants, List.mem_map, List.mem_filter, decide_eq_true_eq]
  constructor
  · rintro ⟨row, ⟨preset, ⟨stored, same⟩, rfl⟩, inside⟩
    exact ⟨preset, stored, same, inside⟩
  · rintro ⟨preset, stored, same, inside⟩
    exact ⟨_, ⟨preset, ⟨stored, same⟩, rfl⟩, inside⟩

/-- The joined rows of an assignment list carry an action when one assignment does. -/
theorem mem_joined {Assignment : Type} (assignments : List Assignment) (presetId : Assignment → Int) :
    (∃ row ∈ assignments.flatMap fun assignment => presetPermissions db (presetId assignment),
        action ∈ row) ↔
      ∃ assignment ∈ assignments, PresetGrants db (presetId assignment) action := by
  simp only [List.mem_flatMap, ← mem_presetPermissions]
  constructor
  · rintro ⟨row, ⟨assignment, stored, joined⟩, inside⟩
    exact ⟨assignment, stored, row, joined, inside⟩
  · rintro ⟨assignment, stored, row, joined, inside⟩
    exact ⟨row, ⟨assignment, stored, joined⟩, inside⟩

theorem appliesTo_iff (portalNodeId nodeId : Option Int) :
    (portalNodeId.isNone || sqlEq portalNodeId nodeId) = true ↔ AppliesTo portalNodeId nodeId := by
  simp [AppliesTo]

theorem mem_directRows (nodeId : Option Int) (vmid : Int) (resourceType : ResourceType) :
    (∃ row ∈ directRows db userId nodeId vmid resourceType, action ∈ row) ↔
      DirectGrant db userId nodeId vmid resourceType action := by
  rw [directRows, mem_joined]
  simp only [DirectGrant, List.mem_filter, Bool.and_eq_true, appliesTo_iff, decide_eq_true_eq]
  constructor
  · rintro ⟨assignment, ⟨stored, ⟨⟨user, kind⟩, guest⟩, applies⟩, grants⟩
    exact ⟨assignment, stored, user, kind, guest, applies, grants⟩
  · rintro ⟨assignment, stored, user, kind, guest, applies, grants⟩
    exact ⟨assignment, ⟨stored, ⟨⟨user, kind⟩, guest⟩, applies⟩, grants⟩

theorem mem_poolRows (pools : List PoolGrant) (nodeId : Option Int) (vmid : Int) :
    (∃ row ∈ poolRows pools nodeId vmid, action ∈ row) ↔ PoolGranted pools nodeId vmid action := by
  simp only [poolRows, PoolGranted, List.mem_map, List.mem_filter, Bool.and_eq_true, decide_eq_true_eq]
  constructor
  · rintro ⟨row, ⟨grant, ⟨stored, node, guest⟩, rfl⟩, inside⟩
    exact ⟨grant, stored, node, guest, inside⟩
  · rintro ⟨grant, stored, node, guest, inside⟩
    exact ⟨_, ⟨grant, ⟨stored, node, guest⟩, rfl⟩, inside⟩

theorem mem_getGroupIds (groupId : Int) :
    groupId ∈ getGroupIds db userId ↔
      ∃ member ∈ db.groupMembers, member.userId = userId ∧ member.groupId = groupId := by
  simp [getGroupIds, and_assoc]

/-- The two queries of path 3 together select the assignments that address the user. -/
theorem mem_nodeRows (nodeId : Option Int) :
    ((∃ row ∈ (nodeUserAssignments db userId nodeId).flatMap
          fun row => presetPermissions db row.rolePresetId, action ∈ row) ∨
      ∃ row ∈ (nodeGroupAssignments db (getGroupIds db userId) nodeId).flatMap
          fun row => presetPermissions db row.rolePresetId, action ∈ row) ↔
      NodeGrant db userId nodeId action := by
  rw [mem_joined, mem_joined]
  simp only [nodeUserAssignments, nodeGroupAssignments, NodeGrant, Addresses, List.mem_filter,
    Bool.and_eq_true, decide_eq_true_eq, List.contains_iff_mem, mem_getGroupIds, sqlEq_iff,
    Option.some.injEq]
  constructor
  · rintro (⟨row, ⟨stored, ⟨⟨node, rfl, same⟩, user⟩, known⟩, grants⟩ |
      ⟨row, ⟨stored, ⟨⟨node, rfl, same⟩, group⟩, known⟩, grants⟩)
    · exact ⟨row, stored, same.symm, .inl ⟨user, known⟩, grants⟩
    · exact ⟨row, stored, same.symm, .inr ⟨group, known⟩, grants⟩
  · rintro ⟨row, stored, same, ⟨user, known⟩ | ⟨group, known⟩, grants⟩
    · exact .inl ⟨row, ⟨stored, ⟨⟨row.nodeId, rfl, same.symm⟩, user⟩, known⟩, grants⟩
    · exact .inr ⟨row, ⟨stored, ⟨⟨row.nodeId, rfl, same.symm⟩, group⟩, known⟩, grants⟩

theorem mem_ownerActionsForResource (resourceType : ResourceType) (nodeId : Option Int) (vmid : Int) :
    action ∈ ownerActionsForResource db userId resourceType nodeId vmid ↔
      ActiveOwner db userId resourceType nodeId vmid ∧ action ∈ ownerActions := by
  have selected : (db.vmOwners.any fun owner => owner.userId = userId &&
      owner.resourceType = resourceType && sqlEq (some owner.nodeId) nodeId && owner.vmid = vmid &&
      owner.deletedAt.isNone) = true ↔ ActiveOwner db userId resourceType nodeId vmid := by
    simp only [List.any_eq_true, Bool.and_eq_true, decide_eq_true_eq, sqlEq_iff, Option.some.injEq,
      Option.isNone_iff_eq_none, ActiveOwner]
    constructor
    · rintro ⟨owner, stored, ⟨⟨⟨user, kind⟩, node, rfl, same⟩, guest⟩, active⟩
      exact ⟨owner, stored, user, kind, same.symm, guest, active⟩
    · rintro ⟨owner, stored, user, kind, same, guest, active⟩
      exact ⟨owner, stored, ⟨⟨⟨user, kind⟩, owner.nodeId, rfl, same.symm⟩, guest⟩, active⟩
  unfold ownerActionsForResource
  by_cases owns : ActiveOwner db userId resourceType nodeId vmid
  · rw [if_pos (selected.mpr owns)]
    exact (and_iff_right owns).symm
  · rw [if_neg fun found => owns (selected.mp found)]
    simp [owns]

end Rows

/-- The update loop keeps the old actions and adds those of the rows. -/
theorem mem_updateAll (permissions : Finset Action) (rows : List (List Action)) (action : Action) :
    action ∈ updateAll permissions rows ↔ action ∈ permissions ∨ ∃ row ∈ rows, action ∈ row := by
  induction rows generalizing permissions with
  | nil => simp [updateAll]
  | cons row rest ih =>
      change action ∈ updateAll (permissions ∪ row.toFinset) rest ↔ _
      rw [ih]
      simp [or_assoc]

/-- A user without groups holds nothing through a group. -/
theorem nodeGroupAssignments_nil (db : Database) (nodeId : Option Int) :
    nodeGroupAssignments db [] nodeId = [] := by
  simp [nodeGroupAssignments]

/-- The single resolver implements the access policy for every user who is not an administrator. -/
theorem mem_resolveUserPermissions (db : Database) (getPoolPermissions : Int → List PoolGrant)
    (userId : Int) (nodeId : Option Int) (vmid : Int) (resourceType : ResourceType) (action : Action)
    (ordinary : isAdmin db userId = false) :
    action ∈ resolveUserPermissions db getPoolPermissions userId nodeId vmid resourceType ↔
      Granted db (getPoolPermissions userId) userId nodeId vmid resourceType action := by
  have grouped (permissions : Finset Action) :
      (if (getGroupIds db userId).isEmpty then permissions else updateAll permissions
        ((nodeGroupAssignments db (getGroupIds db userId) nodeId).flatMap
          fun row => presetPermissions db row.rolePresetId)) =
      updateAll permissions ((nodeGroupAssignments db (getGroupIds db userId) nodeId).flatMap
          fun row => presetPermissions db row.rolePresetId) := by
    split
    · rename_i lonely
      rw [List.isEmpty_iff.mp lonely, nodeGroupAssignments_nil]
      rfl
    · rfl
  simp only [resolveUserPermissions, ordinary, Bool.false_eq_true, if_false, grouped,
    Finset.mem_union, mem_updateAll, mem_ownerActionsForResource, mem_directRows, mem_poolRows,
    or_assoc, Finset.notMem_empty, false_or]
  rw [← or_assoc (a := ∃ row ∈ (nodeUserAssignments db userId nodeId).flatMap _, action ∈ row),
    mem_nodeRows]
  constructor
  · rintro (grant | grant | grant | ⟨owns, member⟩)
    · exact .direct grant
    · exact .pool grant
    · exact .node grant
    · exact .owner owns member
  · rintro (grant | grant | grant | ⟨owns, member⟩)
    · exact .inl grant
    · exact .inr (.inl grant)
    · exact .inr (.inr (.inl grant))
    · exact .inr (.inr (.inr ⟨owns, member⟩))

/-- An administrator holds every action on every guest. -/
theorem resolveUserPermissions_admin (db : Database) (getPoolPermissions : Int → List PoolGrant)
    (userId : Int) (nodeId : Option Int) (vmid : Int) (resourceType : ResourceType)
    (admin : isAdmin db userId = true) :
    resolveUserPermissions db getPoolPermissions userId nodeId vmid resourceType = allActions := by
  rw [resolveUserPermissions, if_pos admin]

/-- A row that counts without a node counts on every node. -/
theorem Granted.anyNode {db : Database} {pools : List PoolGrant} {userId : Int} {vmid : Int}
    {resourceType : ResourceType} {action : Action}
    (granted : Granted db pools userId none vmid resourceType action) (nodeId : Option Int) :
    Granted db pools userId nodeId vmid resourceType action := by
  cases granted with
  | direct grant =>
      obtain ⟨assignment, stored, owned, kind, guest, applies, grants⟩ := grant
      refine .direct ⟨assignment, stored, owned, kind, guest, .inl ?_, grants⟩
      rcases applies with legacy | ⟨node, bound, absent⟩
      · exact legacy
      · cases absent
  | pool grant =>
      obtain ⟨pool, stored, bound, rest⟩ := grant
      cases bound
  | node grant =>
      obtain ⟨assignment, stored, bound, rest⟩ := grant
      cases bound
  | owner owns member =>
      obtain ⟨owner, stored, owned, kind, bound, rest⟩ := owns
      cases bound

theorem resolveUserPermissions_anyNode {db : Database} {getPoolPermissions : Int → List PoolGrant}
    {userId : Int} {vmid : Int} {resourceType : ResourceType} {action : Action}
    (member : action ∈ resolveUserPermissions db getPoolPermissions userId none vmid resourceType)
    (nodeId : Option Int) :
    action ∈ resolveUserPermissions db getPoolPermissions userId nodeId vmid resourceType := by
  cases admin : isAdmin db userId with
  | true =>
      rw [resolveUserPermissions_admin _ _ _ _ _ _ admin] at member ⊢
      exact member
  | false =>
      rw [mem_resolveUserPermissions _ _ _ _ _ _ _ admin] at member ⊢
      exact member.anyNode nodeId

end P3Portal.Access
