import P3Portal.Proof.Access.Grants

namespace P3Portal.Access
open Schema Foundation

section Gathered
variable (db : Database) (userId : Int) (action : Action)

/-- The dictionary of direct rows answers under a kind, a stored node and a guest. -/
theorem mem_gathered_directRows (resourceType : ResourceType) (portalNodeId : Option Int) (vmid : Int) :
    action ∈ (OrderedMap.empty.gather (bulkDirectRows db userId)).members
        (resourceType, portalNodeId, vmid) ↔
      ∃ assignment ∈ db.resourceAssignments, assignment.userId = userId ∧
        assignment.resourceType = resourceType ∧ assignment.resourceId = vmid ∧
        assignment.portalNodeId = portalNodeId ∧ PresetGrants db assignment.presetId action := by
  rw [OrderedMap.mem_members_gather]
  simp only [OrderedMap.members_empty, Finset.notMem_empty, false_or, bulkDirectRows, List.mem_flatMap,
    List.mem_filter, List.mem_map, decide_eq_true_eq, ← mem_presetPermissions]
  constructor
  · intro found
    obtain ⟨row, ⟨assignment, ⟨stored, user⟩, permissions, joined, rfl⟩, same, inside⟩ := found
    simp only [Prod.mk.injEq] at same
    obtain ⟨kind, node, guest⟩ := same
    exact ⟨assignment, stored, user, kind, guest, node, permissions, joined, inside⟩
  · intro found
    obtain ⟨assignment, stored, user, kind, guest, node, permissions, joined, inside⟩ := found
    refine ⟨_, ⟨assignment, ⟨stored, user⟩, permissions, joined, rfl⟩, ?_, inside⟩
    rw [kind, node, guest]

/-- The two lookups of path 1 together answer the rows that apply to the node. -/
theorem mem_direct_lookups (nodeId : Option Int) (vmid : Int) (resourceType : ResourceType) :
    (action ∈ (OrderedMap.empty.gather (bulkDirectRows db userId)).members (resourceType, nodeId, vmid) ∨
      action ∈ (OrderedMap.empty.gather (bulkDirectRows db userId)).members (resourceType, none, vmid)) ↔
      DirectGrant db userId nodeId vmid resourceType action := by
  rw [mem_gathered_directRows, mem_gathered_directRows]
  constructor
  · intro found
    rcases found with found | found
    · obtain ⟨assignment, stored, user, kind, guest, node, grants⟩ := found
      refine ⟨assignment, stored, user, kind, guest, ?_, grants⟩
      cases nodeId with
      | none => exact .inl node
      | some value => exact .inr ⟨value, node, rfl⟩
    · obtain ⟨assignment, stored, user, kind, guest, node, grants⟩ := found
      exact ⟨assignment, stored, user, kind, guest, .inl node, grants⟩
  · intro grant
    obtain ⟨assignment, stored, user, kind, guest, applies, grants⟩ := grant
    rcases applies with legacy | ⟨value, node, here⟩
    · exact .inr ⟨assignment, stored, user, kind, guest, legacy, grants⟩
    · exact .inl ⟨assignment, stored, user, kind, guest, node.trans here.symm, grants⟩

theorem mem_gathered_poolRows (pools : List PoolGrant) (nodeId : Option Int) (vmid : Int) :
    action ∈ (OrderedMap.empty.gather (bulkPoolRows pools)).members (nodeId, some vmid) ↔
      PoolGranted pools nodeId vmid action := by
  rw [OrderedMap.mem_members_gather]
  simp only [OrderedMap.members_empty, Finset.notMem_empty, false_or, bulkPoolRows, List.mem_map,
    PoolGranted]
  constructor
  · intro found
    obtain ⟨row, ⟨grant, stored, rfl⟩, same, inside⟩ := found
    simp only [Prod.mk.injEq] at same
    exact ⟨grant, stored, same.1, same.2, inside⟩
  · intro found
    obtain ⟨grant, stored, node, guest, inside⟩ := found
    refine ⟨_, ⟨grant, stored, rfl⟩, ?_, inside⟩
    rw [node, guest]

/-- The rows of a selection carry an action under a node when an assignment on it grants the action. -/
theorem mem_bulkNodeRows (assignments : List NodeAssignment) (nodeId : Option Int) :
    (∃ row ∈ bulkNodeRows db assignments, row.1 = nodeId ∧ action ∈ row.2) ↔
      ∃ assignment ∈ assignments, some assignment.nodeId = nodeId ∧
        PresetGrants db assignment.rolePresetId action := by
  simp only [bulkNodeRows, List.mem_flatMap, List.mem_map, ← mem_presetPermissions]
  constructor
  · intro found
    obtain ⟨row, ⟨assignment, stored, permissions, joined, rfl⟩, node, inside⟩ := found
    exact ⟨assignment, stored, node, permissions, joined, inside⟩
  · intro found
    obtain ⟨assignment, stored, node, permissions, joined, inside⟩ := found
    exact ⟨_, ⟨assignment, stored, permissions, joined, rfl⟩, node, inside⟩

/-- The node dictionary gathers the rows of the user and then those of the user's groups. -/
theorem bulkGrants_nodePerms (getPoolPermissions : Int → List PoolGrant) :
    (bulkGrants db getPoolPermissions userId).nodePerms =
      (OrderedMap.empty.gather (bulkNodeRows db (db.nodeAssignments.filter fun row =>
        row.subjectType = .user && row.subjectId = userId))).gather
      (bulkNodeRows db (db.nodeAssignments.filter fun row =>
        row.subjectType = .group && (getGroupIds db userId).contains row.subjectId)) := by
  simp only [bulkGrants]
  split
  · rename_i lonely
    rw [List.isEmpty_iff.mp lonely]
    simp [bulkNodeRows, OrderedMap.gather]
  · rfl

/-- The node dictionary holds the assignments of the user and, when there are groups, of the groups. -/
theorem mem_bulkGrants_nodePerms (getPoolPermissions : Int → List PoolGrant) (nodeId : Option Int) :
    action ∈ (bulkGrants db getPoolPermissions userId).nodePerms.members nodeId ↔
      NodeGrant db userId nodeId action := by
  rw [bulkGrants_nodePerms, OrderedMap.mem_members_gather, OrderedMap.mem_members_gather, mem_bulkNodeRows,
    mem_bulkNodeRows]
  simp only [OrderedMap.members_empty, Finset.notMem_empty, false_or, List.mem_filter, Bool.and_eq_true,
    decide_eq_true_eq, List.contains_iff_mem, mem_getGroupIds, NodeGrant, Addresses]
  constructor
  · intro found
    rcases found with found | found
    · obtain ⟨row, ⟨stored, subject⟩, node, grants⟩ := found
      exact ⟨row, stored, node, .inl subject, grants⟩
    · obtain ⟨row, ⟨stored, subject⟩, node, grants⟩ := found
      exact ⟨row, stored, node, .inr subject, grants⟩
  · intro found
    obtain ⟨row, stored, node, subject, grants⟩ := found
    rcases subject with user | group
    · exact .inl ⟨row, ⟨stored, user⟩, node, grants⟩
    · exact .inr ⟨row, ⟨stored, group⟩, node, grants⟩

/-- The owner set forgets the kind of the owned guest. -/
theorem mem_bulkGrants_ownerVms (getPoolPermissions : Int → List PoolGrant) (nodeId : Option Int)
    (vmid : Int) :
    (nodeId, vmid) ∈ (bulkGrants db getPoolPermissions userId).ownerVms ↔
      ∃ kind, ActiveOwner db userId kind nodeId vmid := by
  simp only [bulkGrants, List.mem_map, List.mem_filter, Bool.and_eq_true, decide_eq_true_eq,
    Option.isNone_iff_eq_none, Prod.mk.injEq, ActiveOwner]
  constructor
  · intro found
    obtain ⟨owner, ⟨stored, user, active⟩, node, guest⟩ := found
    exact ⟨owner.resourceType, owner, stored, user, rfl, node, guest, active⟩
  · intro found
    obtain ⟨kind, owner, stored, user, same, node, guest, active⟩ := found
    exact ⟨owner, ⟨stored, user, active⟩, node, guest⟩

/-- The bulk resolver computes the access policy except that an owner row of any kind counts. -/
theorem mem_combined (getPoolPermissions : Int → List PoolGrant) (resource : Resource) :
    action ∈ (bulkGrants db getPoolPermissions userId).combined resource ↔
      DirectGrant db userId resource.nodeId resource.vmid resource.resourceType action ∨
        PoolGranted (getPoolPermissions userId) resource.nodeId resource.vmid action ∨
        NodeGrant db userId resource.nodeId action ∨
        ((∃ kind, ActiveOwner db userId kind resource.nodeId resource.vmid) ∧ action ∈ ownerActions) := by
  have owned (permissions : Finset Action) :
      (action ∈ if (bulkGrants db getPoolPermissions userId).ownerVms.contains
          (resource.nodeId, resource.vmid) then permissions ∪ ownerActions else permissions) ↔
        action ∈ permissions ∨ ((∃ kind, ActiveOwner db userId kind resource.nodeId resource.vmid) ∧
          action ∈ ownerActions) := by
    by_cases owns : (resource.nodeId, resource.vmid) ∈ (bulkGrants db getPoolPermissions userId).ownerVms
    · rw [if_pos (List.contains_iff_mem.mpr owns), Finset.mem_union,
        and_iff_right ((mem_bulkGrants_ownerVms db userId getPoolPermissions _ _).mp owns)]
    · rw [if_neg fun found => owns (List.contains_iff_mem.mp found)]
      simp only [mem_bulkGrants_ownerVms] at owns
      simp only [owns, false_and, or_false]
  have direct := mem_direct_lookups db userId action resource.nodeId resource.vmid resource.resourceType
  have pool := mem_gathered_poolRows action (getPoolPermissions userId) resource.nodeId resource.vmid
  unfold BulkGrants.combined
  rw [owned, Finset.mem_union, Finset.mem_union, Finset.mem_union, mem_bulkGrants_nodePerms, ← direct,
    ← pool, or_assoc, or_assoc]
  rfl

/-- Every action of the policy is in the bulk answer for the resource. -/
theorem Granted.mem_combined {db : Database} {userId : Int} {action : Action}
    {getPoolPermissions : Int → List PoolGrant} {resource : Resource}
    (granted : Granted db (getPoolPermissions userId) userId resource.nodeId resource.vmid
      resource.resourceType action) :
    action ∈ (bulkGrants db getPoolPermissions userId).combined resource := by
  rw [Access.mem_combined]
  cases granted with
  | direct grant => exact .inl grant
  | pool grant => exact .inr (.inl grant)
  | node grant => exact .inr (.inr (.inl grant))
  | owner owns member => exact .inr (.inr (.inr ⟨⟨resource.resourceType, owns⟩, member⟩))

end Gathered

/-- No stored row gives one kind of a listed node and guest more than the other listed kind has. -/
structure KindsAgree (db : Database) (pools : List PoolGrant) (userId : Int)
    (resources : List Resource) : Prop where
  owners : ∀ resource ∈ resources, ∀ kind, ActiveOwner db userId kind resource.nodeId resource.vmid →
    ∀ action ∈ ownerActions,
      Granted db pools userId resource.nodeId resource.vmid resource.resourceType action
  assignments : ∀ resource ∈ resources, ∀ other ∈ resources, other.key = resource.key → ∀ action,
    DirectGrant db userId other.nodeId other.vmid other.resourceType action →
      Granted db pools userId resource.nodeId resource.vmid resource.resourceType action

section Agreement
variable {db : Database} (getPoolPermissions : Int → List PoolGrant) {userId : Int}
  {resources : List Resource}

/-- When the kinds agree, the bulk answer of a listed resource is granted to each listed kind. -/
theorem KindsAgree.granted {getPoolPermissions : Int → List PoolGrant}
    (agree : KindsAgree db (getPoolPermissions userId) userId resources)
    {resource other : Resource} (listed : resource ∈ resources) (twin : other ∈ resources)
    (same : other.key = resource.key) {action : Action}
    (inside : action ∈ (bulkGrants db getPoolPermissions userId).combined other) :
    Granted db (getPoolPermissions userId) userId resource.nodeId resource.vmid
      resource.resourceType action := by
  have parts : other.nodeId = resource.nodeId ∧ other.vmid = resource.vmid := by
    simpa only [Resource.key, Prod.mk.injEq] using same
  rw [mem_combined] at inside
  rcases inside with direct | pool | node | ⟨⟨kind, owns⟩, member⟩
  · exact agree.assignments resource listed other twin same action direct
  · rw [parts.1, parts.2] at pool
    exact .pool pool
  · rw [parts.1] at node
    exact .node node
  · rw [parts.1, parts.2] at owns
    exact agree.owners resource listed kind owns action member

/-- The loop leaves the bulk answer of some listed resource with the same key. -/
theorem resolveUserVmAccess_members (ordinary : isAdmin db userId = false) {resource : Resource}
    (listed : resource ∈ resources) :
    ∃ other ∈ resources, other.key = resource.key ∧
      (resolveUserVmAccess db getPoolPermissions userId resources).1.members resource.key =
        (bulkGrants db getPoolPermissions userId).combined other := by
  have nonempty : resources.isEmpty = false := by
    simpa using List.ne_nil_of_mem listed
  simp only [resolveUserVmAccess, nonempty, ordinary, Bool.false_eq_true, if_false]
  rcases OrderedMap.members_storeNonempty Resource.key
    (bulkGrants db getPoolPermissions userId).combined resources OrderedMap.empty resource.key with
    ⟨silent, stored⟩ | ⟨other, twin, same, filled, stored⟩
  · exact ⟨resource, listed, rfl, stored.trans (silent resource listed rfl).symm⟩
  · exact ⟨other, twin, same, stored⟩

/-- An administrator holds every action in the bulk answer too. -/
theorem resolveUserVmAccess_members_admin (admin : isAdmin db userId = true) {resource : Resource}
    (listed : resource ∈ resources) :
    (resolveUserVmAccess db getPoolPermissions userId resources).1.members resource.key = allActions := by
  have nonempty : resources.isEmpty = false := by
    simpa using List.ne_nil_of_mem listed
  have filled : allActions ≠ ∅ := by decide
  have stores : (fun map resource => map.set (Resource.key resource) allActions) =
      OrderedMap.storeNonempty Resource.key fun _ => allActions := by
    funext map resource
    rw [OrderedMap.storeNonempty, if_neg filled]
  simp only [resolveUserVmAccess, nonempty, admin, Bool.false_eq_true, if_false, if_true, stores]
  rcases OrderedMap.members_storeNonempty Resource.key (fun _ => allActions) resources
    OrderedMap.empty resource.key with ⟨silent, stored⟩ | ⟨other, twin, same, filled, stored⟩
  · exact absurd (silent resource listed rfl) filled
  · exact stored

end Agreement

/-- The bulk answer equals the single answer on every listed resource exactly when the user is an
administrator or the listed kinds agree. -/
theorem resolveUserVmAccess_agrees_iff (db : Database) (getPoolPermissions : Int → List PoolGrant)
    (userId : Int) (resources : List Resource) :
    (∀ resource ∈ resources,
        (resolveUserVmAccess db getPoolPermissions userId resources).1.members resource.key =
          resolveUserPermissions db getPoolPermissions userId resource.nodeId resource.vmid
            resource.resourceType) ↔
      isAdmin db userId = true ∨ KindsAgree db (getPoolPermissions userId) userId resources := by
  cases admin : isAdmin db userId with
  | true =>
      simp only [true_or, iff_true]
      intro resource listed
      rw [resolveUserVmAccess_members_admin _ admin listed, resolveUserPermissions_admin _ _ _ _ _ _ admin]
  | false =>
      simp only [Bool.false_eq_true, false_or]
      constructor
      · intro equal
        refine ⟨?_, ?_⟩
        · intro resource listed kind owns action member
          rw [← mem_resolveUserPermissions _ _ _ _ _ _ _ admin, ← equal resource listed]
          obtain ⟨other, twin, same, stored⟩ := resolveUserVmAccess_members getPoolPermissions admin
            listed
          rw [Resource.key, Resource.key, Prod.mk.injEq] at same
          rw [stored, mem_combined, same.1, same.2]
          exact .inr (.inr (.inr ⟨⟨kind, owns⟩, member⟩))
        · intro resource listed other twin same action grant
          rw [← mem_resolveUserPermissions _ _ _ _ _ _ _ admin, ← equal resource listed, ← same,
            equal other twin, mem_resolveUserPermissions _ _ _ _ _ _ _ admin]
          exact .direct grant
      · intro agree resource listed
        obtain ⟨other, twin, same, stored⟩ := resolveUserVmAccess_members getPoolPermissions admin listed
        rw [stored]
        ext action
        rw [mem_resolveUserPermissions _ _ _ _ _ _ _ admin]
        constructor
        · intro inside
          exact agree.granted listed twin same inside
        · intro granted
          exact (agree.granted twin listed same.symm granted.mem_combined).mem_combined

/-- A viewer who owns only the machine 100 sees the owner actions on the container 100 as well. -/
theorem resolveUserVmAccess_disagrees :
    ¬ ∀ (db : Database) (getPoolPermissions : Int → List PoolGrant) (userId : Int)
      (resources : List Resource), ∀ resource ∈ resources,
        (resolveUserVmAccess db getPoolPermissions userId resources).1.members resource.key =
          resolveUserPermissions db getPoolPermissions userId resource.nodeId resource.vmid
            resource.resourceType := by
  intro agrees
  have equal := agrees
    { localUsers := [{ id := 7, username := "viewer", role := .viewer }]
      vmOwners := [⟨1, .vm, 1, 100, 7, .deploy, none, none⟩] }
    (fun _ => []) 7 [⟨some 1, 100, .lxc⟩] ⟨some 1, 100, .lxc⟩ (List.mem_singleton_self _)
  revert equal
  decide

/-- A preset counts when some stored row has its identifier. -/
def PresetStored (db : Database) (presetId : Int) : Prop := ∃ preset ∈ db.rolePresets, preset.id = presetId

/-- A user holds a grant when some row of one of the four kinds names the user, wherever it applies. -/
inductive HoldsGrant (db : Database) (pools : List PoolGrant) (userId : Int) : Prop where
  | direct (assignment : ResourceAssignment) (stored : assignment ∈ db.resourceAssignments)
      (own : assignment.userId = userId) (preset : PresetStored db assignment.presetId)
  | pool (grant : PoolGrant) (member : grant ∈ pools)
  | node (assignment : NodeAssignment) (stored : assignment ∈ db.nodeAssignments)
      (addressed : Addresses db userId assignment) (preset : PresetStored db assignment.rolePresetId)
  | owner (owner : VmOwner) (stored : owner ∈ db.vmOwners) (own : owner.userId = userId)
      (active : owner.deletedAt = none)

section
variable {db : Database} {userId : Int}

/-- A join over an assignment gives no row exactly when its preset is not stored. -/
theorem presetPermissions_eq_nil (presetId : Int) :
    presetPermissions db presetId = [] ↔ ¬ PresetStored db presetId := by
  simp [presetPermissions, PresetStored]

theorem bulkDirectRows_eq_nil :
    bulkDirectRows db userId = [] ↔ ∀ assignment ∈ db.resourceAssignments, assignment.userId = userId →
      ¬ PresetStored db assignment.presetId := by
  simp only [bulkDirectRows, List.flatMap_eq_nil_iff, List.mem_filter, decide_eq_true_eq,
    List.map_eq_nil_iff, presetPermissions_eq_nil, and_imp]

theorem bulkNodeRows_eq_nil (assignments : List NodeAssignment) :
    bulkNodeRows db assignments = [] ↔
      ∀ assignment ∈ assignments, ¬ PresetStored db assignment.rolePresetId := by
  simp only [bulkNodeRows, List.flatMap_eq_nil_iff, List.map_eq_nil_iff, presetPermissions_eq_nil]

/-- The maps of the bulk resolver stay empty exactly when the user holds no grant. -/
theorem bulkGrants_empty_iff {getPoolPermissions : Int → List PoolGrant} {grants : BulkGrants}
    (filled : grants = bulkGrants db getPoolPermissions userId) :
    (grants.directPerms.entries.isEmpty && grants.poolPerms.entries.isEmpty &&
        grants.nodePerms.entries.isEmpty && grants.ownerVms.isEmpty) = true ↔
      ¬ HoldsGrant db (getPoolPermissions userId) userId := by
  subst filled
  simp only [bulkGrants_nodePerms, Bool.and_eq_true, List.isEmpty_iff]
  simp only [bulkGrants, OrderedMap.gather_entries_eq_nil, bulkDirectRows_eq_nil, bulkNodeRows_eq_nil]
  constructor
  · rintro ⟨⟨⟨direct, pool⟩, node⟩, owner⟩ holds
    cases holds with
    | direct assignment stored own preset => exact direct.2 assignment stored own preset
    | pool grant member => exact List.ne_nil_of_mem (List.mem_map_of_mem member) pool.2
    | node assignment stored addressed preset =>
        rcases addressed with user | group
        · exact node.1.2 assignment (List.mem_filter.mpr ⟨stored, by simpa using user⟩) preset
        · refine node.2 assignment (List.mem_filter.mpr ⟨stored, ?_⟩) preset
          simpa only [Bool.and_eq_true, decide_eq_true_eq, List.contains_iff_mem, mem_getGroupIds] using group
    | owner row stored own active =>
        refine List.ne_nil_of_mem (List.mem_map_of_mem (List.mem_filter.mpr ⟨stored, ?_⟩)) owner
        simp [own, active]
  · intro none
    refine ⟨⟨⟨⟨rfl, ?_⟩, ⟨rfl, ?_⟩⟩, ⟨⟨rfl, ?_⟩, ?_⟩⟩, ?_⟩
    · intro assignment stored own preset
      exact none (.direct assignment stored own preset)
    · rw [bulkPoolRows, List.map_eq_nil_iff, List.eq_nil_iff_forall_not_mem]
      intro grant member
      exact none (.pool grant member)
    · intro assignment selected preset
      obtain ⟨stored, addressed⟩ := List.mem_filter.mp selected
      exact none (.node assignment stored (.inl (by simpa using addressed)) preset)
    · intro assignment selected preset
      obtain ⟨stored, addressed⟩ := List.mem_filter.mp selected
      simp only [Bool.and_eq_true, decide_eq_true_eq, List.contains_iff_mem, mem_getGroupIds] at addressed
      exact none (.node assignment stored (.inr addressed) preset)
    · rw [List.map_eq_nil_iff, List.filter_eq_nil_iff]
      intro row stored owned
      simp only [Bool.and_eq_true, decide_eq_true_eq, Option.isNone_iff_eq_none] at owned
      exact none (.owner row stored owned.1 owned.2)

/-- The flag of the bulk resolver tells whether the user holds a grant at all. -/
theorem resolveUserVmAccess_hasAnyGrant_iff {getPoolPermissions : Int → List PoolGrant}
    {resources : List Resource} (ordinary : isAdmin db userId = false) (listed : resources ≠ []) :
    (resolveUserVmAccess db getPoolPermissions userId resources).2 = true ↔
      HoldsGrant db (getPoolPermissions userId) userId := by
  simp only [resolveUserVmAccess, List.isEmpty_eq_false_iff.mpr listed, ordinary, Bool.false_eq_true, if_false]
  rw [Bool.not_eq_true', ← Bool.not_eq_true, bulkGrants_empty_iff rfl, not_not]

theorem resolveUserVmAccess_hasAnyGrant {getPoolPermissions : Int → List PoolGrant} {resource : Resource}
    (ordinary : isAdmin db userId = false) (holds : HoldsGrant db (getPoolPermissions userId) userId) :
    (resolveUserVmAccess db getPoolPermissions userId [resource]).2 = true :=
  (resolveUserVmAccess_hasAnyGrant_iff ordinary (List.cons_ne_nil _ _)).mpr holds
end
end P3Portal.Access
