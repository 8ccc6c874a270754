import P3Portal.Construction.Access.ClusterViews
import P3Portal.Proof.Access.BulkAgreement

namespace P3Portal.Access
open Schema Foundation Auth Http

/-- A user sees a guest when some grant path gives the view on it under one of its kinds. -/
def SeesGuest (db : Database) (pools : List PoolGrant) (userId : Int) (nodeId : Option Int) (vmid : Int) : Prop :=
  ∃ kind, Granted db pools userId nodeId vmid kind "view"

/-- The lists of guests are filtered for this account of the current user. -/
structure Filtered (db : Database) (getPoolPermissions : Int → List PoolGrant) (currentUser : CurrentUser)
    (user : LocalUser) : Prop where
  isLocal : currentUser.authType = .localUser
  notAdmin : currentUser.role ≠ .admin
  notOperator : currentUser.role ≠ .operator
  account : getUserByUsername db currentUser.username = some user
  ordinary : isAdmin db user.id = false
  narrowed : currentUser.role = .restricted ∨ HoldsGrant db (getPoolPermissions user.id) user.id

section Grants
variable {db : Database} {pools : List PoolGrant} {userId : Int}

theorem PresetGrants.stored {presetId : Int} {action : Action} (grants : PresetGrants db presetId action) :
    PresetStored db presetId := by
  obtain ⟨preset, stored, same, -⟩ := grants
  exact ⟨preset, stored, same⟩

/-- Who may do something on a guest holds a grant. -/
theorem Granted.holds {nodeId : Option Int} {vmid : Int} {kind : ResourceType} {action : Action}
    (granted : Granted db pools userId nodeId vmid kind action) : HoldsGrant db pools userId := by
  cases granted with
  | direct grant =>
      obtain ⟨assignment, stored, own, -, -, -, grants⟩ := grant
      exact .direct assignment stored own grants.stored
  | pool grant =>
      obtain ⟨grant, stored, -⟩ := grant
      exact .pool grant stored
  | node grant =>
      obtain ⟨assignment, stored, -, addressed, grants⟩ := grant
      exact .node assignment stored addressed grants.stored
  | owner owns member =>
      obtain ⟨owner, stored, own, -, -, -, active⟩ := owns
      exact .owner owner stored own active

end Grants

section Filter
variable {db : Database} {getPoolPermissions : Int → List PoolGrant} {currentUser : CurrentUser} {user : LocalUser}

/-- The bulk answer for a guest gives the view on it only to a user who sees it. -/
theorem sees_of_mem_members (ordinary : isAdmin db user.id = false) {resources : List Resource}
    {resource : Resource} (listed : resource ∈ resources)
    (view : "view" ∈ (resolveUserVmAccess db getPoolPermissions user.id resources).1.members resource.key) :
    SeesGuest db (getPoolPermissions user.id) user.id resource.nodeId resource.vmid := by
  obtain ⟨other, twin, same, stored⟩ := resolveUserVmAccess_members getPoolPermissions ordinary listed
  simp only [Resource.key, Prod.mk.injEq] at same
  rw [stored, mem_combined, same.1, same.2] at view
  rcases view with direct | pool | node | ⟨⟨kind, owns⟩, member⟩
  · exact ⟨_, .direct direct⟩
  · exact ⟨.vm, .pool pool⟩
  · exact ⟨.vm, .node node⟩
  · exact ⟨kind, .owner owns member⟩

/-- The loop of the filter keeps a guest exactly when the map gives the view on it. -/
theorem mem_keepViewed {permMap : PermMap} {vms : List VmInfo} {shown : VmInfo} :
    shown ∈ vms.filterMap (keepViewed permMap) ↔ ∃ vm ∈ vms, "view" ∈ permMap.members vm.resource.key ∧
      shown = { vm with permissions := some ((permMap.members vm.resource.key).sort (· ≤ ·)) } := by
  rw [List.mem_filterMap]
  apply exists_congr
  intro vm
  apply and_congr_right
  intro listed
  change (if "view" ∈ permMap.members vm.resource.key then _ else none) = _ ↔ _
  split
  · rename_i view
    simp only [Option.some.injEq, view, true_and]
    exact eq_comm
  · rename_i hidden
    simp [hidden]

/-- The flag of the bulk resolver decides how the list of a filtered user is made. -/
theorem Filtered.applyVmRbacFilter (filtered : Filtered db getPoolPermissions currentUser user) (vms : List VmInfo) :
    applyVmRbacFilter db getPoolPermissions currentUser vms =
      vms.filterMap (keepViewed
        (resolveUserVmAccess db getPoolPermissions user.id (vms.map VmInfo.resource)).1) := by
  simp only [Access.applyVmRbacFilter, filtered.isLocal, filtered.notAdmin, filtered.notOperator,
    filtered.account, ne_eq, not_false_eq_true, decide_true, Bool.and_self, if_true]
  by_cases none : vms = []
  · rw [none]
    simp
  · have listed : vms.map VmInfo.resource ≠ [] := fun empty => none (List.map_eq_nil_iff.mp empty)
    have flag : (resolveUserVmAccess db getPoolPermissions user.id (vms.map VmInfo.resource)).2 = true ↔ _ :=
      resolveUserVmAccess_hasAnyGrant_iff filtered.ordinary listed
    split
    · rfl
    · rename_i unset
      have without := fun holds => unset (flag.mpr holds)
      rw [if_pos (filtered.narrowed.resolve_right without)]
      symm
      rw [List.eq_nil_iff_forall_not_mem]
      intro shown member
      obtain ⟨vm, inside, view, -⟩ := mem_keepViewed.mp member
      obtain ⟨kind, granted⟩ := sees_of_mem_members filtered.ordinary (List.mem_map_of_mem inside) view
      exact without granted.holds

/-- A filtered user is shown only guests that some grant path reaches. -/
theorem Filtered.sees (filtered : Filtered db getPoolPermissions currentUser user) {vms : List VmInfo} {shown : VmInfo}
    (member : shown ∈ Access.applyVmRbacFilter db getPoolPermissions currentUser vms) :
    SeesGuest db (getPoolPermissions user.id) user.id shown.portalNodeId shown.vmid := by
  rw [filtered.applyVmRbacFilter] at member
  obtain ⟨vm, inside, view, rfl⟩ := mem_keepViewed.mp member
  exact sees_of_mem_members filtered.ordinary (List.mem_map_of_mem inside) view

/-- A guest that a grant path reaches is shown when it is listed under the kind of the grant. -/
theorem Filtered.shown (filtered : Filtered db getPoolPermissions currentUser user) {nodeId : Option Int} {vmid : Int}
    (sees : SeesGuest db (getPoolPermissions user.id) user.id nodeId vmid) (node : String) :
    ∃ vm : VmInfo, vm.portalNodeId = nodeId ∧ vm.vmid = vmid ∧ vm.node = node ∧
      ∃ shown ∈ Access.applyVmRbacFilter db getPoolPermissions currentUser [vm],
        shown.portalNodeId = nodeId ∧ shown.vmid = vmid ∧ shown.node = node := by
  obtain ⟨kind, granted⟩ := sees
  let vm : VmInfo := ⟨vmid, if kind = .lxc then "lxc" else "qemu", node, nodeId, none⟩
  have resource : vm.resource = ⟨nodeId, vmid, kind⟩ := by
    cases kind <;> rfl
  obtain ⟨other, twin, -, stored⟩ := resolveUserVmAccess_members getPoolPermissions filtered.ordinary
    (List.mem_singleton_self vm.resource)
  rw [List.mem_singleton] at twin
  have view : "view" ∈ (bulkGrants db getPoolPermissions user.id).combined vm.resource := by
    rw [resource]
    exact granted.mem_combined
  refine ⟨vm, rfl, rfl, rfl, ?_⟩
  rw [filtered.applyVmRbacFilter]
  have kept := mem_keepViewed.mpr ⟨vm, List.mem_singleton_self vm, by rwa [stored, twin], rfl⟩
  exact ⟨_, kept, rfl, rfl, rfl⟩

end Filter

/-- A node of the list hosts a guest when they agree on the name and on the portal node. -/
def Hosts (node : NodeInfo) (vm : VmInfo) : Prop := node.node = vm.node ∧ node.portalNodeId = vm.portalNodeId

/-- A direct assignment with a stored preset names the portal node. -/
def NamesNode (db : Database) (userId nodeId : Int) : Prop :=
  ∃ assignment ∈ db.resourceAssignments, assignment.userId = userId ∧ assignment.portalNodeId = some nodeId ∧
    PresetStored db assignment.presetId

/-- Every grant that gives the view somewhere gives it on a node that a direct assignment names. -/
structure NodesNamed (db : Database) (pools : List PoolGrant) (userId : Int) : Prop where
  legacy : ∀ assignment ∈ db.resourceAssignments, assignment.userId = userId → assignment.portalNodeId = none →
    ¬ PresetGrants db assignment.presetId "view"
  pool : ∀ grant ∈ pools, grant.vmid.isSome → "view" ∈ grant.permissions → NamesNode db userId grant.nodeId
  node : ∀ assignment ∈ db.nodeAssignments, Addresses db userId assignment →
    PresetGrants db assignment.rolePresetId "view" → NamesNode db userId assignment.nodeId
  owner : ∀ owner ∈ db.vmOwners, owner.userId = userId → owner.deletedAt = none → NamesNode db userId owner.nodeId

section NodeFilter
variable {db : Database} {userId : Int}

theorem mem_getUserPermissions {permission : UserPermission} :
    permission ∈ getUserPermissions db userId ↔ ∃ assignment ∈ db.resourceAssignments, assignment.userId = userId ∧
      ∃ permissions ∈ presetPermissions db assignment.presetId, permission =
        ⟨assignment.resourceType, assignment.resourceId, assignment.portalNodeId, permissions⟩ := by
  simp only [getUserPermissions, List.mem_flatMap, List.mem_filter, List.mem_map, decide_eq_true_eq, and_assoc,
    eq_comm (b := permission)]

theorem presetStored_iff (presetId : Int) : PresetStored db presetId ↔ ∃ row, row ∈ presetPermissions db presetId := by
  simp [presetPermissions, PresetStored]

/-- The node filter collects the nodes that the direct assignments name. -/
theorem mem_assignedNodeIds {nodeId : Int} :
    nodeId ∈ (getUserPermissions db userId).filterMap UserPermission.portalNodeId ↔ NamesNode db userId nodeId := by
  simp only [List.mem_filterMap, mem_getUserPermissions, NamesNode, presetStored_iff]
  constructor
  · rintro ⟨permission, ⟨assignment, stored, own, row, joined, rfl⟩, named⟩
    exact ⟨assignment, stored, own, named, row, joined⟩
  · rintro ⟨assignment, stored, own, named, row, joined⟩
    exact ⟨_, ⟨assignment, stored, own, row, joined, rfl⟩, named⟩

/-- The node filter drops nothing when no node is named, and else it keeps the named nodes. -/
theorem mem_filterNodesForRbacUser {nodes : List NodeInfo} {node : NodeInfo} :
    node ∈ filterNodesForRbacUser db userId nodes ↔ node ∈ nodes ∧
      ((∀ nodeId, ¬ NamesNode db userId nodeId) ∨
        ∃ nodeId, node.portalNodeId = some nodeId ∧ NamesNode db userId nodeId) := by
  have unnamed : ((getUserPermissions db userId).filterMap UserPermission.portalNodeId).isEmpty = true ↔
      ∀ nodeId, ¬ NamesNode db userId nodeId := by
    rw [List.isEmpty_iff, List.eq_nil_iff_forall_not_mem]
    simp only [mem_assignedNodeIds]
  simp only [filterNodesForRbacUser]
  split
  · rename_i empty
    simp [unnamed.mp empty]
  · rename_i filled
    have some : ¬ ∀ nodeId, ¬ NamesNode db userId nodeId := fun all => filled (unnamed.mpr all)
    simp only [List.mem_filter, Option.any_eq_true, List.contains_iff_mem, mem_assignedNodeIds, some, false_or]

end NodeFilter

/-- The node filter keeps every node that hosts a shown guest. -/
def NodesCover (db : Database) (getPoolPermissions : Int → List PoolGrant) (currentUser : CurrentUser)
    (userId : Int) : Prop :=
  ∀ (nodes : List NodeInfo) (vms : List VmInfo), ∀ node ∈ nodes,
    ∀ vm ∈ applyVmRbacFilter db getPoolPermissions currentUser vms, Hosts node vm →
      node ∈ filterNodesForRbacUser db userId nodes

section Cover
variable {db : Database} {getPoolPermissions : Int → List PoolGrant} {currentUser : CurrentUser} {user : LocalUser}

/-- Once a node is named, a user who is shown a guest of a node has the node named. -/
theorem NodesCover.named (cover : NodesCover db getPoolPermissions currentUser user.id)
    (filtered : Filtered db getPoolPermissions currentUser user)
    (some : ¬ ∀ nodeId, ¬ NamesNode db user.id nodeId) {nodeId : Option Int} {vmid : Int}
    (sees : SeesGuest db (getPoolPermissions user.id) user.id nodeId vmid) :
    ∃ named, nodeId = Option.some named ∧ NamesNode db user.id named := by
  obtain ⟨vm, -, -, -, shown, member, node, -, name⟩ := filtered.shown sees ""
  have kept := cover [⟨"", nodeId⟩] [vm] ⟨"", nodeId⟩ (List.mem_singleton_self _) shown member
    ⟨name.symm, node.symm⟩
  exact (mem_filterNodesForRbacUser.mp kept).2.resolve_left some

/-- Named nodes cover every guest that a grant reaches. -/
theorem NodesNamed.named {pools : List PoolGrant} {userId : Int} (named : NodesNamed db pools userId)
    {nodeId : Option Int} {vmid : Int} (sees : SeesGuest db pools userId nodeId vmid) :
    ∃ node, nodeId = some node ∧ NamesNode db userId node := by
  obtain ⟨kind, granted⟩ := sees
  cases granted with
  | direct grant =>
      obtain ⟨assignment, stored, own, -, -, applies, grants⟩ := grant
      rcases applies with legacy | ⟨node, bound, here⟩
      · exact absurd grants (named.legacy assignment stored own legacy)
      · exact ⟨node, here, assignment, stored, own, bound, grants.stored⟩
  | pool grant =>
      obtain ⟨grant, stored, here, guest, view⟩ := grant
      exact ⟨grant.nodeId, here.symm, named.pool grant stored (by simp [guest]) view⟩
  | node grant =>
      obtain ⟨assignment, stored, here, addressed, grants⟩ := grant
      exact ⟨assignment.nodeId, here.symm, named.node assignment stored addressed grants⟩
  | owner owns member =>
      obtain ⟨owner, stored, own, -, here, -, active⟩ := owns
      exact ⟨owner.nodeId, here.symm, named.owner owner stored own active⟩

/-- The node filter covers the guest filter exactly when no direct assignment names a node or every grant
that gives the view is on a named node. -/
theorem filterNodesForRbacUser_covers_iff (filtered : Filtered db getPoolPermissions currentUser user) :
    NodesCover db getPoolPermissions currentUser user.id ↔
      (∀ nodeId, ¬ NamesNode db user.id nodeId) ∨ NodesNamed db (getPoolPermissions user.id) user.id := by
  constructor
  · intro cover
    by_cases unnamed : ∀ nodeId, ¬ NamesNode db user.id nodeId
    · exact .inl unnamed
    · right
      refine ⟨?_, ?_, ?_, ?_⟩
      · intro assignment stored own legacy grants
        have grant : DirectGrant db user.id none assignment.resourceId assignment.resourceType "view" :=
          ⟨assignment, stored, own, rfl, rfl, .inl legacy, grants⟩
        obtain ⟨node, absent, -⟩ := cover.named filtered unnamed ⟨_, .direct grant⟩
        cases absent
      · intro grant stored guest view
        obtain ⟨vmid, guest⟩ := Option.isSome_iff_exists.mp guest
        have reached : PoolGranted (getPoolPermissions user.id) (some grant.nodeId) vmid "view" :=
          ⟨grant, stored, rfl, guest, view⟩
        obtain ⟨node, here, named⟩ := cover.named filtered unnamed ⟨.vm, .pool reached⟩
        rwa [Option.some.inj here]
      · intro assignment stored addressed grants
        have grant : NodeGrant db user.id (some assignment.nodeId) "view" :=
          ⟨assignment, stored, rfl, addressed, grants⟩
        have sees : SeesGuest db (getPoolPermissions user.id) user.id (some assignment.nodeId) 0 :=
          ⟨.vm, .node grant⟩
        obtain ⟨node, here, named⟩ := cover.named filtered unnamed sees
        rwa [Option.some.inj here]
      · intro owner stored own active
        have owns : ActiveOwner db user.id owner.resourceType (some owner.nodeId) owner.vmid :=
          ⟨owner, stored, own, rfl, rfl, rfl, active⟩
        obtain ⟨node, here, named⟩ := cover.named filtered unnamed ⟨_, .owner owns (by decide)⟩
        rwa [Option.some.inj here]
  · intro condition nodes vms node listed vm shown hosts
    rw [mem_filterNodesForRbacUser]
    refine ⟨listed, ?_⟩
    rcases condition with unnamed | named
    · exact .inl unnamed
    · have here := named.named (filtered.sees shown)
      rw [← hosts.2] at here
      exact .inr here

end Cover

/-- Viewer 7 may view guest 100 on node 1 through an assignment and owns guest 200 on node 2. -/
def twoNodes : Database where
  localUsers := [{ id := 7, username := "viewer", role := .viewer }]
  rolePresets := [⟨1, ["view"], []⟩]
  resourceAssignments := [⟨1, 7, .vm, 100, some 1, 1⟩]
  vmOwners := [⟨1, .vm, 2, 200, 7, .deploy, none, none⟩]

theorem twoNodes_filtered : Filtered twoNodes (fun _ => [])
    { username := "viewer", authType := .localUser, role := .viewer, userId := some 7 }
    { id := 7, username := "viewer", role := .viewer } :=
  ⟨rfl, by decide, by decide, by decide, by decide,
    .inr (.owner ⟨1, .vm, 2, 200, 7, .deploy, none, none⟩ (by decide) rfl rfl)⟩

theorem filterNodesForRbacUser_covers_twoNodes :
    NodesCover twoNodes (fun _ => [])
        { username := "viewer", authType := .localUser, role := .viewer, userId := some 7 } 7 ↔
      (∀ nodeId, ¬ NamesNode twoNodes 7 nodeId) ∨ NodesNamed twoNodes [] 7 :=
  filterNodesForRbacUser_covers_iff twoNodes_filtered

/-- The viewer is shown guest 200 and not the node that hosts it. -/
theorem filterNodesForRbacUser_hides_host :
    ¬ ∀ (db : Database) (getPoolPermissions : Int → List PoolGrant) (currentUser : CurrentUser) (user : LocalUser),
      Filtered db getPoolPermissions currentUser user →
        NodesCover db getPoolPermissions currentUser user.id := by
  intro covers
  have cover := covers twoNodes _ _ _ twoNodes_filtered
  have owns : ActiveOwner twoNodes 7 .vm (some 2) 200 :=
    ⟨⟨1, .vm, 2, 200, 7, .deploy, none, none⟩, by decide, rfl, rfl, rfl, rfl, rfl⟩
  obtain ⟨vm, -, -, -, shown, member, node, -, name⟩ :=
    twoNodes_filtered.shown ⟨.vm, .owner owns (by decide)⟩ "pve2"
  have kept := cover [⟨"pve1", some 1⟩, ⟨"pve2", some 2⟩] [vm] ⟨"pve2", some 2⟩ (by decide) shown member
    ⟨name.symm, node.symm⟩
  revert kept
  decide

section Guards
variable {db : Database} {user : CurrentUser} {node : String} {action : Action}

structure LocalViewer (user : CurrentUser) : Prop where
  authType : user.authType = .localUser
  role : user.role = .viewer

/-- The resolver grants the user the action on the portal node that the Proxmox node belongs to. -/
def HoldsRight (db : Database) (user : CurrentUser) (node : String) (action : Action) : Prop :=
  ∃ userId portalNode, user.userId = some userId ∧ Nodes.getNodeForProxmoxName db node = some portalNode ∧
    resolveNodeAction db userId portalNode.id action = true

/-- The check raises for every user and every node that is found. -/
theorem checkNodeAction_error {userId : Int} {portalNode : NodeRow} (known : user.userId = some userId)
    (found : Nodes.getNodeForProxmoxName db node = some portalNode) :
    checkNodeAction db user node action = .error .typeError := by
  unfold checkNodeAction
  rw [known]
  simp only [found]
  rfl

/-- Passing over the exception leaves the refusal, so no grant state allows an action. -/
theorem allowsNodeAction_eq_false (db : Database) (user : CurrentUser) (node : String) (action : Action) :
    allowsNodeAction db user node action = false := by
  unfold allowsNodeAction
  cases known : user.userId with
  | none =>
      unfold checkNodeAction
      rw [known]
      rfl
  | some userId =>
      cases found : Nodes.getNodeForProxmoxName db node with
      | none =>
          unfold checkNodeAction
          rw [known]
          simp only [found]
          rfl
      | some portalNode =>
          rw [checkNodeAction_error known found]
          rfl

theorem LocalViewer.not_operator (viewer : LocalViewer user) : isOperator user = false := by
  unfold isOperator
  rw [viewer.authType, viewer.role]
  rfl

/-- A local viewer is refused at every endpoint, and at most the audit log grows. -/
theorem enter_refused (viewer : LocalViewer user) (endpoint : NodeEndpoint) (configured : String)
    (requested : Option String) (now : String) :
    (∃ detail, (endpoint.enter configured db user requested now).2 = .error ⟨403, detail⟩) ∧
      ∃ notes, (endpoint.enter configured db user requested now).1 = { db with auditLogs := db.auditLogs ++ notes } := by
  have refused : ∀ action detail name, requireNodeAction action detail db user name = .error ⟨403, detail⟩ := by
    intro action detail name
    unfold requireNodeAction
    rw [viewer.not_operator, allowsNodeAction_eq_false]
    rfl
  have noted : ∀ name, (∃ detail, (requireIsoUploadPermission db user name now).2 = .error ⟨403, detail⟩) ∧
      ∃ notes, (requireIsoUploadPermission db user name now).1 = { db with auditLogs := db.auditLogs ++ notes } := by
    intro name
    unfold requireIsoUploadPermission
    rw [viewer.not_operator, allowsNodeAction_eq_false]
    exact ⟨⟨_, rfl⟩, _, rfl⟩
  have unchanged : db = { db with auditLogs := db.auditLogs ++ [] } := by rw [List.append_nil]
  cases endpoint with
  | getNodeTasks => exact ⟨⟨_, refused _ _ _⟩, [], unchanged⟩
  | getNodeBackups => exact ⟨⟨_, refused _ _ _⟩, [], unchanged⟩
  | downloadIso => exact noted _
  | deleteProxmoxIso => exact noted _

end Guards

/-- The endpoints follow the right of a local viewer exactly when the viewer does not hold it. -/
theorem admitted_iff_right_iff (db : Database) (user : CurrentUser) (viewer : LocalViewer user)
    (endpoint : NodeEndpoint) (configured : String) (requested : Option String) (now : String) :
    ((endpoint.enter configured db user requested now).2 = .ok () ↔
        HoldsRight db user (endpoint.target configured requested) endpoint.action) ↔
      ¬ HoldsRight db user (endpoint.target configured requested) endpoint.action := by
  obtain ⟨⟨detail, refused⟩, -⟩ := @enter_refused db user viewer endpoint configured requested now
  rw [refused]
  constructor
  · intro same right
    cases same.mpr right
  · intro none
    exact iff_of_false (fun impossible => nomatch impossible) none

section Vera

/-- Vera may view the tasks of the only node. -/
def veraDb : Database where
  localUsers := [{ id := 1, username := "vera" }]
  nodes := [{ id := 7, name := "lab", url := "https://pve:8006", proxmoxNode := "pve" }]
  rolePresets := [{ id := 3, nodeActions := ["node:view_tasks"] }]
  nodeAssignments := [{ id := 1, nodeId := 7, subjectType := .user, subjectId := 1, rolePresetId := 3 }]

def vera : CurrentUser where
  username := "vera"
  authType := .localUser
  role := .viewer
  userId := some 1

/-- Vera may not view the backups, and is refused there. -/
theorem backups_refused : (NodeEndpoint.enter .getNodeBackups "pve" veraDb vera (some "pve") "t1").2 = .ok () ↔
    HoldsRight veraDb vera "pve" "node:view_backups" := by
  apply (admitted_iff_right_iff veraDb vera ⟨rfl, rfl⟩ .getNodeBackups "pve" (some "pve") "t1").mpr
  rintro ⟨userId, portalNode, ⟨⟩, ⟨⟩, granted⟩
  revert granted
  decide +kernel

/-- Vera holds the right to view the tasks and is refused. -/
theorem right_without_effect : HoldsRight veraDb vera "pve" "node:view_tasks" ∧
    (NodeEndpoint.enter .getNodeTasks "pve" veraDb vera (some "pve") "t1").2 =
      .error ⟨403, "node_view_tasks_not_authorized"⟩ :=
  ⟨⟨1, _, rfl, rfl, by decide +kernel⟩, rfl⟩

end Vera
end P3Portal.Access
