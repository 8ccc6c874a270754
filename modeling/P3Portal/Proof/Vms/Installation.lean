import P3Portal.Construction.Vms.VmAccess
import P3Portal.Foundation.Outcome
import P3Portal.Proof.Access.Grants
import P3Portal.Proof.Nodes.Lookup

namespace P3Portal.Vms
open Schema Foundation Http Auth Nodes Proxmox Access

section Located
variable (installations : Installations) (user : CurrentUser) (vmid : Int)

/-- The guests that an installation lists for the credentials of the user; none when a step fails. -/
def listing (node : NodeRow) : List ClusterResource :=
  match buildAuthForNode installations user node with
  | .error _ => []
  | .ok auth => match installations.getClusterResources (clientForNode node) auth with
      | .error _ => []
      | .ok resources => resources

/-- The first listed entry with the number is the guest of the request. -/
def guestEntry (node : NodeRow) : Option ClusterResource :=
  (listing installations user node).find? fun resource => resource.vmid.getD (-1) = vmid

/-- The access to an entry names the installation that listed it. -/
def accessTo (report : Option String → String) (node : NodeRow) (auth : ProxmoxAuth)
    (entry : ClusterResource) : VmAccess where
  portalNode := node
  auth := auth
  pveNode := report entry.node
  vmType := entry.type.getD "qemu"

variable {installations user vmid} {access : VmAccess}

/-- A lookup succeeds exactly with the entry of the guest and the credentials built for the node. -/
theorem locateOn_eq_ok {report : Option String → String} {node : NodeRow} :
    locateOn installations user vmid report node = .ok (some access) ↔
      ∃ auth entry, buildAuthForNode installations user node = .ok auth ∧
        guestEntry installations user vmid node = some entry ∧ accessTo report node auth entry = access := by
  unfold locateOn guestEntry listing
  cases built : buildAuthForNode installations user node with
  | error failure => simp
  | ok auth =>
      simp only [Outcome.ok_bind]
      cases listed : installations.getClusterResources (clientForNode node) auth with
      | error error => simp
      | ok resources => simp [accessTo]

/-- A lookup that does not succeed has met no entry of the guest. -/
theorem locateOn_absent {report : Option String → String} {node : NodeRow} :
    (∀ access, locateOn installations user vmid report node ≠ .ok (some access)) ↔
      guestEntry installations user vmid node = none := by
  cases found : guestEntry installations user vmid node with
  | none => simp [locateOn_eq_ok, found]
  | some entry =>
      simp only [reduceCtorEq, iff_false, not_forall, not_not]
      unfold guestEntry listing at found
      cases built : buildAuthForNode installations user node with
      | error failure => simp [built] at found
      | ok auth =>
          refine ⟨accessTo report node auth entry, locateOn_eq_ok.mpr ⟨auth, entry, built, ?_, rfl⟩⟩
          unfold guestEntry listing
          exact found

theorem foundOr_eq_ok {detail : String} {found : Except Failure (Option VmAccess)} :
    foundOr detail found = .ok access ↔ found = .ok (some access) := by
  cases found with
  | error failure => simp [foundOr]
  | ok located => cases located <;> simp [foundOr, raise]

/-- The answer of a single lookup, in the terms of the node that was asked. -/
theorem foundOr_locateOn {detail : String} (report : NodeRow → Option String → String) {node : NodeRow} :
    foundOr detail (locateOn installations user vmid (report node) node) = .ok access ↔
      ∃ chosen entry auth, (some node = some chosen ∧ guestEntry installations user vmid chosen = some entry) ∧
        buildAuthForNode installations user chosen = .ok auth ∧
        accessTo (report chosen) chosen auth entry = access := by
  rw [foundOr_eq_ok, locateOn_eq_ok]
  constructor
  · intro found
    obtain ⟨auth, entry, built, listed, same⟩ := found
    exact ⟨node, entry, auth, ⟨rfl, listed⟩, built, same⟩
  · intro found
    obtain ⟨chosen, entry, auth, ⟨asked, listed⟩, built, same⟩ := found
    rw [Option.some.inj asked]
    exact ⟨auth, entry, built, listed, same⟩

/-- The access that a lookup found, if any. -/
theorem toOption_join_eq_some {found : Except Failure (Option VmAccess)} :
    found.toOption.join = some access ↔ found = .ok (some access) := by
  cases found with
  | error failure => simp [Except.toOption]
  | ok located => simp [Except.toOption]

/-- A lookup finds nothing exactly when the installation does not list the guest. -/
theorem toOption_join_eq_none {report : Option String → String} {node : NodeRow} :
    (locateOn installations user vmid report node).toOption.join = none ↔
      guestEntry installations user vmid node = none := by
  calc (locateOn installations user vmid report node).toOption.join = none
      ↔ ∀ access, locateOn installations user vmid report node ≠ .ok (some access) := by
        rw [Option.eq_none_iff_forall_ne_some]
        simp only [ne_eq, toOption_join_eq_some]
    _ ↔ guestEntry installations user vmid node = none := locateOn_absent

/-- The fan-out is a search for the first lookup that succeeds. -/
theorem firstFound_eq_findSome (nodes : List NodeRow) :
    firstFound installations user vmid nodes = nodes.findSome? fun node =>
      (locateOn installations user vmid (fun name => Text.orElse name node.name) node).toOption.join := by
  induction nodes with
  | nil => rfl
  | cons node rest ih =>
      rw [List.findSome?_cons, firstFound, ih]
      cases locateOn installations user vmid (fun name => Text.orElse name node.name) node with
      | error failure => rfl
      | ok found =>
          cases found with
          | none => rfl
          | some access => rfl

/-- The fan-out hands out the entry of the first node that lists the guest. -/
theorem firstFound_eq_some (nodes : List NodeRow) :
    firstFound installations user vmid nodes = some access ↔
      ∃ earlier node later, nodes = earlier ++ node :: later ∧
        locateOn installations user vmid (fun name => Text.orElse name node.name) node = .ok (some access) ∧
        ∀ other ∈ earlier, guestEntry installations user vmid other = none := by
  rw [firstFound_eq_findSome, List.findSome?_eq_some_iff]
  simp only [toOption_join_eq_some, toOption_join_eq_none]

end Located

section Request
variable (db : Database) (installations : Installations) (canUseClusterResources : Bool)
  (user : CurrentUser) (vmid : Int) (proxmoxNode : Option String)

/-- A named node is asked alone; in Plus a local user's request asks every node, in the order of the
list, and otherwise the default node is asked. -/
def askedNodes : List NodeRow :=
  match Text.truthy proxmoxNode with
  | some name => (preferred db.nodes name).toList
  | none => if canUseClusterResources && user.authType ≠ .proxmox then listNodes db
      else (getDefaultNode db).toList

/-- A missing node name is replaced by the asked name, by the portal name of the node or by a text. -/
def reportedName (node : NodeRow) (name : Option String) : String :=
  match Text.truthy proxmoxNode with
  | some asked => Text.orElse name asked
  | none => if canUseClusterResources && user.authType ≠ .proxmox then Text.orElse name node.name
      else name.getD "None"

/-- A portal node serves the request when it is the first asked one whose installation lists the guest. -/
def Serves (node : NodeRow) (entry : ClusterResource) : Prop :=
  ∃ earlier later, askedNodes db canUseClusterResources user proxmoxNode = earlier ++ node :: later ∧
    (∀ other ∈ earlier, guestEntry installations user vmid other = none) ∧
    guestEntry installations user vmid node = some entry

variable {db installations canUseClusterResources user vmid proxmoxNode} {access : VmAccess}

/-- At most one node is asked when the lookup does not fan out. -/
theorem serves_single {chosen : Option NodeRow} {node : NodeRow} {entry : ClusterResource}
    (asked : askedNodes db canUseClusterResources user proxmoxNode = chosen.toList) :
    Serves db installations canUseClusterResources user vmid proxmoxNode node entry ↔
      chosen = some node ∧ guestEntry installations user vmid node = some entry := by
  unfold Serves
  rw [asked]
  cases chosen with
  | none => simp
  | some only =>
      simp only [Option.toList_some, List.cons_eq_append_iff, List.nil_eq, List.append_eq_nil_iff,
        reduceCtorEq, and_false, exists_false, or_false, Option.some.injEq, List.cons.injEq]
      constructor
      · intro found
        obtain ⟨earlier, later, ⟨nothing, same, last⟩, missed, listed⟩ := found
        exact ⟨same.symm, listed⟩
      · intro found
        exact ⟨[], [], ⟨rfl, found.1.symm, rfl⟩, by simp, found.2⟩

/-- The lookup of a guest hands out the entry of the serving node with the node's own credentials. -/
theorem resolveVmAccess_eq_ok :
    resolveVmAccess db installations canUseClusterResources user vmid proxmoxNode = .ok access ↔
      ∃ node entry auth, Serves db installations canUseClusterResources user vmid proxmoxNode node entry ∧
        buildAuthForNode installations user node = .ok auth ∧
        accessTo (reportedName canUseClusterResources user proxmoxNode node) node auth entry = access := by
  unfold resolveVmAccess
  cases named : Text.truthy proxmoxNode with
  | some name =>
      have asked : askedNodes db canUseClusterResources user proxmoxNode = (preferred db.nodes name).toList := by
        simp only [askedNodes, named]
      have report (node : NodeRow) : reportedName canUseClusterResources user proxmoxNode node =
          fun found => Text.orElse found name := by
        funext found
        simp only [reportedName, named]
      have filled := ((Text.truthy_eq_some _ _).mp named).2
      simp only [serves_single asked, report, getNodeForProxmoxName_preferred db filled]
      cases chosen : preferred db.nodes name with
      | none => simp [raise]
      | some node =>
          exact foundOr_locateOn fun _ found => Text.orElse found name
  | none =>
      simp only
      by_cases fanOut : (canUseClusterResources && decide (user.authType ≠ .proxmox)) = true
      · rw [if_pos fanOut]
        have asked : askedNodes db canUseClusterResources user proxmoxNode = listNodes db := by
          simp only [askedNodes, named, if_pos fanOut]
        have report (node : NodeRow) : reportedName canUseClusterResources user proxmoxNode node =
            fun found => Text.orElse found node.name := by
          funext found
          simp only [reportedName, named, if_pos fanOut]
        simp only [Serves, asked, report]
        cases listNodes db with
        | nil => simp [raise]
        | cons first rest =>
            simp only [List.isEmpty_cons, Bool.false_eq_true, if_false, foundOr_eq_ok, Except.ok.injEq,
              firstFound_eq_some, locateOn_eq_ok]
            constructor
            · intro found
              obtain ⟨earlier, node, later, split, ⟨auth, entry, built, listed, same⟩, missed⟩ := found
              exact ⟨node, entry, auth, ⟨earlier, later, split, missed, listed⟩, built, same⟩
            · intro found
              obtain ⟨node, entry, auth, ⟨earlier, later, split, missed, listed⟩, built, same⟩ := found
              exact ⟨earlier, node, later, split, ⟨auth, entry, built, listed, same⟩, missed⟩
      · rw [if_neg fanOut]
        have asked : askedNodes db canUseClusterResources user proxmoxNode = (getDefaultNode db).toList := by
          simp only [askedNodes, named, if_neg fanOut]
        have report (node : NodeRow) : reportedName canUseClusterResources user proxmoxNode node =
            fun found => found.getD "None" := by
          funext found
          simp only [reportedName, named, if_neg fanOut]
        simp only [serves_single asked, report]
        cases chosen : getDefaultNode db with
        | none => simp [raise]
        | some node =>
            exact foundOr_locateOn fun _ found => found.getD "None"

/-- The nodes that a request asks are configured. -/
theorem mem_askedNodes {node : NodeRow} (asked : node ∈ askedNodes db canUseClusterResources user proxmoxNode) :
    node ∈ db.nodes := by
  unfold askedNodes at asked
  split at asked
  · rename_i name named
    rw [Option.mem_toList] at asked
    rw [← getNodeForProxmoxName_preferred db ((Text.truthy_eq_some _ _).mp named).2] at asked
    exact getNodeForProxmoxName_mem asked
  · split at asked
    · exact (List.mem_insertionSort _).mp asked
    · exact getDefaultNode_mem (Option.mem_toList.mp asked)

end Request

section Check
variable {db : Database} {getPoolPermissions : Int → List PoolGrant} {user : CurrentUser} {vmid : Int}

/-- A scoped role passes the check exactly with the action on the node that the name resolves to. -/
theorem checkRbac_scoped {vmType : String} {action : Action} {pveNode : Option String}
    (login : user.authType = .localUser) (limited : user.role ≠ .admin ∧ user.role ≠ .operator) :
    checkRbac db getPoolPermissions user vmid vmType action pveNode = .ok () ↔
      ∃ row, getUserByUsername db user.username = some row ∧
        action ∈ resolveUserPermissions db getPoolPermissions row.id (checkedNodeId db pveNode) vmid
          (resourceTypeOf vmType) := by
  unfold checkRbac
  cases known : getUserByUsername db user.username with
  | none => simp [login, limited, raise]
  | some row => simp [login, limited, raise]

/-- An operator passes the check without any grant, by design. -/
theorem checkRbac_operator {vmType : String} {action : Action} {pveNode : Option String}
    (operator : user.role = .operator) :
    checkRbac db getPoolPermissions user vmid vmType action pveNode = .ok () := by
  simp [checkRbac, operator]

/-- The check looks the reported name up once more. -/
theorem checkedNodeId_eq (name : String) :
    checkedNodeId db (some name) = if name = "" then none else (preferred db.nodes name).map NodeRow.id := by
  unfold checkedNodeId
  by_cases blank : name = ""
  · simp [Text.truthy, Option.filter, blank]
  · simp [Text.truthy, Option.filter, blank, getNodeForProxmoxName_preferred]

end Check

/-- A request is authorized exactly when the guest is located and the check passes on it. -/
theorem authorizeVmRequest_ok {db : Database} {getPoolPermissions : Int → List PoolGrant}
    {installations : Installations} {canUseClusterResources : Bool} {user : CurrentUser} {vmid : Int}
    {proxmoxNode : Option String} {action : Action} {access : VmAccess} :
    authorizeVmRequest db getPoolPermissions installations canUseClusterResources user vmid
        proxmoxNode action = .ok access ↔
      resolveVmAccess db installations canUseClusterResources user vmid proxmoxNode = .ok access ∧
        checkRbac db getPoolPermissions user vmid access.vmType action (some access.pveNode) =
          .ok () := by
  unfold authorizeVmRequest
  rw [Outcome.bind_eq_ok]
  constructor
  · intro found
    obtain ⟨located, resolved, rest⟩ := found
    obtain ⟨passed, checked, returned⟩ := Outcome.bind_eq_ok.mp rest
    rw [← Except.ok.inj returned]
    exact ⟨resolved, checked⟩
  · intro both
    exact ⟨access, both.1, Outcome.bind_eq_ok.mpr ⟨(), both.2, rfl⟩⟩

section Property
variable (db : Database) (getPoolPermissions : Int → List PoolGrant) (installations : Installations)
  (canUseClusterResources : Bool) (user : CurrentUser) (vmid : Int) (proxmoxNode : Option String)
  (action : Action) (access : VmAccess)

/-- The user holds the action on the portal node that the access belongs to. -/
def HoldsThere : Prop :=
  ∃ row, getUserByUsername db user.username = some row ∧
    action ∈ resolveUserPermissions db getPoolPermissions row.id (some access.portalNode.id) vmid
      (resourceTypeOf access.vmType)

/-- The client and the credentials are those of one configured node, on which the user holds the action. -/
structure SameInstallation : Prop where
  configured : access.portalNode ∈ db.nodes
  credentials : buildAuthForNode installations user access.portalNode = .ok access.auth
  holds : HoldsThere db getPoolPermissions user vmid action access

/-- A reported name leads back to its node when no other node is preferred for it. -/
def LeadsBack (nodes : List NodeRow) (node : NodeRow) (name : String) : Prop :=
  name = "" ∨ ∀ owner, preferred nodes name = some owner → owner.id = node.id

/-- The names of the configuration and of the listings let no check run on a foreign installation. -/
def Unambiguous : Prop :=
  ∀ node entry, Serves db installations canUseClusterResources user vmid proxmoxNode node entry →
    user.role ≠ .operator ∧
      LeadsBack db.nodes node (reportedName canUseClusterResources user proxmoxNode node entry.node)

end Property

/-- A grant that counts on the node of an unambiguous name counts on the installation that listed it. -/
theorem LeadsBack.member {db : Database} {getPoolPermissions : Int → List PoolGrant} {node : NodeRow}
    {name : String} (back : LeadsBack db.nodes node name) {userId vmid : Int} {kind : ResourceType}
    {action : Action}
    (allowed : action ∈ resolveUserPermissions db getPoolPermissions userId
      (checkedNodeId db (some name)) vmid kind) :
    action ∈ resolveUserPermissions db getPoolPermissions userId (some node.id) vmid kind := by
  rw [checkedNodeId_eq] at allowed
  rcases back with blank | same
  · rw [if_pos blank] at allowed
    exact resolveUserPermissions_anyNode allowed _
  · split at allowed
    · exact resolveUserPermissions_anyNode allowed _
    · cases owned : preferred db.nodes name with
      | none =>
          rw [owned] at allowed
          exact resolveUserPermissions_anyNode allowed _
      | some owner =>
          rw [owned, Option.map_some, same owner owned] at allowed
          exact allowed

section Grants
variable (nodes : List NodeRow) (user : CurrentUser) (action : Action) (assignments : List ResourceAssignment)

/-- A grant state with one account, one preset for the action and some direct assignments. -/
def grantState : Database where
  nodes := nodes
  localUsers := [{ id := 1, username := user.username, role := user.role }]
  rolePresets := [{ id := 1, permissions := [action] }]
  resourceAssignments := assignments

variable {user}

/-- The account holds the action exactly through an assignment that applies. -/
theorem grantState_permits (ordinary : user.role ≠ .admin) (nodeId : Option Int) (vmid : Int)
    (kind : ResourceType) :
    action ∈ resolveUserPermissions (grantState nodes user action assignments) (fun _ => []) 1 nodeId vmid
        kind ↔
      ∃ assignment ∈ assignments, assignment.userId = 1 ∧ assignment.resourceType = kind ∧
        assignment.resourceId = vmid ∧ AppliesTo assignment.portalNodeId nodeId ∧ assignment.presetId = 1 := by
  have plain : isAdmin (grantState nodes user action assignments) 1 = false := by
    simp [isAdmin, grantState, ordinary]
  rw [mem_resolveUserPermissions _ _ _ _ _ _ _ plain]
  constructor
  · intro granted
    cases granted with
    | direct grant =>
        obtain ⟨assignment, stored, owned, sort, guest, applies, preset, known, same, listed⟩ := grant
        refine ⟨assignment, stored, owned, sort, guest, applies, ?_⟩
        rw [← same, List.mem_singleton.mp known]
    | pool grant =>
        obtain ⟨pool, absent, rest⟩ := grant
        cases absent
    | node grant =>
        obtain ⟨assignment, absent, rest⟩ := grant
        cases absent
    | owner owns member =>
        obtain ⟨owner, absent, rest⟩ := owns
        cases absent
  · intro found
    obtain ⟨assignment, stored, owned, sort, guest, applies, preset⟩ := found
    exact .direct ⟨assignment, stored, owned, sort, guest, applies, _, List.mem_singleton_self _,
      preset.symm, List.mem_singleton_self _⟩

/-- The account of the grant state is found under the name of the user. -/
theorem grantState_known :
    getUserByUsername (grantState nodes user action assignments) user.username =
      some { id := 1, username := user.username, role := user.role } := by
  simp [getUserByUsername, grantState]

end Grants

section Requests
variable {db granted : Database} {installations : Installations} {canUseClusterResources : Bool}
  {user : CurrentUser} {vmid : Int} {proxmoxNode : Option String} {action : Action} {node : NodeRow}
  {entry : ClusterResource}

/-- The asked nodes depend on the configured nodes alone. -/
theorem askedNodes_congr (same : granted.nodes = db.nodes) :
    askedNodes granted canUseClusterResources user proxmoxNode =
      askedNodes db canUseClusterResources user proxmoxNode := by
  simp only [askedNodes, listNodes, getDefaultNode, same]

/-- An unambiguous configuration stays so under every grant state. -/
theorem Unambiguous.congr (clear : Unambiguous db installations canUseClusterResources user vmid proxmoxNode)
    (same : granted.nodes = db.nodes) :
    Unambiguous granted installations canUseClusterResources user vmid proxmoxNode := by
  intro node entry serves
  unfold Serves at serves
  rw [askedNodes_congr same] at serves
  rw [same]
  exact clear node entry serves

/-- In an unambiguous configuration every authorized request stays on the installation of its grant. -/
theorem Unambiguous.sameInstallation {getPoolPermissions : Int → List PoolGrant} {access : VmAccess}
    (clear : Unambiguous db installations canUseClusterResources user vmid proxmoxNode)
    (login : user.authType = .localUser) (ordinary : user.role ≠ .admin)
    (authorized : authorizeVmRequest db getPoolPermissions installations canUseClusterResources user
      vmid proxmoxNode action = .ok access) :
    SameInstallation db getPoolPermissions installations user vmid action access := by
  obtain ⟨resolved, passed⟩ := authorizeVmRequest_ok.mp authorized
  obtain ⟨node, entry, auth, serves, built, rfl⟩ := resolveVmAccess_eq_ok.mp resolved
  obtain ⟨limited, back⟩ := clear node entry serves
  obtain ⟨row, known, allowed⟩ := (checkRbac_scoped login ⟨ordinary, limited⟩).mp passed
  obtain ⟨earlier, later, asked, missed, listed⟩ := serves
  have configured : node ∈ askedNodes db canUseClusterResources user proxmoxNode := by
    rw [asked]
    simp
  exact ⟨mem_askedNodes configured, built, row, known, back.member allowed⟩

/-- A node that lists the guest has credentials for the user. -/
theorem Serves.built (serves : Serves db installations canUseClusterResources user vmid proxmoxNode node entry) :
    ∃ auth, buildAuthForNode installations user node = .ok auth := by
  obtain ⟨earlier, later, asked, missed, listed⟩ := serves
  cases built : buildAuthForNode installations user node with
  | error failure => simp [guestEntry, listing, built] at listed
  | ok auth => exact ⟨auth, rfl⟩

/-- A served request whose check passes is authorized, whatever the grant state adds to the nodes. -/
theorem Serves.authorized (serves : Serves db installations canUseClusterResources user vmid proxmoxNode node entry)
    (same : granted.nodes = db.nodes)
    (passed : checkRbac granted (fun _ => []) user vmid (entry.type.getD "qemu") action
      (some (reportedName canUseClusterResources user proxmoxNode node entry.node)) = .ok ()) :
    ∃ access, authorizeVmRequest granted (fun _ => []) installations canUseClusterResources user vmid
        proxmoxNode action = .ok access ∧ access.portalNode = node := by
  obtain ⟨auth, built⟩ := serves.built
  refine ⟨_, authorizeVmRequest_ok.mpr ⟨resolveVmAccess_eq_ok.mpr ⟨node, entry, auth, ?_, built, rfl⟩, passed⟩, rfl⟩
  unfold Serves
  rw [askedNodes_congr same]
  exact serves

/-- The account of a grant state holds the action on a node through an assignment to this node only. -/
theorem grantState_holdsThere {assignments : List ResourceAssignment} {access : VmAccess}
    (ordinary : user.role ≠ .admin)
    (holds : HoldsThere (grantState db.nodes user action assignments) (fun _ => []) user vmid action access) :
    ∃ assignment ∈ assignments, AppliesTo assignment.portalNodeId (some access.portalNode.id) := by
  obtain ⟨row, known, member⟩ := holds
  rw [grantState_known, Option.some.injEq] at known
  rw [← known] at member
  obtain ⟨assignment, stored, owned, kind, guest, applies, preset⟩ :=
    (grantState_permits db.nodes action assignments ordinary _ _ _).mp member
  exact ⟨assignment, stored, applies⟩

/-- Some grant state over the same nodes lets a request through without the action on its installation. -/
def Escapes (db : Database) (installations : Installations) (canUseClusterResources : Bool)
    (user : CurrentUser) (vmid : Int) (proxmoxNode : Option String) (action : Action) : Prop :=
  ∃ (granted : Database) (access : VmAccess), granted.nodes = db.nodes ∧
    authorizeVmRequest granted (fun _ => []) installations canUseClusterResources user vmid proxmoxNode
      action = .ok access ∧
    ¬ HoldsThere granted (fun _ => []) user vmid action access

/-- A served request escapes when it passes the check without an assignment to the serving node. -/
theorem Serves.escapes {assignments : List ResourceAssignment}
    (serves : Serves db installations canUseClusterResources user vmid proxmoxNode node entry)
    (ordinary : user.role ≠ .admin)
    (passed : checkRbac (grantState db.nodes user action assignments) (fun _ => []) user vmid
      (entry.type.getD "qemu") action
      (some (reportedName canUseClusterResources user proxmoxNode node entry.node)) = .ok ())
    (foreign : ∀ assignment ∈ assignments, ¬ AppliesTo assignment.portalNodeId (some node.id)) :
    Escapes db installations canUseClusterResources user vmid proxmoxNode action := by
  have same : (grantState db.nodes user action assignments).nodes = db.nodes := rfl
  obtain ⟨access, authorized, located⟩ := serves.authorized same passed
  refine ⟨_, access, same, authorized, ?_⟩
  intro holds
  obtain ⟨assignment, stored, applies⟩ := grantState_holdsThere ordinary holds
  rw [located] at applies
  exact foreign assignment stored applies

/-- A served request of an operator is authorized without a grant. -/
theorem operator_escapes
    (serves : Serves db installations canUseClusterResources user vmid proxmoxNode node entry)
    (operator : user.role = .operator) :
    Escapes db installations canUseClusterResources user vmid proxmoxNode action := by
  have ordinary : user.role ≠ .admin := by
    rw [operator]
    decide
  exact serves.escapes ordinary (checkRbac_operator operator) fun _ absent => absurd absent List.not_mem_nil

/-- A grant on the preferred node of a name opens the installation that reported the name. -/
theorem foreign_grant_escapes
    (serves : Serves db installations canUseClusterResources user vmid proxmoxNode node entry)
    (login : user.authType = .localUser) (ordinary : user.role ≠ .admin) (limited : user.role ≠ .operator)
    (astray : ¬ LeadsBack db.nodes node
      (reportedName canUseClusterResources user proxmoxNode node entry.node)) :
    Escapes db installations canUseClusterResources user vmid proxmoxNode action := by
  unfold LeadsBack at astray
  push Not at astray
  obtain ⟨named, owner, preference, foreign⟩ := astray
  let assignment : ResourceAssignment :=
    { id := 1, userId := 1, resourceType := resourceTypeOf (entry.type.getD "qemu"), resourceId := vmid,
      portalNodeId := some owner.id, presetId := 1 }
  have same : (grantState db.nodes user action [assignment]).nodes = db.nodes := rfl
  have passed : checkRbac (grantState db.nodes user action [assignment]) (fun _ => []) user vmid
      (entry.type.getD "qemu") action
      (some (reportedName canUseClusterResources user proxmoxNode node entry.node)) = .ok () := by
    refine (checkRbac_scoped login ⟨ordinary, limited⟩).mpr ⟨_, grantState_known _ _ _, ?_⟩
    rw [checkedNodeId_eq, if_neg named, same, preference]
    exact (grantState_permits _ _ _ ordinary _ _ _).mpr
      ⟨assignment, List.mem_singleton_self _, rfl, rfl, rfl, .inr ⟨owner.id, rfl, rfl⟩, rfl⟩
  apply serves.escapes ordinary passed
  intro held stored applies
  rw [List.mem_singleton.mp stored] at applies
  rcases applies with legacy | ⟨id, bound, equal⟩
  · cases legacy
  · rw [← equal] at bound
    exact foreign (Option.some.inj bound)

end Requests

/-- For a local user below the administrator, authorisation and execution name one installation under
every grant state exactly in the unambiguous configurations. -/
theorem authorizeVmRequest_installation_iff (db : Database) (installations : Installations)
    (canUseClusterResources : Bool) (user : CurrentUser) (vmid : Int) (proxmoxNode : Option String)
    (action : Action) (login : user.authType = .localUser) (ordinary : user.role ≠ .admin) :
    (∀ (granted : Database) (getPoolPermissions : Int → List PoolGrant) (access : VmAccess),
        granted.nodes = db.nodes →
        authorizeVmRequest granted getPoolPermissions installations canUseClusterResources user vmid
          proxmoxNode action = .ok access →
        SameInstallation granted getPoolPermissions installations user vmid action access) ↔
      Unambiguous db installations canUseClusterResources user vmid proxmoxNode := by
  constructor
  · intro holds node entry serves
    by_contra ambiguous
    rw [not_and_or, not_not] at ambiguous
    have escapes : Escapes db installations canUseClusterResources user vmid proxmoxNode action := by
      by_cases operator : user.role = .operator
      · exact operator_escapes serves operator
      · exact foreign_grant_escapes serves login ordinary operator (ambiguous.resolve_left operator)
    obtain ⟨granted, access, same, authorized, escaped⟩ := escapes
    exact escaped (holds granted (fun _ => []) access same authorized).holds
  · intro clear granted getPoolPermissions access same authorized
    exact (clear.congr same).sameInstallation login ordinary authorized

/-- Two installations with names of their own are unambiguous for a viewer's request that names the node. -/
theorem authorizeVmRequest_installation_twoNodes :
    ∃ (db : Database) (installations : Installations) (user : CurrentUser),
      (∃ node entry, Serves db installations true user 100 (some "pve") node entry) ∧
      ∀ (granted : Database) (getPoolPermissions : Int → List PoolGrant) (access : VmAccess),
        granted.nodes = db.nodes →
        authorizeVmRequest granted getPoolPermissions installations true user 100 (some "pve") "start" =
          .ok access →
        SameInstallation granted getPoolPermissions installations user 100 "start" access := by
  let first : NodeRow :=
    { id := 1, name := "first", url := "https://first:8006", proxmoxNode := "pve", isDefault := true,
      operatorTokenId := "portal@pve!operator", operatorTokenSecret := "secret", clusterNodes := ["member"] }
  let second : NodeRow :=
    { id := 2, name := "second", url := "https://second:8006", proxmoxNode := "pve2" }
  let db : Database := { nodes := [first, second] }
  let entry : ClusterResource := ⟨some 100, some "member", some "qemu"⟩
  let installations : Installations :=
    { getSession := fun _ => none
      getClusterResources := fun _ _ => .ok [entry] }
  let user : CurrentUser := { username := "viewer", authType := .localUser, role := .viewer }
  have asked : askedNodes db true user (some "pve") = (some first).toList := by decide
  refine ⟨db, installations, user, ⟨first, entry, (serves_single asked).mpr ⟨rfl, by decide⟩⟩, ?_⟩
  refine (authorizeVmRequest_installation_iff db installations true user 100 (some "pve") "start" rfl
    (by decide)).mpr ?_
  intro node found serves
  obtain ⟨same, listed⟩ := (serves_single asked).mp serves
  obtain rfl : first = node := Option.some.inj same
  have alone : guestEntry installations user 100 first = some entry := by decide
  obtain rfl : entry = found := Option.some.inj (alone.symm.trans listed)
  refine ⟨by decide, .inr fun owner preference => ?_⟩
  have back : preferred db.nodes "member" = some first := by decide
  rw [← Option.some.inj (back.symm.trans preference)]

/-- A viewer passes with a grant on another installation whose primary name is the reported member name. -/
theorem authorizeVmRequest_elsewhere :
    ¬ ∀ (db : Database) (getPoolPermissions : Int → List PoolGrant) (installations : Installations)
        (canUseClusterResources : Bool) (user : CurrentUser) (vmid : Int) (proxmoxNode : Option String)
        (action : Action) (access : VmAccess), user.authType = .localUser → user.role ≠ .admin →
        authorizeVmRequest db getPoolPermissions installations canUseClusterResources user vmid
          proxmoxNode action = .ok access →
        HoldsThere db getPoolPermissions user vmid action access := by
  let first : NodeRow :=
    { id := 1, name := "first", url := "https://first:8006", proxmoxNode := "pve",
      operatorTokenId := "portal@pve!operator", operatorTokenSecret := "secret",
      clusterNodes := ["pve2"] }
  let second : NodeRow :=
    { id := 2, name := "second", url := "https://second:8006", proxmoxNode := "pve2" }
  let account : LocalUser := { id := 8, username := "viewer", role := .viewer }
  let db : Database :=
    { localUsers := [account]
      vmOwners := [⟨1, .vm, 2, 100, 8, .deploy, none, none⟩]
      nodes := [first, second] }
  let installations : Installations :=
    { getSession := fun _ => none
      getClusterResources := fun _ _ => .ok [⟨some 100, some "pve2", some "qemu"⟩] }
  let viewer : CurrentUser := { username := "viewer", authType := .localUser, role := .viewer }
  let access : VmAccess := ⟨first, .token "portal@pve!operator" "secret", "pve2", "qemu"⟩
  intro holds
  obtain ⟨row, known, member⟩ := holds db (fun _ => []) installations false viewer 100 (some "pve") "start"
    access rfl (by decide) (by decide)
  have stored : getUserByUsername db viewer.username = some account := by decide
  rw [← Option.some.inj (stored.symm.trans known)] at member
  revert member
  decide

end P3Portal.Vms
