import P3Portal.Proof.Automation.JobCredentials
import P3Portal.Proof.Owners.Removal

namespace P3Portal.Owners
open Schema Foundation Auth Nodes Automation

section Lookups
variable (databaseText : ParamValue → Option String) (db : Database)

/-- The rows that the value of the node param matches, in scan order. -/
def valueMatches : ParamValue → Except Unit (List NodeRow)
  | .text name => .ok (nameMatches db name)
  | value =>
      match databaseText value with
      | none => .error ()
      | some name => .ok (db.nodes.filter fun row => row.proxmoxNode = name)

theorem valueMatches_sublist {value : ParamValue} {rows : List NodeRow}
    (found : valueMatches databaseText db value = .ok rows) : rows.Sublist db.nodes := by
  unfold valueMatches at found
  split at found
  · rw [← Except.ok.inj found]
    exact nameMatches_sublist db _
  · split at found
    · cases found
    · rw [← Except.ok.inj found]
      exact List.filter_sublist

/-- The worker takes the first match after the default nodes are moved to the front. -/
theorem getNodeForParam_eq {value : ParamValue} (given : value.truthy = true) :
    getNodeForParam databaseText db value =
      (valueMatches databaseText db value).map fun rows => (defaultFirst rows).head? := by
  cases value with
  | text name =>
      have named : name ≠ "" := of_decide_eq_true given
      show Except.ok (getNodeForProxmoxName db name) = Except.ok (defaultFirst (nameMatches db name)).head?
      rw [getNodeForProxmoxName_eq db named]
  | null => cases given
  | bool _ | int _ | float _ _ | compound _ =>
      unfold getNodeForParam valueMatches
      dsimp only
      generalize databaseText _ = compared
      cases compared <;> rfl

theorem head?_nameMatches (name : String) :
    (nameMatches db name).head? = (db.nodes.find? fun row => row.proxmoxNode = name).or
      (db.nodes.find? fun row => row.clusterNodes.contains name) := by
  unfold nameMatches
  rw [← List.head?_filter, ← List.head?_filter]
  split
  · rename_i absent
    rw [absent]
    rfl
  · rename_i present
    rw [List.head?_eq_some_head present]
    rfl

/-- The node param that the hook reads from the stored job. -/
def storedNode (job : JobRow) : Option ParamValue := (jobParam job "proxmox_node").filter ParamValue.truthy

/-- The hook takes the first match in scan order. -/
theorem resolveNodeId_eq (site : HookSite) (job : JobRow) :
    resolveNodeId site db job = match storedNode job with
      | none => .ok none
      | some value => (valueMatches site.databaseText db value).map fun rows => rows.head?.map NodeRow.id := by
  unfold resolveNodeId
  rw [← storedNode]
  cases storedNode job with
  | none => rfl
  | some value =>
      cases value with
      | text name =>
          dsimp only
          rw [← head?_nameMatches]
          rfl
      | null | bool _ | int _ | float _ _ | compound _ =>
          unfold valueMatches
          dsimp only
          generalize site.databaseText _ = compared
          cases compared with
          | none => rfl
          | some name =>
              dsimp only
              rw [← List.head?_filter]
              rfl

end Lookups

/-- A deploy with auto owner, as `POST /api/jobs` stores and starts it. -/
structure Deploy where
  user : CurrentUser
  playbook : String
  jobId : String
  params : Params
  sensitive : List String
  ownerId : Int
  category : String
  poolId : Option Int

def Deploy.job (deploy : Deploy) : JobRow :=
  newJob deploy.user .ansible deploy.playbook deploy.jobId deploy.params deploy.sensitive
    (some (deploy.ownerId, deploy.category)) deploy.poolId

/-- The row whose URL and token the worker of the deploy uses. -/
def Deploy.node (databaseText : ParamValue → Option String) (db : Database) (deploy : Deploy) : Option NodeRow :=
  (CredentialJob.ansible deploy.params deploy.user.role).node databaseText db

/-- The hook reads the kind of the guest from the category. -/
def Deploy.guest (deploy : Deploy) (nodeId vmid : Int) : Guest :=
  ⟨if deploy.category = "lxc_deployment" then .lxc else .vm, nodeId, vmid⟩

/-- The user has one active row for the guest, and every new row names the guest. -/
def OwnerLands (before after : Database) (userId : Int) (guest : Guest) : Prop :=
  activeRows after userId guest = 1 ∧ ∀ owner ∈ after.vmOwners, owner ∉ before.vmOwners → ownerGuest owner = guest

instance (before after : Database) (userId : Int) (guest : Guest) :
    Decidable (OwnerLands before after userId guest) :=
  inferInstanceAs (Decidable (_ = 1 ∧ ∀ owner ∈ _, _ → _))

section Hook
variable {site : HookSite} {db : Database} {deploy : Deploy} {vmid : Int} {now : String}

/-- The stored param is the one that the worker reads, unless it is a sensitive one. -/
theorem storedNode_of_some {value : ParamValue} (stored : storedNode deploy.job = some value) :
    (deploy.params.get? "proxmox_node").filter ParamValue.truthy = some value := by
  have kept : deploy.job.params.lookup "proxmox_node" =
      (deploy.params.get? "proxmox_node").filter fun _ => "proxmox_node" ∉ deploy.sensitive :=
    deploy.params.get?_filter (fun key _ => key ∉ deploy.sensitive) "proxmox_node"
  unfold storedNode jobParam at stored
  rw [kept] at stored
  simp only [Option.filter_eq_some_iff] at stored ⊢
  exact ⟨stored.1.1.1, stored.2⟩

/-- The rows after the hook are the old ones, or an accepted insert for the resolved node adds one. -/
theorem onDeploySuccess_vmOwners (deploys : deploy.category ∈ deployCategories)
    (active : ((getUserById db deploy.ownerId).filter LocalUser.active).isSome = true)
    (below : limitReached site.maxOwnerships db deploy.ownerId = none)
    (numeric : resolveVmid deploy.job = .ok (some vmid)) :
    (onDeploySuccess site db (some deploy.job) now).vmOwners =
      match resolveNodeId site db deploy.job with
      | .ok (some nodeId) =>
          ((insertOwner db (deploy.guest nodeId vmid) deploy.ownerId (some deploy.ownerId) .deploy).getD
            db).vmOwners
      | _ => db.vmOwners := by
  have owner : deploy.job.autoOwnerUserId = some deploy.ownerId := rfl
  have category : deploy.job.deployCategory.filter (· ∈ deployCategories) = some deploy.category := by
    show (some deploy.category).filter (· ∈ deployCategories) = some deploy.category
    rw [Option.filter_eq_some_iff]
    exact ⟨rfl, decide_eq_true deploys⟩
  obtain ⟨user, found⟩ := Option.isSome_iff_exists.mp active
  unfold onDeploySuccess
  simp only [owner, category, numeric]
  cases resolveNodeId site db deploy.job with
  | error failure => rfl
  | ok resolved =>
      cases resolved with
      | none => rfl
      | some nodeId =>
          dsimp only
          unfold assignOwner
          simp only [found, below]
          rw [← Deploy.guest]
          cases insertOwner db (deploy.guest nodeId vmid) deploy.ownerId (some deploy.ownerId) .deploy with
          | none => rfl
          | some after => rfl

/-- A user owns a guest exactly when there is an active row, and then there is one. -/
theorem activeRows_eq_one (kept : WellKept db) {userId : Int} {guest : Guest} :
    activeRows db userId guest = 1 ↔ isOwner db userId guest = true := by
  have bound : activeRows db userId guest ≤ 1 := activeRows_le_one kept
  rw [← activeRows_pos]
  omega

/-- The stored node param matches rows, and the first of them in scan order is a default node or none is. -/
def NamedAlike (databaseText : ParamValue → Option String) (db : Database) (job : JobRow) : Prop :=
  ∃ value first rest, storedNode job = some value ∧ valueMatches databaseText db value = .ok (first :: rest) ∧
    (first.isDefault = true ∨ ∀ row ∈ rest, row.isDefault = false)

/-- The user owned the guest before, and also the one on the row that the stored node param matches first. -/
def OwnedBefore (databaseText : ParamValue → Option String) (db : Database) (deploy : Deploy)
    (node : NodeRow) (vmid : Int) : Prop :=
  isOwner db deploy.ownerId (deploy.guest node.id vmid) = true ∧
    ∀ value first rest, storedNode deploy.job = some value →
      valueMatches databaseText db value = .ok (first :: rest) →
      isOwner db deploy.ownerId (deploy.guest first.id vmid) = true

/-- Worker and hook agree on matching rows exactly when the first row in scan order stays first. -/
theorem node_eq_first_iff (keys : (db.nodes.map NodeRow.id).Nodup) {node first : NodeRow} {rest : List NodeRow}
    {value : ParamValue} (used : deploy.node site.databaseText db = some node)
    (stored : storedNode deploy.job = some value)
    (found : valueMatches site.databaseText db value = .ok (first :: rest)) :
    node.id = first.id ↔ first.isDefault = true ∨ ∀ row ∈ rest, row.isDefault = false := by
  have distinct : ((first :: rest).map NodeRow.id).Nodup :=
    keys.sublist ((valueMatches_sublist site.databaseText db found).map NodeRow.id)
  have named : namedRow site.databaseText db value = some node := by
    have chosen : chosenRow site.databaseText db ((deploy.params.get? "proxmox_node").filter ParamValue.truthy)
        (getDefaultNode db) = some node := used
    rw [storedNode_of_some stored] at chosen
    exact chosen
  have given : value.truthy = true := (Option.filter_eq_some_iff.mp stored).2
  unfold namedRow tokenNode at named
  rw [getNodeForParam_eq site.databaseText db given, found] at named
  cases sorted : (defaultFirst (first :: rest)).head? with
  | none =>
      have absent := (mem_defaultFirst (first :: rest) first).mpr List.mem_cons_self
      rw [List.head?_eq_none_iff.mp sorted] at absent
      cases absent
  | some row =>
      simp only [Except.map, sorted] at named
      rw [Option.some.inj named] at sorted
      exact head?_defaultFirst_cons distinct sorted

/-- A match of the node param is a stored node. -/
theorem getNode_of_match {value : ParamValue} {first : NodeRow} {rest : List NodeRow}
    (found : valueMatches site.databaseText db value = .ok (first :: rest)) :
    (getNode db first.id).isSome = true := by
  have stored := (valueMatches_sublist site.databaseText db found).mem List.mem_cons_self
  unfold getNode
  rw [List.find?_isSome]
  exact ⟨first, stored, decide_eq_true rfl⟩

/-- Unchanged rows hold the owner exactly when the user owned the guest before. -/
theorem ownerLands_unchanged (kept : WellKept db) {after : Database} {userId : Int} {guest : Guest}
    (same : after.vmOwners = db.vmOwners) :
    OwnerLands db after userId guest ↔ isOwner db userId guest = true := by
  have rows : activeRows after userId guest = activeRows db userId guest := by
    unfold activeRows
    rw [same]
  unfold OwnerLands
  rw [rows, activeRows_eq_one kept, same]
  constructor
  · intro lands
    exact lands.1
  · intro owned
    exact ⟨owned, fun owner member fresh => absurd member fresh⟩

/-- An added row makes its user the owner exactly when it names the guest. -/
theorem ownerLands_inserted {after rows : Database} {userId : Int} {guest other : Guest}
    {assignedBy : Option Int} {source : OwnerSource}
    (inserted : insertOwner db other userId assignedBy source = some after) (same : rows.vmOwners = after.vmOwners) :
    OwnerLands db rows userId guest ↔ other = guest := by
  obtain ⟨⟨-, -, -, unowned⟩, grown⟩ := insertOwner_eq_some.mp inserted
  have added : rows.vmOwners = db.vmOwners ++ [newOwner db other userId source] := by
    rw [same, grown]
  constructor
  · intro lands
    apply lands.2 (newOwner db other userId source)
    · rw [added]
      exact List.mem_append_right _ List.mem_cons_self
    · intro old
      exact next_key_unused (db.vmOwners.map VmOwner.id) (List.mem_map.mpr ⟨_, old, rfl⟩)
  · intro equal
    subst equal
    constructor
    · have absent : activeRows db userId other = 0 := by
        by_contra present
        have owned := activeRows_pos.mp (Nat.pos_of_ne_zero present)
        rw [unowned] at owned
        cases owned
      rw [activeRows_eq] at absent ⊢
      rw [added, List.countP_append, absent]
      simp [newOwner, activeFor, ownerGuest]
    · intro owner member fresh
      rw [added] at member
      rcases List.mem_append.mp member with old | new
      · exact absurd old fresh
      · rw [List.mem_singleton.mp new]
        rfl

/-- A guest of a deploy is named by its node. -/
theorem guest_eq_iff {first second : Int} : deploy.guest first vmid = deploy.guest second vmid ↔ first = second := by
  simp [Deploy.guest]

/-- The hook resolves the first match of the stored node param, or nothing. -/
theorem resolved_cases (site : HookSite) (db : Database) (job : JobRow) :
    (∃ value first rest, storedNode job = some value ∧
        valueMatches site.databaseText db value = .ok (first :: rest) ∧
        resolveNodeId site db job = .ok (some first.id)) ∨
      (∀ value first rest, storedNode job = some value →
        valueMatches site.databaseText db value ≠ .ok (first :: rest)) ∧
      ∀ nodeId, resolveNodeId site db job ≠ .ok (some nodeId) := by
  rw [resolveNodeId_eq]
  cases stored : storedNode job with
  | none => simp
  | some value =>
      by_cases matched : ∃ first rest, valueMatches site.databaseText db value = .ok (first :: rest)
      · obtain ⟨first, rest, found⟩ := matched
        refine .inl ⟨value, first, rest, rfl, found, ?_⟩
        dsimp only
        rw [found]
        rfl
      · refine .inr ⟨?_, ?_⟩
        · intro other first rest same found
          rw [← Option.some.inj same] at found
          exact matched ⟨first, rest, found⟩
        · intro nodeId resolved
          dsimp only at resolved
          cases found : valueMatches site.databaseText db value with
          | error failure =>
              rw [found] at resolved
              cases resolved
          | ok rows =>
              rw [found] at resolved
              cases rows with
              | nil => cases resolved
              | cons first rest => exact matched ⟨first, rest, found⟩

/-- The insert of the hook is refused only when the user is an owner already. -/
theorem isOwner_of_refused {guest : Guest} {userId : Int} (known : (getNode db guest.nodeId).isSome = true)
    (user : (getUserById db userId).isSome = true) {source : OwnerSource}
    (refused : insertOwner db guest userId (some userId) source = none) : isOwner db userId guest = true := by
  by_contra unowned
  have actor : (some userId).all (fun actor => (getUserById db actor).isSome) = true := user
  have inserted : insertOwner db guest userId (some userId) source = some _ :=
    insertOwner_eq_some.mpr ⟨⟨known, user, actor, Bool.eq_false_iff.mpr unowned⟩, rfl⟩
  rw [refused] at inserted
  cases inserted

end Hook

/-- The owner of a deploy lands on the node of its worker exactly when the stored node param makes worker and
hook agree, or the user owned the guests in question before. -/
theorem deploy_owner_lands_iff (site : HookSite) (db : Database) (deploy : Deploy) (now : String)
    {node : NodeRow} {vmid : Int} (keys : (db.nodes.map NodeRow.id).Nodup) (kept : WellKept db)
    (deploys : deploy.category ∈ deployCategories)
    (active : ((getUserById db deploy.ownerId).filter LocalUser.active).isSome = true)
    (below : limitReached site.maxOwnerships db deploy.ownerId = none)
    (numeric : resolveVmid deploy.job = .ok (some vmid))
    (used : deploy.node site.databaseText db = some node) :
    OwnerLands db (onDeploySuccess site db (some deploy.job) now) deploy.ownerId (deploy.guest node.id vmid) ↔
      NamedAlike site.databaseText db deploy.job ∨ OwnedBefore site.databaseText db deploy node vmid := by
  have rows : (onDeploySuccess site db (some deploy.job) now).vmOwners = _ :=
    onDeploySuccess_vmOwners deploys active below numeric
  rcases resolved_cases site db deploy.job with
    ⟨value, first, rest, stored, found, resolved⟩ | ⟨unmatched, unresolved⟩
  · have agree := node_eq_first_iff keys used stored found
    have only : ∀ {other next later}, storedNode deploy.job = some other →
        valueMatches site.databaseText db other = .ok (next :: later) → next = first ∧ later = rest := by
      intro other next later same matched
      rw [stored] at same
      rw [← Option.some.inj same, found] at matched
      have lists := Except.ok.inj matched
      exact ⟨(List.cons.inj lists).1.symm, (List.cons.inj lists).2.symm⟩
    rw [resolved] at rows
    dsimp only at rows
    cases inserted : insertOwner db (deploy.guest first.id vmid) deploy.ownerId (some deploy.ownerId) .deploy with
    | some after =>
        rw [inserted] at rows
        rw [ownerLands_inserted inserted rows, guest_eq_iff]
        constructor
        · intro same
          exact .inl ⟨value, first, rest, stored, found, agree.mp same.symm⟩
        · rintro (⟨other, next, later, named, matched, alike⟩ | owned)
          · obtain ⟨sameFirst, sameRest⟩ := only named matched
            rw [sameFirst, sameRest] at alike
            exact (agree.mpr alike).symm
          · have before := owned.2 value first rest stored found
            rw [(insertOwner_eq_some.mp inserted).1.2.2.2] at before
            cases before
    | none =>
        rw [inserted] at rows
        rw [ownerLands_unchanged kept rows]
        have user : (getUserById db deploy.ownerId).isSome = true := by
          obtain ⟨user, filtered⟩ := Option.isSome_iff_exists.mp active
          rw [(Option.filter_eq_some_iff.mp filtered).1]
          rfl
        have before := isOwner_of_refused (getNode_of_match found) user inserted
        constructor
        · intro owned
          refine .inr ⟨owned, ?_⟩
          intro other next later named matched
          rw [(only named matched).1]
          exact before
        · rintro (⟨other, next, later, named, matched, alike⟩ | owned)
          · obtain ⟨sameFirst, sameRest⟩ := only named matched
            rw [sameFirst, sameRest] at alike
            rw [agree.mpr alike]
            exact before
          · exact owned.1
  · have unchanged : (onDeploySuccess site db (some deploy.job) now).vmOwners = db.vmOwners := by
      rw [rows]
      split
      · rename_i nodeId resolved
        exact absurd resolved (unresolved nodeId)
      · rfl
    rw [ownerLands_unchanged kept unchanged]
    constructor
    · intro owned
      exact .inr ⟨owned, fun value first rest stored found => absurd found (unmatched value first rest stored)⟩
    · rintro (⟨value, first, rest, stored, found, -⟩ | owned)
      · exact absurd found (unmatched value first rest stored)
      · exact owned.1

/-- An installation with its own token whose node has a common name. -/
def installation (id : Int) (name : String) (isDefault : Bool) : NodeRow :=
  { id := id, name := name, url := "https://" ++ name ++ ":8006", proxmoxNode := "pve",
    operatorTokenId := "portal@pve!deploy", operatorTokenSecret := name, isDefault := isDefault }

/-- Anna deploys the guest 100 on the node that she names. -/
def annaDeploys : Deploy where
  user := ⟨"anna", .localUser, .operator, none, false, false, [], some 1, .jwt, none, none⟩
  playbook := "deploy-vm"
  jobId := "job"
  params := ⟨[("proxmox_node", .text "pve"), ("vm_id", .int 100)], by decide⟩
  sensitive := []
  ownerId := 1
  category := "vm_deployment"
  poolId := none

def portalWith (nodes : List NodeRow) : Database := { localUsers := [{ id := 1, username := "anna" }], nodes := nodes }

/-- With one installation the owner lands on its node. -/
theorem deploy_owner_lands_alone :
    OwnerLands (portalWith [installation 1 "alpha" true])
      (onDeploySuccess { maxOwnerships := some 10 } (portalWith [installation 1 "alpha" true])
        (some annaDeploys.job) "now") 1 ⟨.vm, 1, 100⟩ :=
  (deploy_owner_lands_iff { maxOwnerships := some 10 } (portalWith [installation 1 "alpha" true]) annaDeploys "now"
    (by decide) ⟨by decide, List.Pairwise.nil, by decide⟩ (by decide) (by decide) (by decide) rfl rfl).mpr
    (.inl ⟨.text "pve", installation 1 "alpha" true, [], rfl, rfl, .inl rfl⟩)

/-- Two installations share the name: the worker prefers the default one, the hook the first one. -/
theorem deploy_owner_elsewhere :
    annaDeploys.node (fun _ => none) (portalWith [installation 1 "alpha" false, installation 2 "beta" true]) =
      some (installation 2 "beta" true) ∧
    ¬ OwnerLands (portalWith [installation 1 "alpha" false, installation 2 "beta" true])
      (onDeploySuccess { maxOwnerships := some 10 }
        (portalWith [installation 1 "alpha" false, installation 2 "beta" true]) (some annaDeploys.job) "now")
      1 ⟨.vm, 2, 100⟩ := by
  decide +kernel

end P3Portal.Owners
