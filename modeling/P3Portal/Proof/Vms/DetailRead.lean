import P3Portal.Construction.Vms.DetailRead
import P3Portal.Foundation.Noninterference
import P3Portal.Foundation.Outcome
import P3Portal.Proof.Access.BulkAgreement

namespace P3Portal.Vms
open Schema Foundation Http Auth Nodes Proxmox Access ApiSurface

variable {Status Stack : Type} (Config : Type) (context : ReadContext Status Stack)
  (user : CurrentUser) (node : String) (vmid : Int) (kind : ResourceType)

/-- The sites of one guest differ in the client and the login only. -/
def OfGuest (site : GuestSite) : Prop := site.node = node ∧ site.vmid = vmid ∧ site.vmType = kind

/-- No request of the user tells apart two worlds that differ in the one guest only. -/
def NothingLeaks : Prop :=
  ∀ request : GuestRead, Blind (OfGuest node vmid kind)
    fun world : GuestSite → GuestAnswers Status Config => context.respond user world request

/-- A restricted user has no view right, nor does a viewer whose grants give none on the guest. -/
inductive LacksView : Prop where
  | restricted (role : user.role = .restricted)
  | viewer (role : user.role = .viewer) (account : LocalUser)
      (known : getUserByUsername context.db user.username = some account)
      (holds : HoldsGrant context.db (context.getPoolPermissions account.id) account.id)
      (unseen : "view" ∉ resolveUserPermissions context.db context.getPoolPermissions account.id
        (checkedNodeId context.db (some node)) vmid kind)

/-- The address stays closed for want of a scope or of every service account that it tries. -/
def IpClosed : Prop :=
  requireScopeForUpk "cluster:read" user ≠ .ok () ∨
    ∀ row, nodeOrDefault context.db node = some row →
      ∀ role ∈ [Role.operator, .admin, user.role], extractToken row role = none

/-- The detail stays closed to a viewer who uses a key, who finds no viewer account, or who owns no
guest of either kind under the number. -/
def DetailClosed : Prop :=
  user.role = .viewer → user.authKind = .upk ∨
    (∀ row, nodeOrDefault context.db node = some row → extractToken row .viewer = none) ∨
    ∀ account, getUserByUsername context.db user.username = some account →
      ∀ other, ¬ ActiveOwner context.db account.id other (checkedNodeId context.db (some node)) vmid

section Sites
variable {context user node vmid kind} {site : GuestSite}

theorem openDetail_site (opened : context.openDetail user node vmid kind = .ok site) :
    OfGuest node vmid kind site := by
  obtain ⟨-, -, opened⟩ := Outcome.bind_eq_ok.mp opened
  obtain ⟨login, -, opened⟩ := Outcome.bind_eq_ok.mp opened
  obtain ⟨-, -, opened⟩ := Outcome.bind_eq_ok.mp opened
  cases opened
  exact ⟨rfl, rfl, rfl⟩

theorem openIp_site (opened : context.openIp user node vmid kind = .ok site) :
    OfGuest node vmid kind site := by
  obtain ⟨-, -, opened⟩ := Outcome.bind_eq_ok.mp opened
  split at opened
  · cases opened
  · obtain ⟨auth, -, opened⟩ := Outcome.bind_eq_ok.mp opened
    cases opened
    exact ⟨rfl, rfl, rfl⟩

end Sites

/-- Every request opens one site before it reads anything. -/
def opened : GuestRead → Except Failure GuestSite
  | .detail node vmType vmid => context.openDetail user node vmid vmType
  | .guestInfo node vmid => context.openDetail user node vmid .vm
  | .interfaces node vmid => context.openDetail user node vmid .lxc
  | .ip node vmid type => context.openIp user node vmid type

/-- The response shows this view of the opened site. -/
def view (site : GuestSite) (answers : GuestAnswers Status Config) :
    GuestRead → Except Failure (GuestBody Status Config Stack)
  | .detail _ _ _ => context.renderDetail site answers
  | .guestInfo _ _ => .ok (.guestInfo answers.guestInfo)
  | .interfaces _ _ => .ok (.interfaces answers.interfaces)
  | .ip _ _ _ => .ok (.ip answers.ip)

theorem respond_eq (world : GuestSite → GuestAnswers Status Config) (request : GuestRead) :
    context.respond user world request =
      opened context user request >>= fun site => view Config context site (world site) request := by
  cases request with
  | detail node vmType vmid => rfl
  | guestInfo node vmid => rfl
  | interfaces node vmid => rfl
  | ip node vmid type => rfl

/-- Each view tells some two states of the guest apart. -/
theorem view_tells (site : GuestSite) (request : GuestRead) :
    ∃ first second, view Config context site first request ≠ view Config context site second request := by
  let silent : GuestAnswers Status Config :=
    { statusCurrent := .error .requestError, config := .error .requestError }
  cases request with
  | detail node vmType vmid =>
      refine ⟨{ silent with statusCurrent := .error (.statusError 500) }, silent, ?_⟩
      obtain ⟨client, auth, node, vmid, kind⟩ := site
      cases auth with
      | cookie ticket csrf => simp [view, ReadContext.renderDetail, clusterHttpExc, silent]
      | token tokenId secret => simp [view, ReadContext.renderDetail, clusterHttpExc, silent]
  | guestInfo node vmid =>
      refine ⟨{ silent with guestInfo := { truncatedCount := 1 } }, silent, ?_⟩
      simp [view, silent]
  | interfaces node vmid =>
      refine ⟨{ silent with interfaces := [⟨"eth0", none, none, none⟩] }, silent, ?_⟩
      simp [view, silent]
  | ip node vmid type =>
      refine ⟨{ silent with ip := some "" }, silent, ?_⟩
      simp [view, silent]

/-- A request is blind exactly when it does not open the guest. -/
theorem respond_blind_iff (request : GuestRead) :
    Blind (OfGuest node vmid kind)
        (fun world : GuestSite → GuestAnswers Status Config => context.respond user world request) ↔
      ∀ site, opened context user request = .ok site → ¬ OfGuest node vmid kind site := by
  simp only [respond_eq]
  rw [blind_opened_iff (opened context user request)
    fun site answers => view Config context site answers request]
  constructor
  · intro same site reached secret
    obtain ⟨first, second, told⟩ := view_tells Config context site request
    exact told (same site reached secret first second)
  · intro never site reached secret
    exact absurd secret (never site reached)

/-- Nothing leaks exactly when neither family of endpoints opens the guest. -/
theorem nothingLeaks_iff :
    NothingLeaks Config context user node vmid kind ↔
      (∀ site, context.openDetail user node vmid kind ≠ .ok site) ∧
        ∀ site, context.openIp user node vmid kind ≠ .ok site := by
  simp only [NothingLeaks, respond_blind_iff]
  constructor
  · intro never
    refine ⟨?_, ?_⟩
    · intro site reached
      exact never (.detail node kind vmid) site reached (openDetail_site reached)
    · intro site reached
      exact never (.ip node vmid kind) site reached (openIp_site reached)
  · intro closed request site reached secret
    obtain ⟨rfl, rfl, rfl⟩ := secret
    cases request with
    | detail node vmType vmid =>
        obtain ⟨rfl, rfl, rfl⟩ := openDetail_site reached
        exact closed.1 site reached
    | guestInfo node vmid =>
        obtain ⟨rfl, rfl, container⟩ := openDetail_site reached
        exact closed.1 site (container ▸ reached)
    | interfaces node vmid =>
        obtain ⟨rfl, rfl, container⟩ := openDetail_site reached
        exact closed.1 site (container ▸ reached)
    | ip node vmid type =>
        obtain ⟨rfl, rfl, rfl⟩ := openIp_site reached
        exact closed.2 site reached

section Closed
variable {context user node vmid kind}

/-- A viewer or a restricted user gets a login exactly when one of three service accounts exists. -/
theorem buildAuthForNode_scoped (installations : Installations) {row : NodeRow}
    (login : user.authType = .localUser) (limited : user.role = .viewer ∨ user.role = .restricted) :
    (∀ auth, buildAuthForNode installations user row ≠ .ok auth) ↔
      ∀ role ∈ [Role.operator, .admin, user.role], extractToken row role = none := by
  simp only [buildAuthForNode, login, Bool.or_eq_true, decide_eq_true_eq, limited, if_true]
  simp only [List.mem_cons, List.not_mem_nil, or_false, forall_eq_or_imp, forall_eq]
  cases extractToken row .operator with
  | some token => simp
  | none =>
      cases extractToken row .admin with
      | some token => simp
      | none =>
          cases extractToken row user.role with
          | some token => simp
          | none => simp [raise]

/-- The address opens with some scope and some service account of the node, whoever asks. -/
theorem openIp_closed_iff (login : user.authType = .localUser)
    (limited : user.role = .viewer ∨ user.role = .restricted) :
    (∀ site, context.openIp user node vmid kind ≠ .ok site) ↔ IpClosed context user node := by
  cases allowed : requireScopeForUpk "cluster:read" user with
  | error exception => simp [ReadContext.openIp, IpClosed, allowed, Except.mapError]
  | ok passed =>
      cases found : nodeOrDefault context.db node with
      | none => simp [ReadContext.openIp, IpClosed, allowed, found, Except.mapError, raise]
      | some row =>
          simp only [IpClosed, allowed, found, Option.some.injEq, forall_eq',
            ← buildAuthForNode_scoped context.installations login limited]
          cases built : buildAuthForNode context.installations user row with
          | error failure => simp [ReadContext.openIp, allowed, found, Except.mapError, built]
          | ok auth => simp [ReadContext.openIp, allowed, found, Except.mapError, built]


theorem checkDetailAccess_restricted {db : Database} {getPoolPermissions : Int → List PoolGrant}
    {pveNode : Option String} (login : user.authType = .localUser) (role : user.role = .restricted) :
    checkDetailAccess db getPoolPermissions user vmid kind pveNode = raise 403 "Access denied" := by
  simp [checkDetailAccess, login, role]

/-- A viewer with grants but no view right passes exactly as the owner of a guest of either kind. -/
theorem checkDetailAccess_viewer {db : Database} {getPoolPermissions : Int → List PoolGrant}
    {pveNode : Option String} (login : user.authType = .localUser) (role : user.role = .viewer)
    {account : LocalUser} (known : getUserByUsername db user.username = some account)
    (holds : HoldsGrant db (getPoolPermissions account.id) account.id)
    (unseen : "view" ∉ resolveUserPermissions db getPoolPermissions account.id
      (checkedNodeId db pveNode) vmid kind) :
    checkDetailAccess db getPoolPermissions user vmid kind pveNode = .ok () ↔
      ∃ other, ActiveOwner db account.id other (checkedNodeId db pveNode) vmid := by
  have ordinary : isAdmin db account.id = false := by
    cases admin : isAdmin db account.id with
    | true =>
        rw [resolveUserPermissions_admin _ _ _ _ _ _ admin] at unseen
        exact absurd (by decide) unseen
    | false => rfl
  let resource : Resource := ⟨checkedNodeId db pveNode, vmid, kind⟩
  obtain ⟨other, twin, -, stored⟩ := resolveUserVmAccess_members getPoolPermissions ordinary
    (List.mem_singleton_self resource)
  rw [List.mem_singleton.mp twin] at stored
  rw [mem_resolveUserPermissions _ _ _ _ _ _ _ ordinary] at unseen
  have seen : "view" ∈ (bulkGrants db getPoolPermissions account.id).combined resource ↔
      ∃ other, ActiveOwner db account.id other (checkedNodeId db pveNode) vmid := by
    rw [mem_combined]
    constructor
    · intro granted
      rcases granted with direct | pool | assigned | owner
      · exact absurd (.direct direct) unseen
      · exact absurd (.pool pool) unseen
      · exact absurd (.node assigned) unseen
      · exact owner.1
    · intro owner
      exact .inr (.inr (.inr ⟨owner, by decide⟩))
  have granted : (resolveUserVmAccess db getPoolPermissions account.id [resource]).2 = true :=
    resolveUserVmAccess_hasAnyGrant ordinary holds
  rw [← seen, ← stored]
  simp only [checkDetailAccess, login, role, known]
  by_cases inside : "view" ∈ (resolveUserVmAccess db getPoolPermissions account.id [resource]).1.members
    resource.key
  · simp [resource, Resource.key] at granted inside
    simp [granted, inside, resource, Resource.key]
  · simp [resource, Resource.key] at granted inside
    simp [granted, inside, resource, Resource.key, raise]

/-- A local user reads details with the viewer account of the node. -/
theorem getClientAuthForNode_closed {db : Database} {installations : Installations}
    (login : user.authType = .localUser) :
    (∀ found, getClientAuthForNode db installations user node [.viewer] ≠ .ok found) ↔
      ∀ row, nodeOrDefault db node = some row → extractToken row .viewer = none := by
  simp only [getClientAuthForNode, login]
  cases nodeOrDefault db node with
  | none => simp [raise]
  | some row =>
      cases extracted : extractToken row .viewer with
      | none => simp [extracted, raise]
      | some token => simp [extracted]

/-- The detail opens exactly for a session, a viewer account and a passed check together. -/
theorem openDetail_closed_parts :
    (∀ site, context.openDetail user node vmid kind ≠ .ok site) ↔
      user.authKind = .upk ∨
        (∀ found, getClientAuthForNode context.db context.installations user node [.viewer] ≠ .ok found) ∨
        checkDetailAccess context.db context.getPoolPermissions user vmid kind (some node) ≠ .ok () := by
  unfold ReadContext.openDetail refuseUnscopedKey
  by_cases key : user.authKind = .upk
  · simp [key, raise]
  · cases getClientAuthForNode context.db context.installations user node [.viewer] with
    | error failure => simp [key]
    | ok found =>
        cases checkDetailAccess context.db context.getPoolPermissions user vmid kind (some node) with
        | error failure => simp [key]
        | ok passed => simp [key]

/-- The check stops a restricted user and every viewer without an owner row for the number. -/
theorem openDetail_closed_iff (login : user.authType = .localUser)
    (lacks : LacksView context user node vmid kind) :
    (∀ site, context.openDetail user node vmid kind ≠ .ok site) ↔
      DetailClosed context user node vmid := by
  rw [openDetail_closed_parts, getClientAuthForNode_closed login]
  cases lacks with
  | restricted role =>
      simp [checkDetailAccess_restricted login role, DetailClosed, role, raise]
  | viewer role account known holds unseen =>
      rw [Ne, checkDetailAccess_viewer login role known holds unseen, not_exists]
      simp only [DetailClosed, role, known, Option.some.injEq, forall_eq', forall_const]

end Closed

/-- The reads of a guest leak nothing to a user without the view right exactly when the address
endpoint is closed to that user and no owner row of the other kind opens the detail. -/
theorem reads_leak_nothing_iff (login : user.authType = .localUser)
    (lacks : LacksView context user node vmid kind) :
    NothingLeaks Config context user node vmid kind ↔
      DetailClosed context user node vmid ∧ IpClosed context user node := by
  have limited : user.role = .viewer ∨ user.role = .restricted := by
    cases lacks with
    | restricted role => exact .inr role
    | viewer role account known holds unseen => exact .inl role
  rw [nothingLeaks_iff, openDetail_closed_iff login lacks, openIp_closed_iff login limited]

/-- Without the operator and admin accounts of the node a restricted user learns nothing. -/
theorem reads_leak_nothing_viewer_only :
    let row : NodeRow :=
      { id := 1, name := "first", url := "https://first:8006", proxmoxNode := "pve",
        viewerTokenId := "portal@pve!viewer", viewerTokenSecret := "secret" }
    let context : ReadContext Unit Unit :=
      { db := { nodes := [row] }, getPoolPermissions := fun _ => [],
        installations := { getSession := fun _ => none, getClusterResources := fun _ _ => .ok [] },
        getStackForVm := fun _ _ => none, runState := fun _ => none }
    NothingLeaks Unit context { username := "guest", authType := .localUser, role := .restricted } "pve"
      100 .vm := by
  intro row context
  refine (reads_leak_nothing_iff Unit context _ "pve" 100 .vm rfl (.restricted rfl)).mpr ⟨?_, ?_⟩
  · intro role
    cases role
  · refine .inr ?_
    intro found same
    have first : nodeOrDefault context.db "pve" = some row := by decide
    rw [← Option.some.inj (first.symm.trans same)]
    decide

/-- A restricted user reads the address of every guest of a node with an operator account, and the
viewer who owns the machine 100 reads the detail of the container 100. -/
theorem reads_leak :
    let row : NodeRow :=
      { id := 1, name := "first", url := "https://first:8006", proxmoxNode := "pve",
        viewerTokenId := "portal@pve!viewer", viewerTokenSecret := "secret",
        operatorTokenId := "portal@pve!operator", operatorTokenSecret := "secret" }
    let context : ReadContext Unit Unit :=
      { db :=
          { nodes := [row]
            localUsers := [{ id := 7, username := "viewer", role := .viewer },
              { id := 8, username := "guest", role := .restricted }]
            vmOwners := [⟨1, .vm, 1, 100, 7, .deploy, none, none⟩] }
        getPoolPermissions := fun _ => []
        installations := { getSession := fun _ => none, getClusterResources := fun _ _ => .ok [] }
        getStackForVm := fun _ _ => none
        runState := fun _ => none }
    let guest : CurrentUser := { username := "guest", authType := .localUser, role := .restricted }
    let viewer : CurrentUser := { username := "viewer", authType := .localUser, role := .viewer }
    (LacksView context guest "pve" 100 .vm ∧ ¬ NothingLeaks Unit context guest "pve" 100 .vm) ∧
      LacksView context viewer "pve" 100 .lxc ∧
        ¬ Blind (OfGuest "pve" 100 .lxc) fun world : GuestSite → GuestAnswers Unit Unit =>
          context.respond viewer world (.detail "pve" .lxc 100) := by
  intro row context guest viewer
  refine ⟨⟨.restricted rfl, ?_⟩, ?_, ?_⟩
  · intro blind
    have opened : context.openIp guest "pve" 100 .vm = .ok ⟨clientForNode row,
      .token "portal@pve!operator" "secret", "pve", 100, .vm⟩ := by decide
    exact ((nothingLeaks_iff Unit context guest "pve" 100 .vm).mp blind).2 _ opened
  · refine .viewer rfl { id := 7, username := "viewer", role := .viewer } (by decide) ?_ (by decide)
    exact .owner ⟨1, .vm, 1, 100, 7, .deploy, none, none⟩ (by decide) rfl rfl
  · intro blind
    have reached : context.openDetail viewer "pve" 100 .lxc = .ok ⟨clientForNode row,
      .token "portal@pve!viewer" "secret", "pve", 100, .lxc⟩ := by decide
    exact (respond_blind_iff Unit context viewer "pve" 100 .lxc (.detail "pve" .lxc 100)).mp blind _
      reached ⟨rfl, rfl, rfl⟩

end P3Portal.Vms
