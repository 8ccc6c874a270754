import P3Portal.Construction.Users.Administration
import P3Portal.Proof.Owners.Rows

namespace P3Portal.Users
open Schema Foundation Http Auth Nodes Owners

section Statement
variable {db : Database} {userId : Int}

/-- The rows that an accepted deletion leaves. -/
def withoutUser (db : Database) (userId : Int) : Database :=
  { db with
    groups := db.groups.map fun group =>
      if groupUserKey.refers userId group then { group with ownerUserId := none } else group
    groupMembers := db.groupMembers.filter fun member => !memberUserKey.refers userId member
    resourceAssignments := db.resourceAssignments.filter fun row => !resourceUserKey.refers userId row
    userSidebarPins := db.userSidebarPins.filter fun pin => !pinUserKey.refers userId pin
    userApiKeys := db.userApiKeys.filter fun key => !apiKeyUserKey.refers userId key
    localUsers := db.localUsers.filter fun user => user.id ≠ userId }

theorem ownerUserKey_delete_eq_some {owners after : List VmOwner} :
    ownerUserKey.delete userId owners = some after ↔
      (∀ owner ∈ owners, owner.userId ≠ userId) ∧ after = owners := by
  rw [ForeignKey.delete_restrict_eq_some rfl]
  have refers : ∀ owner : VmOwner, ownerUserKey.refers userId owner = false ↔ owner.userId ≠ userId := by
    intro owner
    unfold ForeignKey.refers
    rw [decide_eq_false_iff_not]
    exact not_congr Option.some_inj
  simp only [refers]

/-- The account can be deleted exactly when no owner row refers to it. -/
theorem deleteUser_eq_some {after : Database} :
    deleteUser db userId = some after ↔
      (∀ owner ∈ db.vmOwners, owner.userId ≠ userId) ∧ after = withoutUser db userId := by
  have deleted : deleteUser db userId =
      (ownerUserKey.delete userId db.vmOwners).map fun owners => { withoutUser db userId with vmOwners := owners } := by
    unfold deleteUser
    cases ownerUserKey.delete userId db.vmOwners <;> rfl
  rw [deleted, Option.map_eq_some_iff]
  simp only [ownerUserKey_delete_eq_some]
  constructor
  · intro found
    obtain ⟨owners, ⟨unowned, same⟩, result⟩ := found
    rw [same] at result
    exact ⟨unowned, result.symm⟩
  · intro found
    exact ⟨db.vmOwners, ⟨found.1, rfl⟩, found.2.symm⟩

/-- No account has the identifier, and no active ownership, membership or node assignment refers to it. -/
structure Gone (db : Database) (userId : Int) : Prop where
  account : getUserById db userId = none
  owners : ∀ owner ∈ db.vmOwners, owner.userId = userId → owner.deletedAt ≠ none
  members : ∀ member ∈ db.groupMembers, member.userId ≠ userId
  assignments : ∀ assignment ∈ db.nodeAssignments, assignedTo userId assignment = false

theorem withoutUser_gone (unowned : ∀ owner ∈ db.vmOwners, owner.userId ≠ userId)
    (unassigned : ∀ assignment ∈ db.nodeAssignments, assignedTo userId assignment = false) :
    Gone (withoutUser db userId) userId := by
  constructor
  · refine List.find?_eq_none.mpr ?_
    intro user member named
    exact of_decide_eq_true (List.mem_filter.mp member).2 (of_decide_eq_true named)
  · intro owner stored named
    exact absurd named (unowned owner stored)
  · intro member stored named
    have kept := (List.mem_filter.mp stored).2
    rw [ForeignKey.refers, Bool.not_eq_true', decide_eq_false_iff_not] at kept
    exact kept (congrArg some named)
  · exact unassigned

/-- The audit row of the deletion brings nothing back. -/
theorem Gone.audited (gone : Gone db userId) (now : String) (target : LocalUser) (current : CurrentUser) :
    Gone (auditDeletion db now target current) userId :=
  ⟨gone.account, gone.owners, gone.members, gone.assignments⟩

end Statement

section Cleanup
variable (db : Database) (userId : Int) (deletedBy now : String)

theorem writeDetails_frame (eventType : String) (details : List String) (db : Database) :
    ∃ audits, writeDetails db eventType deletedBy now details = { db with auditLogs := audits } := by
  induction details generalizing db with
  | nil => exact ⟨db.auditLogs, rfl⟩
  | cons detail rest ih =>
      obtain ⟨audits, same⟩ := ih (writeAuditLog db eventType (some deletedBy) none (some detail) now)
      exact ⟨audits, same⟩

/-- The first cleanups write audit rows and delete the node assignments of the user. -/
theorem cleanupAccount_frame :
    ∃ audits, cleanupAccount db userId deletedBy now =
      { db with
        nodeAssignments := db.nodeAssignments.filter fun assignment => !assignedTo userId assignment
        auditLogs := audits } := by
  obtain ⟨first, groups⟩ : ∃ audits, cleanupUserFromGroups db userId deletedBy now =
      { db with auditLogs := audits } := by
    unfold cleanupUserFromGroups
    obtain ⟨members, same⟩ := writeDetails_frame deletedBy now "group_member_removed" _ db
    obtain ⟨owners, again⟩ := writeDetails_frame deletedBy now "group_owner_changed" _ { db with auditLogs := members }
    rw [same]
    exact ⟨owners, again⟩
  obtain ⟨second, pins⟩ := writeDetails_frame deletedBy now "sidebar_pin_auto_removed" _ { db with auditLogs := first }
  unfold cleanupAccount
  rw [groups]
  unfold cleanupPinsForUser
  rw [pins]
  unfold cleanupAssignmentsForUser
  exact writeDetails_frame deletedBy now "node_assignment_removed" _ _

/-- The cleanup of the ownerships moves owner rows only. -/
theorem cleanupOwnerships_moves {settled : Database} {action : Option String} {transferTo : Option Int}
    (done : cleanupOwnerships db userId deletedBy now action transferTo = .ok settled) : Moves db settled := by
  unfold cleanupOwnerships at done
  simp only at done
  split at done
  · rw [← Except.ok.inj done]
    exact .start
  · split at done
    · cases done
    · rw [← Except.ok.inj done]
      exact onUserDelete_moves db userId deletedBy _ transferTo now

/-- A user without owner rows has nothing to settle. -/
theorem cleanupOwnerships_unowned (unowned : ∀ owner ∈ db.vmOwners, owner.userId ≠ userId) (action : Option String)
    (transferTo : Option Int) : cleanupOwnerships db userId deletedBy now action transferTo = .ok db := by
  have none_owned : Automation.countActiveOwnerships db userId = 0 := by
    unfold Automation.countActiveOwnerships
    rw [List.length_eq_zero_iff, List.filter_eq_nil_iff]
    intro owner stored active
    simp only [Bool.and_eq_true, decide_eq_true_eq] at active
    exact unowned owner stored active.1
  unfold cleanupOwnerships
  simp only [none_owned, if_pos]

end Cleanup

section Endpoint
variable {Store : Type} (hooks : PlusUserHooks Store) (portal : Portal Store) (userId : Int)
  (ownershipAction : Option String) (ownershipTransferTo : Option Int) (current : CurrentUser) (now : String)

/-- The request passes the guards of the endpoint. -/
structure Guarded (target : LocalUser) : Prop where
  known : getUserById portal.db userId = some target
  notLast : target.role = .admin → 1 < countActiveAdmins portal.db
  notSelf : target.username ≠ current.username
  action : ownershipAction = some "orphan" ∨ ownershipAction = some "transfer" ∧ ownershipTransferTo.isSome = true

/-- The request completes or does nothing. -/
def CompletesOrNothing (result : DeletionAnswer × Portal Store) : Prop :=
  (result.1 = .noContent ∧ Gone result.2.db userId) ∨ (result.1 ≠ .noContent ∧ result.2 = portal)

/-- No owner row of any age refers to the account, and the tables of Plus let it go. -/
structure Deletable : Prop where
  unowned : ∀ owner ∈ portal.db.vmOwners, owner.userId ≠ userId
  plusAccepts : (hooks.userRowDeleted (plusCleanup userId current.username hooks portal.plus) userId).isSome = true

variable {portal userId ownershipAction ownershipTransferTo current} {target : LocalUser}

theorem Guarded.same_id (guarded : Guarded portal userId ownershipAction ownershipTransferTo current target) :
    target.id = userId := (getUserById_spec guarded.known).2

theorem Guarded.removes (guarded : Guarded portal userId ownershipAction ownershipTransferTo current target) :
    deleteLocalUser now hooks portal userId ownershipAction ownershipTransferTo current =
      removeAccount now hooks portal target ownershipAction ownershipTransferTo current := by
  have more : ¬ (decide (target.role = .admin) && decide (countActiveAdmins portal.db ≤ 1)) = true := by
    intro last
    simp only [Bool.and_eq_true, decide_eq_true_eq] at last
    have several := guarded.notLast last.1
    omega
  unfold deleteLocalUser
  rw [guarded.known]
  simp only [if_neg more, if_neg guarded.notSelf]

/-- A deletable account is removed with everything that refers to it. -/
theorem removeAccount_deletable (ownershipAction : Option String) (ownershipTransferTo : Option Int)
    (deletable : Deletable hooks portal target.id current) :
    (removeAccount now hooks portal target ownershipAction ownershipTransferTo current).1 = .noContent ∧
      Gone (removeAccount now hooks portal target ownershipAction ownershipTransferTo current).2.db target.id := by
  obtain ⟨audits, cleaned⟩ := cleanupAccount_frame portal.db target.id current.username now
  have unowned : ∀ owner ∈ (cleanupAccount portal.db target.id current.username now).vmOwners,
      owner.userId ≠ target.id := by
    rw [cleaned]
    exact deletable.unowned
  have unassigned : ∀ assignment ∈ (cleanupAccount portal.db target.id current.username now).nodeAssignments,
      assignedTo target.id assignment = false := by
    rw [cleaned]
    intro assignment stored
    have kept := (List.mem_filter.mp stored).2
    rw [Bool.not_eq_true'] at kept
    exact kept
  obtain ⟨plus, accepted⟩ := Option.isSome_iff_exists.mp deletable.plusAccepts
  have deleted := deleteUser_eq_some.mpr ⟨unowned, rfl⟩
  have gone := withoutUser_gone unowned unassigned
  unfold removeAccount
  simp only [cleanupOwnerships_unowned _ _ _ _ unowned, deleted, accepted]
  exact ⟨trivial, gone.audited now target current⟩

/-- A completed removal needs a deletable account. -/
theorem removeAccount_noContent
    (done : (removeAccount now hooks portal target ownershipAction ownershipTransferTo current).1 = .noContent) :
    Deletable hooks portal target.id current := by
  obtain ⟨audits, cleaned⟩ := cleanupAccount_frame portal.db target.id current.username now
  unfold removeAccount at done
  simp only at done
  split at done
  · cases done
  · rename_i settled settledOk
    split at done
    · rename_i deleted plus deletedOk accepted
      have moves := cleanupOwnerships_moves _ _ _ _ settledOk
      have unowned := (deleteUser_eq_some.mp deletedOk).1
      constructor
      · intro owner stored named
        have still : owner ∈ (cleanupAccount portal.db target.id current.username now).vmOwners := by
          rw [cleaned]
          exact stored
        obtain ⟨kept, member, same⟩ := moves.keeps still
        exact unowned kept member (same.trans named)
      · rw [accepted]
        rfl
    · cases done

/-- A guarded request completes, and leaves nothing of the account, exactly when the account is deletable. -/
theorem deleteLocalUser_completes_iff
    (guarded : Guarded portal userId ownershipAction ownershipTransferTo current target) :
    (CompletesOrNothing portal userId
        (deleteLocalUser now hooks portal userId ownershipAction ownershipTransferTo current) ∧
      (deleteLocalUser now hooks portal userId ownershipAction ownershipTransferTo current).1 = .noContent) ↔
      Deletable hooks portal userId current := by
  rw [guarded.removes, ← guarded.same_id]
  constructor
  · intro completes
    exact removeAccount_noContent hooks now completes.2
  · intro deletable
    have done := removeAccount_deletable hooks now ownershipAction ownershipTransferTo deletable
    exact ⟨.inl done, done.1⟩

end Endpoint

section Core
/-- Without Plus there are no further tables. -/
def coreUserHooks : PlusUserHooks Unit where
  onUserDeletedPlaybookPermissions := fun _ _ _ => ()
  onUserDeletedPools := fun _ _ _ => ()
  onUserDeletedApprovalWorkflow := fun _ _ _ => ()
  onUserDeletedScheduledJobs := fun _ _ _ => ()
  onUserDeletedAutoSnapshots := fun _ _ _ => ()
  onUserDeletedStacks := fun _ _ => ()
  userRowDeleted := fun _ _ => some ()

/-- Anna owns a guest, and Bert owned one in the past; Carl never owned any and is in a group. -/
def officeDb : Database where
  localUsers := [{ id := 1, username := "root", role := .admin }, { id := 2, username := "anna" },
    { id := 3, username := "bert" }, { id := 4, username := "carl" }]
  groups := [{ id := 1, name := "lab", ownerUserId := some 4 }]
  groupMembers := [⟨1, 4⟩]
  nodeAssignments := [⟨1, 1, .user, 4, 1⟩]
  vmOwners := [⟨1, .vm, 1, 101, 2, .deploy, none, none⟩,
    ⟨2, .vm, 1, 102, 3, .deploy, some "t0", some .selfRemoved⟩]

def rootUser : CurrentUser where
  username := "root"
  authType := .localUser
  role := .admin

/-- Carl is removed with the membership and the node assignment. -/
theorem deleteLocalUser_completes_carl :
    CompletesOrNothing ⟨officeDb, ()⟩ 4
        (deleteLocalUser "t1" coreUserHooks ⟨officeDb, ()⟩ 4 (some "orphan") none rootUser) ∧
      (deleteLocalUser "t1" coreUserHooks ⟨officeDb, ()⟩ 4 (some "orphan") none rootUser).1 = .noContent := by
  have guarded : Guarded ⟨officeDb, ()⟩ 4 (some "orphan") none rootUser { id := 4, username := "carl" } :=
    ⟨rfl, by decide, by decide, .inl rfl⟩
  exact (deleteLocalUser_completes_iff coreUserHooks "t1" guarded).mpr ⟨by decide, rfl⟩

/-- Anna keeps the account and loses the guest; Bert keeps the account because of the past. -/
theorem delete_former_owner_fails :
    ¬ (∀ (portal : Portal Unit) (userId : Int) (ownershipAction : Option String)
        (ownershipTransferTo : Option Int) (current : CurrentUser) (now : String) (target : LocalUser),
      Guarded portal userId ownershipAction ownershipTransferTo current target →
        CompletesOrNothing portal userId
          (deleteLocalUser now coreUserHooks portal userId ownershipAction ownershipTransferTo current)) ∧
    ¬ (∀ (portal : Portal Unit) (userId : Int) (ownershipAction : Option String)
        (ownershipTransferTo : Option Int) (current : CurrentUser) (now : String) (target : LocalUser),
      Guarded portal userId ownershipAction ownershipTransferTo current target →
        (∀ owner ∈ portal.db.vmOwners, owner.userId = userId → owner.deletedAt ≠ none) →
          (deleteLocalUser now coreUserHooks portal userId ownershipAction ownershipTransferTo current).1 =
            .noContent) := by
  constructor
  · intro claim
    rcases claim ⟨officeDb, ()⟩ 2 (some "orphan") none rootUser "t1" { id := 2, username := "anna" }
      ⟨rfl, by decide, by decide, .inl rfl⟩ with completed | unchanged
    · exact absurd completed.1 (by decide)
    · exact absurd unchanged.2 (by decide)
  · intro claim
    exact absurd (claim ⟨officeDb, ()⟩ 3 (some "orphan") none rootUser "t1" { id := 3, username := "bert" }
      ⟨rfl, by decide, by decide, .inl rfl⟩ (by decide)) (by decide)

end Core
end P3Portal.Users
