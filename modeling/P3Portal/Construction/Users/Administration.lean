import P3Portal.Construction.Auth.History
import P3Portal.Construction.Nodes.Deletion
import P3Portal.Construction.Owners.Ownership
import P3Portal.Foundation.Interleaving

namespace P3Portal.Users
open Schema Foundation Http Auth Nodes Owners

/-- The hooks of Plus change its tables, and its foreign keys take part in the deletion of an account. -/
structure PlusUserHooks (Store : Type) where
  onUserDeletedPlaybookPermissions : Store → Int → String → Store
  onUserDeletedPools : Store → Int → String → Store
  onUserDeletedApprovalWorkflow : Store → Int → String → Store
  onUserDeletedScheduledJobs : Store → Int → String → Store
  onUserDeletedAutoSnapshots : Store → Int → String → Store
  onUserDeletedStacks : Store → Int → Store
  userRowDeleted : Store → Int → Option Store

/-- `ON DELETE RESTRICT` on `vm_owners.user_id` also counts soft-deleted rows. -/
def ownerUserKey : ForeignKey VmOwner Int where
  reference := fun owner => some owner.userId
  onDelete := .restrict

/-- `ON DELETE SET NULL` on `groups.owner_user_id`. -/
def groupUserKey : ForeignKey Group Int where
  reference := Group.ownerUserId
  onDelete := .setNull (fun group => { group with ownerUserId := none }) fun _ => rfl

/-- `ON DELETE CASCADE` on `group_members.user_id`. -/
def memberUserKey : ForeignKey GroupMember Int where
  reference := fun member => some member.userId
  onDelete := .cascade

/-- `ON DELETE CASCADE` on `resource_assignments.user_id`. -/
def resourceUserKey : ForeignKey ResourceAssignment Int where
  reference := fun assignment => some assignment.userId
  onDelete := .cascade

/-- `ON DELETE CASCADE` on `user_sidebar_pins.user_id`. -/
def pinUserKey : ForeignKey SidebarPin Int where
  reference := fun pin => some pin.userId
  onDelete := .cascade

/-- `ON DELETE CASCADE` on `user_api_keys.user_id`. -/
def apiKeyUserKey : ForeignKey UserApiKey Int where
  reference := fun key => some key.userId
  onDelete := .cascade

/-- The statement `DELETE FROM local_users` with the actions of all foreign keys; a violation undoes it. -/
def deleteUser (db : Database) (userId : Int) : Option Database := do
  let vmOwners ← ownerUserKey.delete userId db.vmOwners
  let groups ← groupUserKey.delete userId db.groups
  let groupMembers ← memberUserKey.delete userId db.groupMembers
  let resourceAssignments ← resourceUserKey.delete userId db.resourceAssignments
  let userSidebarPins ← pinUserKey.delete userId db.userSidebarPins
  let userApiKeys ← apiKeyUserKey.delete userId db.userApiKeys
  return { db with
    vmOwners := vmOwners
    groups := groups
    groupMembers := groupMembers
    resourceAssignments := resourceAssignments
    userSidebarPins := userSidebarPins
    userApiKeys := userApiKeys
    localUsers := db.localUsers.filter fun user => user.id ≠ userId }

/-- One audit row is written for each detail. -/
def writeDetails (db : Database) (eventType deletedBy now : String) (details : List String) : Database :=
  details.foldl (fun db detail => writeAuditLog db eventType (some deletedBy) none (some detail) now) db

section
variable (db : Database) (userId : Int) (deletedBy now : String)

/-- The memberships and the owned groups are noted before the foreign keys change them. -/
def cleanupUserFromGroups : Database :=
  writeDetails
    (writeDetails db "group_member_removed" deletedBy now
      ((db.groupMembers.filter fun member => member.userId = userId).map fun member => Json.object
        [("group_id", toString member.groupId), ("user_id", toString userId),
          ("removed_by", Json.quoted deletedBy), ("source", Json.quoted "user_deleted")]))
    "group_owner_changed" deletedBy now
    ((db.groups.filter fun group => sqlEq group.ownerUserId (some userId)).map fun group => Json.object
      [("group_id", toString group.id), ("old_owner_id", toString userId), ("new_owner_id", "null")])

def cleanupPinsForUser : Database :=
  writeDetails db "sidebar_pin_auto_removed" deletedBy now
    ((db.userSidebarPins.filter fun pin => pin.userId = userId).map fun pin => Json.object
      [("user_id", toString userId), ("route", Json.quoted pin.route), ("reason", Json.quoted "user_deleted")])

/-- The assignments of a user have no foreign key, so they are deleted here. -/
def assignedTo (assignment : NodeAssignment) : Bool :=
  assignment.subjectType = .user && assignment.subjectId = userId

def cleanupAssignmentsForUser : Database :=
  writeDetails
    { db with nodeAssignments := db.nodeAssignments.filter fun assignment => !assignedTo userId assignment }
    "node_assignment_removed" deletedBy now
    ((db.nodeAssignments.filter (assignedTo userId)).map fun assignment => Json.object
      [("node_id", toString assignment.nodeId),
        ("node_name", ((getNode db assignment.nodeId).map fun row => Json.quoted row.name).getD "null"),
        ("subject_type", Json.quoted "user"), ("subject_id", toString userId),
        ("role_preset_id", toString assignment.rolePresetId), ("removed_by", Json.quoted deletedBy),
        ("source", Json.quoted "user_deleted")])

/-- The endpoint accepts these two texts. -/
def ownershipActionOf : Option String → Option OwnershipAction
  | some "transfer" => some .transfer
  | some "orphan" => some .orphan
  | _ => none

/-- A user with active rows needs a choice; what the hook itself raises is ignored. -/
def cleanupOwnerships (ownershipAction : Option String) (ownershipTransferTo : Option Int) :
    Except HttpException Database :=
  let ownerCount := Automation.countActiveOwnerships db userId
  if ownerCount = 0 then .ok db
  else match ownershipActionOf ownershipAction with
    | none => .error ⟨409, "user_has_ownerships:" ++ toString ownerCount⟩
    | some action => .ok ((onUserDelete db userId deletedBy action ownershipTransferTo now).toOption.getD db)

variable {Store : Type} (hooks : PlusUserHooks Store)

/-- The hooks of Plus run in turn; what they raise is ignored. -/
def plusCleanup (store : Store) : Store :=
  let store := hooks.onUserDeletedPlaybookPermissions store userId deletedBy
  let store := hooks.onUserDeletedPools store userId deletedBy
  let store := hooks.onUserDeletedApprovalWorkflow store userId deletedBy
  let store := hooks.onUserDeletedScheduledJobs store userId deletedBy
  let store := hooks.onUserDeletedAutoSnapshots store userId deletedBy
  hooks.onUserDeletedStacks store userId

/-- The cleanups that precede the one of the ownerships. -/
def cleanupAccount : Database :=
  cleanupAssignmentsForUser
    (cleanupPinsForUser (cleanupUserFromGroups db userId deletedBy now) userId deletedBy now) userId deletedBy now

def auditDeletion (target : LocalUser) (current : CurrentUser) : Database :=
  writeAuditLog db "user_deleted" (some current.username) (some current.authType.name)
    (some ("Nutzer '" ++ target.username ++ "' gelöscht")) now

/-- Every cleanup is committed before the account itself is deleted. -/
def removeAccount (portal : Portal Store) (target : LocalUser) (ownershipAction : Option String)
    (ownershipTransferTo : Option Int) (current : CurrentUser) : DeletionAnswer × Portal Store :=
  let cleaned := cleanupAccount portal.db target.id current.username now
  match cleanupOwnerships cleaned target.id current.username now ownershipAction ownershipTransferTo with
  | .error exception => (.refused exception, { portal with db := cleaned })
  | .ok settled =>
      let plus := plusCleanup target.id current.username hooks portal.plus
      match deleteUser settled target.id, hooks.userRowDeleted plus target.id with
      | some deleted, some plus =>
          (.noContent, ⟨auditDeletion deleted now target current, plus⟩)
      | _, _ => (.integrityError, ⟨settled, plus⟩)

/-- `DELETE /api/admin/users/{user_id}` behind its permission. -/
def deleteLocalUser (portal : Portal Store) (userId : Int) (ownershipAction : Option String)
    (ownershipTransferTo : Option Int) (current : CurrentUser) : DeletionAnswer × Portal Store :=
  match getUserById portal.db userId with
  | none => (.refused ⟨404, "User not found"⟩, portal)
  | some target =>
      if target.role = .admin && countActiveAdmins portal.db ≤ 1 then
        (.refused ⟨409, "Cannot delete the last active admin"⟩, portal)
      else if target.username = current.username then
        (.refused ⟨409, "Cannot delete your own account"⟩, portal)
      else removeAccount now hooks portal target ownershipAction ownershipTransferTo current
end

/-- An absent field keeps the stored column. -/
structure UserUpdateRequest where
  password : Option String := none
  role : Option Role := none
  active : Option Bool := none
  deriving DecidableEq

/-- The two endpoints that can take an admin away. -/
inductive AdminRequest where
  | updateLocalUser (userId : Int) (body : UserUpdateRequest)
  | deleteLocalUser (userId : Int) (ownershipAction : Option String) (ownershipTransferTo : Option Int)
  deriving DecidableEq

inductive AdminAnswer where
  | updated
  | noContent
  | refused (exception : HttpException)
  | integrityError
  deriving DecidableEq

/-- A request runs from one database session to the next and keeps the account that it read first. -/
inductive AdminPhase where
  | arrived
  | counting (target : LocalUser)
  | checked (target : LocalUser)
  | settling (target : LocalUser)
  | deleting (target : LocalUser)
  | revoking (target : LocalUser)
  | finished (answer : AdminAnswer)
  deriving DecidableEq

structure AdminCall where
  request : AdminRequest
  current : CurrentUser
  phase : AdminPhase := .arrived
  deriving DecidableEq

/-- The update takes the role or the active flag from an admin. -/
def wouldLoseAdmin (body : UserUpdateRequest) (target : LocalUser) : Bool :=
  (body.role.isSome && body.role ≠ some .admin && target.role = .admin) ||
    (body.active = some false && target.role = .admin && target.active)

def UserUpdateRequest.apply (hashPassword : String → String) (body : UserUpdateRequest) (row : LocalUser) :
    LocalUser :=
  { row with
    passwordHash := (body.password.map hashPassword).getD row.passwordHash
    role := body.role.getD row.role
    active := body.active.getD row.active }

def updateUser (hashPassword : String → String) (db : Database) (userId : Int) (body : UserUpdateRequest) :
    Database :=
  updateUsers db (fun row => row.id = userId) (body.apply hashPassword)

/-- The audit log lists the changes of an update. -/
def changesOf (body : UserUpdateRequest) : List String :=
  (body.role.map fun role => "Rolle→" ++ role.name).toList ++
    (body.active.map fun active => if active then "aktiviert" else "deaktiviert").toList ++
    (body.password.map fun _ => "Passwort geändert").toList

def auditUpdate (db : Database) (target : LocalUser) (body : UserUpdateRequest) (current : CurrentUser)
    (now : String) : Database :=
  writeAuditLog db "user_updated" (some current.username) (some current.authType.name)
    (some ("Nutzer '" ++ target.username ++ "': " ++ ", ".intercalate (changesOf body))) now

section
variable {Store : Type} (hashPassword : String → String) (hooks : PlusUserHooks Store) (now : String)

/-- The last admin is protected when the request takes an admin away. -/
def AdminRequest.needsCount (target : LocalUser) : AdminRequest → Bool
  | .updateLocalUser _ body => wouldLoseAdmin body target
  | .deleteLocalUser _ _ _ => target.role = .admin

def AdminRequest.userId : AdminRequest → Int
  | .updateLocalUser userId _ => userId
  | .deleteLocalUser userId _ _ => userId

def AdminRequest.lastAdmin : AdminRequest → HttpException
  | .updateLocalUser _ _ => ⟨409, "Cannot remove the last active admin"⟩
  | .deleteLocalUser _ _ _ => ⟨409, "Cannot delete the last active admin"⟩

/-- The update is committed, or the account has vanished meanwhile. -/
def commitUpdate (portal : Portal Store) (target : LocalUser) (userId : Int) (body : UserUpdateRequest)
    (current : CurrentUser) : Portal Store × AdminPhase :=
  let db := updateUser hashPassword portal.db userId body
  if (getUserById db userId).isNone then ({ portal with db := db }, .finished (.refused ⟨404, "User not found"⟩))
  else if body.active = some false && target.active then ({ portal with db := db }, .revoking target)
  else ({ portal with db := auditUpdate db target body current now }, .finished .updated)

/-- The deletion is committed, or a foreign key refuses it. -/
def commitDeletion (portal : Portal Store) (target : LocalUser) (userId : Int) (current : CurrentUser) :
    Portal Store × AdminPhase :=
  match deleteUser portal.db userId, hooks.userRowDeleted portal.plus userId with
  | some db, some plus => (⟨auditDeletion db now target current, plus⟩, .finished .noContent)
  | _, _ => (portal, .finished .integrityError)

/-- A request that has passed its guard; a deletion of the own account is refused here. -/
def afterGuard (portal : Portal Store) (target : LocalUser) (current : CurrentUser) :
    AdminRequest → Portal Store × AdminPhase
  | .updateLocalUser userId body => commitUpdate hashPassword now portal target userId body current
  | .deleteLocalUser userId _ _ =>
      if target.username = current.username then
        (portal, .finished (.refused ⟨409, "Cannot delete your own account"⟩))
      else ({ portal with db := cleanupAccount portal.db userId current.username now }, .settling target)

/-- The ownerships and the tables of Plus are settled before the account is deleted. -/
def settle (portal : Portal Store) (target : LocalUser) (current : CurrentUser) :
    AdminRequest → Portal Store × AdminPhase
  | .updateLocalUser _ _ => (portal, .settling target)
  | .deleteLocalUser userId action transferTo =>
      match cleanupOwnerships portal.db userId current.username now action transferTo with
      | .error exception => (portal, .finished (.refused exception))
      | .ok db => (⟨db, plusCleanup userId current.username hooks portal.plus⟩, .deleting target)

/-- A deactivated account loses its sessions. -/
def revoke (portal : Portal Store) (target : LocalUser) (current : CurrentUser) :
    AdminRequest → Portal Store × AdminPhase
  | .updateLocalUser _ body =>
      ({ portal with db := auditUpdate (revokeAllForUser portal.db target.username none) target body current now },
        .finished .updated)
  | .deleteLocalUser _ _ _ => (portal, .revoking target)

/-- One turn of a request runs to the end of its next database session. -/
def AdminCall.turn (portal : Portal Store) (call : AdminCall) : Portal Store × AdminPhase :=
  match call.phase with
  | .arrived =>
      match getUserById portal.db call.request.userId with
      | none => (portal, .finished (.refused ⟨404, "User not found"⟩))
      | some target => (portal, if call.request.needsCount target then .counting target else .checked target)
  | .counting target =>
      if countActiveAdmins portal.db ≤ 1 then (portal, .finished (.refused call.request.lastAdmin))
      else (portal, .checked target)
  | .checked target => afterGuard hashPassword now portal target call.current call.request
  | .settling target => settle hooks now portal target call.current call.request
  | .deleting target => commitDeletion hooks now portal target call.request.userId call.current
  | .revoking target => revoke now portal target call.current call.request
  | .finished answer => (portal, .finished answer)

def AdminCall.advance (portal : Portal Store) (call : AdminCall) : Portal Store × AdminCall :=
  ((call.turn hashPassword hooks now portal).1,
    { call with phase := (call.turn hashPassword hooks now portal).2 })

abbrev AdminState (Store : Type) := Interleaved (Portal Store) AdminCall

/-- The columns of an account that make it an active admin. -/
def standing (user : LocalUser) : Int × Role × Bool := (user.id, user.role, user.active)

/-- Requests arrive and take turns while the rest of the portal writes anything but these columns. -/
inductive AdminEvent (Store : Type) where
  | request (request : AdminRequest) (current : CurrentUser)
  | advance (index : Nat) (now : String)
  | elsewhere (portal : Portal Store)

def adminStep (state : AdminState Store) : AdminEvent Store → AdminState Store
  | .request request current => state.spawn { request := request, current := current }
  | .advance index now => state.act (AdminCall.advance hashPassword hooks now) index
  | .elsewhere portal =>
      if portal.db.localUsers.map standing = state.shared.db.localUsers.map standing then
        { state with shared := portal }
      else state
end
end P3Portal.Users
