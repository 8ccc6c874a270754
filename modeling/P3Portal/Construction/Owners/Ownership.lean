import P3Portal.Construction.Automation.Launch

namespace P3Portal.Owners
open Schema Foundation Auth Automation

def ResourceType.name : ResourceType → String
  | .vm => "vm"
  | .lxc => "lxc"

/-- The column stores the reason under this name. -/
def DeletedReason.name : DeletedReason → String
  | .userDeleted => "user_deleted"
  | .resourceDeleted => "resource_deleted"
  | .transferred => "transferred"
  | .selfRemoved => "self_removed"
  | .adminRemoved => "admin_removed"
  | .lastOwnerOrphaned => "last_owner_orphaned"
  | .nodeDeleted => "node_deleted"

/-- A guest is named by its kind, its installation and its number. -/
structure Guest where
  resourceType : ResourceType
  nodeId : Int
  vmid : Int
  deriving DecidableEq

def ownerGuest (owner : VmOwner) : Guest := ⟨owner.resourceType, owner.nodeId, owner.vmid⟩

/-- The audit log names a guest in this way. -/
def Guest.label (guest : Guest) : String :=
  ResourceType.name guest.resourceType ++ " vmid=" ++ toString guest.vmid ++ " node=" ++ toString guest.nodeId

/-- The service raises one of its own exceptions or lets the database error pass. -/
inductive OwnerError where
  | limitExceeded (message : String)
  | duplicateOwner (message : String)
  | lastOwner (message : String)
  | keyError (message : String)
  | valueError (message : String)
  | integrityError
  deriving DecidableEq

def activeFor (userId : Int) (owner : VmOwner) : Bool := owner.userId = userId && owner.deletedAt.isNone

def isOwner (db : Database) (userId : Int) (guest : Guest) : Bool :=
  db.vmOwners.any fun owner => activeFor userId owner && ownerGuest owner = guest

def countActiveOwners (db : Database) (guest : Guest) : Nat :=
  (db.vmOwners.filter fun owner => ownerGuest owner = guest && owner.deletedAt.isNone).length

/-- A new row takes the next free identifier. -/
def nextOwnerId (db : Database) : Int := (db.vmOwners.map VmOwner.id).foldl max 0 + 1

/-- The insert needs the rows that its foreign keys name, and no active row of the user for the guest. -/
def insertOwner (db : Database) (guest : Guest) (userId : Int) (assignedBy : Option Int)
    (source : OwnerSource) : Option Database :=
  if (Nodes.getNode db guest.nodeId).isSome && (getUserById db userId).isSome &&
      assignedBy.all (fun actor => (getUserById db actor).isSome) && !isOwner db userId guest then
    some { db with vmOwners := db.vmOwners ++
      [⟨nextOwnerId db, guest.resourceType, guest.nodeId, guest.vmid, userId, source, none, none⟩] }
  else none

/-- The active rows among the selected ones are marked as deleted. -/
def softDelete (db : Database) (selected : VmOwner → Bool) (reason : DeletedReason) (now : String) : Database :=
  { db with vmOwners := db.vmOwners.map fun owner =>
      if selected owner && owner.deletedAt.isNone then
        { owner with deletedAt := some now, deletedReason := some reason }
      else owner }

variable (maxOwnerships : Option Int) (db : Database)

/-- The limit that the user has reached. -/
def limitReached (userId : Int) : Option Int :=
  maxOwnerships.filter (· ≤ (countActiveOwnerships db userId : Int))

/-- A count is shown against the limit. -/
def usage (userId : Int) (most : Int) : String :=
  "(" ++ toString (countActiveOwnerships db userId) ++ "/" ++ toString most ++ ")"

def addOwner (guest : Guest) (userId actorUserId : Int) (source : OwnerSource) (actorUsername now : String) :
    Except OwnerError Database :=
  match limitReached maxOwnerships db userId with
  | some most => .error (.limitExceeded ("Owner-Limit erreicht " ++ usage db userId most ++
      ". Bestehende Eigentümerschaft aufgeben oder auf Plus upgraden, dann erneut deployen."))
  | none =>
      match getUserById db userId with
      | none => .error (.keyError ("User " ++ toString userId ++ " nicht gefunden"))
      | some target =>
          if !target.active then .error (.valueError ("User " ++ toString userId ++ " ist deaktiviert"))
          else match insertOwner db guest userId (some actorUserId) source with
            | none => .error (.duplicateOwner
                ("User " ++ toString userId ++ " ist bereits aktiver Owner dieser Ressource"))
            | some db => .ok (writeAuditLog db "owner_added" (some actorUsername) (some "local")
                (some ("Co-Owner user_id=" ++ toString userId ++ " hinzugefügt zu " ++ guest.label)) now)

/-- The last owner is removed only when the caller accepts an orphaned guest. -/
def removeOwner (guest : Guest) (userId : Int) (orphan : Bool) (deletedReason : DeletedReason)
    (actorUsername now : String) : Except OwnerError Database :=
  if !isOwner db userId guest then
    .error (.keyError ("User " ++ toString userId ++ " ist kein aktiver Owner dieser Ressource"))
  else if countActiveOwners db guest = 1 && !orphan then
    .error (.lastOwner "Du bist der letzte Owner. Setze orphan=true um die Ressource zu verwaisen.")
  else
    let reason := if 1 < countActiveOwners db guest then deletedReason else .lastOwnerOrphaned
    .ok (writeAuditLog
      (softDelete db (fun owner => ownerGuest owner = guest && owner.userId = userId) reason now)
      "owner_removed" (some actorUsername) (some "local")
      (some ("Owner user_id=" ++ toString userId ++ " entfernt von " ++ guest.label ++ " (reason=" ++
        DeletedReason.name reason ++ ")")) now)

/-- The old row and the new one are written in one transaction. -/
def transferOwner (guest : Guest) (fromUserId toUserId actorUserId : Int) (actorUsername now : String) :
    Except OwnerError Database :=
  match limitReached maxOwnerships db toUserId with
  | some most => .error (.limitExceeded ("Ziel-User hat das Owner-Limit erreicht " ++ usage db toUserId most))
  | none =>
      if !isOwner db fromUserId guest then
        .error (.keyError ("User " ++ toString fromUserId ++ " ist kein aktiver Owner dieser Ressource"))
      else match getUserById db toUserId with
        | none => .error (.keyError ("Ziel-User " ++ toString toUserId ++ " nicht gefunden"))
        | some target =>
            if !target.active then
              .error (.valueError ("Ziel-User " ++ toString toUserId ++ " ist deaktiviert"))
            else match insertOwner
                (softDelete db (fun owner => ownerGuest owner = guest && owner.userId = fromUserId)
                  .transferred now)
                guest toUserId (some actorUserId) .transfer with
              | none => .error (.duplicateOwner
                  ("Ziel-User " ++ toString toUserId ++ " ist bereits aktiver Owner"))
              | some db => .ok (writeAuditLog db "owner_transferred" (some actorUsername) (some "local")
                  (some ("Eigentum übertragen: from_user=" ++ toString fromUserId ++ " to_user=" ++
                    toString toUserId ++ " " ++ guest.label)) now)

/-- A guest without an active owner is adopted by the admin who asks. -/
def adopt (guest : Guest) (actorUserId : Int) (actorUsername now : String) : Except OwnerError Database :=
  if 0 < countActiveOwners db guest then
    .error (.duplicateOwner "Ressource hat bereits einen aktiven Owner")
  else match limitReached maxOwnerships db actorUserId with
    | some most => .error (.limitExceeded ("Owner-Limit erreicht " ++ usage db actorUserId most))
    | none =>
        match insertOwner db guest actorUserId (some actorUserId) .adopt with
        | none => .error .integrityError
        | some db => .ok (writeAuditLog db "owner_adopted" (some actorUsername) (some "local")
            (some ("Externe Ressource adoptiert: " ++ guest.label)) now)

/-- The ownerships of a deleted user are handed over or given up. -/
inductive OwnershipAction where
  | transfer
  | orphan
  deriving DecidableEq

def activeEntries (userId : Int) : List VmOwner := db.vmOwners.filter (activeFor userId)

/-- One row is handed over; a refused insert is ignored and the old row stays deleted. -/
def transferEntry (userId toUserId : Int) (actorUsername now : String) (db : Database) (entry : VmOwner) :
    Database :=
  let deleted := softDelete db (fun owner => owner.id = entry.id) .userDeleted now
  let inserted := (insertOwner deleted (ownerGuest entry) toUserId none .transfer).getD deleted
  writeAuditLog inserted "owner_transferred" (some actorUsername) (some "local")
    (some ("User-Delete-Transfer: from_user=" ++ toString userId ++ " to_user=" ++ toString toUserId ++ " " ++
      (ownerGuest entry).label)) now

/-- The deletion of a user first settles the active ownerships. -/
def onUserDelete (userId : Int) (actorUsername : String) (action : OwnershipAction)
    (transferToUserId : Option Int) (now : String) : Except OwnerError Database :=
  match action, transferToUserId with
  | .transfer, none => .error (.valueError "transfer_to_user_id ist Pflicht bei action=transfer")
  | .transfer, some toUserId =>
      .ok ((activeEntries db userId).foldl (transferEntry userId toUserId actorUsername now) db)
  | .orphan, _ =>
      .ok ((activeEntries db userId).foldl (fun db entry =>
          writeAuditLog db "owner_removed" (some actorUsername) (some "local")
            (some ("User-Delete-Orphan: " ++ (ownerGuest entry).label ++ " reason=user_deleted")) now)
        (softDelete db (fun owner => owner.userId = userId) .userDeleted now))

/-- The column stores the origin under this name. -/
def OwnerSource.name : OwnerSource → String
  | .deploy => "deploy"
  | .adopt => "adopt"
  | .coownerAdd => "coowner_add"
  | .transfer => "transfer"

/-- The check constraint `ck_vm_owners_source`. -/
def OwnerSource.ofName (name : String) : Option OwnerSource :=
  [.deploy, .adopt, .coownerAdd, .transfer].find? fun source => OwnerSource.name source = name

/-- The check constraint `ck_vm_owners_deleted_reason`. -/
def DeletedReason.ofName (name : String) : Option DeletedReason :=
  [.userDeleted, .resourceDeleted, .transferred, .selfRemoved, .adminRemoved, .lastOwnerOrphaned,
    .nodeDeleted].find? fun reason => DeletedReason.name reason = name

/-- An insert with a text as its origin also has to pass the check constraint. -/
def insertOwnerNamed (guest : Guest) (userId : Int) (assignedBy : Option Int) (source : String) :
    Option Database :=
  (OwnerSource.ofName source).bind (insertOwner db guest userId assignedBy)

/-- An update with a text as its reason is refused when it would store the reason in some row. -/
def softDeleteNamed (selected : VmOwner → Bool) (reason now : String) : Option Database :=
  match DeletedReason.ofName reason with
  | some reason => some (softDelete db selected reason now)
  | none => if db.vmOwners.any (fun owner => selected owner && owner.deletedAt.isNone) then none else some db

/-- `add_owner` takes its origin as a text, and every integrity error counts as a duplicate. -/
def addOwnerNamed (guest : Guest) (userId actorUserId : Int) (source actorUsername now : String) :
    Except OwnerError Database :=
  match limitReached maxOwnerships db userId with
  | some most => .error (.limitExceeded ("Owner-Limit erreicht " ++ usage db userId most ++
      ". Bestehende Eigentümerschaft aufgeben oder auf Plus upgraden, dann erneut deployen."))
  | none =>
      match getUserById db userId with
      | none => .error (.keyError ("User " ++ toString userId ++ " nicht gefunden"))
      | some target =>
          if !target.active then .error (.valueError ("User " ++ toString userId ++ " ist deaktiviert"))
          else match insertOwnerNamed db guest userId (some actorUserId) source with
            | none => .error (.duplicateOwner
                ("User " ++ toString userId ++ " ist bereits aktiver Owner dieser Ressource"))
            | some db => .ok (writeAuditLog db "owner_added" (some actorUsername) (some "local")
                (some ("Co-Owner user_id=" ++ toString userId ++ " hinzugefügt zu " ++ guest.label)) now)

end P3Portal.Owners
