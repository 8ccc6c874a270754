import P3Portal.Construction.Owners.Ownership
import P3Portal.Foundation.Interleaving
import P3Portal.Foundation.Run

namespace P3Portal.Owners
open Schema Foundation Auth Automation

structure RemoveRequest where
  guest : Guest
  userId : Int
  orphan : Bool := false
  deletedReason : DeletedReason := .adminRemoved
  actorUsername : String
  deriving DecidableEq

/-- A request finds the row of its user, counts the owners of the guest and then marks the row. A success
keeps how many rows the update has marked. -/
inductive RemovePhase where
  | arrived
  | found
  | counted (activeCount : Nat)
  | finished (answer : Except OwnerError Nat)
  deriving DecidableEq

structure RemoveCall where
  request : RemoveRequest
  phase : RemovePhase := .arrived
  deriving DecidableEq

/-- The update selects the active rows of the user for the guest. -/
def activeRows (db : Database) (userId : Int) (guest : Guest) : Nat :=
  (db.vmOwners.filter fun owner => activeFor userId owner && ownerGuest owner = guest).length

/-- One turn of `remove_owner` runs to the end of its next database session. -/
def RemoveCall.turn (now : String) (db : Database) (call : RemoveCall) : Database × RemovePhase :=
  let request := call.request
  match call.phase with
  | .arrived =>
      if isOwner db request.userId request.guest then (db, .found)
      else (db, .finished (.error (.keyError
        ("User " ++ toString request.userId ++ " ist kein aktiver Owner dieser Ressource"))))
  | .found =>
      let activeCount := countActiveOwners db request.guest
      if activeCount = 1 && !request.orphan then
        (db, .finished (.error (.lastOwner
          "Du bist der letzte Owner. Setze orphan=true um die Ressource zu verwaisen.")))
      else (db, .counted activeCount)
  | .counted activeCount =>
      let reason := if 1 < activeCount then request.deletedReason else .lastOwnerOrphaned
      (writeAuditLog
        (softDelete db (fun owner => ownerGuest owner = request.guest && owner.userId = request.userId) reason now)
        "owner_removed" (some request.actorUsername) (some "local")
        (some ("Owner user_id=" ++ toString request.userId ++ " entfernt von " ++ request.guest.label ++
          " (reason=" ++ DeletedReason.name reason ++ ")")) now,
        .finished (.ok (activeRows db request.userId request.guest)))
  | .finished answer => (db, .finished answer)

def RemoveCall.advance (now : String) (db : Database) (call : RemoveCall) : Database × RemoveCall :=
  ((call.turn now db).1, { call with phase := (call.turn now db).2 })

abbrev RemovalState := Interleaved Database RemoveCall

inductive RemoveEvent where
  | request (request : RemoveRequest)
  | advance (index : Nat) (now : String)

def removeStep (state : RemovalState) : RemoveEvent → RemovalState
  | .request request => state.spawn { request := request }
  | .advance index now => state.act (RemoveCall.advance now) index

/-- These categories of jobs create guests. -/
def deployCategories : List String := ["vm_deployment", "lxc_deployment"]

def jobParam (job : JobRow) (key : String) : Option ParamValue :=
  (job.params.lookup key).filter (· ≠ .null)

/-- A value that is no number is skipped; an infinite one raises. -/
def vmidAt (job : JobRow) (key : String) : Except IntError (Option Int) :=
  match jobParam job key with
  | none => .ok none
  | some value =>
      match value.toInt with
      | .ok vmid => .ok (some vmid)
      | .error .invalid => .ok none
      | .error .overflow => .error .overflow

def resolveVmid (job : JobRow) : Except IntError (Option Int) := do
  match ← vmidAt job "vm_id" with
  | some vmid => return some vmid
  | none => vmidAt job "vmid"

/-- The database compares a value that is no text in its own way, or raises. -/
structure HookSite where
  maxOwnerships : Option Int
  databaseText : ParamValue → Option String := fun _ => none

section
variable (site : HookSite) (db : Database)

/-- The primary names are searched before the member lists, both in scan order. -/
def resolveNodeId (job : JobRow) : Except Unit (Option Int) :=
  match (jobParam job "proxmox_node").filter ParamValue.truthy with
  | none => .ok none
  | some (.text name) => .ok
      (((db.nodes.find? fun row => row.proxmoxNode = name).or
        (db.nodes.find? fun row => row.clusterNodes.contains name)).map NodeRow.id)
  | some value =>
      match site.databaseText value with
      | none => .error ()
      | some name => .ok ((db.nodes.find? fun row => row.proxmoxNode = name).map NodeRow.id)

/-- The hook notes in the audit log why it made nobody an owner. -/
def skipped (username detail now : String) : Database :=
  writeAuditLog db "owner_auto_assign_skipped" (some username) (some "local") (some detail) now

/-- The user of a successful deploy becomes the owner of the new guest. -/
def assignOwner (job : JobRow) (guest : Guest) (userId : Int) (now : String) : Database :=
  match (getUserById db userId).filter LocalUser.active with
  | none => skipped db job.job.username
      ("job " ++ job.job.id ++ ": user " ++ toString userId ++ " deaktiviert oder gelöscht") now
  | some user =>
      match limitReached site.maxOwnerships db userId with
      | some most => skipped db user.username
          ("job " ++ job.job.id ++ ": limit_exceeded_after_deploy " ++ usage db userId most) now
      | none =>
          match insertOwner db guest userId (some userId) .deploy with
          | none => db
          | some db => writeAuditLog db "owner_auto_assigned" (some user.username) (some "local")
              (some ("job " ++ job.job.id ++ ": Owner eingetragen " ++ guest.label)) now

/-- The hook reads the stored job; what it raises is ignored by its caller. -/
def onDeploySuccess (job : Option JobRow) (now : String) : Database :=
  match job with
  | none => db
  | some job =>
      match job.autoOwnerUserId, job.deployCategory.filter (· ∈ deployCategories) with
      | some userId, some category =>
          match resolveNodeId site db job, resolveVmid job with
          | .ok (some nodeId), .ok (some vmid) => assignOwner site db job
              ⟨if category = "lxc_deployment" then .lxc else .vm, nodeId, vmid⟩ userId now
          | .ok _, .ok _ =>
              skipped db job.job.username ("job " ++ job.job.id ++ ": node_id oder vmid nicht ermittelt") now
          | _, _ => db
      | _, _ => db

/-- These changes of the ownerships make up a history. -/
inductive OwnerEvent where
  | addOwner (guest : Guest) (userId actorUserId : Int) (source : OwnerSource) (actorUsername now : String)
  | removeOwner (guest : Guest) (userId : Int) (orphan : Bool) (deletedReason : DeletedReason)
      (actorUsername now : String)
  | transferOwner (guest : Guest) (fromUserId toUserId actorUserId : Int) (actorUsername now : String)
  | adopt (guest : Guest) (actorUserId : Int) (actorUsername now : String)
  | onDeploySuccess (job : Option JobRow) (now : String)
  | onUserDelete (userId : Int) (actorUsername : String) (action : OwnershipAction)
      (transferToUserId : Option Int) (now : String)

/-- A refused change leaves the rows as they are. -/
def step : OwnerEvent → Database
  | .addOwner guest userId actorUserId source actorUsername now =>
      (addOwner site.maxOwnerships db guest userId actorUserId source actorUsername now).toOption.getD db
  | .removeOwner guest userId orphan deletedReason actorUsername now =>
      (removeOwner db guest userId orphan deletedReason actorUsername now).toOption.getD db
  | .transferOwner guest fromUserId toUserId actorUserId actorUsername now =>
      (transferOwner site.maxOwnerships db guest fromUserId toUserId actorUserId actorUsername
        now).toOption.getD db
  | .adopt guest actorUserId actorUsername now =>
      (adopt site.maxOwnerships db guest actorUserId actorUsername now).toOption.getD db
  | .onDeploySuccess job now => onDeploySuccess site db job now
  | .onUserDelete userId actorUsername action transferToUserId now =>
      (onUserDelete db userId actorUsername action transferToUserId now).toOption.getD db
end

/-- The portal runs on one of these databases. -/
inductive Dialect where
  | sqlite
  | postgresql
  deriving DecidableEq

section
variable (dialect : Dialect)

/-- A row counts for the index `uq_vm_owners_active`, whose predicate is given for SQLite only. -/
def indexed (owner : VmOwner) : Bool := dialect = .postgresql || owner.deletedAt.isNone

/-- The index refuses a second row of the user for the guest. -/
def indexHolds (db : Database) (userId : Int) (guest : Guest) : Bool :=
  db.vmOwners.any fun owner => owner.userId = userId && indexed dialect owner && ownerGuest owner = guest

/-- The insert needs the rows that its foreign keys name, and a free place in the index. -/
def insertOwnerOn (db : Database) (guest : Guest) (userId : Int) (assignedBy : Option Int)
    (source : OwnerSource) : Option Database :=
  if (Nodes.getNode db guest.nodeId).isSome && (getUserById db userId).isSome &&
      assignedBy.all (fun actor => (getUserById db actor).isSome) && !indexHolds dialect db userId guest then
    some { db with vmOwners := db.vmOwners ++
      [⟨nextOwnerId db, guest.resourceType, guest.nodeId, guest.vmid, userId, source, none, none⟩] }
  else none

section Service
variable (maxOwnerships : Option Int) (db : Database)

def addOwnerOn (guest : Guest) (userId actorUserId : Int) (source : OwnerSource) (actorUsername now : String) :
    Except OwnerError Database :=
  match limitReached maxOwnerships db userId with
  | some most => .error (.limitExceeded ("Owner-Limit erreicht " ++ usage db userId most ++
      ". Bestehende Eigentümerschaft aufgeben oder auf Plus upgraden, dann erneut deployen."))
  | none =>
      match getUserById db userId with
      | none => .error (.keyError ("User " ++ toString userId ++ " nicht gefunden"))
      | some target =>
          if !target.active then .error (.valueError ("User " ++ toString userId ++ " ist deaktiviert"))
          else match insertOwnerOn dialect db guest userId (some actorUserId) source with
            | none => .error (.duplicateOwner
                ("User " ++ toString userId ++ " ist bereits aktiver Owner dieser Ressource"))
            | some db => .ok (writeAuditLog db "owner_added" (some actorUsername) (some "local")
                (some ("Co-Owner user_id=" ++ toString userId ++ " hinzugefügt zu " ++ guest.label)) now)

/-- A refused insert ends the transaction, and the old row stays as it was. -/
def transferOwnerOn (guest : Guest) (fromUserId toUserId actorUserId : Int) (actorUsername now : String) :
    Except OwnerError Database :=
  match limitReached maxOwnerships db toUserId with
  | some most => .error (.limitExceeded ("Ziel-User hat das Owner-Limit erreicht " ++ usage db toUserId most))
  | none =>
      if !isOwner db fromUserId guest then
        .error (.keyError ("User " ++ toString fromUserId ++ " ist kein aktiver Owner dieser Ressource"))
      else match getUserById db toUserId with
        | none => .error (.keyError ("Ziel-User " ++ toString toUserId ++ " nicht gefunden"))
        | some target =>
            if !target.active then
              .error (.valueError ("Ziel-User " ++ toString toUserId ++ " ist deaktiviert"))
            else match insertOwnerOn dialect
                (softDelete db (fun owner => ownerGuest owner = guest && owner.userId = fromUserId)
                  .transferred now)
                guest toUserId (some actorUserId) .transfer with
              | none => .error (.duplicateOwner
                  ("Ziel-User " ++ toString toUserId ++ " ist bereits aktiver Owner"))
              | some db => .ok (writeAuditLog db "owner_transferred" (some actorUsername) (some "local")
                  (some ("Eigentum übertragen: from_user=" ++ toString fromUserId ++ " to_user=" ++
                    toString toUserId ++ " " ++ guest.label)) now)

def adoptOn (guest : Guest) (actorUserId : Int) (actorUsername now : String) : Except OwnerError Database :=
  if 0 < countActiveOwners db guest then
    .error (.duplicateOwner "Ressource hat bereits einen aktiven Owner")
  else match limitReached maxOwnerships db actorUserId with
    | some most => .error (.limitExceeded ("Owner-Limit erreicht " ++ usage db actorUserId most))
    | none =>
        match insertOwnerOn dialect db guest actorUserId (some actorUserId) .adopt with
        | none => .error .integrityError
        | some db => .ok (writeAuditLog db "owner_adopted" (some actorUsername) (some "local")
            (some ("Externe Ressource adoptiert: " ++ guest.label)) now)

/-- A refused insert is ignored. SQLite keeps what the transaction did before it; PostgreSQL has aborted the
transaction, and its commit undoes the deletion of the old row. -/
def transferEntryOn (userId toUserId : Int) (actorUsername now : String) (db : Database) (entry : VmOwner) :
    Database :=
  let deleted := softDelete db (fun owner => owner.id = entry.id) .userDeleted now
  let refused := match dialect with
    | .sqlite => deleted
    | .postgresql => db
  let inserted := (insertOwnerOn dialect deleted (ownerGuest entry) toUserId none .transfer).getD refused
  writeAuditLog inserted "owner_transferred" (some actorUsername) (some "local")
    (some ("User-Delete-Transfer: from_user=" ++ toString userId ++ " to_user=" ++ toString toUserId ++ " " ++
      (ownerGuest entry).label)) now

def onUserDeleteOn (userId : Int) (actorUsername : String) (action : OwnershipAction)
    (transferToUserId : Option Int) (now : String) : Except OwnerError Database :=
  match action, transferToUserId with
  | .transfer, none => .error (.valueError "transfer_to_user_id ist Pflicht bei action=transfer")
  | .transfer, some toUserId =>
      .ok ((activeEntries db userId).foldl (transferEntryOn dialect userId toUserId actorUsername now) db)
  | .orphan, _ =>
      .ok ((activeEntries db userId).foldl (fun db entry =>
          writeAuditLog db "owner_removed" (some actorUsername) (some "local")
            (some ("User-Delete-Orphan: " ++ (ownerGuest entry).label ++ " reason=user_deleted")) now)
        (softDelete db (fun owner => owner.userId = userId) .userDeleted now))

/-- The requests that change the owners of a guest. -/
inductive OwnerRequest where
  | addOwner (guest : Guest) (userId actorUserId : Int) (source : OwnerSource) (actorUsername now : String)
  | removeOwner (guest : Guest) (userId : Int) (orphan : Bool) (deletedReason : DeletedReason)
      (actorUsername now : String)
  | transferOwner (guest : Guest) (fromUserId toUserId actorUserId : Int) (actorUsername now : String)
  | adopt (guest : Guest) (actorUserId : Int) (actorUsername now : String)

/-- A refused request leaves the rows as they are. -/
def requestStep (db : Database) : OwnerRequest → Database
  | .addOwner guest userId actorUserId source actorUsername now =>
      (addOwnerOn dialect maxOwnerships db guest userId actorUserId source actorUsername now).toOption.getD db
  | .removeOwner guest userId orphan deletedReason actorUsername now =>
      (removeOwner db guest userId orphan deletedReason actorUsername now).toOption.getD db
  | .transferOwner guest fromUserId toUserId actorUserId actorUsername now =>
      (transferOwnerOn dialect maxOwnerships db guest fromUserId toUserId actorUserId actorUsername
        now).toOption.getD db
  | .adopt guest actorUserId actorUsername now =>
      (adoptOn dialect maxOwnerships db guest actorUserId actorUsername now).toOption.getD db

end Service
end
end P3Portal.Owners
