import P3Portal.Construction.Owners.History
import P3Portal.Construction.Vms.Lifecycle
import P3Portal.Foundation.Interleaving

namespace P3Portal.Owners
open Schema Foundation

/-- The active rows of a deleted guest are marked and noted in the audit log. -/
def onResourceDeleted (db : Database) (guest : Guest) (actorUsername now : String) : Database :=
  let ownerCount := countActiveOwners db guest
  if ownerCount = 0 then db
  else writeAuditLog (softDelete db (fun owner => ownerGuest owner = guest) .resourceDeleted now)
    "owner_resource_deleted" (some actorUsername) (some "local")
    (some ("Ressource gelöscht: " ++ guest.label ++ " owner_count=" ++ toString ownerCount)) now

/-- The reconciliation reads this field of a listed entry. -/
structure RawVm where
  vmid : Option Int
  deriving DecidableEq

/-- The numbers of the listed entries count, whatever their kind. -/
def aliveVmids (rawVms : List RawVm) : List Int := rawVms.filterMap RawVm.vmid

/-- `SELECT DISTINCT resource_type, vmid` over the active rows of the node. -/
def ownedKeys (db : Database) (nodeId : Int) : List (ResourceType × Int) :=
  ((db.vmOwners.filter fun owner => owner.nodeId = nodeId && owner.deletedAt.isNone).map fun owner =>
    (owner.resourceType, owner.vmid)).dedup

/-- `reconcile_for_node` deletes the guests without a listed number one after the other, each at its own time. -/
def reconcileForNode (db : Database) (nodeId : Int) (rawVms : List RawVm) (now : ResourceType × Int → String) :
    Database :=
  ((ownedKeys db nodeId).filter fun key => key.2 ∉ aliveVmids rawVms).foldl
    (fun db key => onResourceDeleted db ⟨key.1, nodeId, key.2⟩ "cluster_refresh" (now key)) db

/-- A guest as a snapshot lists it. -/
structure ListedVm where
  type : String
  vmid : Option Int

def ListedVm.raw (entry : ListedVm) : RawVm := ⟨entry.vmid⟩

/-- The installations change on their own while the portal holds the rows, the cache and its locks. -/
structure Estate where
  db : Database
  guests : List Guest
  /-- A node in this list has a cached listing that has not expired. -/
  cached : List Int := []
  /-- A request holds the lock of each of these nodes. -/
  locked : List Int := []

/-- An installation lists the guests that exist when it answers. -/
def listing (estate : Estate) (nodeId : Int) : List RawVm :=
  (estate.guests.filter fun guest => guest.nodeId = nodeId).map fun guest => ⟨some guest.vmid⟩

/-- A request waits for the lock, waits for the answer, holds it until the cache stores it, leaves it to
the callback, and the callback deletes the vanished guests one after the other. -/
inductive RefreshPhase where
  | queued
  | fetching
  | answered (rawVms : List RawVm)
  | scheduled (rawVms : List RawVm)
  | deleting (rest : List (ResourceType × Int))
  | finished
  deriving DecidableEq

structure Refresh where
  nodeId : Int
  phase : RefreshPhase := .queued
  deriving DecidableEq

/-- One turn of `get_or_fetch` and of `reconcile_for_node` behind it; an unreachable installation ends the
fetch, and the alert check before the reconciliation takes any time. -/
def Refresh.turn (now : String) (reachable : Bool) (estate : Estate) (refresh : Refresh) : Estate × RefreshPhase :=
  let nodeId := refresh.nodeId
  match refresh.phase with
  | .queued =>
      if nodeId ∈ estate.cached then (estate, .finished)
      else if nodeId ∈ estate.locked then (estate, .queued)
      else ({ estate with locked := nodeId :: estate.locked }, .fetching)
  | .fetching =>
      if reachable then (estate, .answered (listing estate nodeId))
      else ({ estate with locked := estate.locked.filter (· ≠ nodeId) }, .finished)
  | .answered rawVms =>
      ({ estate with cached := nodeId :: estate.cached, locked := estate.locked.filter (· ≠ nodeId) },
        .scheduled rawVms)
  | .scheduled rawVms =>
      (estate, .deleting ((ownedKeys estate.db nodeId).filter fun key => key.2 ∉ aliveVmids rawVms))
  | .deleting [] => (estate, .finished)
  | .deleting (key :: rest) =>
      ({ estate with db := onResourceDeleted estate.db ⟨key.1, nodeId, key.2⟩ "cluster_refresh" now },
        .deleting rest)
  | .finished => (estate, .finished)

def Refresh.advance (now : String) (reachable : Bool) (estate : Estate) (refresh : Refresh) : Estate × Refresh :=
  ((refresh.turn now reachable estate).1, { refresh with phase := (refresh.turn now reachable estate).2 })

abbrev EstateState := Interleaved Estate Refresh

/-- Guests come and go in the installations, the portal changes its owner rows, and each request for the
guest list takes its turns in between. -/
inductive EstateEvent where
  | getOrFetch (nodeId : Int) (force : Bool)
  | expire (nodeId : Int)
  | created (guest : Guest)
  | destroyed (guest : Guest)
  | owners (event : OwnerEvent)
  | cloned (job : Vms.LifecycleJob) (newVmid actorUserId : Int) (now : String)
  | advance (index : Nat) (now : String) (reachable : Bool)

variable (site : HookSite)

def estateStep (state : EstateState) : EstateEvent → EstateState
  | .getOrFetch nodeId force =>
      let estate := if force then { state.shared with cached := [] } else state.shared
      { state with shared := estate }.spawn { nodeId := nodeId }
  | .expire nodeId =>
      { state with shared := { state.shared with cached := state.shared.cached.filter (· ≠ nodeId) } }
  | .created guest => { state with shared := { state.shared with guests := guest :: state.shared.guests } }
  | .destroyed guest =>
      { state with shared := { state.shared with guests := state.shared.guests.filter (· ≠ guest) } }
  | .owners event => { state with shared := { state.shared with db := step site state.shared.db event } }
  | .cloned job newVmid actorUserId now =>
      { state with shared := { state.shared with
          db := (Vms.assignCloneOwner site.maxOwnerships now state.shared.db [] job newVmid actorUserId).1 } }
  | .advance index now reachable => state.act (Refresh.advance now reachable) index

end P3Portal.Owners
