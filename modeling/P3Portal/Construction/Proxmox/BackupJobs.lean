import P3Portal.Construction.Nodes.Registry
import P3Portal.Construction.Proxmox.ObjectWrites
import P3Portal.Foundation.Assignments
import P3Portal.Foundation.PythonValue

namespace P3Portal.Proxmox
open Foundation

/-- The options of a retention that the portal knows. -/
inductive RetentionField where
  | keepLast
  | keepDaily
  | keepWeekly
  | keepMonthly
  deriving DecidableEq

def RetentionField.key : RetentionField → String
  | keepLast => "keep-last"
  | keepDaily => "keep-daily"
  | keepWeekly => "keep-weekly"
  | keepMonthly => "keep-monthly"

deriving instance DecidableEq for BackupRetention

namespace BackupRetention

def mapping (key : String) : Option RetentionField :=
  [RetentionField.keepLast, .keepDaily, .keepWeekly, .keepMonthly].find? fun field => field.key = key

/-- One part of the parameter; a part that is not understood is skipped. -/
def readPart (text : String) : Option (RetentionField × Int) :=
  let part := Text.strip text
  if '=' ∈ part.toList then
    let (key, value) := Text.partition '=' part
    (mapping key).bind fun field => (Number.intOfText value).map fun number => (field, number)
  else none

/-- The model refuses a number below zero. -/
def ofFields (result : OrderedMap RetentionField Int) : Option BackupRetention :=
  if result.entries.all fun entry => 0 ≤ entry.2 then
    some {
      keepLast := (result.get? .keepLast).map Int.toNat
      keepDaily := (result.get? .keepDaily).map Int.toNat
      keepWeekly := (result.get? .keepWeekly).map Int.toNat
      keepMonthly := (result.get? .keepMonthly).map Int.toNat }
  else none

def fromProxmoxParam (value : JsonValue) : Option BackupRetention :=
  if !value.truthy then some {}
  else ofFields (OrderedMap.assignAll OrderedMap.empty ((Text.splitCommas value.str).filterMap readPart))

end BackupRetention

/-- `_str_or_none` joins the elements of a list. -/
def strOrNone (value : JsonValue) : Option String :=
  if value.blank then none
  else match value with
    | .list items => some (",".intercalate (items.map Shown.str))
    | _ => some value.str

def intOrNone (value : JsonValue) : Option Int := if value.blank then none else value.toInt

structure BackupSchedule where
  id : String
  schedule : String
  storage : String
  mode : String
  compress : String := ""
  enabled : Bool := true
  comment : String := ""
  vmid : Option String := none
  pool : Option String := none
  all : Option Int := none
  exclude : Option String := none
  mailto : Option String := none
  retention : BackupRetention

/-- An entry whose retention has a number below zero is not read. -/
def parseBackupSchedule (raw : JsonObject) : Option BackupSchedule :=
  (BackupRetention.fromProxmoxParam (raw.get "prune-backups")).map fun retention => {
    id := (strOrNone (raw.get "id")).getD ""
    schedule := (strOrNone (raw.get "schedule")).getD ""
    storage := (strOrNone (raw.get "storage")).getD ""
    mode := Text.orElse (strOrNone (raw.get "mode")) "snapshot"
    compress := (strOrNone (raw.get "compress")).getD ""
    enabled := (raw.get "enabled").blank || (intOrNone (raw.get "enabled")).any (· ≠ 0)
    comment := (strOrNone (raw.get "comment")).getD ""
    vmid := strOrNone (raw.get "vmid")
    pool := strOrNone (raw.get "pool")
    all := intOrNone (raw.get "all")
    exclude := strOrNone (raw.get "exclude")
    mailto := strOrNone (raw.get "mailto")
    retention := retention }

/-- The page of a guest shows the job when its entry covers the guest. -/
def jobCoversVmid (job : JsonObject) (vmid : Int) : Bool :=
  let raw := job.getOr "vmid" (.text "")
  if !raw.truthy || Text.strip raw.str = "all" then true
  else ((Text.splitCommas raw.str).map Text.strip).contains (toString vmid)
end P3Portal.Proxmox

namespace P3Portal.Proxmox.BackupRun
open Schema Foundation Http

structure ClusterNode where
  name : String
  status : String
  deriving DecidableEq

structure ClusterGuest where
  vmid : Nat
  node : String
  pool : Option String := none
  deriving DecidableEq

/-- A cluster gives its nodes different names and its guests different numbers, and each guest is on a node. -/
structure Cluster where
  nodes : List ClusterNode
  guests : List ClusterGuest
  nodesNodup : (nodes.map ClusterNode.name).Nodup
  vmidsNodup : (guests.map ClusterGuest.vmid).Nodup
  named : "" ∉ nodes.map ClusterNode.name
  numbered : 0 ∉ guests.map ClusterGuest.vmid
  hosted : ∀ guest ∈ guests, guest.node ∈ nodes.map ClusterNode.name

/-- How Proxmox lists a node and a guest among its resources. -/
def ClusterNode.entry (node : ClusterNode) : JsonObject :=
  .ofMembers [("node", .text node.name), ("status", .text node.status)]

def ClusterGuest.entry (guest : ClusterGuest) : JsonObject :=
  .ofMembers [("vmid", .int guest.vmid), ("node", .text guest.node)]

/-- The portal and the queried installation during a run: which reads succeed, and what a start on a node comes to. -/
structure World where
  db : Database
  cluster : Cluster
  jobs : Except ProxmoxError (List JsonObject)
  vmListing : Bool := true
  nodeListing : Bool := true
  start : String → Except ProxmoxError String

/-- The parameters of a vzdump call. -/
structure VzdumpParams where
  storage : String
  mode : String
  compress : String
  mailto : Option String := none
  vmid : Option String := none
  all : Bool := false
  exclude : Option String := none
  pool : Option String := none
  deriving DecidableEq

structure VzdumpCall where
  node : String
  params : VzdumpParams
  deriving DecidableEq

/-- The calls of a run and its answer: the node and the task of every start that succeeded. -/
structure RunEnd where
  calls : List VzdumpCall
  answer : Except HttpException (List (String × String))

def backupWriteHttpExc : ProxmoxError → HttpException
  | .requestError => ⟨502, "Could not reach Proxmox API"⟩
  | .statusError statusCode =>
      if statusCode = 403 then ⟨403, "Insufficient Proxmox privileges for backup job management " ++
        "(Datastore.Allocate + VM.Backup + Sys.Modify required on /)"⟩
      else if statusCode = 401 then
        ⟨502, "Proxmox auth error – admin service account token may be invalid or deleted"⟩
      else ⟨statusCode, "Proxmox API error"⟩

def baseParams (job : BackupSchedule) : VzdumpParams where
  storage := job.storage
  mode := job.mode
  compress := if job.compress = "" then "zstd" else job.compress
  mailto := Text.truthy job.mailto

def vmidsRequested (vmid : String) : List String := ((Text.splitCommas vmid).map Text.strip).filter (· ≠ "")

def vmidToNode (resources : List JsonObject) : OrderedMap String String :=
  OrderedMap.empty.assignAll
    ((resources.filter fun entry => (entry.get "vmid").truthy && (entry.get "node").truthy).map fun entry =>
      ((entry.getOr "vmid" (.text "")).str, (entry.getOr "node" (.text "")).str))

/-- The requested numbers that the listing knows, grouped by the node that hosts them. -/
def nodeToVmids (resources : List JsonObject) (requested : List String) :
    OrderedMap String (List (String × String)) :=
  OrderedMap.empty.groupAll Prod.fst
    (requested.filterMap fun vmid => (Text.truthy ((vmidToNode resources).get? vmid)).map fun node => (node, vmid))

/-- Without the listing, the whole list goes to a node that the portal looks up by the list itself. -/
def fallbackNode (db : Database) (vmid : String) : String :=
  match (Nodes.getNodeForProxmoxName db vmid).or (Nodes.getDefaultNode db) with
  | some row => row.name
  | none => vmid

/-- Every call is made, and a start that fails is left out of the answer. -/
def gather (start : String → Except ProxmoxError String) (calls : List VzdumpCall) : RunEnd where
  calls := calls
  answer := .ok (calls.filterMap fun call => (start call.node).toOption.map fun upid => (call.node, upid))

/-- The nodes that a run for all guests or for a pool asks. -/
def askedNodes (world : World) : List String :=
  let resources := if world.nodeListing then world.cluster.nodes.map ClusterNode.entry else []
  let online := (resources.filter fun entry => entry.get "status" = .text "online" && (entry.get "node").truthy).map
    fun entry => (entry.get "node").str
  if online.isEmpty then ((Nodes.getDefaultNode world.db).map NodeRow.name).toList else online

def fanOutRun (world : World) (job : BackupSchedule) (base : VzdumpParams) : RunEnd :=
  match Text.truthy job.vmid with
  | some vmid =>
      let requested := vmidsRequested vmid
      if requested.isEmpty then ⟨[], .ok []⟩
      else if world.vmListing then
        gather world.start
          ((nodeToVmids (world.cluster.guests.map ClusterGuest.entry) requested).entries.map fun group =>
            ⟨group.1, { base with vmid := some (",".intercalate (group.2.map Prod.snd)) }⟩)
      else
        let node := fallbackNode world.db vmid
        ⟨[⟨node, { base with vmid := some vmid }⟩],
          match world.start node with
          | .ok upid => .ok [(node, upid)]
          | .error error => .error (backupWriteHttpExc error)⟩
  | none =>
      let params :=
        if job.all.any (· ≠ 0) then { base with all := true, exclude := Text.truthy job.exclude }
        else { base with pool := Text.truthy job.pool }
      gather world.start ((askedNodes world).map fun node => ⟨node, params⟩)

/-- The entry of the job that the installation stores. -/
def storedEntry (raw : List JsonObject) (jobId : String) : Option JsonObject :=
  raw.find? fun entry => entry.get "id" = .text jobId

def runBackupNow (world : World) (jobId : String) : RunEnd :=
  match world.jobs with
  | .error error => ⟨[], .error (backupWriteHttpExc error)⟩
  | .ok raw =>
      match storedEntry raw jobId with
      | none => ⟨[], .error ⟨404, "Backup job '" ++ jobId ++ "' not found"⟩⟩
      | some entry =>
          match parseBackupSchedule entry with
          | none => ⟨[], .error ⟨500, "Internal Server Error"⟩⟩
          | some job => fanOutRun world job (baseParams job)
end P3Portal.Proxmox.BackupRun
