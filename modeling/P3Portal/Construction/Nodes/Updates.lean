import P3Portal.Construction.Vms.VmAccess
import P3Portal.Foundation.Interleaving
import P3Portal.Foundation.PythonValue
import P3Portal.Foundation.Run

namespace P3Portal.Nodes.Updates
open Schema Foundation Access Vms

/-- The locks and the rows of `node_updates` are kept for each member of a portal node. -/
structure MemberKey where
  portalNodeId : Int
  proxmoxNodeName : String
  deriving DecidableEq

structure PackageUpdate where
  name : String
  versionOld : String
  versionNew : String
  isSecurity : Bool
  deriving DecidableEq

/-- A row of `node_updates`. The column `payload_json` holds the packages as JSON. -/
structure MemberRow where
  lastCheckAt : String
  lastSuccessAt : Option String
  lastError : Option String
  payload : List PackageUpdate
  deriving DecidableEq

def securityPatterns : List String :=
  ["proxmox-kernel-", "pve-firmware", "pve-kernel-", "pve-qemu-kvm", "qemu-server", "libpve-", "openssh-server",
    "openssh-client", "sudo", "systemd", "libc6", "libssl", "openssl", "linux-image-"]

def isSecurityPackage (name : String) : Bool :=
  securityPatterns.any fun pattern => Text.startsWith pattern (Text.lowerWord name)

/-- An entry of the list of Proxmox; one that is no object has no `get`. -/
abbrev Entry := Option JsonObject

/-- An entry whose name or versions are no texts is malformed. -/
def readPackage : Entry → Option PackageUpdate
  | none => none
  | some object =>
      let field (key lower : String) : JsonValue := object.getOr key (object.getOr lower (.text ""))
      match field "Package" "package", field "OldVersion" "old_version", field "Version" "version" with
      | .text name, .text versionOld, .text versionNew =>
          some ⟨name, versionOld, versionNew, isSecurityPackage name⟩
      | _, _, _ => none

/-- The packages up to the first malformed entry, and this entry. -/
def readPackages : List Entry → List PackageUpdate × Option Entry
  | [] => ([], none)
  | entry :: rest =>
      match readPackage entry with
      | none => ([], some entry)
      | some package => (package :: (readPackages rest).1, (readPackages rest).2)

/-- What a run is about to store. -/
structure Attempt where
  now : String
  successAt : Option String
  error : Option String
  packages : List PackageUpdate
  tokenless : Bool := false
  deriving DecidableEq

inductive Outcome where
  | refused
  | raised
  | cancelled
  | returned (row : Option MemberRow)
  deriving DecidableEq

/-- A run is called and then awaits one call after another, from the audit line of a manual run to the row that it
reads back. -/
inductive Phase where
  | called
  | triggering (now : String)
  | fetching (now : String)
  | failing (attempt : Attempt)
  | storing (attempt : Attempt)
  | auditing (attempt : Attempt)
  | reading
  | done (outcome : Outcome)
  deriving DecidableEq

structure RefreshRun where
  node : NodeRow
  proxmoxNodeName : String
  isManual : Bool := false
  username : Option String := none
  phase : Phase := .called

def RefreshRun.key (run : RefreshRun) : MemberKey := ⟨run.node.id, run.proxmoxNodeName⟩

/-- The user of a manual run. -/
def RefreshRun.manualUser (run : RefreshRun) : Option String := if run.isManual then Text.truthy run.username else none

structure AuditLine where
  event : String
  username : String
  detail : String
  deriving DecidableEq

/-- A run that stored its result. -/
structure Success where
  key : MemberKey
  time : String
  packages : List PackageUpdate
  deriving DecidableEq

/-- The locks that are taken, the rows and the audit lines. A lock that is made for a member stays, so that an absent
one is free. The successes are not in the program; they tell the successful runs in the order of their writes. -/
structure UpdateCache where
  locked : List MemberKey := []
  rows : OrderedMap MemberKey MemberRow := .empty
  auditLines : List AuditLine := []
  successes : List Success := []

section Turns
variable (describe : Entry → String)

def makeAuth (node : NodeRow) (role : Role) : Option (String × String) := extractToken node role

/-- An existing row keeps its time and its packages unless the run succeeded. -/
def upsertMember (rows : OrderedMap MemberKey MemberRow) (key : MemberKey) (attempt : Attempt) :
    OrderedMap MemberKey MemberRow :=
  match rows.get? key with
  | none => rows.set key ⟨attempt.now, attempt.successAt, attempt.error, attempt.packages⟩
  | some row => rows.set key {
      lastCheckAt := attempt.now
      lastSuccessAt := if attempt.successAt.isSome then attempt.successAt else row.lastSuccessAt
      lastError := attempt.error
      payload := if attempt.successAt.isSome then attempt.packages else row.payload }

def UpdateCache.audit (cache : UpdateCache) (event username detail : String) : UpdateCache :=
  { cache with auditLines := cache.auditLines ++ [⟨event, username, detail⟩] }

/-- The end of the critical section. -/
def release (cache : UpdateCache) (run : RefreshRun) (outcome : Outcome) : UpdateCache × RefreshRun :=
  ({ cache with locked := cache.locked.erase run.key }, { run with phase := .done outcome })

def tokenError : String := "No admin/operator token configured (Sys.Modify required for apt list)"

/-- Nothing is awaited between the test of the lock and its acquisition. -/
def enter (now : String) (cache : UpdateCache) (run : RefreshRun) : UpdateCache × RefreshRun :=
  match run.phase with
  | .called =>
      if run.key ∈ cache.locked then (cache, { run with phase := .done .refused })
      else ({ cache with locked := run.key :: cache.locked },
        { run with phase :=
            if ((makeAuth run.node .admin).or (makeAuth run.node .operator)).isNone then
              .storing ⟨now, none, some tokenError, [], true⟩
            else if run.manualUser.isSome then .triggering now
            else .fetching now })
  | _ => (cache, run)

/-- The text of an exception is cut. -/
def failed (now error : String) (packages : List PackageUpdate) : Attempt :=
  ⟨now, none, some (String.ofList (error.toList.take 500)), packages, false⟩

def store (attempt : Attempt) (cache : UpdateCache) (run : RefreshRun) : UpdateCache :=
  { cache with
    rows := upsertMember cache.rows run.key attempt
    successes := cache.successes ++ (attempt.successAt.map fun time => ⟨run.key, time, attempt.packages⟩).toList }

/-- The audit line of a failed attempt, and of one that a user made. -/
def auditFailure (cache : UpdateCache) (run : RefreshRun) (attempt : Attempt) : UpdateCache :=
  cache.audit "node_update_refresh_failed" (Text.orElse run.username "system")
    ("node=" ++ run.proxmoxNodeName ++ " error=" ++ attempt.error.getD "" ++ " actor=" ++
      if run.isManual then "user" else "system")

def auditSuccess (cache : UpdateCache) (run : RefreshRun) (attempt : Attempt) : UpdateCache :=
  cache.audit "node_update_refresh_succeeded" (run.username.getD "")
    ("node=" ++ run.proxmoxNodeName ++ " package_count=" ++ toString attempt.packages.length ++ " security_count=" ++
      toString (attempt.packages.countP PackageUpdate.isSecurity))

/-- The awaited call returns; only the request to Proxmox returns a list. -/
def succeed (entries : List Entry) (cache : UpdateCache) (run : RefreshRun) : UpdateCache × RefreshRun :=
  match run.phase with
  | .triggering now =>
      (cache.audit "node_update_refresh_triggered" (run.username.getD "")
        ("node=" ++ run.proxmoxNodeName ++ " portal_node_id=" ++ toString run.node.id),
        { run with phase := .fetching now })
  | .fetching now =>
      match readPackages entries with
      | (packages, none) => (cache, { run with phase := .storing ⟨now, some now, none, packages, false⟩ })
      | (packages, some entry) => (cache, { run with phase := .failing (failed now (describe entry) packages) })
  | .failing attempt => (auditFailure cache run attempt, { run with phase := .storing attempt })
  | .storing attempt =>
      (store attempt cache run,
        { run with phase :=
            if run.manualUser.isSome && (attempt.tokenless || attempt.successAt.isSome) then .auditing attempt
            else .reading })
  | .auditing attempt =>
      (if attempt.tokenless then auditFailure cache run attempt else auditSuccess cache run attempt,
        { run with phase := .reading })
  | .reading => release cache run (.returned (cache.rows.get? run.key))
  | .called | .done _ => (cache, run)

/-- The awaited call raises. Only the audit line of the trigger and the request are inside the handler. -/
def fail (error : String) (cache : UpdateCache) (run : RefreshRun) : UpdateCache × RefreshRun :=
  match run.phase with
  | .triggering now | .fetching now => (cache, { run with phase := .failing (failed now error []) })
  | .failing _ | .storing _ | .auditing _ | .reading => release cache run .raised
  | .called | .done _ => (cache, run)

/-- A cancellation is no exception that the handler takes; it only releases the lock. -/
def cancel (cache : UpdateCache) (run : RefreshRun) : UpdateCache × RefreshRun :=
  match run.phase with
  | .called => (cache, { run with phase := .done .cancelled })
  | .done _ => (cache, run)
  | _ => release cache run .cancelled

end Turns

/-- Runs are called and take turns in any order. -/
inductive UpdateEvent where
  | call (node : NodeRow) (proxmoxNodeName : String) (isManual : Bool) (username : Option String)
  | enter (index : Nat) (now : String)
  | succeed (index : Nat) (entries : List Entry)
  | fail (index : Nat) (error : String)
  | cancel (index : Nat)

abbrev UpdateState := Interleaved UpdateCache RefreshRun

def UpdateState.initial : UpdateState := ⟨{}, []⟩

def updateStep (describe : Entry → String) (state : UpdateState) : UpdateEvent → UpdateState
  | .call node proxmoxNodeName isManual username => state.spawn ⟨node, proxmoxNodeName, isManual, username, .called⟩
  | .enter index now => state.act (enter now) index
  | .succeed index entries => state.act (succeed describe entries) index
  | .fail index error => state.act (fail error) index
  | .cancel index => state.act cancel index

end P3Portal.Nodes.Updates
