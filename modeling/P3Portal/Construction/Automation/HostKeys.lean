import P3Portal.Construction.Automation.Inventory
import P3Portal.Foundation.Interleaving

namespace P3Portal.Automation
open Schema Foundation

section HostState
variable (db : Database) (candidate : Candidate)

def isHost (row : ManagedHost) : Bool :=
  row.portalNodeId = candidate.portalNodeId && row.vmid = candidate.vmid && row.kind = candidate.kind

/-- The update of the stored row; without one a row is inserted if the node and the kind allow it. -/
def upsertHost (change : ManagedHost → ManagedHost) (created : ManagedHost) : Database :=
  if db.ansibleManagedHosts.any (isHost candidate) then
    { db with ansibleManagedHosts := db.ansibleManagedHosts.map fun row =>
        if isHost candidate row then change row else row }
  else if (Nodes.getNode db candidate.portalNodeId).isSome && candidate.kind ∈ ["qemu", "lxc"] then
    { db with ansibleManagedHosts := db.ansibleManagedHosts ++ [created] }
  else db

/-- The hook of a deploy writes the managed state and leaves the key alone. -/
def upsertHostState (sshManaged : Bool) (ansibleUser : String) : Database :=
  upsertHost db candidate (fun row => { row with sshManaged := sshManaged, ansibleUser := ansibleUser })
    { portalNodeId := candidate.portalNodeId, vmid := candidate.vmid, kind := candidate.kind,
      sshManaged := sshManaged, ansibleUser := ansibleUser }

def setManaged : Database :=
  upsertHost db candidate (fun row => { row with sshManaged := true })
    { portalNodeId := candidate.portalNodeId, vmid := candidate.vmid, kind := candidate.kind, sshManaged := true }

/-- The harvested key is written whatever the row holds by now. -/
def persistHostKey (hostKey : String) : Database :=
  upsertHost db candidate (fun row => { row with hostKey := some hostKey })
    { portalNodeId := candidate.portalNodeId, vmid := candidate.vmid, kind := candidate.kind,
      hostKey := some hostKey }

def resetHostKey : Database :=
  { db with ansibleManagedHosts := db.ansibleManagedHosts.map fun row =>
      if isHost candidate row then { row with hostKey := none } else row }

/-- A refresh removes the rows of the guests that the node no longer shows. -/
def deleteVanished (portalNodeId : Int) (stillVisible : List (Int × String)) : Database :=
  { db with ansibleManagedHosts := db.ansibleManagedHosts.filter fun row =>
      row.portalNodeId ≠ portalNodeId || (row.vmid, row.kind) ∈ stillVisible }

end HostState

/-- A line of the file names an address and a key. -/
abbrev KnownHosts := List (String × String)

/-- With `StrictHostKeyChecking=accept-new` the client adds the presented key of an address that the file
does not name, and changes nothing otherwise. -/
structure SshClient where
  contact : KnownHosts → String → String → KnownHosts
  acceptsNew : ∀ knownHosts ip key, contact knownHosts ip key = knownHosts ∨
    ip ∉ knownHosts.map Prod.fst ∧ contact knownHosts ip key = knownHosts ++ [(ip, key)]

/-- The lines of a stored key that are written to the file. -/
def keyLines (hostKey : String) : List String :=
  ((Text.splitlines hostKey).map Text.strip).filter (· ≠ "")

/-- The file starts with the stored keys of the targets. -/
def prefilled (result : InventoryResult) : KnownHosts :=
  result.hostKeys.entries.flatMap fun entry => (keyLines entry.2).map fun line => (entry.1, line)

/-- The keys of one address are joined by newlines. -/
def joinKey (learned : Option String) (key : String) : String :=
  match Text.truthy learned with
  | none => key
  | some learned => Text.strip (learned ++ "\n" ++ key)

/-- A line without a key and a line of a prefilled address are skipped. -/
def harvest (preIps : List String) (knownHosts : KnownHosts) : OrderedMap String String :=
  knownHosts.foldl (fun learned line =>
    if Text.strip line.2 = "" || line.1 ∈ preIps then learned
    else learned.alter line.1 fun stored => joinKey stored line.2) OrderedMap.empty

/-- The dictionary keeps the last target of an address. -/
def ipToTarget (targets : List Target) (ip : String) : Option Target :=
  (targets.filter fun target => target.ansibleHost ≠ "").reverse.find? fun target => target.ansibleHost = ip

/-- A guest run collects its inventory one installation after the other, runs with its own file of known
hosts, and writes the learned keys back one after the other. -/
inductive GuestRunPhase where
  | collecting (groups : List (Int × List Candidate)) (selected : List String) (result : InventoryResult)
  | running (result : InventoryResult) (knownHosts : KnownHosts)
  | persisting (targets : List Target) (learned : List (String × String))
  | finished

/-- The job starts with the candidates of its scope. -/
def startGuestRun (site : InventorySite) (db : Database) (kind : ScopeKind) (ref : Option Int) (userId : Int)
    (targetHosts : Option (List String)) : GuestRunPhase :=
  match scopeCandidates site db kind ref userId with
  | .error _ => .finished
  | .ok (candidates, privateKey) =>
      .collecting (byNode candidates).entries (targetHosts.getD []) { privateKey := privateKey }

/-- One turn of the job; a run that does not complete leaves nothing to harvest. -/
def GuestRunPhase.turn (site : InventorySite) (completed : Bool) (db : Database) :
    GuestRunPhase → Database × GuestRunPhase
  | .collecting [] _ result =>
      (db, if result.targets = [] then .finished else .running result (prefilled result))
  | .collecting (group :: rest) selected result =>
      (db, .collecting rest selected (recordNode site db selected result group))
  | .running result knownHosts =>
      (db, .persisting result.targets <|
        if completed then (harvest ((prefilled result).map Prod.fst) knownHosts).entries else [])
  | .persisting _ [] => (db, .finished)
  | .persisting targets ((ip, hostKey) :: rest) =>
      ((ipToTarget targets ip).elim db fun target => persistHostKey db target.candidate hostKey,
        .persisting targets rest)
  | .finished => (db, .finished)

/-- A contact of the run shows its file to the client. -/
def GuestRunPhase.contact (ssh : SshClient) (ip key : String) : GuestRunPhase → GuestRunPhase
  | .running result knownHosts => .running result (ssh.contact knownHosts ip key)
  | phase => phase

abbrev HostKeyState := Interleaved Database GuestRunPhase

/-- Guest runs take their turns and contact addresses, which present a key, between the changes of the
stored hosts. Each event meets the installations as they answer then. -/
inductive HostKeyEvent where
  | start (site : InventorySite) (kind : ScopeKind) (ref : Option Int) (userId : Int)
      (targetHosts : Option (List String))
  | advance (index : Nat) (site : InventorySite) (completed : Bool)
  | contact (index : Nat) (site : InventorySite) (ip key : String)
  | reset (candidate : Candidate)
  | upsert (candidate : Candidate) (sshManaged : Bool) (ansibleUser : String)
  | setManaged (candidate : Candidate)
  | deleteVanished (portalNodeId : Int) (stillVisible : List (Int × String))

def hostKeyStep (ssh : SshClient) (state : HostKeyState) : HostKeyEvent → HostKeyState
  | .start site kind ref userId targetHosts =>
      state.spawn (startGuestRun site state.shared kind ref userId targetHosts)
  | .advance index site completed => state.act (GuestRunPhase.turn site completed) index
  | .contact index _ ip key => state.act (fun db phase => (db, phase.contact ssh ip key)) index
  | .reset candidate => { state with shared := resetHostKey state.shared candidate }
  | .upsert candidate sshManaged ansibleUser =>
      { state with shared := upsertHostState state.shared candidate sshManaged ansibleUser }
  | .setManaged candidate => { state with shared := setManaged state.shared candidate }
  | .deleteVanished portalNodeId stillVisible =>
      { state with shared := deleteVanished state.shared portalNodeId stillVisible }

end P3Portal.Automation
