import P3Portal.Construction.Automation.Parameters
import P3Portal.Construction.Nodes.Registry
import P3Portal.Construction.Vms.VmAccess
import P3Portal.Foundation.OrderedMap
import P3Portal.Foundation.Precedence

namespace P3Portal.Automation
open Schema Foundation Http Proxmox Vms

/-- The scopes of pools and of the whole portal need Plus. -/
inductive ScopeKind where
  | user
  | pool
  | global
  deriving DecidableEq

/-- A run without a target stops with one of these errors. -/
inductive InventoryError where
  | noKey
  | emptyScope
  | noTargets
  deriving DecidableEq

def InventoryError.code : InventoryError → String
  | .noKey => "no_scope_key"
  | .emptyScope => "empty_scope"
  | .noTargets => "no_managed_targets"

/-- The installation, the guest number and the kind name a candidate. -/
structure Candidate where
  portalNodeId : Int
  vmid : Int
  kind : String
  deriving DecidableEq

def Candidate.hostRef (candidate : Candidate) : String :=
  toString candidate.portalNodeId ++ ":" ++ toString candidate.vmid ++ ":" ++ candidate.kind

/-- Plus answers with the candidates of a scope and its key. -/
structure GuestScope where
  candidateHosts : List Candidate
  privateKey : Option String
  deriving DecidableEq

/-- The keys, Plus and Proxmox are parts of the running portal. -/
structure InventorySite where
  isAlnum : Char → Bool
  getUserPrivateKey : Int → Option String
  resolveGuestScope : ScopeKind → Option Int → Int → Option GuestScope
  getClusterResources : ProxmoxClient → ProxmoxAuth → Except ProxmoxError (List ClusterResource)
  getVmIp : ProxmoxClient → ProxmoxAuth → String → Int → String → Option String

inductive HostGroup where
  | managed
  | unmanaged
  | noIp
  deriving DecidableEq

structure HostEntry where
  candidate : Candidate
  proxmoxNode : Option String
  group : HostGroup
  ip : Option String
  ansibleUser : String
  deriving DecidableEq

structure Target where
  name : String
  ansibleHost : String
  candidate : Candidate
  hostKey : Option String
  deriving DecidableEq

/-- The hosts of the one inventory group `managed` carry their variables under their names. -/
structure InventoryResult where
  entries : List HostEntry := []
  privateKey : Option String := none
  error : Option InventoryError := none
  hosts : OrderedMap String (OrderedMap String String) := OrderedMap.empty
  targets : List Target := []
  hostKeys : OrderedMap String String := OrderedMap.empty

section
variable (site : InventorySite) (db : Database)

def ansibleName (proxmoxNode : String) (vmid : Int) : String :=
  "vmid" ++ toString vmid ++ "-" ++ String.ofList ((Text.orElse (some proxmoxNode) "node").toList.map
    fun character =>
      if site.isAlnum character || character = '-' || character = '_' || character = '.' then character else '_')

/-- The user scope holds the guests that the user owns now. -/
def userScopeCandidates (userId : Int) : List Candidate :=
  (db.vmOwners.filter fun owner => owner.userId = userId && owner.deletedAt = none).map fun owner =>
    { portalNodeId := owner.nodeId
      vmid := owner.vmid
      kind := if owner.resourceType = .lxc then "lxc" else "qemu" }

structure LiveGuest where
  proxmoxNode : String
  type : String
  deriving DecidableEq

/-- The viewer token of the installation lists its guests; without an answer nothing is live. -/
def resolveNodeLive (portalNodeId : Int) : OrderedMap Int LiveGuest :=
  match (Nodes.getNode db portalNodeId).bind fun node => (extractToken node .viewer).map (node, ·) with
  | none => OrderedMap.empty
  | some (node, token) =>
      match site.getClusterResources (clientForNode node) (.token token.1 token.2) with
      | .error _ => OrderedMap.empty
      | .ok resources => resources.foldl (fun live resource =>
          match resource.vmid with
          | none => live
          | some vmid => live.set vmid ⟨resource.node.getD "", resource.type.getD "qemu"⟩) OrderedMap.empty

def fetchHostIp (candidate : Candidate) (guest : LiveGuest) : Option String :=
  (Nodes.getNode db candidate.portalNodeId).bind fun node =>
    (extractToken node .viewer).bind fun token =>
      site.getVmIp (clientForNode node) (.token token.1 token.2) guest.proxmoxNode candidate.vmid guest.type

def hostState (candidate : Candidate) : Option ManagedHost :=
  db.ansibleManagedHosts.find? fun row =>
    row.portalNodeId = candidate.portalNodeId && row.vmid = candidate.vmid && row.kind = candidate.kind

/-- A managed guest with a known address is the only kind that can be a target. -/
def hostEntry (live : OrderedMap Int LiveGuest) (candidate : Candidate) : HostEntry :=
  let state := hostState db candidate
  let guest := live.get? candidate.vmid
  let managed := state.any ManagedHost.sshManaged
  let ip := if managed then fetchHostIp site db candidate (guest.getD ⟨"", "qemu"⟩) else none
  { candidate := candidate
    proxmoxNode := Text.truthy (guest.map LiveGuest.proxmoxNode)
    group := if !managed then .unmanaged else if (Text.truthy ip).isSome then .managed else .noIp
    ip := ip
    ansibleUser := (state.map ManagedHost.ansibleUser).getD "p3-ansible" }

/-- The inventory gives each host its address and its user. -/
def hostVars (ip ansibleUser : String) : OrderedMap String String :=
  (OrderedMap.empty.set "ansible_host" ip).set "ansible_user" ansibleUser

/-- A selected managed guest becomes a host and a target; two guests with one name share a host. -/
def InventoryResult.record (result : InventoryResult) (selected : List String) (entry : HostEntry)
    (hostKey : Option String) : InventoryResult :=
  let result := { result with entries := result.entries ++ [entry] }
  match entry.group, entry.ip with
  | .managed, some ip =>
      if selected = [] ∨ entry.candidate.hostRef ∈ selected then
        let name := ansibleName site (entry.proxmoxNode.getD "node") entry.candidate.vmid
        { result with
          hosts := result.hosts.set name (hostVars ip entry.ansibleUser)
          targets := result.targets ++ [⟨name, ip, entry.candidate, hostKey⟩]
          hostKeys := match Text.truthy hostKey with
            | some key => result.hostKeys.set ip key
            | none => result.hostKeys }
      else result
  | _, _ => result

/-- The candidates are grouped by installation in the order of their first appearance. -/
def byNode (candidates : List Candidate) : OrderedMap Int (List Candidate) :=
  candidates.foldl (fun groups candidate =>
    groups.alter candidate.portalNodeId fun stored => stored.getD [] ++ [candidate]) OrderedMap.empty

/-- The key and the candidates of the scope, or the reason why there are none. -/
def scopeCandidates (kind : ScopeKind) (ref : Option Int) (userId : Int) :
    Except (InventoryError × Option String) (List Candidate × Option String) :=
  match kind with
  | .user =>
      match site.getUserPrivateKey userId with
      | none => .error (.noKey, none)
      | some key =>
          match userScopeCandidates db userId with
          | [] => .error (.emptyScope, some key)
          | candidates => .ok (candidates, some key)
  | _ =>
      match site.resolveGuestScope kind ref userId with
      | none => .error (.emptyScope, none)
      | some guestScope =>
          if Text.truthy guestScope.privateKey = none then .error (.noKey, guestScope.privateKey)
          else match guestScope.candidateHosts with
            | [] => .error (.emptyScope, guestScope.privateKey)
            | candidates => .ok (candidates, guestScope.privateKey)

/-- One installation is asked once for its live guests. -/
def recordNode (selected : List String) (result : InventoryResult) (group : Int × List Candidate) :
    InventoryResult :=
  group.2.foldl (fun result candidate =>
    result.record site selected (hostEntry site db (resolveNodeLive site db group.1) candidate)
      ((hostState db candidate).bind ManagedHost.hostKey)) result

/-- An absent or empty selection stands for the whole scope. -/
def buildInventory (kind : ScopeKind) (ref : Option Int) (userId : Int) (targetHosts : Option (List String)) :
    InventoryResult :=
  match scopeCandidates site db kind ref userId with
  | .error (error, privateKey) => { privateKey := privateKey, error := some error }
  | .ok (candidates, privateKey) =>
      let result := (byNode candidates).entries.foldl (recordNode site db (targetHosts.getD []))
        { privateKey := privateKey }
      { result with error := if result.targets = [] then some .noTargets else none }
end

/-- The call of `ansible_runner.run` with the variables of the hosts, of their group and of the command. -/
structure AnsibleRun where
  playbook : String
  hosts : OrderedMap String (OrderedMap String String)
  groupVars : OrderedMap String String
  extravars : Params
  envvars : List (String × String)
  cmdline : Option String

/-- The temporary files of one run. -/
structure RunFiles where
  keyPath : String
  knownHostsPath : String

def commonArgs (files : RunFiles) : String :=
  "-o UserKnownHostsFile=" ++ files.knownHostsPath ++ " -o StrictHostKeyChecking=accept-new " ++
    "-o HashKnownHosts=no -o BatchMode=yes -o ConnectTimeout=15"

/-- The group carries the SSH variables and the params go to the command line as they are. -/
def syncRunGuest (playbook : String) (params : Params) (result : InventoryResult) (become : Bool)
    (files : RunFiles) : AnsibleRun where
  playbook := playbook ++ ".yml"
  hosts := result.hosts
  groupVars := (OrderedMap.empty.set "ansible_ssh_private_key_file" files.keyPath).set
    "ansible_ssh_common_args" (commonArgs files)
  extravars := params
  envvars := [("ANSIBLE_HOST_KEY_CHECKING", "True")]
  cmdline := if become then some "--become" else none

/-- The job fails before Ansible starts when the inventory has an error or the file is missing. -/
def runGuestAnsibleJob (result : InventoryResult) (playbook : String) (params : Params) (become found : Bool)
    (files : RunFiles) : Option AnsibleRun :=
  if result.error.isSome || !found then none else some (syncRunGuest playbook params result become files)

/-- A guest run as it is requested. -/
structure GuestRequest where
  playbooks : Playbooks
  playbook : String
  params : Params
  scope : ScopeKind := .user
  ref : Option Int := none
  userId : Int
  targetHosts : Option (List String) := none

def GuestRequest.inventory (site : InventorySite) (db : Database) (request : GuestRequest) : InventoryResult :=
  buildInventory site db request.scope request.ref request.userId request.targetHosts

/-- An accepted request of a guest playbook reaches the guest runner. -/
def GuestRequest.run (site : InventorySite) (db : Database) (request : GuestRequest) (found : Bool)
    (files : RunFiles) : Option AnsibleRun :=
  match getPlaybook request.playbooks request.playbook with
  | none => none
  | some detail =>
      if detail.targets = .guest ∧
          validatePlaybookParams request.playbooks request.playbook request.params = .ok [] then
        runGuestAnsibleJob (request.inventory site db) request.playbook request.params detail.become found files
      else none

/-- These variables decide where and how Ansible connects. -/
def connectionVariables : List String :=
  ["ansible_host", "ansible_user", "ansible_connection", "ansible_ssh_private_key_file",
    "ansible_ssh_common_args"]

/-- The variables of the group stand below those of the host. -/
def AnsibleRun.inventoryLayers (run : AnsibleRun) (host : String) : List (Precedence.Layer String ParamValue) :=
  [fun name => (run.groupVars.get? name).map .text,
    fun name => ((run.hosts.get? host).bind fun vars => vars.get? name).map .text]

/-- The value that the portal has written for a host. -/
def AnsibleRun.written (run : AnsibleRun) (host : String) : Precedence.Layer String ParamValue :=
  Precedence.effective (run.inventoryLayers host)

/-- Extra variables stand above the whole inventory. -/
def AnsibleRun.effective (run : AnsibleRun) (host : String) : Precedence.Layer String ParamValue :=
  Precedence.effective (run.inventoryLayers host ++ [run.extravars.get?])
end P3Portal.Automation
