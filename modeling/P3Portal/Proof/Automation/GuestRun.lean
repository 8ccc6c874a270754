import P3Portal.Construction.Automation.Inventory

namespace P3Portal.Automation
open Schema Foundation Proxmox

section Inventory
variable {site : InventorySite} {db : Database}

/-- Every host of the inventory has the address of a target of its name, and every target is a host. -/
structure InventoryResult.Recorded (result : InventoryResult) : Prop where
  ofHost : ∀ name vars, result.hosts.get? name = some vars →
    ∃ target ∈ result.targets, target.name = name ∧ ∃ user, vars = hostVars target.ansibleHost user
  ofTarget : ∀ target ∈ result.targets, (result.hosts.get? target.name).isSome

theorem InventoryResult.Recorded.record {result : InventoryResult} (recorded : result.Recorded)
    (selected : List String) (entry : HostEntry) (hostKey : Option String) :
    (result.record site selected entry hostKey).Recorded := by
  unfold InventoryResult.record
  simp only
  split
  · rename_i ip group address
    split
    · constructor
      · intro name vars present
        simp only [OrderedMap.get?_set] at present
        split at present
        · rename_i same
          refine ⟨_, List.mem_append_right _ (List.mem_singleton_self _), same.symm, entry.ansibleUser, ?_⟩
          exact (Option.some.inj present).symm
        · obtain ⟨target, member, here⟩ := recorded.ofHost name vars present
          exact ⟨target, List.mem_append_left _ member, here⟩
      · intro target member
        simp only [OrderedMap.get?_set]
        split
        · rfl
        · rename_i other
          rcases List.mem_append.mp member with old | new
          · exact recorded.ofTarget target old
          · rw [List.mem_singleton.mp new] at other
            exact absurd rfl other
    · exact ⟨recorded.ofHost, recorded.ofTarget⟩
  · exact ⟨recorded.ofHost, recorded.ofTarget⟩

theorem InventoryResult.Recorded.recordNode {result : InventoryResult} (recorded : result.Recorded)
    (selected : List String) (group : Int × List Candidate) :
    (recordNode site db selected result group).Recorded := by
  unfold Automation.recordNode
  induction group.2 generalizing result with
  | nil => exact recorded
  | cons candidate rest ih => exact ih (recorded.record selected _ _)

/-- The whole inventory is recorded, whatever the scope and the selection. -/
theorem buildInventory_recorded (kind : ScopeKind) (ref : Option Int) (userId : Int)
    (targetHosts : Option (List String)) : (buildInventory site db kind ref userId targetHosts).Recorded := by
  have none_yet : ∀ privateKey error,
      InventoryResult.Recorded { privateKey := privateKey, error := error } := by
    intro privateKey error
    constructor
    · intro name vars absent
      cases absent
    · intro target absent
      cases absent
  unfold buildInventory
  split
  · exact none_yet _ _
  · rename_i candidates privateKey found
    have all : ∀ (groups : List (Int × List Candidate)) (result : InventoryResult), result.Recorded →
        (groups.foldl (recordNode site db (targetHosts.getD [])) result).Recorded := by
      intro groups
      induction groups with
      | nil =>
          intro result recorded
          exact recorded
      | cons group rest ih =>
          intro result recorded
          exact ih _ (recorded.recordNode _ group)
    have recorded := all (byNode candidates).entries _ (none_yet privateKey none)
    exact ⟨recorded.ofHost, recorded.ofTarget⟩

end Inventory

/-- The text that the portal writes for a variable of a host with these inventory variables. -/
def portalText (files : RunFiles) (vars : OrderedMap String String) (name : String) : Option String :=
  (vars.get? name).or
    (if name = "ansible_ssh_common_args" then some (commonArgs files)
    else if name = "ansible_ssh_private_key_file" then some files.keyPath else none)

theorem syncRunGuest_written {playbook : String} {params : Params} {result : InventoryResult} {become : Bool}
    {files : RunFiles} {host : String} {vars : OrderedMap String String}
    (present : result.hosts.get? host = some vars) (name : String) :
    (syncRunGuest playbook params result become files).written host name =
      (portalText files vars name).map .text := by
  have layers : (syncRunGuest playbook params result become files).inventoryLayers host =
      [fun name => ((syncRunGuest playbook params result become files).groupVars.get? name).map .text] ++
        [fun name => ((result.hosts.get? host).bind fun vars => vars.get? name).map .text] := rfl
  unfold AnsibleRun.written
  rw [layers, Precedence.effective_append, Precedence.effective_singleton, Precedence.effective_singleton,
    present, Option.bind_some, portalText]
  cases vars.get? name with
  | some text => rfl
  | none =>
      simp only [syncRunGuest, OrderedMap.get?_set, OrderedMap.get?_empty, Option.map_none, Option.none_or]

/-- A launched run was accepted, and it has the hosts of its inventory. -/
theorem GuestRequest.run_eq_some {site : InventorySite} {db : Database} {request : GuestRequest} {found : Bool}
    {files : RunFiles} {run : AnsibleRun} (launched : request.run site db found files = some run) :
    ∃ detail, getPlaybook request.playbooks request.playbook = some detail ∧
      run = syncRunGuest request.playbook request.params (request.inventory site db) detail.become files := by
  unfold GuestRequest.run at launched
  split at launched
  · cases launched
  · rename_i detail known
    split at launched
    · unfold runGuestAnsibleJob at launched
      split at launched
      · cases launched
      · exact ⟨detail, known, (Option.some.inj launched).symm⟩
    · cases launched

variable (site : InventorySite) (db : Database)

/-- Every host of a launched run is reached as the portal has written, unless the playbook declares
the variable. -/
def GuestRunConfined (request : GuestRequest) (found : Bool) (files : RunFiles) : Prop :=
  ∀ detail run, getPlaybook request.playbooks request.playbook = some detail →
    request.run site db found files = some run →
      ∀ host, (run.hosts.get? host).isSome → ∀ name ∈ connectionVariables,
        name ∉ detail.parameters.map Parameter.id → run.effective host name = run.written host name

/-- Where a run is launched, an undeclared connection variable among the params repeats the text that the
portal writes for every host of the inventory. -/
def ParamsRepeatInventory (request : GuestRequest) (found : Bool) (files : RunFiles) : Prop :=
  ∀ detail, getPlaybook request.playbooks request.playbook = some detail →
    (request.run site db found files).isSome → ∀ name ∈ connectionVariables,
      name ∉ detail.parameters.map Parameter.id → ∀ value ∈ request.params.get? name,
        ∀ host vars, (request.inventory site db).hosts.get? host = some vars →
          (portalText files vars name).map .text = some value

/-- A guest run reaches its targets as the inventory says exactly when the params only repeat it. -/
theorem guest_run_confined_iff (request : GuestRequest) (found : Bool) (files : RunFiles) :
    GuestRunConfined site db request found files ↔ ParamsRepeatInventory site db request found files := by
  constructor
  · intro confined detail known launched name connects undeclared value given host vars present
    obtain ⟨run, started⟩ := Option.isSome_iff_exists.mp launched
    obtain ⟨detail', known', same⟩ := GuestRequest.run_eq_some started
    have here : run.hosts.get? host = some vars := by
      rw [same]
      exact present
    have kept := confined detail run known started host (by rw [here]; rfl) name connects undeclared
    have repeated := (Precedence.effective_append_eq_iff _ _ name).mp kept value (by
      rw [Precedence.effective_singleton, same]
      exact given)
    change run.written host name = some value at repeated
    rw [same, syncRunGuest_written present] at repeated
    exact repeated
  · intro repeats detail run known started host present name connects undeclared
    obtain ⟨detail', known', same⟩ := GuestRequest.run_eq_some started
    obtain ⟨vars, stored⟩ := Option.isSome_iff_exists.mp present
    rw [same] at stored
    refine (Precedence.effective_append_eq_iff _ _ name).mpr ?_
    intro value given
    rw [Precedence.effective_singleton, same] at given
    change run.written host name = some value
    rw [same, syncRunGuest_written stored]
    exact repeats detail known (by rw [started]; rfl) name connects undeclared value given host vars stored

/-- A confined run of a playbook that leaves the address alone connects to addresses of its targets only. -/
theorem GuestRunConfined.reaches_targets {request : GuestRequest} {found : Bool} {files : RunFiles}
    {detail : PlaybookMeta} {run : AnsibleRun} {host : String}
    (confined : GuestRunConfined site db request found files)
    (known : getPlaybook request.playbooks request.playbook = some detail)
    (undeclared : "ansible_host" ∉ detail.parameters.map Parameter.id)
    (started : request.run site db found files = some run) (present : (run.hosts.get? host).isSome) :
    ∃ target ∈ (request.inventory site db).targets, target.name = host ∧
      run.effective host "ansible_host" = some (.text target.ansibleHost) := by
  have kept := confined detail run known started host present "ansible_host" (by decide) undeclared
  obtain ⟨detail', known', same⟩ := GuestRequest.run_eq_some started
  obtain ⟨vars, stored⟩ := Option.isSome_iff_exists.mp present
  rw [same] at stored
  obtain ⟨target, member, named, user, written⟩ := (buildInventory_recorded _ _ _ _).ofHost host vars stored
  refine ⟨target, member, named, ?_⟩
  rw [kept, same, syncRunGuest_written stored, written]
  simp [portalText, hostVars]

/-- A portal with one owned and managed guest. -/
def exampleInventory : InventorySite where
  isAlnum := Char.isAlphanum
  getUserPrivateKey := fun _ => some "key"
  resolveGuestScope := fun _ _ _ => none
  getClusterResources := fun _ _ => .ok [⟨some 100, some "pve", some "qemu"⟩]
  getVmIp := fun _ _ _ _ _ => some "10.0.0.5"

def exampleGuests : Database where
  vmOwners := [{ id := 1, resourceType := .vm, nodeId := 1, vmid := 100, userId := 7 }]
  nodes := [{ id := 1, name := "pve", url := "https://pve:8006", proxmoxNode := "pve", viewerTokenId := "id",
              viewerTokenSecret := "secret" }]
  ansibleManagedHosts := [{ portalNodeId := 1, vmid := 100, kind := "qemu", sshManaged := true }]

def exampleRequest (name value : String) : GuestRequest where
  playbooks := [("docker", { targets := .guest })]
  playbook := "docker"
  params := OrderedMap.empty.set name (.text value)
  userId := 7

/-- An undeclared param sends the run to another address, or to the portal host itself. -/
theorem guest_run_unconfined :
    ¬ GuestRunConfined exampleInventory exampleGuests (exampleRequest "ansible_host" "10.0.0.99") true ⟨"k", "h"⟩ ∧
      ¬ GuestRunConfined exampleInventory exampleGuests (exampleRequest "ansible_connection" "local") true
        ⟨"k", "h"⟩ := by
  constructor
  · intro confined
    have kept := confined _ _ rfl (Option.some_get (by decide)).symm "vmid100-pve" (by decide) "ansible_host"
      (by decide) (by decide)
    revert kept
    decide
  · intro confined
    have kept := confined _ _ rfl (Option.some_get (by decide)).symm "vmid100-pve" (by decide)
      "ansible_connection" (by decide) (by decide)
    revert kept
    decide

end P3Portal.Automation
