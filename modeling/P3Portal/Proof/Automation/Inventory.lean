import P3Portal.Construction.Automation.Inventory
import P3Portal.Foundation.Assignments

namespace P3Portal.Automation
open Schema Foundation Proxmox Vms

variable (site : InventorySite) (db : Database) (selected : List String) (candidate : Candidate)

/-- The live data of a candidate come from the listing of its installation. -/
def liveGuest : Option LiveGuest := (resolveNodeLive site db candidate.portalNodeId).get? candidate.vmid

def entryOf : HostEntry := hostEntry site db (resolveNodeLive site db candidate.portalNodeId) candidate

/-- A managed candidate in the selection becomes a target. -/
def chosen : Bool :=
  (entryOf site db candidate).group = .managed && (selected = [] ∨ candidate.hostRef ∈ selected)

def inventoryName : String :=
  ansibleName site ((entryOf site db candidate).proxmoxNode.getD "node") candidate.vmid

/-- The address that the inventory uses is the one that the portal has fetched. -/
def address : String := (entryOf site db candidate).ip.getD ""

def storedKey : Option String := Text.truthy ((hostState db candidate).bind ManagedHost.hostKey)

/-- The candidate's own address is asked for the live guest under the recorded kind. -/
def ownAddress : Option String :=
  (liveGuest site db candidate).bind fun guest =>
    fetchHostIp site db candidate { guest with type := candidate.kind }

def targetOf : Target :=
  { name := inventoryName site db candidate
    ansibleHost := address site db candidate
    candidate := candidate
    hostKey := (hostState db candidate).bind ManagedHost.hostKey }

def hostRow : String × OrderedMap String String :=
  (inventoryName site db candidate,
    hostVars (address site db candidate) (entryOf site db candidate).ansibleUser)

def keyRow : Option (String × String) :=
  (storedKey db candidate).map fun key => (address site db candidate, key)

/-- The loop records one candidate after the other. -/
def recordCandidate (result : InventoryResult) (candidate : Candidate) : InventoryResult :=
  result.record site selected (entryOf site db candidate) ((hostState db candidate).bind ManagedHost.hostKey)

/-- The candidates of the scope, or none when the scope has no key or no candidate. -/
def scopeMembers (kind : ScopeKind) (ref : Option Int) (userId : Int) : List Candidate :=
  match scopeCandidates site db kind ref userId with
  | .ok (candidates, _) => candidates
  | .error _ => []

/-- The inventory has one host for each managed candidate in the selection and no other host; a host has
the own address and the user of its candidate, a target is live under its kind, and a key is the stored
key of the one target with the address. -/
structure AddressesEachOnce (members : List Candidate) (result : InventoryResult) : Prop where
  oneEach : result.hosts.entries.length = (members.filter (chosen site db selected)).toFinset.card
  own : ∀ candidate ∈ members, chosen site db selected candidate = true →
    ∃ state ip, hostState db candidate = some state ∧ ownAddress site db candidate = some ip ∧
      result.hosts.get? (inventoryName site db candidate) = some (hostVars ip state.ansibleUser)
  noneElse : ∀ name vars, result.hosts.get? name = some vars →
    ∃ candidate ∈ members, chosen site db selected candidate = true ∧ inventoryName site db candidate = name
  live : ∀ target ∈ result.targets,
    ∃ guest, liveGuest site db target.candidate = some guest ∧ guest.type = target.candidate.kind
  keys : ∀ ip key, result.hostKeys.get? ip = some key →
    ∃ target ∈ result.targets, target.ansibleHost = ip ∧ target.hostKey = some key ∧
      ∀ other ∈ result.targets, other.ansibleHost = ip → other.candidate = target.candidate

/-- The chosen candidates have different names and are live under the recorded kinds, and none shares its
address with a candidate whose key is stored. -/
structure Unambiguous (members : List Candidate) : Prop where
  names : ∀ first ∈ members, ∀ second ∈ members, chosen site db selected first = true →
    chosen site db selected second = true → inventoryName site db first = inventoryName site db second →
    first = second
  kinds : ∀ candidate ∈ members, chosen site db selected candidate = true →
    ∃ guest, liveGuest site db candidate = some guest ∧ guest.type = candidate.kind
  addresses : ∀ first ∈ members, ∀ second ∈ members, chosen site db selected first = true →
    chosen site db selected second = true → address site db first = address site db second →
    (storedKey db first).isSome → first = second

section Entries
variable {site db selected candidate}

/-- A managed entry has a stored state and an address. -/
theorem managed_entry (managed : (entryOf site db candidate).group = .managed) :
    ∃ state ip, hostState db candidate = some state ∧ (entryOf site db candidate).ip = some ip ∧
      (entryOf site db candidate).ansibleUser = state.ansibleUser ∧
        fetchHostIp site db candidate ((liveGuest site db candidate).getD ⟨"", "qemu"⟩) = some ip := by
  unfold entryOf hostEntry at managed ⊢
  cases stored : hostState db candidate with
  | none => simp [stored] at managed
  | some state =>
      cases ssh : state.sshManaged with
      | false => simp [stored, ssh] at managed
      | true =>
          simp only [stored, ssh, Option.any_some, Bool.not_true, Bool.false_eq_true, if_false, if_true,
            Option.map_some, Option.getD_some] at managed ⊢
          cases fetched : fetchHostIp site db candidate ((liveGuest site db candidate).getD ⟨"", "qemu"⟩) with
          | none =>
              unfold liveGuest at fetched
              rw [fetched] at managed
              simp [Text.truthy] at managed
          | some ip => exact ⟨state, ip, rfl, fetched, rfl, rfl⟩

/-- The address of a live candidate under its recorded kind is its own. -/
theorem ownAddress_eq {guest : LiveGuest} (managed : (entryOf site db candidate).group = .managed)
    (live : liveGuest site db candidate = some guest) (kind : guest.type = candidate.kind) :
    ownAddress site db candidate = some (address site db candidate) := by
  obtain ⟨state, ip, stored, addressed, user, fetched⟩ := managed_entry managed
  rw [ownAddress, live, Option.bind_some, ← kind, address, addressed, Option.getD_some, ← fetched, live]
  rfl

theorem chosen_iff : chosen site db selected candidate = true ↔
    (entryOf site db candidate).group = .managed ∧ (selected = [] ∨ candidate.hostRef ∈ selected) := by
  simp [chosen]

/-- A chosen candidate is entered under its name, among the targets and with its key. -/
theorem recordCandidate_chosen (result : InventoryResult) (picked : chosen site db selected candidate = true) :
    recordCandidate site db selected result candidate =
      { result with
        entries := result.entries ++ [entryOf site db candidate]
        hosts := result.hosts.assignAll [hostRow site db candidate]
        targets := result.targets ++ [targetOf site db candidate]
        hostKeys := result.hostKeys.assignAll (keyRow site db candidate).toList } := by
  obtain ⟨managed, inside⟩ := chosen_iff.mp picked
  obtain ⟨state, ip, stored, addressed, user, fetched⟩ := managed_entry managed
  simp only [recordCandidate, InventoryResult.record, managed, addressed]
  rw [if_pos (show selected = [] ∨ (entryOf site db candidate).candidate.hostRef ∈ selected from inside)]
  simp only [targetOf, hostRow, keyRow, storedKey, address, inventoryName, addressed, Option.getD_some]
  cases Text.truthy ((hostState db candidate).bind ManagedHost.hostKey) with
  | none => rfl
  | some key => rfl

/-- Any other candidate is only listed. -/
theorem recordCandidate_other (result : InventoryResult) (passed : chosen site db selected candidate = false) :
    recordCandidate site db selected result candidate =
      { result with entries := result.entries ++ [entryOf site db candidate] } := by
  unfold recordCandidate InventoryResult.record
  dsimp only
  split
  · rename_i ip managed addressed
    rw [if_neg]
    intro inside
    rw [chosen_iff.mpr ⟨managed, inside⟩] at passed
    cases passed
  · rfl

/-- The loop assigns the rows of the chosen candidates and lists their targets. -/
theorem foldl_recordCandidate (site : InventorySite) (db : Database) (selected : List String)
    (candidates : List Candidate) (result : InventoryResult) :
    let after := candidates.foldl (recordCandidate site db selected) result
    let picked := candidates.filter (chosen site db selected)
    after.hosts = result.hosts.assignAll (picked.map (hostRow site db)) ∧
      after.targets = result.targets ++ picked.map (targetOf site db) ∧
      after.hostKeys = result.hostKeys.assignAll (picked.filterMap (keyRow site db)) := by
  induction candidates generalizing result with
  | nil => exact ⟨rfl, (List.append_nil _).symm, rfl⟩
  | cons candidate rest ih =>
      dsimp only at ih ⊢
      rw [List.foldl_cons]
      obtain ⟨hosts, targets, keys⟩ := ih (recordCandidate site db selected result candidate)
      rw [hosts, targets, keys]
      cases picked : chosen site db selected candidate with
      | false =>
          rw [List.filter_cons_of_neg (by simp [picked]), recordCandidate_other result picked]
          exact ⟨rfl, rfl, rfl⟩
      | true =>
          rw [List.filter_cons_of_pos picked, recordCandidate_chosen result picked]
          refine ⟨rfl, ?_, ?_⟩
          · simp
          · rw [← OrderedMap.assignAll_append, List.filterMap_cons]
            cases keyRow site db candidate <;> rfl

end Entries

/-- A group of one installation is recorded candidate by candidate. -/
theorem recordNode_eq {group : Int × List Candidate}
    (grouped : ∀ candidate ∈ group.2, candidate.portalNodeId = group.1) (result : InventoryResult) :
    recordNode site db selected result group = group.2.foldl (recordCandidate site db selected) result := by
  refine List.foldl_ext _ _ _ fun result candidate member => ?_
  rw [recordCandidate, entryOf, grouped candidate member]

/-- The groups of the installations together hold the candidates of the scope. -/
theorem foldl_recordNode (candidates : List Candidate) (result : InventoryResult) :
    ∃ ordered : List Candidate, (∀ candidate, candidate ∈ ordered ↔ candidate ∈ candidates) ∧
      (byNode candidates).entries.foldl (recordNode site db selected) result =
        ordered.foldl (recordCandidate site db selected) result := by
  refine ⟨(byNode candidates).entries.flatMap Prod.snd, ?_, ?_⟩
  · intro candidate
    rw [List.mem_flatMap]
    exact OrderedMap.mem_groupAll Candidate.portalNodeId candidates candidate
  · rw [List.foldl_flatMap]
    refine List.foldl_ext _ _ _ fun result group stored => ?_
    exact recordNode_eq site db selected
      (fun candidate member => OrderedMap.key_of_mem_groupAll stored member) result

/-- What the inventory holds is assigned from the chosen candidates in some order. -/
theorem buildInventory_rows (kind : ScopeKind) (ref : Option Int) (userId : Int)
    (targetHosts : Option (List String)) :
    ∃ ordered : List Candidate,
      (∀ candidate, candidate ∈ ordered ↔ candidate ∈ scopeMembers site db kind ref userId ∧
        chosen site db (targetHosts.getD []) candidate = true) ∧
      (buildInventory site db kind ref userId targetHosts).hosts =
        OrderedMap.empty.assignAll (ordered.map (hostRow site db)) ∧
      (buildInventory site db kind ref userId targetHosts).targets = ordered.map (targetOf site db) ∧
      (buildInventory site db kind ref userId targetHosts).hostKeys =
        OrderedMap.empty.assignAll (ordered.filterMap (keyRow site db)) := by
  unfold buildInventory scopeMembers
  cases scopeCandidates site db kind ref userId with
  | error reason => exact ⟨[], by simp, rfl, rfl, rfl⟩
  | ok scope =>
      obtain ⟨candidates, privateKey⟩ := scope
      obtain ⟨ordered, same, folded⟩ := foldl_recordNode site db (targetHosts.getD []) candidates
        { privateKey := privateKey }
      obtain ⟨hosts, targets, keys⟩ := foldl_recordCandidate site db (targetHosts.getD []) ordered
        { privateKey := privateKey }
      refine ⟨ordered.filter (chosen site db (targetHosts.getD [])), ?_, ?_, ?_, ?_⟩
      · intro candidate
        rw [List.mem_filter, same]
      · dsimp only
        rw [folded, hosts]
      · dsimp only
        rw [folded, targets]
        rfl
      · dsimp only
        rw [folded, keys]

section Exact
variable {site db selected} {members ordered : List Candidate} {result : InventoryResult}

/-- The rows of an inventory come from the chosen members. -/
structure Assigned (site : InventorySite) (db : Database) (selected : List String) (members ordered : List Candidate)
    (result : InventoryResult) : Prop where
  picked : ∀ candidate, candidate ∈ ordered ↔
    candidate ∈ members ∧ chosen site db selected candidate = true
  hosts : result.hosts = OrderedMap.empty.assignAll (ordered.map (hostRow site db))
  targets : result.targets = ordered.map (targetOf site db)
  hostKeys : result.hostKeys = OrderedMap.empty.assignAll (ordered.filterMap (keyRow site db))

/-- Each distinct name gives one host. -/
theorem Assigned.oneEach_iff (assigned : Assigned site db selected members ordered result) :
    result.hosts.entries.length = (members.filter (chosen site db selected)).toFinset.card ↔
      ∀ first ∈ ordered, ∀ second ∈ ordered,
        inventoryName site db first = inventoryName site db second → first = second := by
  have counted : (members.filter (chosen site db selected)).toFinset = ordered.toFinset := by
    ext candidate
    rw [List.mem_toFinset, List.mem_toFinset, List.mem_filter, assigned.picked]
  have named : ((ordered.map (hostRow site db)).map Prod.fst).toFinset =
      ordered.toFinset.image (inventoryName site db) := by
    ext name
    simp [hostRow]
  rw [assigned.hosts, OrderedMap.length_assignAll, named, counted, Finset.card_image_iff]
  constructor
  · intro injective first firstPicked second secondPicked same
    exact injective (by simpa using firstPicked) (by simpa using secondPicked) same
  · intro injective first firstPicked second secondPicked same
    exact injective first (by simpa using firstPicked) second (by simpa using secondPicked) same

/-- With distinct names every chosen candidate finds its own host. -/
theorem Assigned.host_of_names (assigned : Assigned site db selected members ordered result)
    (names : ∀ first ∈ ordered, ∀ second ∈ ordered,
      inventoryName site db first = inventoryName site db second → first = second)
    {candidate : Candidate} (member : candidate ∈ ordered) :
    result.hosts.get? (inventoryName site db candidate) =
      some (hostVars (address site db candidate) (entryOf site db candidate).ansibleUser) := by
  rw [assigned.hosts]
  refine OrderedMap.get?_assignAll_of_unique _ ?_ ?_
  · exact List.mem_map.mpr ⟨candidate, member, rfl⟩
  · intro other found
    obtain ⟨twin, twinMember, row⟩ := List.mem_map.mp found
    have same : twin = candidate := names twin twinMember candidate member (Prod.mk.inj row).1
    rw [← (Prod.mk.inj row).2, same]

/-- A stored key belongs to the one target with its address exactly when no two targets share the address
of a candidate with a key. -/
theorem Assigned.keys_iff (assigned : Assigned site db selected members ordered result) :
    (∀ ip key, result.hostKeys.get? ip = some key →
      ∃ target ∈ result.targets, target.ansibleHost = ip ∧ target.hostKey = some key ∧
        ∀ other ∈ result.targets, other.ansibleHost = ip → other.candidate = target.candidate) ↔
      ∀ first ∈ ordered, ∀ second ∈ ordered, address site db first = address site db second →
        (storedKey db first).isSome → first = second := by
  rw [assigned.hostKeys, assigned.targets]
  constructor
  · intro keyed_once first firstPicked second secondPicked shared keyed
    obtain ⟨key, stored⟩ := Option.isSome_iff_exists.mp keyed
    have row : (address site db first, key) ∈ ordered.filterMap (keyRow site db) :=
      List.mem_filterMap.mpr ⟨first, firstPicked, by rw [keyRow, stored, Option.map_some]⟩
    have listed := (OrderedMap.mem_keys_assignAll (ordered.filterMap (keyRow site db))
      (address site db first)).mpr (List.mem_map.mpr ⟨_, row, rfl⟩)
    obtain ⟨used, found⟩ := Option.isSome_iff_exists.mp ((OrderedMap.mem_keys_iff _ _).mp listed)
    obtain ⟨target, member, addressed, held, alone⟩ := keyed_once _ used found
    have one : first = target.candidate := alone _ (List.mem_map_of_mem firstPicked) rfl
    have two : second = target.candidate := alone _ (List.mem_map_of_mem secondPicked) shared.symm
    rw [one, two]
  · intro alone ip key found
    obtain ⟨candidate, picked, row⟩ := List.mem_filterMap.mp (OrderedMap.mem_of_get?_assignAll found)
    obtain ⟨held, stored, same⟩ := Option.map_eq_some_iff.mp row
    obtain ⟨rfl, rfl⟩ := Prod.mk.inj same
    refine ⟨targetOf site db candidate, List.mem_map_of_mem picked, rfl, ((Text.truthy_eq_some _ _).mp stored).1, ?_⟩
    intro other member shared
    obtain ⟨twin, twinPicked, rfl⟩ := List.mem_map.mp member
    exact (alone candidate picked twin twinPicked shared.symm (by rw [stored]; rfl)).symm

end Exact

/-- The guest inventory addresses every target exactly once if and only if the chosen candidates are
unambiguous. -/
theorem inventory_exact_iff (kind : ScopeKind) (ref : Option Int) (userId : Int)
    (targetHosts : Option (List String)) :
    AddressesEachOnce site db (targetHosts.getD []) (scopeMembers site db kind ref userId)
        (buildInventory site db kind ref userId targetHosts) ↔
      Unambiguous site db (targetHosts.getD []) (scopeMembers site db kind ref userId) := by
  obtain ⟨ordered, picked, hosts, targets, hostKeys⟩ := buildInventory_rows site db kind ref userId targetHosts
  have assigned : Assigned site db (targetHosts.getD []) (scopeMembers site db kind ref userId) ordered
      (buildInventory site db kind ref userId targetHosts) := ⟨picked, hosts, targets, hostKeys⟩
  constructor
  · intro once
    refine ⟨?_, ?_, ?_⟩
    · intro first firstMember second secondMember firstChosen secondChosen
      exact assigned.oneEach_iff.mp once.oneEach first ((picked first).mpr ⟨firstMember, firstChosen⟩) second
        ((picked second).mpr ⟨secondMember, secondChosen⟩)
    · intro candidate member isChosen
      exact once.live (targetOf site db candidate)
        (by rw [targets]; exact List.mem_map_of_mem ((picked candidate).mpr ⟨member, isChosen⟩))
    · intro first firstMember second secondMember firstChosen secondChosen
      exact assigned.keys_iff.mp once.keys first ((picked first).mpr ⟨firstMember, firstChosen⟩) second
        ((picked second).mpr ⟨secondMember, secondChosen⟩)
  · intro unambiguous
    have names : ∀ first ∈ ordered, ∀ second ∈ ordered,
        inventoryName site db first = inventoryName site db second → first = second := by
      intro first firstPicked second secondPicked
      exact unambiguous.names first ((picked first).mp firstPicked).1 second ((picked second).mp secondPicked).1
        ((picked first).mp firstPicked).2 ((picked second).mp secondPicked).2
    refine ⟨assigned.oneEach_iff.mpr names, ?_, ?_, ?_, assigned.keys_iff.mpr ?_⟩
    · intro candidate member isChosen
      obtain ⟨state, ip, stored, addressed, user, fetched⟩ := managed_entry (chosen_iff.mp isChosen).1
      obtain ⟨guest, live, kindSame⟩ := unambiguous.kinds candidate member isChosen
      have same : address site db candidate = ip := by
        rw [address, addressed, Option.getD_some]
      refine ⟨state, ip, stored, ?_, ?_⟩
      · rw [ownAddress_eq (chosen_iff.mp isChosen).1 live kindSame, same]
      · rw [assigned.host_of_names names ((picked candidate).mpr ⟨member, isChosen⟩), user, same]
    · intro name vars found
      rw [hosts] at found
      obtain ⟨candidate, member, row⟩ := List.mem_map.mp (OrderedMap.mem_of_get?_assignAll found)
      exact ⟨candidate, ((picked candidate).mp member).1, ((picked candidate).mp member).2, (Prod.mk.inj row).1⟩
    · intro target member
      rw [targets] at member
      obtain ⟨candidate, candidatePicked, rfl⟩ := List.mem_map.mp member
      exact unambiguous.kinds candidate ((picked candidate).mp candidatePicked).1
        ((picked candidate).mp candidatePicked).2
    · intro first firstPicked second secondPicked
      exact unambiguous.addresses first ((picked first).mp firstPicked).1 second ((picked second).mp secondPicked).1
        ((picked first).mp firstPicked).2 ((picked second).mp secondPicked).2

/-- Two installations that both call a node `pve` and own a machine 100 share one host, so the first target
is dropped; and a container whose number is live as a machine becomes a target. -/
theorem inventory_inexact :
    let row (id : Int) (url : String) : NodeRow :=
      { id := id, name := url, url := url, proxmoxNode := "pve", viewerTokenId := "id", viewerTokenSecret := "s" }
    let site : InventorySite :=
      { isAlnum := Char.isAlphanum
        getUserPrivateKey := fun _ => some "key"
        resolveGuestScope := fun _ _ _ => none
        getClusterResources := fun _ _ => .ok [⟨some 100, some "pve", some "qemu"⟩]
        getVmIp := fun client _ _ _ _ =>
          if client.baseUrlOverride = some "https://a:8006" then some "10.0.0.5" else some "10.1.0.5" }
    let db : Database :=
      { vmOwners := [{ id := 1, resourceType := .vm, nodeId := 1, vmid := 100, userId := 7 },
          { id := 2, resourceType := .vm, nodeId := 2, vmid := 100, userId := 7 },
          { id := 3, resourceType := .lxc, nodeId := 1, vmid := 100, userId := 8 }]
        nodes := [row 1 "https://a:8006", row 2 "https://b:8006"]
        ansibleManagedHosts := [{ portalNodeId := 1, vmid := 100, kind := "qemu", sshManaged := true },
          { portalNodeId := 2, vmid := 100, kind := "qemu", sshManaged := true },
          { portalNodeId := 1, vmid := 100, kind := "lxc", sshManaged := true }] }
    ¬ AddressesEachOnce site db [] (scopeMembers site db .user none 7)
        (buildInventory site db .user none 7 none) ∧
      ¬ AddressesEachOnce site db [] (scopeMembers site db .user none 8)
        (buildInventory site db .user none 8 none) := by
  intro row site db
  constructor
  · intro once
    have counted := once.oneEach
    revert counted
    decide +kernel
  · intro once
    have targets : (buildInventory site db .user none 8 none).targets =
        [⟨"vmid100-pve", "10.0.0.5", ⟨1, 100, "lxc"⟩, none⟩] := by decide +kernel
    have live := once.live ⟨"vmid100-pve", "10.0.0.5", ⟨1, 100, "lxc"⟩, none⟩
      (by rw [targets]; exact List.mem_singleton_self _)
    obtain ⟨guest, found, sameKind⟩ := live
    have machine : liveGuest site db ⟨1, 100, "lxc"⟩ = some ⟨"pve", "qemu"⟩ := by decide +kernel
    rw [machine] at found
    rw [← Option.some.inj found] at sameKind
    revert sameKind
    decide

end P3Portal.Automation
