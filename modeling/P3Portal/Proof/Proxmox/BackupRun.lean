import P3Portal.Construction.Proxmox.BackupJobs
import P3Portal.Foundation.TextFields

namespace P3Portal.Proxmox.BackupRun
open Schema Foundation Http

/-- The elements of a comma separated list. -/
def elements (text : String) : List String := (Text.splitCommas text).map Text.strip

/-- vzdump takes the listed guests, the guests of its node without the excluded ones, or the members of the pool. -/
def selects (params : VzdumpParams) (guest : ClusterGuest) : Bool :=
  match params.vmid with
  | some vmid => toString guest.vmid ∈ elements vmid
  | none =>
      if params.all then toString guest.vmid ∉ elements (params.exclude.getD "")
      else params.pool.any fun pool => guest.pool = some pool

/-- A call reaches the selected guests of its node. -/
def covers (call : VzdumpCall) (guest : ClusterGuest) : Bool := call.node = guest.node && selects call.params guest

/-- A job is for the listed guests, for all guests without the excluded ones, or for the members of a pool. -/
def inScope (job : BackupSchedule) (guest : ClusterGuest) : Bool :=
  match Text.truthy job.vmid with
  | some vmid => toString guest.vmid ∈ elements vmid
  | none =>
      if job.all.any (· ≠ 0) then toString guest.vmid ∉ elements ((Text.truthy job.exclude).getD "")
      else (Text.truthy job.pool).any fun pool => guest.pool = some pool

section Run
variable (world : World) (job : BackupSchedule)

def Member (node : String) : Prop := node ∈ world.cluster.nodes.map ClusterNode.name

def Starts (node : String) : Prop := (world.start node).toOption.isSome = true

instance (node : String) : Decidable (Starts world node) :=
  inferInstanceAs (Decidable ((world.start node).toOption.isSome = true))

/-- The calls of a run that start and reach the guest. -/
def backups (run : RunEnd) (guest : ClusterGuest) : List VzdumpCall :=
  run.calls.filter fun call => covers call guest && (world.start call.node).toOption.isSome

/-- The calls name members, reach no guest outside the scope, and back up each guest in the scope once; only an
error excuses a guest without a backup. -/
def Exact (run : RunEnd) : Prop :=
  (∀ call ∈ run.calls, Member world call.node) ∧
  (∀ call ∈ run.calls, ∀ guest ∈ world.cluster.guests, covers call guest = true → inScope job guest = true) ∧
  ∀ guest ∈ world.cluster.guests, inScope job guest = true →
    (backups world run guest).length = 1 ∨ (backups world run guest).length = 0 ∧ ∃ error, run.answer = .error error

/-- The listing of the nodes shows the node as online. -/
def Online (node : String) : Prop :=
  world.nodeListing = true ∧ ∃ entry ∈ world.cluster.nodes, entry.name = node ∧ entry.status = "online"

/-- A run for all guests or a pool goes to the online nodes, and without one to the name of the default installation. -/
def Asked (node : String) : Prop :=
  Online world node ∨ (¬ ∃ other, Online world other) ∧ ∃ row, Nodes.getDefaultNode world.db = some row ∧ row.name = node

/-- With the listing of the guests every node that hosts a guest in the scope starts. Without it the node that the
portal falls back to is a member, and its start fails or it hosts all guests in the scope. A run for all guests or
a pool asks members only, and each node that hosts a guest in the scope is asked and starts. -/
def Reaches : Prop :=
  match Text.truthy job.vmid with
  | some vmid =>
      if world.vmListing = true then
        ∀ guest ∈ world.cluster.guests, inScope job guest = true → Starts world guest.node
      else vmidsRequested vmid = [] ∨ Member world (fallbackNode world.db vmid) ∧
        (¬ Starts world (fallbackNode world.db vmid) ∨
          ∀ guest ∈ world.cluster.guests, inScope job guest = true → guest.node = fallbackNode world.db vmid)
  | none =>
      (∀ node, Asked world node → Member world node) ∧
      ∀ guest ∈ world.cluster.guests, inScope job guest = true → Asked world guest.node ∧ Starts world guest.node

end Run

section Lists
variable {A B : Type} {list : List A} {key : A → B} {keep : A → Bool}

/-- Of elements with different keys, a test that fixes the key keeps one at most. -/
theorem filter_length_one (distinct : (list.map key).Nodup) {x : A} (member : x ∈ list) (kept : keep x = true)
    (only : ∀ y ∈ list, keep y = true → key y = key x) : (list.filter keep).length = 1 := by
  induction list with
  | nil => exact absurd member List.not_mem_nil
  | cons head rest ih =>
      obtain ⟨fresh, others⟩ := List.nodup_cons.mp distinct
      have alone : ∀ y ∈ rest, keep y = true → key y = key x := fun y inside => only y (List.mem_cons_of_mem _ inside)
      rcases List.mem_cons.mp member with rfl | inside
      · have none : rest.filter keep = [] := by
          rw [List.filter_eq_nil_iff]
          intro y inside keeps
          exact fresh (List.mem_map.mpr ⟨y, inside, alone y inside keeps⟩)
        rw [List.filter_cons_of_pos kept, none]
        rfl
      · have skipped : keep head = false := by
          rw [← Bool.not_eq_true]
          intro keeps
          have same := only head List.mem_cons_self keeps
          exact fresh (List.mem_map.mpr ⟨x, inside, same.symm⟩)
        rw [List.filter_cons_of_neg (Bool.eq_false_iff.mp skipped)]
        exact ih others inside alone

end Lists

section Texts

/-- Different numbers are written differently. -/
theorem toString_injective {first second : Nat} (same : toString first = toString second) : first = second := by
  have digits : Nat.toDigits 10 first = Nat.toDigits 10 second := by
    have chars := congrArg String.toList same
    exact String.ofList_injective same
  rw [← Nat.ofDigitChars_ten_toDigits (n := first), digits, Nat.ofDigitChars_ten_toDigits]

/-- A written number has no comma and no padding, and it is not empty. -/
theorem toString_clean (number : Nat) : ',' ∉ (toString number).toList ∧ Text.strip (toString number) = toString number ∧
    toString number ≠ "" := by
  have chars : (toString number).toList = Nat.toDigits 10 number := String.toList_ofList
  have digits : ∀ c ∈ Nat.toDigits 10 number, c.isDigit = true :=
    fun c member => Nat.isDigit_of_mem_toDigits (by decide) (by decide) member
  refine ⟨?_, ?_, ?_⟩
  · intro comma
    rw [chars] at comma
    have digit := digits _ comma
    revert digit
    decide
  · unfold Text.strip
    rw [chars, trim_bare]
    · rfl
    · intro c found
      exact Text.digit_not_space (digits c (List.mem_of_mem_head? found))
    · intro c found
      exact Text.digit_not_space (digits c (List.mem_of_mem_getLast? found))
  · intro empty
    rw [empty] at chars
    exact Nat.toDigits_ne_nil chars.symm

/-- The numbers that are sent to a node are read back from the joined list. -/
theorem mem_elements_joined {numbers : List String} (written : ∀ text ∈ numbers, ∃ number : Nat, text = toString number)
    {number : Nat} : toString number ∈ elements (",".intercalate numbers) ↔ toString number ∈ numbers := by
  cases numbers with
  | nil =>
      have empty : elements (",".intercalate []) = [""] := by decide
      rw [empty, List.mem_singleton]
      exact iff_of_false (toString_clean number).2.2 List.not_mem_nil
  | cons first rest =>
      have free : ∀ part ∈ first :: rest, ',' ∉ part.toList := by
        intro part member
        obtain ⟨value, rfl⟩ := written part member
        exact (toString_clean value).1
      have each : ∀ part ∈ first :: rest, Text.strip part = id part := by
        intro part member
        obtain ⟨value, rfl⟩ := written part member
        exact (toString_clean value).2.1
      have bare : (first :: rest).map Text.strip = first :: rest := (List.map_congr_left each).trans (List.map_id _)
      rw [elements, Text.splitCommas_intercalate (List.cons_ne_nil _ _) free, bare]

/-- A run requests the numbers among the elements of the text. -/
theorem mem_vmidsRequested {vmid : String} {number : Nat} :
    toString number ∈ vmidsRequested vmid ↔ toString number ∈ elements vmid := by
  unfold vmidsRequested elements
  rw [List.mem_filter, decide_eq_true_iff]
  exact and_iff_left (toString_clean number).2.2

end Texts

section Listing
variable {cluster : Cluster}

/-- The entry of a guest shows its number and its node. -/
theorem guest_entry (guest : ClusterGuest) : guest.entry.get "vmid" = .int guest.vmid ∧
    guest.entry.get "node" = .text guest.node := ⟨rfl, rfl⟩

/-- The node of a guest has a name. -/
theorem Cluster.node_named (cluster : Cluster) {guest : ClusterGuest} (member : guest ∈ cluster.guests) :
    guest.node ≠ "" := fun empty => cluster.named (empty ▸ cluster.hosted guest member)

/-- The number of a guest is not zero. -/
theorem Cluster.number_present (cluster : Cluster) {guest : ClusterGuest} (member : guest ∈ cluster.guests) :
    guest.vmid ≠ 0 := fun zero => cluster.numbered (List.mem_map.mpr ⟨guest, member, zero⟩)

/-- The map from the listing leads from each number to its node. -/
theorem vmidToNode_eq_some {vmid node : String} :
    (vmidToNode (cluster.guests.map ClusterGuest.entry)).get? vmid = some node ↔
      ∃ guest ∈ cluster.guests, vmid = toString guest.vmid ∧ node = guest.node := by
  have kept : (cluster.guests.map ClusterGuest.entry).filter (fun entry =>
      (entry.get "vmid").truthy && (entry.get "node").truthy) = cluster.guests.map ClusterGuest.entry := by
    rw [List.filter_eq_self]
    intro entry member
    obtain ⟨guest, listed, rfl⟩ := List.mem_map.mp member
    rw [(guest_entry guest).1, (guest_entry guest).2, Bool.and_eq_true]
    exact ⟨decide_eq_true fun zero => cluster.number_present listed (Int.natCast_eq_zero.mp zero),
      decide_eq_true (cluster.node_named listed)⟩
  have rows : ∀ vmid node, (vmid, node) ∈ (cluster.guests.map ClusterGuest.entry).map (fun entry : JsonObject =>
      ((entry.getOr "vmid" (.text "")).str, (entry.getOr "node" (.text "")).str)) ↔
      ∃ guest ∈ cluster.guests, vmid = toString guest.vmid ∧ node = guest.node := by
    intro vmid node
    rw [List.map_map, List.mem_map]
    constructor
    · rintro ⟨guest, listed, same⟩
      exact ⟨guest, listed, (congrArg Prod.fst same).symm, (congrArg Prod.snd same).symm⟩
    · rintro ⟨guest, listed, rfl, rfl⟩
      exact ⟨guest, listed, rfl⟩
  unfold vmidToNode
  rw [kept, ← rows]
  constructor
  · exact OrderedMap.mem_of_get?_assignAll
  · intro member
    apply OrderedMap.get?_assignAll_of_unique _ member
    intro other twin
    obtain ⟨guest, listed, number, rfl⟩ := (rows _ _).mp member
    obtain ⟨rival, also, same, rfl⟩ := (rows _ _).mp twin
    have equal := toString_injective (number.symm.trans same)
    rw [List.inj_on_of_nodup_map cluster.vmidsNodup listed also equal]

end Listing

section Exactness
variable {world : World} {job : BackupSchedule}

/-- Calls to different nodes that reach the guests in the scope are exact when they go to members and every node with
such a guest is called and starts. -/
theorem gather_exact_iff {calls : List VzdumpCall} (distinct : (calls.map VzdumpCall.node).Nodup)
    (covering : ∀ call ∈ calls, ∀ guest ∈ world.cluster.guests,
      (covers call guest = true ↔ call.node = guest.node ∧ inScope job guest = true)) :
    Exact world job (gather world.start calls) ↔ (∀ call ∈ calls, Member world call.node) ∧
      ∀ guest ∈ world.cluster.guests, inScope job guest = true →
        guest.node ∈ calls.map VzdumpCall.node ∧ Starts world guest.node := by
  have counted : ∀ guest ∈ world.cluster.guests, inScope job guest = true →
      ((backups world (gather world.start calls) guest).length = 1 ↔
        guest.node ∈ calls.map VzdumpCall.node ∧ Starts world guest.node) := by
    intro guest listed wanted
    constructor
    · intro once
      obtain ⟨call, some_call⟩ := List.exists_mem_of_length_pos (Nat.lt_of_lt_of_eq Nat.one_pos once.symm)
      obtain ⟨called, both⟩ := List.mem_filter.mp some_call
      rw [Bool.and_eq_true] at both
      have here := ((covering call called guest listed).mp both.1).1
      exact ⟨here ▸ List.mem_map_of_mem called, here ▸ both.2⟩
    · rintro ⟨called, starts⟩
      obtain ⟨call, member, here⟩ := List.mem_map.mp called
      apply filter_length_one distinct member
      · rw [Bool.and_eq_true]
        exact ⟨(covering call member guest listed).mpr ⟨here, wanted⟩, here ▸ starts⟩
      · intro other also keeps
        rw [Bool.and_eq_true] at keeps
        rw [here]
        exact ((covering other also guest listed).mp keeps.1).1
  constructor
  · rintro ⟨members, -, backedUp⟩
    refine ⟨members, fun guest listed wanted => ?_⟩
    rcases backedUp guest listed wanted with once | ⟨-, error, refused⟩
    · exact (counted guest listed wanted).mp once
    · cases refused
  · rintro ⟨members, every⟩
    refine ⟨members, fun call called guest listed reached => ((covering call called guest listed).mp reached).2, ?_⟩
    intro guest listed wanted
    exact .inl ((counted guest listed wanted).mpr (every guest listed wanted))

/-- Such a call is made for a guest in the scope whose node is called. -/
theorem called_iff {calls : List VzdumpCall} {guest : ClusterGuest} (covering : ∀ call ∈ calls,
      (covers call guest = true ↔ call.node = guest.node ∧ inScope job guest = true)) :
    (∃ call ∈ calls, covers call guest = true) ↔ guest.node ∈ calls.map VzdumpCall.node ∧ inScope job guest = true := by
  rw [List.mem_map]
  constructor
  · rintro ⟨call, called, reached⟩
    obtain ⟨here, wanted⟩ := (covering call called).mp reached
    exact ⟨⟨call, called, here⟩, wanted⟩
  · rintro ⟨⟨call, called, here⟩, wanted⟩
    exact ⟨call, called, (covering call called).mpr ⟨here, wanted⟩⟩

section VmidList
variable {vmid : String} {base : VzdumpParams} (chosen : Text.truthy job.vmid = some vmid)
include chosen

/-- A guest is in the scope of a list exactly when the list names it. -/
theorem inScope_listed (guest : ClusterGuest) :
    inScope job guest = true ↔ toString guest.vmid ∈ elements vmid := by
  unfold inScope
  rw [chosen]
  exact decide_eq_true_iff

/-- The calls of a run whose guests are listed. -/
def groupCalls (world : World) (base : VzdumpParams) (vmid : String) : List VzdumpCall :=
  (nodeToVmids (world.cluster.guests.map ClusterGuest.entry) (vmidsRequested vmid)).entries.map fun group =>
    ⟨group.1, { base with vmid := some (",".intercalate (group.2.map Prod.snd)) }⟩

/-- The requested numbers with the nodes that host them. -/
def hostedVmids (world : World) (vmid : String) : List (String × String) :=
  (vmidsRequested vmid).filterMap fun number =>
    (Text.truthy ((vmidToNode (world.cluster.guests.map ClusterGuest.entry)).get? number)).map fun node => (node, number)

omit chosen in
/-- A requested number is hosted on the node of its guest. -/
theorem mem_hostedVmids {node number : String} : (node, number) ∈ hostedVmids world vmid ↔
    number ∈ vmidsRequested vmid ∧ ∃ guest ∈ world.cluster.guests, number = toString guest.vmid ∧ node = guest.node := by
  unfold hostedVmids
  rw [List.mem_filterMap]
  constructor
  · rintro ⟨asked, requested, found⟩
    obtain ⟨host, known, same⟩ := Option.map_eq_some_iff.mp found
    obtain ⟨rfl, rfl⟩ := Prod.mk.inj same
    exact ⟨requested, vmidToNode_eq_some.mp ((Text.truthy_eq_some _ _).mp known).1⟩
  · rintro ⟨requested, guest, listed, rfl, rfl⟩
    have known := vmidToNode_eq_some.mpr ⟨guest, listed, rfl, rfl⟩
    refine ⟨_, requested, ?_⟩
    rw [known, (Text.truthy_eq_some _ _).mpr ⟨rfl, world.cluster.node_named listed⟩]
    rfl

omit chosen in
/-- Each item of a group is a guest of the node. -/
theorem mem_group {group : String × List (String × String)}
    (stored : group ∈ (nodeToVmids (world.cluster.guests.map ClusterGuest.entry) (vmidsRequested vmid)).entries)
    {item : String × String} : item ∈ group.2 ↔ item ∈ hostedVmids world vmid ∧ item.1 = group.1 := by
  have grouped := OrderedMap.group_eq_filter stored
  rw [grouped, List.mem_filter, decide_eq_true_iff]
  rfl

/-- The call for a group reaches the guests of its node that are in the scope. -/
theorem covers_groupCalls : ∀ call ∈ groupCalls world base vmid, ∀ guest ∈ world.cluster.guests,
    (covers call guest = true ↔ call.node = guest.node ∧ inScope job guest = true) := by
  intro call called guest listed
  obtain ⟨group, stored, rfl⟩ := List.mem_map.mp called
  have written : ∀ text ∈ group.2.map Prod.snd, ∃ number : Nat, text = toString number := by
    intro text member
    obtain ⟨item, inside, rfl⟩ := List.mem_map.mp member
    obtain ⟨-, other, -, number, -⟩ := mem_hostedVmids.mp ((mem_group stored).mp inside).1
    exact ⟨other.vmid, number⟩
  unfold covers
  rw [Bool.and_eq_true, decide_eq_true_iff]
  apply and_congr_right
  intro here
  show decide (toString guest.vmid ∈ elements (",".intercalate (group.2.map Prod.snd))) = true ↔ _
  rw [decide_eq_true_iff, mem_elements_joined written, inScope_listed chosen, ← mem_vmidsRequested]
  constructor
  · intro member
    obtain ⟨item, inside, same⟩ := List.mem_map.mp member
    exact same ▸ (mem_hostedVmids.mp ((mem_group stored).mp inside).1).1
  · intro requested
    refine List.mem_map.mpr ⟨(group.1, toString guest.vmid), (mem_group stored).mpr ⟨?_, rfl⟩, rfl⟩
    exact mem_hostedVmids.mpr ⟨requested, guest, listed, rfl, here⟩

omit chosen in
/-- The calls go to the nodes of the groups. -/
theorem groupCalls_nodes : (groupCalls world base vmid).map VzdumpCall.node =
    (nodeToVmids (world.cluster.guests.map ClusterGuest.entry) (vmidsRequested vmid)).entries.map Prod.fst := by
  unfold groupCalls
  rw [List.map_map]
  rfl

/-- The node of a guest in the scope is called. -/
theorem node_called {guest : ClusterGuest} (listed : guest ∈ world.cluster.guests) (wanted : inScope job guest = true) :
    guest.node ∈ (groupCalls world base vmid).map VzdumpCall.node := by
  have requested := mem_vmidsRequested.mpr ((inScope_listed chosen guest).mp wanted)
  have hosted : (guest.node, toString guest.vmid) ∈ hostedVmids world vmid :=
    mem_hostedVmids.mpr ⟨requested, guest, listed, rfl, rfl⟩
  obtain ⟨group, stored, inside⟩ := (OrderedMap.mem_groupAll Prod.fst (hostedVmids world vmid) _).mpr hosted
  rw [groupCalls_nodes]
  exact List.mem_map.mpr ⟨group, stored, (OrderedMap.key_of_mem_groupAll stored inside).symm⟩

/-- With the listing a run for listed guests is exact when the nodes that host them start. -/
theorem exact_groupCalls_iff : Exact world job (gather world.start (groupCalls world base vmid)) ↔
    ∀ guest ∈ world.cluster.guests, inScope job guest = true → Starts world guest.node := by
  have distinct : ((groupCalls world base vmid).map VzdumpCall.node).Nodup := groupCalls_nodes ▸ OrderedMap.keysNodup _
  rw [gather_exact_iff distinct (covers_groupCalls chosen)]
  constructor
  · exact fun both guest listed wanted => (both.2 guest listed wanted).2
  · intro starts
    constructor
    · intro call called
      obtain ⟨group, stored, rfl⟩ := List.mem_map.mp called
      obtain ⟨item, inside⟩ := List.exists_mem_of_ne_nil _ (OrderedMap.group_ne_nil stored)
      obtain ⟨hosted, same⟩ := (mem_group stored).mp inside
      obtain ⟨-, guest, listed, -, node⟩ := mem_hostedVmids.mp hosted
      show Member world group.1
      rw [← same, node]
      exact world.cluster.hosted guest listed
    · exact fun guest listed wanted => ⟨node_called chosen listed wanted, starts guest listed wanted⟩

/-- A call with the whole list reaches the listed guests of its node. -/
theorem covers_listed (params : VzdumpParams) (listed : params.vmid = some vmid) (node : String) (guest : ClusterGuest) :
    covers ⟨node, params⟩ guest = true ↔ node = guest.node ∧ inScope job guest = true := by
  unfold covers selects
  rw [inScope_listed chosen, listed, Bool.and_eq_true, decide_eq_true_iff, decide_eq_true_iff]

/-- Without the listing one call goes to the node that the portal falls back to. -/
theorem exact_fallback_iff (params : VzdumpParams) (listed : params.vmid = some vmid) (node : String)
    (answer : Except HttpException (List (String × String)))
    (answered : (∃ error, answer = .error error) ↔ ¬ Starts world node) :
    Exact world job ⟨[⟨node, params⟩], answer⟩ ↔ Member world node ∧
      (¬ Starts world node ∨ ∀ guest ∈ world.cluster.guests, inScope job guest = true → guest.node = node) := by
  have covering := covers_listed chosen params listed node
  have counted : ∀ guest, backups world ⟨[⟨node, params⟩], answer⟩ guest =
      if covers ⟨node, params⟩ guest = true ∧ Starts world node then [⟨node, params⟩] else [] := by
    intro guest
    unfold backups
    by_cases both : covers ⟨node, params⟩ guest = true ∧ Starts world node
    · rw [if_pos both]
      exact List.filter_cons_of_pos ((Bool.and_eq_true _ _).symm ▸ both)
    · rw [if_neg both]
      exact List.filter_cons_of_neg ((Bool.and_eq_true _ _).symm ▸ both)
  unfold Exact
  rw [answered]
  simp only [List.mem_singleton, forall_eq, covering, counted]
  constructor
  · rintro ⟨member, -, every⟩
    refine ⟨member, or_iff_not_imp_left.mpr fun starts guest known wanted => ?_⟩
    rcases every guest known wanted with once | ⟨-, fails⟩
    · split at once
      · rename_i both
        exact both.1.1.symm
      · cases once
    · exact absurd fails starts
  · rintro ⟨member, enough⟩
    refine ⟨member, fun guest known reached => reached.2, fun guest known wanted => ?_⟩
    rcases enough with fails | here
    · right
      rw [if_neg fun both => fails both.2]
      exact ⟨rfl, fails⟩
    · by_cases starts : Starts world node
      · left
        rw [if_pos ⟨⟨(here guest known wanted).symm, wanted⟩, starts⟩]
        rfl
      · right
        rw [if_neg fun both => starts both.2]
        exact ⟨rfl, starts⟩

end VmidList

/-- The online nodes of the listing. -/
def onlineNodes (world : World) : List String :=
  ((if world.nodeListing then world.cluster.nodes.map ClusterNode.entry else []).filter fun entry =>
    entry.get "status" = .text "online" && (entry.get "node").truthy).map fun entry => (entry.get "node").str

/-- The default node is asked when no node is online. -/
theorem askedNodes_eq (world : World) : askedNodes world = if (onlineNodes world).isEmpty then
    ((Nodes.getDefaultNode world.db).map NodeRow.name).toList else onlineNodes world := rfl

/-- The nodes online are those that the listing shows as online. -/
theorem mem_onlineNodes {node : String} : node ∈ onlineNodes world ↔ Online world node := by
  unfold onlineNodes Online
  cases world.nodeListing with
  | false => exact iff_of_false List.not_mem_nil fun both => Bool.false_ne_true both.1
  | true =>
      simp only [if_true, true_and]
      rw [List.filter_map, List.map_map, List.mem_map]
      constructor
      · rintro ⟨entry, kept, rfl⟩
        obtain ⟨listed, shown⟩ := List.mem_filter.mp kept
        have both := (Bool.and_eq_true _ _).mp shown
        exact ⟨entry, listed, rfl, JsonValue.text.inj (of_decide_eq_true both.1)⟩
      · rintro ⟨entry, listed, rfl, online⟩
        refine ⟨entry, List.mem_filter.mpr ⟨listed, ?_⟩, rfl⟩
        have present : entry.name ≠ "" := fun empty =>
          world.cluster.named (empty ▸ List.mem_map_of_mem (f := ClusterNode.name) listed)
        exact (Bool.and_eq_true _ _).mpr ⟨decide_eq_true (congrArg JsonValue.text online), decide_eq_true present⟩

/-- The nodes asked are the online ones or else the default one. -/
theorem mem_askedNodes {node : String} : node ∈ askedNodes world ↔ Asked world node := by
  rw [askedNodes_eq]
  unfold Asked
  by_cases empty : onlineNodes world = []
  · have offline : ∀ other, ¬ Online world other := by
      intro other online
      rw [← mem_onlineNodes, empty] at online
      exact List.not_mem_nil online
    rw [empty, if_pos List.isEmpty_nil, or_iff_right (offline node), Option.mem_toList, Option.map_eq_some_iff]
    exact (and_iff_right fun some_online => offline _ some_online.choose_spec).symm
  · rw [if_neg (mt List.isEmpty_iff.mp empty), mem_onlineNodes]
    obtain ⟨other, member⟩ := List.exists_mem_of_ne_nil _ empty
    exact (or_iff_left fun both => both.1 ⟨other, mem_onlineNodes.mp member⟩).symm

/-- A run asks no node twice. -/
theorem askedNodes_nodup (world : World) : (askedNodes world).Nodup := by
  rw [askedNodes_eq]
  split
  · cases Nodes.getDefaultNode world.db with
    | none => exact List.nodup_nil
    | some row => exact List.nodup_singleton _
  · unfold onlineNodes
    cases world.nodeListing with
    | false => exact List.nodup_nil
    | true =>
        rw [if_pos rfl, List.filter_map, List.map_map]
        exact world.cluster.nodesNodup.sublist (List.filter_sublist.map _)

/-- The parameters of a run without a list of guests select the scope. -/
theorem selects_scope (unlisted : Text.truthy job.vmid = none) {base : VzdumpParams} (bare : base.vmid = none)
    (plain : base.all = false) (guest : ClusterGuest) :
    selects (if job.all.any (· ≠ 0) then { base with all := true, exclude := Text.truthy job.exclude }
      else { base with pool := Text.truthy job.pool }) guest = inScope job guest := by
  unfold selects inScope
  rw [unlisted]
  by_cases all : job.all.any (· ≠ 0) = true
  · simp only [if_pos all, bare, if_true]
  · simp only [if_neg all, bare, plain, Bool.false_eq_true, if_false]

/-- The call to a node reaches the guests of the node that are in the scope. -/
theorem covers_unlisted (unlisted : Text.truthy job.vmid = none) {base : VzdumpParams} (bare : base.vmid = none)
    (plain : base.all = false) (node : String) (guest : ClusterGuest) :
    covers ⟨node, if job.all.any (· ≠ 0) then { base with all := true, exclude := Text.truthy job.exclude }
      else { base with pool := Text.truthy job.pool }⟩ guest = true ↔ node = guest.node ∧ inScope job guest = true := by
  unfold covers
  rw [selects_scope unlisted bare plain, Bool.and_eq_true, decide_eq_true_iff]

/-- Without a list of guests the nodes of the calls are the nodes asked. -/
theorem unlisted_nodes (params : VzdumpParams) :
    ((askedNodes world).map fun node => (⟨node, params⟩ : VzdumpCall)).map VzdumpCall.node = askedNodes world := by
  rw [List.map_map]
  exact List.map_id _

/-- The run of a job is exact exactly when nothing is lost on the way. -/
theorem fanOutRun_exact_iff : Exact world job (fanOutRun world job (baseParams job)) ↔ Reaches world job := by
  unfold fanOutRun Reaches
  cases chosen : Text.truthy job.vmid with
  | some vmid =>
      simp only
      by_cases nothing : vmidsRequested vmid = []
      · have outside : ∀ guest, inScope job guest = false := by
          intro guest
          rw [← Bool.not_eq_true, inScope_listed chosen, ← mem_vmidsRequested, nothing]
          exact List.not_mem_nil
        have exact_nothing : Exact world job ⟨[], .ok []⟩ := by
          refine ⟨fun call absent => absurd absent List.not_mem_nil, fun call absent => absurd absent List.not_mem_nil, ?_⟩
          intro guest _ wanted
          rw [outside guest] at wanted
          cases wanted
        rw [nothing]
        refine iff_of_true exact_nothing ?_
        split
        · intro guest _ wanted
          rw [outside guest] at wanted
          cases wanted
        · exact .inl rfl
      · rw [if_neg (mt List.isEmpty_iff.mp nothing)]
        cases world.vmListing with
        | true =>
            rw [if_pos rfl, if_pos rfl]
            exact exact_groupCalls_iff chosen
        | false =>
            rw [if_neg Bool.false_ne_true, if_neg Bool.false_ne_true, or_iff_right nothing]
            apply exact_fallback_iff chosen _ rfl
            unfold Starts
            cases world.start (fallbackNode world.db vmid) <;> simp [Except.toOption]
  | none =>
      simp only
      rw [gather_exact_iff ((unlisted_nodes _).symm ▸ askedNodes_nodup world), unlisted_nodes]
      · simp only [List.forall_mem_map, mem_askedNodes]
      · intro call called guest _
        obtain ⟨node, -, rfl⟩ := List.mem_map.mp called
        exact covers_unlisted chosen rfl rfl node guest

/-- The job that a run reads from the installation. -/
def storedJob (world : World) (jobId : String) : Option BackupSchedule :=
  world.jobs.toOption.bind fun raw => (storedEntry raw jobId).bind parseBackupSchedule

/-- A stored job is backed up exactly, and a run that reads no job makes no call and answers with an error. -/
def RunsExactly (world : World) (jobId : String) : Prop :=
  match storedJob world jobId with
  | some job => Exact world job (runBackupNow world jobId)
  | none => (runBackupNow world jobId).calls = [] ∧ ∃ error, (runBackupNow world jobId).answer = .error error

/-- A stored job is run as it was read. -/
theorem runBackupNow_of_stored {jobId : String} (stored : storedJob world jobId = some job) :
    runBackupNow world jobId = fanOutRun world job (baseParams job) := by
  obtain ⟨raw, read, found⟩ := Option.bind_eq_some_iff.mp stored
  obtain ⟨entry, named, parsed⟩ := Option.bind_eq_some_iff.mp found
  have listed : world.jobs = .ok raw := by
    cases answer : world.jobs with
    | error error =>
        rw [answer] at read
        cases read
    | ok entries =>
        rw [answer] at read
        cases read
        rfl
  unfold runBackupNow
  simp only [listed, named, parsed]

/-- A run that reads no job makes no call. -/
theorem runBackupNow_of_unread {jobId : String} (unread : storedJob world jobId = none) :
    (runBackupNow world jobId).calls = [] ∧ ∃ error, (runBackupNow world jobId).answer = .error error := by
  unfold storedJob at unread
  unfold runBackupNow
  cases answer : world.jobs with
  | error error => exact ⟨rfl, _, rfl⟩
  | ok raw =>
      simp only [answer, Except.toOption, Option.bind_some] at unread ⊢
      cases found : storedEntry raw jobId with
      | none => exact ⟨rfl, _, rfl⟩
      | some entry =>
          simp only [found, Option.bind_some] at unread ⊢
          rw [unread]
          exact ⟨rfl, _, rfl⟩

/-- A run backs up exactly the scope of its job exactly when nothing is lost on the way. -/
theorem runs_exactly_iff (world : World) (jobId : String) :
    RunsExactly world jobId ↔ ∀ job, storedJob world jobId = some job → Reaches world job := by
  unfold RunsExactly
  cases stored : storedJob world jobId with
  | none =>
      refine iff_of_true (runBackupNow_of_unread stored) ?_
      intro job absent
      cases absent
  | some job =>
      simp only [runBackupNow_of_stored stored, fanOutRun_exact_iff]
      constructor
      · intro reaches other same
        cases same
        exact reaches
      · intro reaches
        exact reaches job rfl

end Exactness

section Examples

/-- Two guests on two nodes of an installation that the portal knows as "lab". -/
def lab : World where
  db := { nodes := [{ id := 1, name := "lab", url := "https://pve1:8006", proxmoxNode := "pve1", isDefault := true }] }
  cluster := {
    nodes := [⟨"pve1", "online"⟩, ⟨"pve2", "online"⟩]
    guests := [⟨100, "pve1", none⟩, ⟨101, "pve2", none⟩]
    nodesNodup := by decide
    vmidsNodup := by decide
    named := by decide
    numbered := by decide
    hosted := by decide }
  jobs := .ok [.ofMembers [("id", .text "nightly"), ("storage", .text "local"), ("vmid", .text "100, 101")]]
  start := fun node => if node = "pve2" then .error (.statusError 500) else .ok "UPID:pve1"

/-- A run that succeeds without a backup of a guest in the scope is not exact. -/
theorem not_exact_of_missed {world : World} {jobId : String}
    (missed : (storedJob world jobId).any (fun job => world.cluster.guests.any fun guest =>
      inScope job guest && (backups world (runBackupNow world jobId) guest).isEmpty) = true)
    (answered : (runBackupNow world jobId).answer.toOption.isSome = true) : ¬ RunsExactly world jobId := by
  intro exactly
  unfold RunsExactly at exactly
  cases stored : storedJob world jobId with
  | none =>
      rw [stored] at missed
      cases missed
  | some job =>
      rw [stored] at missed exactly
      obtain ⟨guest, member, both⟩ := List.any_eq_true.mp missed
      rw [Bool.and_eq_true] at both
      rcases exactly.2.2 guest member both.1 with once | ⟨-, error, refused⟩
      · rw [List.isEmpty_iff.mp both.2] at once
        cases once
      · rw [refused] at answered
        cases answered

/-- A failed start drops a guest from a run that answers with success, and without the listing all guests are sent to
a node that has the name of the installation. -/
theorem lost_guests : ¬ RunsExactly lab "nightly" ∧
    (runBackupNow lab "nightly").answer.toOption = some [("pve1", "UPID:pve1")] ∧
    ¬ RunsExactly { lab with vmListing := false } "nightly" ∧
    (runBackupNow { lab with vmListing := false } "nightly").calls.map VzdumpCall.node = ["lab"] :=
  ⟨not_exact_of_missed (by decide +kernel) (by decide +kernel), by decide +kernel,
    not_exact_of_missed (by decide +kernel) (by decide +kernel), by decide +kernel⟩

end Examples

/-- The run of a job with this entry makes a call that selects the guest. -/
def executed (world : World) (raw : JsonObject) (guest : ClusterGuest) : Bool :=
  (parseBackupSchedule raw).any fun job =>
    (fanOutRun world job (baseParams job)).calls.any fun call => covers call guest

section NumberLists

/-- A number of a list is shown as it is written. -/
def number (value : Nat) : Shown := ⟨toString value, toString value⟩

/-- An opening text joins the first part. -/
theorem intercalate_opened (opening first : String) (rest : List String) :
    ",".intercalate ((opening ++ first) :: rest) = opening ++ ",".intercalate (first :: rest) := by
  cases rest with
  | nil => rw [String.intercalate_singleton, String.intercalate_singleton]
  | cons next rest =>
      rw [String.intercalate_cons_cons, String.intercalate_cons_cons, String.append_assoc, String.append_assoc,
        String.append_assoc]

/-- A closing text joins the last part. -/
theorem intercalate_closed {parts : List String} (present : parts ≠ []) (last closing : String) :
    ",".intercalate (parts ++ [last ++ closing]) = ",".intercalate (parts ++ [last]) ++ closing := by
  have one : ∀ text : String, [text] ≠ [] := fun text => List.cons_ne_nil _ _
  rw [String.intercalate_append_of_ne_nil present (one _), String.intercalate_append_of_ne_nil present (one _),
    String.intercalate_singleton, String.intercalate_singleton, String.append_assoc, String.append_assoc,
    String.append_assoc]

/-- Joining with a comma and a space is joining with a comma when the later parts start with the space. -/
theorem intercalate_spaced (first : String) (rest : List String) :
    ", ".intercalate (first :: rest) = ",".intercalate (first :: rest.map (" " ++ ·)) := by
  induction rest generalizing first with
  | nil => rw [List.map_nil, String.intercalate_singleton, String.intercalate_singleton]
  | cons next rest ih =>
      rw [String.intercalate_cons_cons, ih, List.map_cons, String.intercalate_cons_cons, intercalate_opened]
      show first ++ ("," ++ " ") ++ _ = _
      rw [← String.append_assoc, String.append_assoc]

/-- A written number has digits only. -/
theorem toString_digits {number : Nat} {c : Char} (member : c ∈ (toString number).toList) : c.isDigit = true := by
  have chars : (toString number).toList = Nat.toDigits 10 number := String.toList_ofList
  rw [chars] at member
  exact Nat.isDigit_of_mem_toDigits (by decide) (by decide) member

/-- A space in front of a number is stripped. -/
theorem strip_spaced (value : Nat) : Text.strip (" " ++ toString value) = toString value := by
  have bare := (toString_clean value).2.1
  unfold Text.strip at bare ⊢
  rw [String.toList_append]
  exact bare

/-- A part with a bracket is no number. -/
theorem bracket_no_number {text : String} (bracket : Char) (inside : bracket ∈ text.toList)
    (visible : Text.isSpace bracket = false) (no_digit : bracket.isDigit = false) (vmid : Nat) :
    toString vmid ≠ Text.strip text := by
  intro same
  obtain ⟨before, behind, split, padBefore, padBehind⟩ := trim_split Text.isSpace text.toList
  rw [← Text.toList_strip, ← same] at split
  rw [split] at inside
  rcases List.mem_append.mp inside with front | padding
  · rcases List.mem_append.mp front with padding | digit
    · exact Bool.eq_false_iff.mp visible (padBefore _ padding)
    · exact Bool.eq_false_iff.mp no_digit (toString_digits digit)
  · exact Bool.eq_false_iff.mp visible (padBehind _ padding)

/-- A list of numbers shows the guests that are neither first nor last. -/
theorem shown_between_commas (first last : Nat) (middle : List Nat) (vmid : Nat) :
    toString vmid ∈ elements (JsonValue.list ((first :: (middle ++ [last])).map number)).str ↔ vmid ∈ middle := by
  have shown : (JsonValue.list ((first :: (middle ++ [last])).map number)).str =
      ",".intercalate (("[" ++ toString first) :: (middle.map (fun value => " " ++ toString value) ++
        [" " ++ toString last ++ "]"])) := by
    have closed := intercalate_closed
      (List.cons_ne_nil (toString first) (middle.map fun value => " " ++ toString value)) (" " ++ toString last) "]"
    rw [List.cons_append] at closed
    rw [intercalate_opened, closed, List.cons_append]
    show "[" ++ ", ".intercalate (((first :: (middle ++ [last])).map number).map Shown.repr) ++ "]" = _
    rw [List.map_map, List.map_cons, intercalate_spaced, List.map_map, List.map_append, String.append_assoc]
    rfl
  have free : ∀ part ∈ ("[" ++ toString first) :: (middle.map (fun value => " " ++ toString value) ++
      [" " ++ toString last ++ "]"]), ',' ∉ part.toList := by
    have plain : ∀ value : Nat, ',' ∉ (toString value).toList := fun value => (toString_clean value).1
    intro part member
    simp only [List.mem_cons, List.mem_append, List.mem_map, List.not_mem_nil, or_false] at member
    rcases member with rfl | ⟨value, -, rfl⟩ | rfl
    · rw [String.toList_append, List.mem_append, not_or]
      exact ⟨by decide, plain first⟩
    · rw [String.toList_append, List.mem_append, not_or]
      exact ⟨by decide, plain value⟩
    · rw [String.toList_append, String.toList_append, List.mem_append, List.mem_append, not_or, not_or]
      exact ⟨⟨by decide, plain last⟩, by decide⟩
  have opened : '[' ∈ ("[" ++ toString first).toList := by
    rw [String.toList_append]
    exact List.mem_append_left _ (by decide)
  have ended : ']' ∈ (" " ++ toString last ++ "]").toList := by
    rw [String.toList_append]
    exact List.mem_append_right _ (by decide)
  rw [shown, elements, Text.splitCommas_intercalate (List.cons_ne_nil _ _) free, List.map_cons, List.map_append,
    List.map_map, List.map_singleton, List.mem_cons, List.mem_append, List.mem_singleton,
    or_iff_right (bracket_no_number '[' opened (by decide) (by decide) vmid),
    or_iff_left (bracket_no_number ']' ended (by decide) (by decide) vmid), List.mem_map]
  constructor
  · rintro ⟨value, member, same⟩
    exact toString_injective ((strip_spaced value).symm.trans same) ▸ member
  · intro member
    exact ⟨vmid, member, strip_spaced vmid⟩

/-- A list with one number shows no guest, since its brackets stay on the number. -/
theorem not_shown_alone (only vmid : Nat) : toString vmid ∉ elements (JsonValue.list [number only]).str := by
  have shown : (JsonValue.list [number only]).str = ",".intercalate ["[" ++ toString only ++ "]"] := by
    rw [String.intercalate_singleton]
    show "[" ++ ", ".intercalate [toString only] ++ "]" = _
    rw [String.intercalate_singleton]
  have free : ∀ part ∈ ["[" ++ toString only ++ "]"], ',' ∉ part.toList := by
    intro part member
    rw [List.mem_singleton.mp member, String.toList_append, String.toList_append, List.mem_append, List.mem_append,
      not_or, not_or]
    exact ⟨⟨by decide, (toString_clean only).1⟩, by decide⟩
  have ended : ']' ∈ ("[" ++ toString only ++ "]").toList := by
    rw [String.toList_append]
    exact List.mem_append_right _ (by decide)
  rw [shown, elements, Text.splitCommas_intercalate (List.cons_ne_nil _ _) free, List.map_singleton, List.mem_singleton]
  exact bracket_no_number ']' ended (by decide) (by decide) vmid

/-- A list of numbers shows its inner ones. -/
theorem shown_inside {numbers : List Nat} (filled : numbers ≠ []) (vmid : Nat) :
    toString vmid ∈ elements (JsonValue.list (numbers.map number)).str ↔ vmid ∈ numbers.tail.dropLast := by
  obtain ⟨first, rest, rfl⟩ := List.exists_cons_of_ne_nil filled
  rcases List.eq_nil_or_concat' rest with rfl | ⟨middle, last, rfl⟩
  · exact iff_of_false (not_shown_alone first vmid) List.not_mem_nil
  · rw [shown_between_commas, List.tail_cons, List.dropLast_concat]

/-- The number that an element of a list shows. -/
def numberOf (shown : Shown) : Option Nat := shown.str.toNat?.filter fun value => number value = shown

/-- The numbers of a list that holds nothing else. -/
def listedNumbers : JsonValue → Option (List Nat)
  | .list items => items.mapM numberOf
  | _ => none

/-- Elements that are read as numbers show these numbers. -/
theorem map_numberOf {items : List Shown} {numbers : List Nat} (read : items.mapM numberOf = some numbers) :
    items = numbers.map number := by
  induction items generalizing numbers with
  | nil =>
      rw [List.mapM_nil] at read
      cases read
      rfl
  | cons shown rest ih =>
      rw [List.mapM_cons] at read
      obtain ⟨value, first, later⟩ := Option.bind_eq_some_iff.mp read
      obtain ⟨values, others, same⟩ := Option.bind_eq_some_iff.mp later
      cases same
      have here : number value = shown := of_decide_eq_true (Option.filter_eq_some_iff.mp first).2
      rw [List.map_cons, here, ← ih others]

/-- A value with listed numbers is a list of them. -/
theorem listedNumbers_eq_some {value : JsonValue} {numbers : List Nat} (read : listedNumbers value = some numbers) :
    value = .list (numbers.map number) := by
  cases value with
  | list items => rw [map_numberOf read]
  | null => cases read
  | bool _ => cases read
  | int _ => cases read
  | float _ _ _ => cases read
  | text _ => cases read
  | object _ _ => cases read

/-- The run reads all numbers of a list. -/
theorem listed_of_numbers {numbers : List Nat} {text : String}
    (joined : Text.truthy (strOrNone (.list (numbers.map number))) = some text) (vmid : Nat) :
    toString vmid ∈ elements text ↔ vmid ∈ numbers := by
  have same : strOrNone (.list (numbers.map number)) = some (",".intercalate (numbers.map fun value => toString value)) := by
    show some (",".intercalate ((numbers.map number).map Shown.str)) = _
    rw [List.map_map]
    rfl
  have written : ∀ word ∈ numbers.map fun value => toString value, ∃ value : Nat, word = toString value := by
    intro word member
    obtain ⟨value, -, rfl⟩ := List.mem_map.mp member
    exact ⟨value, rfl⟩
  rw [same, Text.truthy_eq_some] at joined
  rw [← Option.some.inj joined.1, mem_elements_joined written, List.mem_map]
  constructor
  · rintro ⟨value, member, equal⟩
    exact toString_injective equal ▸ member
  · intro member
    exact ⟨vmid, member, rfl⟩

end NumberLists

section Reach
variable (world : World)

/-- The run of a job calls the node of the guest: a list needs the listing of the guests, or the name that the portal
falls back to; the other jobs go to the nodes asked. -/
def Delivered (job : BackupSchedule) (guest : ClusterGuest) : Prop :=
  match Text.truthy job.vmid with
  | some vmid => world.vmListing = true ∨ fallbackNode world.db vmid = guest.node
  | none => Asked world guest.node

/-- The entry is read, the guest is in its scope, and the node of the guest is called. -/
def Reached (raw : JsonObject) (guest : ClusterGuest) : Prop :=
  ∃ job, parseBackupSchedule raw = some job ∧ inScope job guest = true ∧ Delivered world job guest

/-- The entry is read, and the run calls the node of a guest that this text lists. -/
def Delivers (raw : JsonObject) (text : String) (guest : ClusterGuest) : Prop :=
  (parseBackupSchedule raw).isSome = true ∧ (world.vmListing = true ∨ fallbackNode world.db text = guest.node)

/-- The page and the run agree on a guest. An entry that the page takes for all guests reaches the guest. The numbers of
any other value are read from one text by both, unless it is a list: a list of numbers shows its inner ones, and the run
reaches all of them. Other lists show the guest between the commas of their display. -/
def Agrees (raw : JsonObject) (guest : ClusterGuest) : Prop :=
  let vmids := raw.getOr "vmid" (.text "")
  if vmids.truthy = false ∨ Text.strip vmids.str = "all" then Reached world raw guest
  else match Text.truthy (strOrNone vmids), listedNumbers vmids with
    | some text, some numbers => guest.vmid ∈ numbers → (guest.vmid ∈ numbers.tail.dropLast ↔ Delivers world raw text guest)
    | some text, none =>
        if text = vmids.str then toString guest.vmid ∈ elements text → Delivers world raw text guest
        else toString guest.vmid ∈ elements vmids.str ↔ toString guest.vmid ∈ elements text ∧ Delivers world raw text guest
    | none, _ => toString guest.vmid ∈ elements vmids.str ↔ Reached world raw guest

end Reach

section Execution
variable {world : World} {job : BackupSchedule} {raw : JsonObject} {guest : ClusterGuest}

/-- A run makes a call for the guests in the scope whose nodes are called. -/
theorem called_iff_delivered (existing : guest ∈ world.cluster.guests) :
    (∃ call ∈ (fanOutRun world job (baseParams job)).calls, covers call guest = true) ↔
      inScope job guest = true ∧ Delivered world job guest := by
  unfold fanOutRun Delivered
  cases chosen : Text.truthy job.vmid with
  | some vmid =>
      simp only
      by_cases nothing : vmidsRequested vmid = []
      · have outside : ¬ inScope job guest = true := by
          rw [inScope_listed chosen, ← mem_vmidsRequested, nothing]
          exact List.not_mem_nil
        rw [nothing]
        refine iff_of_false ?_ fun both => outside both.1
        rintro ⟨call, absent, -⟩
        exact List.not_mem_nil absent
      · rw [if_neg (mt List.isEmpty_iff.mp nothing)]
        cases world.vmListing with
        | true =>
            rw [if_pos rfl, and_iff_left (.inl rfl)]
            apply (called_iff (fun call called => covers_groupCalls chosen call called guest existing)).trans
            exact and_iff_right_iff_imp.mpr (node_called chosen existing)
        | false =>
            rw [if_neg Bool.false_ne_true, or_iff_right Bool.false_ne_true, and_comm,
              ← covers_listed chosen { baseParams job with vmid := some vmid } rfl]
            exact ⟨fun found => List.mem_singleton.mp found.choose_spec.1 ▸ found.choose_spec.2,
              fun reached => ⟨_, List.mem_singleton_self _, reached⟩⟩
  | none =>
      simp only
      have covering : ∀ call ∈ (askedNodes world).map (fun node => (⟨node, if job.all.any (· ≠ 0) then
            { baseParams job with all := true, exclude := Text.truthy job.exclude }
          else { baseParams job with pool := Text.truthy job.pool }⟩ : VzdumpCall)),
          (covers call guest = true ↔ call.node = guest.node ∧ inScope job guest = true) := by
        intro call called
        obtain ⟨node, -, rfl⟩ := List.mem_map.mp called
        exact covers_unlisted chosen rfl rfl node guest
      apply (called_iff covering).trans
      rw [unlisted_nodes, mem_askedNodes, and_comm]

/-- A run calls for a guest exactly when its entry reaches the guest. -/
theorem executed_iff (existing : guest ∈ world.cluster.guests) :
    executed world raw guest = true ↔ Reached world raw guest := by
  unfold executed Reached
  rw [Option.any_eq_true]
  simp only [List.any_eq_true, called_iff_delivered existing]

/-- The page shows the guest for an entry that it takes for all guests or whose text lists the guest. -/
theorem jobCoversVmid_iff : jobCoversVmid raw guest.vmid = true ↔
    ((raw.getOr "vmid" (.text "")).truthy = false ∨ Text.strip (raw.getOr "vmid" (.text "")).str = "all") ∨
      toString guest.vmid ∈ elements (raw.getOr "vmid" (.text "")).str := by
  unfold jobCoversVmid elements
  simp only [Bool.or_eq_true, Bool.not_eq_true', decide_eq_true_iff]
  split
  · rename_i all
    exact iff_of_true rfl (.inl all)
  · rename_i some_guests
    rw [or_iff_right some_guests]
    exact List.contains_iff_mem

/-- A value that counts does not come from the default. -/
theorem get_of_truthy {key : String} {default : JsonValue} (absent : default.truthy = false)
    (present : (raw.getOr key default).truthy = true) : raw.get key = raw.getOr key default := by
  unfold JsonObject.get JsonObject.getOr at *
  cases stored : raw.get? key with
  | some value => rfl
  | none =>
      rw [stored, Option.getD_none, absent] at present
      cases present

/-- A parsed entry has the joined text of its numbers. -/
theorem parsed_vmid (parsed : parseBackupSchedule raw = some job) : job.vmid = strOrNone (raw.get "vmid") := by
  obtain ⟨retention, -, rfl⟩ := Option.map_eq_some_iff.mp parsed
  rfl

/-- An entry whose numbers the run reads from a text reaches the guests listed there. -/
theorem reached_listed {value : JsonValue} {text : String} (stored : raw.get "vmid" = value)
    (same : Text.truthy (strOrNone value) = some text) :
    Reached world raw guest ↔ toString guest.vmid ∈ elements text ∧ Delivers world raw text guest := by
  have chosen : ∀ job, parseBackupSchedule raw = some job → Text.truthy job.vmid = some text := by
    intro job parsed
    rw [parsed_vmid parsed, stored, same]
  have delivered : ∀ job, parseBackupSchedule raw = some job →
      (Delivered world job guest ↔ world.vmListing = true ∨ fallbackNode world.db text = guest.node) := by
    intro job parsed
    unfold Delivered
    rw [chosen job parsed]
  unfold Reached Delivers
  constructor
  · rintro ⟨job, parsed, wanted, called⟩
    exact ⟨(inScope_listed (chosen job parsed) guest).mp wanted, Option.isSome_iff_exists.mpr ⟨job, parsed⟩,
      (delivered job parsed).mp called⟩
  · rintro ⟨listed, read, called⟩
    obtain ⟨job, parsed⟩ := Option.isSome_iff_exists.mp read
    exact ⟨job, parsed, (inScope_listed (chosen job parsed) guest).mpr listed, (delivered job parsed).mpr called⟩

/-- The page of a guest shows a job exactly when the run of the job selects the guest, for the entries on which the
two agree. -/
theorem coverage_shown_iff (world : World) (raw : JsonObject) (guest : ClusterGuest)
    (existing : guest ∈ world.cluster.guests) :
    (jobCoversVmid raw guest.vmid = true ↔ executed world raw guest = true) ↔ Agrees world raw guest := by
  rw [jobCoversVmid_iff, executed_iff existing]
  unfold Agrees
  simp only
  split
  · rename_i all
    exact ⟨fun agree => agree.mp (.inl all), fun reached => iff_of_true (.inl all) reached⟩
  · rename_i some_guests
    have present : (raw.getOr "vmid" (.text "")).truthy = true :=
      Bool.of_not_eq_false fun falsy => some_guests (.inl falsy)
    have stored := get_of_truthy rfl present
    rw [or_iff_right some_guests]
    cases same : Text.truthy (strOrNone (raw.getOr "vmid" (.text ""))) with
    | none => rfl
    | some text =>
      rw [reached_listed stored same]
      cases read : listedNumbers (raw.getOr "vmid" (.text "")) with
      | none =>
        dsimp only
        split
        · rename_i display
          rw [← display]
          exact iff_self_and
        · rfl
      | some numbers =>
        have list := listedNumbers_eq_some read
        have filled : numbers ≠ [] := by
          rintro rfl
          rw [list] at present
          cases present
        rw [list] at same ⊢
        rw [shown_inside filled, listed_of_numbers same]
        dsimp only
        constructor
        · intro agree member
          rw [agree, and_iff_right member]
        · intro agree
          by_cases member : guest.vmid ∈ numbers
          · rw [agree member, and_iff_right member]
          · refine iff_of_false ?_ fun both => member both.1
            exact fun inside => member (List.mem_of_mem_tail (List.mem_of_mem_dropLast inside))

end Execution
section Examples

/-- The members of a pool, all guests but one, and a list of the JSON document. -/
def poolEntry : JsonObject := .ofMembers [("id", .text "pool"), ("pool", .text "lab")]

def excludeEntry : JsonObject := .ofMembers [("id", .text "most"), ("all", .int 1), ("exclude", .text "100")]

def listEntry : JsonObject := .ofMembers [("id", .text "list"), ("vmid", .list [number 100, number 101])]

/-- The page and the run disagree on the first guest of a list. -/
theorem list_disagrees : ¬ Agrees lab listEntry ⟨100, "pve1", none⟩ := by
  rw [← coverage_shown_iff lab listEntry _ (by decide)]
  decide +kernel

/-- The page shows jobs that leave the guest out, and hides a job that lists it. -/
theorem wrong_coverage :
    jobCoversVmid poolEntry 100 = true ∧ executed lab poolEntry ⟨100, "pve1", none⟩ = false ∧
    jobCoversVmid excludeEntry 100 = true ∧ executed lab excludeEntry ⟨100, "pve1", none⟩ = false ∧
    jobCoversVmid listEntry 100 = false ∧ executed lab listEntry ⟨100, "pve1", none⟩ = true := by decide +kernel

end Examples
end P3Portal.Proxmox.BackupRun
