import P3Portal.Construction.Owners.Reconcile
import P3Portal.Foundation.Run
import P3Portal.Proof.Owners.Rows
import P3Portal.Proof.Vms.Lifecycle

namespace P3Portal.Owners
open Schema Foundation

/-- A guest is owned while one of its rows is active. -/
def Owned (db : Database) (guest : Guest) : Prop :=
  ∃ owner ∈ db.vmOwners, ownerGuest owner = guest ∧ owner.deletedAt = none

/-- A phase dooms a guest when its listing lacks the number or its callback is about to delete it. -/
def RefreshPhase.Dooms (guest : Guest) : RefreshPhase → Prop
  | .queued => False
  | .fetching => False
  | .answered rawVms => guest.vmid ∉ aliveVmids rawVms
  | .scheduled rawVms => guest.vmid ∉ aliveVmids rawVms
  | .deleting rest => (guest.resourceType, guest.vmid) ∈ rest
  | .finished => False

/-- A refresh threatens the doomed guests of its own node. -/
def Threatens (guest : Guest) (refresh : Refresh) : Prop :=
  refresh.nodeId = guest.nodeId ∧ refresh.phase.Dooms guest

/-- A refresh is calm when no guest that it threatens both exists and is owned. -/
def Calm (estate : Estate) (refresh : Refresh) : Prop :=
  ∀ guest ∈ estate.guests, Threatens guest refresh → ¬ Owned estate.db guest

/-- No existing guest is threatened and owned at once. -/
def Sheltered (state : EstateState) : Prop := ∀ refresh ∈ state.processes, Calm state.shared refresh

/-- A threatened guest comes into being without an owner row, and an existing one gets none. -/
def Careful (site : HookSite) (state : EstateState) : EstateEvent → Prop
  | .created guest =>
      (∃ refresh ∈ state.processes, Threatens guest refresh) → ¬ Owned state.shared.db guest
  | .owners event => ∀ guest ∈ state.shared.guests, (∃ refresh ∈ state.processes, Threatens guest refresh) →
      ¬ Owned state.shared.db guest → ¬ Owned (step site state.shared.db event) guest
  | _ => True

/-- The turn of a refresh leaves every active row of an existing guest as it is. -/
def Spares (site : HookSite) (state : EstateState) : EstateEvent → Prop
  | .advance index now reachable => ∀ owner ∈ state.shared.db.vmOwners, owner.deletedAt = none →
      ownerGuest owner ∈ state.shared.guests →
        owner ∈ (estateStep site state (.advance index now reachable)).shared.db.vmOwners
  | _ => True

section Deletion
variable {db : Database} {guest removed : Guest} {actorUsername now : String}

theorem onResourceDeleted_vmOwners (db : Database) (removed : Guest) (actorUsername now : String) :
    (onResourceDeleted db removed actorUsername now).vmOwners = db.vmOwners ∨
      (onResourceDeleted db removed actorUsername now).vmOwners = db.vmOwners.map
        (markDeleted (fun owner => ownerGuest owner = removed) .resourceDeleted now) := by
  unfold onResourceDeleted
  dsimp only
  split
  · exact .inl rfl
  · exact .inr (softDelete_vmOwners db _ _ _)

/-- The rows of the other guests stay. -/
theorem mem_onResourceDeleted {owner : VmOwner} (stored : owner ∈ db.vmOwners)
    (other : ownerGuest owner ≠ removed) :
    owner ∈ (onResourceDeleted db removed actorUsername now).vmOwners := by
  rcases onResourceDeleted_vmOwners db removed actorUsername now with same | marked
  · rw [same]
    exact stored
  · rw [marked]
    refine List.mem_map.mpr ⟨owner, stored, ?_⟩
    simp [markDeleted, other]

/-- A deletion makes nobody an owner. -/
theorem Owned.of_onResourceDeleted
    (owned : Owned (onResourceDeleted db removed actorUsername now) guest) : Owned db guest := by
  obtain ⟨owner, stored, named, active⟩ := owned
  rcases onResourceDeleted_vmOwners db removed actorUsername now with same | marked
  · rw [same] at stored
    exact ⟨owner, stored, named, active⟩
  · rw [marked] at stored
    obtain ⟨before, listed, changed⟩ := List.mem_map.mp stored
    rcases markDeleted_cases (fun owner => ownerGuest owner = removed) .resourceDeleted now before with
      kept | deleted
    · rw [← changed, kept] at named active
      exact ⟨before, listed, named, active⟩
    · rw [← changed, deleted.2] at active
      cases active

end Deletion

section Steps
variable {estate : Estate} {refresh : Refresh}

/-- A listing lacks no guest that exists when it is made. -/
theorem mem_aliveVmids_listing {guest : Guest} (present : guest ∈ estate.guests) :
    guest.vmid ∈ aliveVmids (listing estate guest.nodeId) := by
  unfold aliveVmids listing
  refine List.mem_filterMap.mpr ⟨⟨some guest.vmid⟩, List.mem_map.mpr ⟨guest, ?_, rfl⟩, rfl⟩
  exact List.mem_filter.mpr ⟨present, decide_eq_true rfl⟩

/-- Other guests and fewer owners keep a refresh calm. -/
theorem Calm.mono {after : Estate} (calm : Calm estate refresh)
    (guests : ∀ guest ∈ after.guests, guest ∈ estate.guests)
    (owned : ∀ guest, Owned after.db guest → Owned estate.db guest) : Calm after refresh := by
  intro guest present threat owns
  exact calm guest (guests guest present) threat (owned guest owns)

theorem advance_guests (now : String) (reachable : Bool) :
    (refresh.advance now reachable estate).1.guests = estate.guests := by
  unfold Refresh.advance Refresh.turn
  dsimp only
  split
  · split
    · rfl
    · split <;> rfl
  · split <;> rfl
  all_goals rfl

theorem advance_owned (now : String) (reachable : Bool) (guest : Guest)
    (owned : Owned (refresh.advance now reachable estate).1.db guest) : Owned estate.db guest := by
  unfold Refresh.advance Refresh.turn at owned
  dsimp only at owned
  split at owned
  · split at owned
    · exact owned
    · split at owned <;> exact owned
  · split at owned <;> exact owned
  · exact owned
  · exact owned
  · exact owned
  · exact owned.of_onResourceDeleted
  · exact owned

/-- A turn of a calm refresh leaves it calm: the listing is complete when it is made, and the guests to
delete are owned but lack from it. -/
theorem advance_calm (now : String) (reachable : Bool) (calm : Calm estate refresh) :
    Calm (refresh.advance now reachable estate).1 (refresh.advance now reachable estate).2 := by
  obtain ⟨nodeId, phase⟩ := refresh
  intro guest present threat owned
  rw [advance_guests] at present
  have before := advance_owned now reachable guest owned
  obtain ⟨node, threat⟩ := threat
  change nodeId = guest.nodeId at node
  subst node
  cases phase with
  | queued =>
      simp only [Refresh.advance, Refresh.turn] at threat
      split at threat
      · exact threat.elim
      · split at threat <;> exact threat.elim
  | fetching =>
      simp only [Refresh.advance, Refresh.turn] at threat
      split at threat
      · exact absurd (mem_aliveVmids_listing present) threat
      · exact threat.elim
  | answered rawVms => exact calm guest present ⟨rfl, threat⟩ before
  | scheduled rawVms =>
      have lacks : guest.vmid ∉ aliveVmids rawVms := by
        simpa using (List.mem_filter.mp threat).2
      exact calm guest present ⟨rfl, lacks⟩ before
  | deleting rest =>
      cases rest with
      | nil => exact threat
      | cons key rest => exact calm guest present ⟨rfl, List.mem_cons_of_mem key threat⟩ before
  | finished => exact threat

/-- A turn of a calm refresh deletes no row of an existing guest. -/
theorem advance_spares (now : String) (reachable : Bool) (calm : Calm estate refresh) {owner : VmOwner}
    (stored : owner ∈ estate.db.vmOwners) (active : owner.deletedAt = none)
    (present : ownerGuest owner ∈ estate.guests) :
    owner ∈ (refresh.advance now reachable estate).1.db.vmOwners := by
  obtain ⟨nodeId, phase⟩ := refresh
  have owned : Owned estate.db (ownerGuest owner) := ⟨owner, stored, rfl, active⟩
  cases phase with
  | queued =>
      simp only [Refresh.advance, Refresh.turn]
      split
      · exact stored
      · split <;> exact stored
  | fetching =>
      simp only [Refresh.advance, Refresh.turn]
      split <;> exact stored
  | answered rawVms => exact stored
  | scheduled rawVms => exact stored
  | deleting rest =>
      cases rest with
      | nil => exact stored
      | cons key rest =>
          apply mem_onResourceDeleted stored
          intro removed
          refine calm (ownerGuest owner) present ⟨?_, ?_⟩ owned
          · rw [removed]
          · rw [removed]
            exact List.mem_cons_self
  | finished => exact stored

end Steps

section Runs
variable (site : HookSite)

/-- Every careful event keeps the existing guests sheltered. -/
theorem estateStep_sheltered (state : EstateState) (event : EstateEvent) (sheltered : Sheltered state)
    (careful : Careful site state event) : Sheltered (estateStep site state event) := by
  cases event with
  | getOrFetch nodeId force =>
      intro refresh member
      rcases List.mem_append.mp member with old | new
      · refine (sheltered refresh old).mono (fun _ present => ?_) fun _ owned => ?_
        · cases force <;> exact present
        · cases force <;> exact owned
      · rw [List.mem_singleton.mp new]
        intro guest present threat
        exact threat.2.elim
  | expire nodeId =>
      intro refresh member
      exact (sheltered refresh member).mono (fun _ present => present) fun _ owned => owned
  | created guest =>
      intro refresh member other present threat
      rcases List.mem_cons.mp present with new | old
      · rw [new] at threat ⊢
        exact careful ⟨refresh, member, threat⟩
      · exact sheltered refresh member other old threat
  | destroyed guest =>
      intro refresh member
      exact (sheltered refresh member).mono (fun _ present => (List.mem_filter.mp present).1) fun _ owned => owned
  | owners event =>
      intro refresh member guest present threat
      exact careful guest present ⟨refresh, member, threat⟩ (sheltered refresh member guest present threat)
  | cloned job newVmid actorUserId now =>
      intro refresh member
      refine (sheltered refresh member).mono (fun _ present => present) fun guest owned => ?_
      simpa only [estateStep, Vms.assignCloneOwner_db] using owned
  | advance index now reachable =>
      cases present : state.processes[index]? with
      | none =>
          rw [estateStep, Interleaved.act_absent present]
          exact sheltered
      | some refresh =>
          intro other member
          rw [estateStep, Interleaved.act_shared present]
          refine Interleaved.forall_act present sheltered (advance_calm now reachable) ?_ other member
          intro other _ calm
          refine calm.mono ?_ (advance_owned now reachable)
          rw [advance_guests]
          exact fun _ listed => listed

/-- In a sheltered state a turn spares the rows of the existing guests. -/
theorem Sheltered.spares {state : EstateState} (sheltered : Sheltered state) (event : EstateEvent) :
    Spares site state event := by
  cases event with
  | advance index now reachable =>
      intro owner stored active existing
      cases present : state.processes[index]? with
      | none =>
          rw [estateStep, Interleaved.act_absent present]
          exact stored
      | some refresh =>
          rw [estateStep, Interleaved.act_shared present]
          exact advance_spares now reachable (sheltered refresh (Interleaved.mem_processes present)) stored
            active existing
  | getOrFetch nodeId force => trivial
  | expire nodeId => trivial
  | created guest => trivial
  | destroyed guest => trivial
  | owners event => trivial
  | cloned job newVmid actorUserId now => trivial

/-- When every event is careful, the reconciliation deletes only rows of guests that no longer exist. -/
theorem reconciliation_spares_existing (estate : Estate) (events : List EstateEvent)
    (careful : ∀ visit ∈ visits (estateStep site) ⟨estate, []⟩ events, Careful site visit.1 visit.2) :
    ∀ visit ∈ visits (estateStep site) ⟨estate, []⟩ events, Spares site visit.1 visit.2 := by
  have start : Sheltered ⟨estate, []⟩ := by
    intro refresh absent
    cases absent
  intro visit member
  exact (visits_invariant (estateStep site) (estateStep_sheltered site) events start careful visit
    member).spares site visit.2

/-- One admin and one node whose installation has lost the owned machine 100. -/
def vanishedEstate : Estate where
  db := { localUsers := [{ id := 7, username := "anna", role := .admin }]
          nodes := [{ id := 1, name := "pve1", url := "https://pve1:8006", proxmoxNode := "pve1" }]
          vmOwners := [{ id := 1, resourceType := .vm, nodeId := 1, vmid := 100, userId := 7 }] }
  guests := []

/-- The row of a vanished guest is deleted, and a machine that is created before the fetch keeps its owner. -/
theorem reconciliation_spares_created_before :
    let events : List EstateEvent :=
      [.created ⟨.vm, 1, 101⟩, .owners (.adopt ⟨.vm, 1, 101⟩ 7 "anna" "t0"), .getOrFetch 1 false,
        .advance 0 "t1" true, .advance 0 "t2" true, .advance 0 "t3" true, .advance 0 "t4" true,
        .advance 0 "t5" true]
    (∀ visit ∈ visits (estateStep ⟨none, fun _ => none⟩) ⟨vanishedEstate, []⟩ events,
        Spares ⟨none, fun _ => none⟩ visit.1 visit.2) ∧
      (run (estateStep ⟨none, fun _ => none⟩) ⟨vanishedEstate, []⟩ events).shared.db.vmOwners.map
        (fun owner => (owner.vmid, owner.deletedAt)) = [(100, some "t5"), (101, none)] := by
  intro events
  refine ⟨reconciliation_spares_existing ⟨none, fun _ => none⟩ vanishedEstate events ?_, by decide +kernel⟩
  intro visit member
  simp only [events, visits, List.mem_cons, List.not_mem_nil, or_false] at member
  rcases member with same | same | same | same | same | same | same | same
  · rw [same]
    intro threatened
    obtain ⟨refresh, absent, threat⟩ := threatened
    cases absent
  · rw [same]
    intro guest present threatened
    obtain ⟨refresh, absent, threat⟩ := threatened
    cases absent
  all_goals
    rw [same]
    trivial

/-- A machine that is created and adopted while the answer is on its way loses its owner. -/
theorem reconciliation_deletes_fresh_owner :
    let site : HookSite := ⟨none, fun _ => none⟩
    let state := run (estateStep site) ⟨vanishedEstate, []⟩
      [.getOrFetch 1 false, .advance 0 "t1" true, .advance 0 "t2" true, .created ⟨.vm, 1, 101⟩,
        .owners (.adopt ⟨.vm, 1, 101⟩ 7 "anna" "t3"), .advance 0 "t4" true, .advance 0 "t5" true,
        .advance 0 "t6" true]
    ¬ Spares site state (.advance 0 "t7" true) := by
  intro site state spares
  have kept := spares { id := 2, resourceType := .vm, nodeId := 1, vmid := 101, userId := 7, source := .adopt }
    (by decide +kernel) rfl (by decide +kernel)
  revert kept
  decide +kernel

end Runs

section Snapshot
variable {db : Database} {nodeId : Int} {snapshot : List ListedVm}

def activeOn (nodeId : Int) (owner : VmOwner) : Bool := owner.nodeId = nodeId && owner.deletedAt.isNone

def ownerKey (owner : VmOwner) : ResourceType × Int := (owner.resourceType, owner.vmid)

/-- The kinds and the numbers of the listed guests. -/
def listedKeys (snapshot : List ListedVm) : List (ResourceType × Int) :=
  snapshot.filterMap fun entry => entry.vmid.map fun vmid => (Vms.guestType entry.type, vmid)

/-- The active rows of the node are the earlier ones of listed guests, and the rows of the other nodes stay. -/
structure Reconciled (before after : Database) (nodeId : Int) (snapshot : List ListedVm) : Prop where
  active : after.vmOwners.filter (activeOn nodeId) =
    before.vmOwners.filter fun owner => activeOn nodeId owner && ownerKey owner ∈ listedKeys snapshot
  others : after.vmOwners.filter (fun owner => owner.nodeId ≠ nodeId) =
    before.vmOwners.filter fun owner => owner.nodeId ≠ nodeId

/-- A change that leaves the kept rows alone acts on a selection like a stricter selection. -/
theorem filter_map_kept {A : Type} {change : A → A} {before after : A → Bool} (list : List A)
    (selects : ∀ x, after (change x) = before x) (keeps : ∀ x, before x = true → change x = x) :
    (list.map change).filter after = list.filter before := by
  rw [List.filter_map]
  have same : after ∘ change = before := funext selects
  rw [same]
  conv_rhs => rw [← List.map_id (list.filter before)]
  exact List.map_congr_left fun x member => keeps x (List.mem_filter.mp member).2

theorem ownerGuest_eq_iff {owner : VmOwner} {key : ResourceType × Int} :
    ownerGuest owner = ⟨key.1, nodeId, key.2⟩ ↔ owner.nodeId = nodeId ∧ ownerKey owner = key := by
  unfold ownerGuest ownerKey
  rw [Guest.mk.injEq, Prod.ext_iff]
  exact ⟨fun same => ⟨same.2.1, same.1, same.2.2⟩, fun same => ⟨same.2.1, same.1, same.2.2⟩⟩

theorem activeOn_iff {owner : VmOwner} : activeOn nodeId owner = true ↔ owner.nodeId = nodeId ∧ owner.deletedAt.isNone = true := by
  unfold activeOn
  rw [Bool.and_eq_true, decide_eq_true_iff]

/-- A deletion takes the rows of its guest from the active ones. -/
theorem active_onResourceDeleted (key : ResourceType × Int) (actorUsername now : String) :
    (onResourceDeleted db ⟨key.1, nodeId, key.2⟩ actorUsername now).vmOwners.filter (activeOn nodeId) =
      db.vmOwners.filter fun owner => activeOn nodeId owner && ownerKey owner ≠ key := by
  unfold onResourceDeleted
  dsimp only
  split
  · rename_i unowned
    apply List.filter_congr
    intro owner stored
    have absent := List.filter_eq_nil_iff.mp (List.length_eq_zero_iff.mp unowned) owner stored
    cases active : activeOn nodeId owner with
    | false => rfl
    | true =>
        obtain ⟨here, alive⟩ := activeOn_iff.mp active
        have other : ownerKey owner ≠ key := by
          intro same
          exact absent ((Bool.and_eq_true _ _).mpr ⟨decide_eq_true (ownerGuest_eq_iff.mpr ⟨here, same⟩), alive⟩)
        rw [Bool.true_and, decide_eq_true other]
  · show ((db.vmOwners.map (markDeleted _ _ _)).filter (activeOn nodeId)) = _
    apply filter_map_kept
    · intro owner
      by_cases marked : ownerGuest owner = ⟨key.1, nodeId, key.2⟩ ∧ owner.deletedAt.isNone = true
      · obtain ⟨here, same⟩ := ownerGuest_eq_iff.mp marked.1
        unfold markDeleted
        rw [if_pos ((Bool.and_eq_true _ _).mpr ⟨decide_eq_true marked.1, marked.2⟩), same]
        simp [activeOn]
      · unfold markDeleted
        rw [if_neg fun both => marked ⟨of_decide_eq_true ((Bool.and_eq_true _ _).mp both).1,
          ((Bool.and_eq_true _ _).mp both).2⟩]
        cases active : activeOn nodeId owner with
        | false => rfl
        | true =>
            obtain ⟨here, alive⟩ := activeOn_iff.mp active
            have other : ownerKey owner ≠ key := fun same => marked ⟨ownerGuest_eq_iff.mpr ⟨here, same⟩, alive⟩
            rw [Bool.true_and, decide_eq_true other]
    · intro owner kept
      obtain ⟨active, other⟩ := (Bool.and_eq_true _ _).mp kept
      unfold markDeleted
      rw [if_neg]
      intro both
      have named := of_decide_eq_true ((Bool.and_eq_true _ _).mp both).1
      exact of_decide_eq_true other (ownerGuest_eq_iff.mp named).2

/-- A deletion leaves the rows of the other nodes as they are. -/
theorem others_onResourceDeleted (key : ResourceType × Int) (actorUsername now : String) :
    (onResourceDeleted db ⟨key.1, nodeId, key.2⟩ actorUsername now).vmOwners.filter (fun owner => owner.nodeId ≠ nodeId) =
      db.vmOwners.filter fun owner => owner.nodeId ≠ nodeId := by
  rcases onResourceDeleted_vmOwners db ⟨key.1, nodeId, key.2⟩ actorUsername now with same | marked
  · rw [same]
  · rw [marked]
    apply filter_map_kept
    · intro owner
      rcases markDeleted_cases (fun owner => ownerGuest owner = ⟨key.1, nodeId, key.2⟩) .resourceDeleted now owner with
        kept | deleted
      · rw [kept]
      · rw [deleted.2]
    · intro owner away
      unfold markDeleted
      rw [if_neg]
      intro both
      have named := of_decide_eq_true ((Bool.and_eq_true _ _).mp both).1
      exact of_decide_eq_true away (ownerGuest_eq_iff.mp named).1

/-- The deletions take the rows of their guests, and no other row. -/
theorem deletions_rows (keys : List (ResourceType × Int)) (now : ResourceType × Int → String) (db : Database) :
    let after := keys.foldl (fun db key => onResourceDeleted db ⟨key.1, nodeId, key.2⟩ "cluster_refresh" (now key)) db
    after.vmOwners.filter (activeOn nodeId) =
        (db.vmOwners.filter fun owner => activeOn nodeId owner && ownerKey owner ∉ keys) ∧
      after.vmOwners.filter (fun owner => owner.nodeId ≠ nodeId) =
        db.vmOwners.filter fun owner => owner.nodeId ≠ nodeId := by
  induction keys generalizing db with
  | nil =>
      refine ⟨List.filter_congr fun owner _ => ?_, rfl⟩
      rw [decide_eq_true List.not_mem_nil, Bool.and_true]
  | cons key rest ih =>
      obtain ⟨active, others⟩ := ih (onResourceDeleted db ⟨key.1, nodeId, key.2⟩ "cluster_refresh" (now key))
      constructor
      · rw [List.foldl_cons, active]
        have split : ∀ owners : List VmOwner, owners.filter (fun owner => activeOn nodeId owner && ownerKey owner ∉ rest) =
            (owners.filter (activeOn nodeId)).filter fun owner => ownerKey owner ∉ rest := by
          intro owners
          rw [List.filter_filter]
          exact List.filter_congr fun owner _ => Bool.and_comm _ _
        rw [split, active_onResourceDeleted, List.filter_filter]
        apply List.filter_congr
        intro owner _
        simp only [List.mem_cons, not_or]
        grind
      · rw [List.foldl_cons, others, others_onResourceDeleted]

theorem mem_ownedKeys {owner : VmOwner} (stored : owner ∈ db.vmOwners) (active : activeOn nodeId owner = true) :
    ownerKey owner ∈ ownedKeys db nodeId :=
  List.mem_dedup.mpr (List.mem_map.mpr ⟨owner, List.mem_filter.mpr ⟨stored, active⟩, rfl⟩)

/-- The reconciliation keeps the active rows whose number is listed, whatever the kind. -/
theorem reconcileForNode_active (rawVms : List RawVm) (now : ResourceType × Int → String) :
    (reconcileForNode db nodeId rawVms now).vmOwners.filter (activeOn nodeId) =
      db.vmOwners.filter fun owner => activeOn nodeId owner && owner.vmid ∈ aliveVmids rawVms := by
  unfold reconcileForNode
  rw [(deletions_rows _ now db).1]
  apply List.filter_congr
  intro owner stored
  cases active : activeOn nodeId owner with
  | false => rfl
  | true =>
      have owned := mem_ownedKeys stored active
      rw [Bool.true_and, Bool.true_and, decide_eq_decide, List.mem_filter, and_iff_right owned, decide_eq_true_iff, not_not]
      rfl

/-- The reconciliation is exact exactly when every active row of the node whose number is listed is of a listed kind. -/
theorem reconcile_exact_iff (db : Database) (nodeId : Int) (snapshot : List ListedVm)
    (now : ResourceType × Int → String) :
    Reconciled db (reconcileForNode db nodeId (snapshot.map ListedVm.raw) now) nodeId snapshot ↔
      ∀ owner ∈ db.vmOwners, owner.nodeId = nodeId → owner.deletedAt = none →
        owner.vmid ∈ snapshot.filterMap ListedVm.vmid → ownerKey owner ∈ listedKeys snapshot := by
  have numbers : aliveVmids (snapshot.map ListedVm.raw) = snapshot.filterMap ListedVm.vmid := by
    unfold aliveVmids
    rw [List.filterMap_map]
    rfl
  have kind : ∀ owner, ownerKey owner ∈ listedKeys snapshot → owner.vmid ∈ snapshot.filterMap ListedVm.vmid := by
    intro owner listed
    obtain ⟨entry, member, found⟩ := List.mem_filterMap.mp listed
    obtain ⟨vmid, numbered, same⟩ := Option.map_eq_some_iff.mp found
    exact List.mem_filterMap.mpr ⟨entry, member, numbered.trans (congrArg (some ·.2) same)⟩
  constructor
  · intro reconciled owner stored here alive listed
    have active : activeOn nodeId owner = true := activeOn_iff.mpr ⟨here, alive ▸ rfl⟩
    have kept := reconciled.active
    rw [reconcileForNode_active, numbers] at kept
    have member : owner ∈ db.vmOwners.filter fun owner =>
        activeOn nodeId owner && owner.vmid ∈ snapshot.filterMap ListedVm.vmid :=
      List.mem_filter.mpr ⟨stored, (Bool.and_eq_true _ _).mpr ⟨active, decide_eq_true listed⟩⟩
    rw [kept] at member
    exact of_decide_eq_true ((Bool.and_eq_true _ _).mp (List.mem_filter.mp member).2).2
  · intro kinds
    constructor
    · rw [reconcileForNode_active, numbers]
      apply List.filter_congr
      intro owner stored
      cases active : activeOn nodeId owner with
      | false => rfl
      | true =>
          obtain ⟨here, alive⟩ := activeOn_iff.mp active
          rw [Bool.true_and, Bool.true_and, decide_eq_decide]
          exact ⟨kinds owner stored here (Option.isNone_iff_eq_none.mp alive), kind owner⟩
    · unfold reconcileForNode
      exact (deletions_rows _ now db).2

/-- The turns of the callback that deletes these guests, with nothing in between. -/
theorem deleting_turns (now : String) (reachable : Bool) (keys : List (ResourceType × Int)) (estate : Estate) :
    (fun state : Estate × Refresh => state.2.advance now reachable state.1)^[keys.length]
      (estate, ⟨nodeId, .deleting keys⟩) =
    ({ estate with
        db := keys.foldl (fun db key => onResourceDeleted db ⟨key.1, nodeId, key.2⟩ "cluster_refresh" now) estate.db },
      ⟨nodeId, .deleting []⟩) := by
  induction keys generalizing estate with
  | nil => rfl
  | cons key rest ih =>
      rw [List.length_cons, Function.iterate_succ_apply]
      exact ih _

/-- A callback that nothing disturbs is one reconciliation. -/
theorem scheduled_turns (now : String) (reachable : Bool) (rawVms : List RawVm) (estate : Estate) :
    ∃ turns, (fun state : Estate × Refresh => state.2.advance now reachable state.1)^[turns]
      (estate, ⟨nodeId, .scheduled rawVms⟩) =
    ({ estate with db := reconcileForNode estate.db nodeId rawVms fun _ => now }, ⟨nodeId, .deleting []⟩) := by
  refine ⟨((ownedKeys estate.db nodeId).filter fun key => key.2 ∉ aliveVmids rawVms).length + 1, ?_⟩
  rw [Function.iterate_succ_apply]
  exact deleting_turns now reachable _ estate

/-- A machine was replaced by a container of the same number. -/
theorem replaced_guest_keeps_owner :
    let db := vanishedEstate.db
    let after := reconcileForNode db 1 ([⟨"lxc", some 100⟩].map ListedVm.raw) fun _ => "t1"
    ¬ Reconciled db after 1 [⟨"lxc", some 100⟩] ∧ after.vmOwners.any (fun owner => activeOn 1 owner &&
      owner.resourceType = .vm && owner.vmid = 100) = true := by
  refine ⟨fun reconciled => ?_, by decide +kernel⟩
  have active := reconciled.active
  revert active
  decide +kernel

end Snapshot
end P3Portal.Owners
