import P3Portal.Construction.Owners.History
import P3Portal.Foundation.Run
import P3Portal.Proof.Owners.Rows

namespace P3Portal.Owners
open Schema Foundation

section Counts
variable {db : Database} {guest : Guest} {userId : Int}

/-- The row makes its user an owner of the guest. -/
def ownsNow (guest : Guest) (owner : VmOwner) : Bool := ownerGuest owner = guest && owner.deletedAt.isNone

/-- The update of a removal selects this row when it is active. -/
def names (guest : Guest) (userId : Int) (owner : VmOwner) : Bool :=
  ownerGuest owner = guest && owner.userId = userId

theorem countActiveOwners_eq (db : Database) (guest : Guest) :
    countActiveOwners db guest = db.vmOwners.countP (ownsNow guest) := by
  rw [List.countP_eq_length_filter]
  rfl

theorem activeRows_eq (db : Database) (userId : Int) (guest : Guest) : activeRows db userId guest =
    db.vmOwners.countP fun owner => activeFor userId owner && ownerGuest owner = guest := by
  rw [List.countP_eq_length_filter]
  rfl

theorem activeRows_pos : 0 < activeRows db userId guest ↔ isOwner db userId guest = true := by
  rw [activeRows_eq, List.countP_pos_iff, isOwner, List.any_eq_true]

/-- A user has at most one active row for a guest. -/
theorem activeRows_le_one (kept : WellKept db) : activeRows db userId guest ≤ 1 := by
  rw [activeRows_eq]
  apply countP_le_one
  apply kept.unique.imp
  intro first second different firstActive
  rw [Bool.eq_false_iff]
  intro secondActive
  simp only [activeFor, Bool.and_eq_true, decide_eq_true_eq, Option.isNone_iff_eq_none] at firstActive secondActive
  have named : first.userId = second.userId := by
    rw [firstActive.1.1, secondActive.1.1]
  apply different firstActive.1.2 secondActive.1.2 named
  rw [firstActive.2, secondActive.2]

theorem ownsNow_markDeleted (guest removed : Guest) (userId : Int) (reason : DeletedReason) (now : String)
    (owner : VmOwner) : ownsNow guest (markDeleted (names removed userId) reason now owner) =
      (ownsNow guest owner && !names removed userId owner) := by
  unfold markDeleted ownsNow
  cases selected : names removed userId owner <;> cases active : owner.deletedAt <;> simp [active]

/-- A removal takes the marked rows from the owners of its guest and leaves the other guests alone. -/
theorem countActiveOwners_softDelete (db : Database) (guest removed : Guest) (userId : Int)
    (reason : DeletedReason) (now : String) :
    countActiveOwners (softDelete db (names removed userId) reason now) guest +
      (if removed = guest then activeRows db userId removed else 0) = countActiveOwners db guest := by
  have counted := countP_map_unmarked (ownsNow_markDeleted guest removed userId reason now) db.vmOwners
  rw [countActiveOwners_eq, countActiveOwners_eq, softDelete_vmOwners, ← counted]
  congr 1
  by_cases same : removed = guest
  · rw [if_pos same, activeRows_eq, ← same]
    congr 1
    funext owner
    unfold activeFor ownsNow names
    by_cases named : ownerGuest owner = removed <;> by_cases user : owner.userId = userId <;> simp [named, user]
  · rw [if_neg same, eq_comm, List.countP_eq_zero]
    intro owner _ marked
    simp only [ownsNow, names, Bool.and_eq_true, decide_eq_true_eq] at marked
    apply same
    rw [← marked.2.1, marked.1.1]

end Counts

section Alone
/-- A request that nobody interrupts. -/
def RemoveCall.alone (now : String) (db : Database) (call : RemoveCall) : Database × RemoveCall :=
  let first := call.advance now db
  let second := first.2.advance now first.1
  second.2.advance now second.1

/-- Without an interruption the turns carry out the removal. -/
theorem RemoveCall.alone_eq (now : String) (db : Database) (request : RemoveRequest) :
    RemoveCall.alone now db { request := request } =
      match removeOwner db request.guest request.userId request.orphan request.deletedReason
          request.actorUsername now with
      | .ok after => (after, ⟨request, .finished (.ok (activeRows db request.userId request.guest))⟩)
      | .error error => (db, ⟨request, .finished (.error error)⟩) := by
  unfold removeOwner
  by_cases owner : isOwner db request.userId request.guest = true
  · by_cases last : (countActiveOwners db request.guest = 1 && !request.orphan) = true
    · simp [RemoveCall.alone, RemoveCall.advance, RemoveCall.turn, owner, last]
    · simp [RemoveCall.alone, RemoveCall.advance, RemoveCall.turn, owner, last]
  · simp [RemoveCall.alone, RemoveCall.advance, RemoveCall.turn, owner]

end Alone

section Turn
variable {db : Database}

/-- The guest has an owner, and every request that was answered with success has removed one active row. -/
structure OwnerRemains (guest : Guest) (state : RemovalState) : Prop where
  owned : 0 < countActiveOwners state.shared guest
  removedOne : ∀ call ∈ state.processes, ∀ rows, call.phase = .finished (.ok rows) → rows = 1

/-- When a counted request marks its row, the row is still active and, for this guest, not the last one. -/
def StillSpare (guest : Guest) (db : Database) (call : RemoveCall) : Prop :=
  ∀ activeCount, call.phase = .counted activeCount →
    isOwner db call.request.userId call.request.guest = true ∧
      (call.request.guest = guest → 1 < countActiveOwners db guest)

/-- A turn leaves the owner rows, or it carries out the update of a counted request. -/
theorem remove_turn_cases (now : String) (db : Database) (call : RemoveCall) :
    ((call.advance now db).1 = db ∧ (∀ activeCount, call.phase ≠ .counted activeCount) ∧
        ∀ rows, (call.advance now db).2.phase = .finished (.ok rows) → call.phase = .finished (.ok rows)) ∨
      ∃ activeCount reason audits, call.phase = .counted activeCount ∧
        (call.advance now db).1 = { softDelete db (names call.request.guest call.request.userId) reason now with
          auditLogs := audits } ∧
        (call.advance now db).2.phase =
          .finished (.ok (activeRows db call.request.userId call.request.guest)) := by
  obtain ⟨request, phase⟩ := call
  cases phase with
  | arrived =>
      left
      simp only [RemoveCall.advance, RemoveCall.turn]
      split <;> simp
  | found =>
      left
      simp only [RemoveCall.advance, RemoveCall.turn]
      split <;> simp
  | counted activeCount =>
      right
      exact ⟨activeCount, _, _, rfl, rfl, rfl⟩
  | finished answer =>
      left
      simp [RemoveCall.advance, RemoveCall.turn]

theorem remove_turn_wellKept (now : String) (call : RemoveCall) (kept : WellKept db) :
    WellKept (call.advance now db).1 := by
  rcases remove_turn_cases now db call with ⟨same, -, -⟩ | ⟨activeCount, reason, audits, -, same, -⟩
  · rw [same]
    exact kept
  · rw [same]
    have marked := kept.softDelete (names call.request.guest call.request.userId) reason now
    exact ⟨marked.keys, marked.unique, marked.known⟩

/-- A turn leaves an owner and answers with success for one row exactly when it finds a spare row. -/
theorem remove_turn_iff (guest : Guest) (now : String) (call : RemoveCall) (kept : WellKept db)
    (owned : 0 < countActiveOwners db guest)
    (before : ∀ rows, call.phase = .finished (.ok rows) → rows = 1) :
    (0 < countActiveOwners (call.advance now db).1 guest ∧
        ∀ rows, (call.advance now db).2.phase = .finished (.ok rows) → rows = 1) ↔ StillSpare guest db call := by
  rcases remove_turn_cases now db call with ⟨same, waiting, answered⟩ |
    ⟨activeCount, reason, audits, counted, same, answered⟩
  · rw [same]
    apply iff_of_true
    · exact ⟨owned, fun rows finished => before rows (answered rows finished)⟩
    · intro activeCount counted
      exact absurd counted (waiting activeCount)
  · have remaining := countActiveOwners_softDelete db guest call.request.guest call.request.userId reason now
    have once : activeRows db call.request.userId call.request.guest ≤ 1 := activeRows_le_one kept
    have after : countActiveOwners (call.advance now db).1 guest =
        countActiveOwners (softDelete db (names call.request.guest call.request.userId) reason now) guest := by
      rw [same]
      rfl
    rw [after, answered]
    unfold StillSpare
    simp only [counted, RemovePhase.counted.injEq, forall_eq', RemovePhase.finished.injEq, Except.ok.injEq,
      ← activeRows_pos]
    by_cases here : call.request.guest = guest
    · rw [if_pos here] at remaining
      simp only [here, forall_const] at remaining once ⊢
      omega
    · rw [if_neg here] at remaining
      simp only [here, false_implies, and_true]
      omega

end Turn

section History
variable {state : RemovalState} (guest : Guest)

/-- Every turn that marks a row finds it active and, for this guest, not the last one. -/
def Spared (state : RemovalState) : RemoveEvent → Prop
  | .request _ => True
  | .advance index _ => ∀ call, state.processes[index]? = some call → StillSpare guest state.shared call

theorem removeStep_wellKept (event : RemoveEvent) (kept : WellKept state.shared) :
    WellKept (removeStep state event).shared := by
  cases event with
  | request request => exact kept
  | advance index now =>
      show WellKept (state.act (RemoveCall.advance now) index).shared
      cases present : state.processes[index]? with
      | none =>
          rw [Interleaved.act_absent present]
          exact kept
      | some call =>
          rw [Interleaved.act_shared present]
          exact remove_turn_wellKept now call kept

theorem removeStep_ownerRemains_iff (event : RemoveEvent) (kept : WellKept state.shared)
    (before : OwnerRemains guest state) : OwnerRemains guest (removeStep state event) ↔ Spared guest state event := by
  cases event with
  | request request =>
      apply iff_of_true _ trivial
      constructor
      · exact before.owned
      · intro call member rows finished
        rcases List.mem_append.mp member with old | new
        · exact before.removedOne call old rows finished
        · rw [List.mem_singleton.mp new] at finished
          cases finished
  | advance index now =>
      show OwnerRemains guest (state.act (RemoveCall.advance now) index) ↔
        ∀ call, state.processes[index]? = some call → StillSpare guest state.shared call
      cases present : state.processes[index]? with
      | none =>
          rw [Interleaved.act_absent present]
          apply iff_of_true before
          intro call absent
          cases absent
      | some call =>
          have once := remove_turn_iff guest now call kept before.owned
            (before.removedOne call (Interleaved.mem_processes present))
          simp only [Option.some.injEq, forall_eq']
          rw [← once]
          have answered : (∀ other ∈ (state.act (RemoveCall.advance now) index).processes, ∀ rows,
              other.phase = .finished (.ok rows) → rows = 1) ↔
              ∀ rows, (call.advance now state.shared).2.phase = .finished (.ok rows) → rows = 1 :=
            Interleaved.forall_act_iff present before.removedOne
          constructor
          · intro after
            have owned := after.owned
            rw [Interleaved.act_shared present] at owned
            exact ⟨owned, answered.mp after.removedOne⟩
          · intro after
            constructor
            · rw [Interleaved.act_shared present]
              exact after.1
            · exact answered.mpr after.2

/-- A guest keeps an owner and every answered success removes one row in all states of a history exactly
when every update finds its row active and, for this guest, not the last one. -/
theorem owner_remains_iff (guest : Guest) (db : Database) (events : List RemoveEvent) (kept : WellKept db)
    (owned : 0 < countActiveOwners db guest) :
    (∀ after ∈ reached removeStep ⟨db, []⟩ events, OwnerRemains guest after) ↔
      ∀ visit ∈ visits removeStep ⟨db, []⟩ events, Spared guest visit.1 visit.2 := by
  have keep : ∀ (state : RemovalState) (event : RemoveEvent), WellKept state.shared → True →
      Spared guest state event → WellKept (removeStep state event).shared :=
    fun state event kept _ _ => removeStep_wellKept event kept
  have once : ∀ (state : RemovalState) (event : RemoveEvent), WellKept state.shared → True →
      OwnerRemains guest state → (OwnerRemains guest (removeStep state event) ↔ Spared guest state event) :=
    fun state event kept _ before => removeStep_ownerRemains_iff guest event kept before
  have started : OwnerRemains guest ⟨db, []⟩ := by
    constructor
    · exact owned
    · intro call absent
      cases absent
  exact reached_iff_allowed _ keep once events kept started fun _ _ => trivial

end History

section TwoOwners
/-- One guest with two owners. -/
def pairDb : Database where
  localUsers := [{ id := 1, username := "anna" }, { id := 2, username := "bert" }]
  nodes := [{ id := 1, name := "pve1", url := "https://pve1:8006", proxmoxNode := "pve1" }]
  vmOwners := [{ id := 1, resourceType := .vm, nodeId := 1, vmid := 100, userId := 1 },
    { id := 2, resourceType := .vm, nodeId := 1, vmid := 100, userId := 2, source := .coownerAdd }]

theorem pairDb_wellKept : WellKept pairDb := by
  constructor <;> decide

def sharedGuest : Guest := ⟨.vm, 1, 100⟩

/-- Anna and Bert give up their own rows. -/
def mutualRemovals : List RemoveEvent :=
  [.request { guest := sharedGuest, userId := 1, deletedReason := .selfRemoved, actorUsername := "anna" },
    .request { guest := sharedGuest, userId := 2, deletedReason := .selfRemoved, actorUsername := "bert" }]

/-- One after the other leaves an owner, because the second removal is refused. -/
theorem owner_remains_in_sequence : WellKept pairDb ∧ 0 < countActiveOwners pairDb sharedGuest ∧
    ∀ after ∈ reached removeStep ⟨pairDb, []⟩ (mutualRemovals ++
      [.advance 0 "t1", .advance 0 "t2", .advance 0 "t3", .advance 1 "t4", .advance 1 "t5"]),
      OwnerRemains sharedGuest after := by
  refine ⟨pairDb_wellKept, by decide, ?_⟩
  refine (owner_remains_iff sharedGuest pairDb _ pairDb_wellKept (by decide)).mpr ?_
  intro visit member
  simp only [mutualRemovals, List.cons_append, List.nil_append, visits, List.mem_cons, List.not_mem_nil,
    or_false] at member
  rcases member with same | same | same | same | same | same | same
  · rw [same]
    trivial
  · rw [same]
    trivial
  · rw [same]
    intro call found activeCount counted
    rw [← Option.some.inj found] at counted
    cases counted
  · rw [same]
    intro call found activeCount counted
    rw [← Option.some.inj found] at counted
    cases counted
  · rw [same]
    intro call found activeCount counted
    rw [← Option.some.inj found]
    decide
  · rw [same]
    intro call found activeCount counted
    rw [← Option.some.inj found] at counted
    cases counted
  · rw [same]
    intro call found activeCount counted
    rw [← Option.some.inj found] at counted
    cases counted

/-- Both requests count two owners before either of them marks its row. -/
theorem mutual_removal_orphans :
    ¬ ∀ (guest : Guest) (db : Database) (events : List RemoveEvent), WellKept db → 0 < countActiveOwners db guest →
      (∀ request, RemoveEvent.request request ∈ events → request.orphan = false) →
        ∀ after ∈ reached removeStep ⟨db, []⟩ events, OwnerRemains guest after := by
  intro claim
  have confirmed : ∀ request, RemoveEvent.request request ∈ mutualRemovals ++ [.advance 0 "t1", .advance 1 "t2",
      .advance 0 "t3", .advance 1 "t4", .advance 0 "t5", .advance 1 "t6"] → request.orphan = false := by
    intro request member
    simp only [mutualRemovals, List.cons_append, List.nil_append, List.mem_cons, RemoveEvent.request.injEq,
      reduceCtorEq, List.not_mem_nil, or_false] at member
    rcases member with same | same
    · rw [same]
    · rw [same]
  have last := claim sharedGuest pairDb _ pairDb_wellKept (by decide) confirmed _ (run_mem_reached _ _ _)
  have owned := last.owned
  revert owned
  decide

end TwoOwners
end P3Portal.Owners
