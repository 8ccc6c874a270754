import P3Portal.Proof.Owners.Rows

namespace P3Portal.Owners
open Schema Foundation Auth Automation

section Settled
variable {maxOwnerships : Option Int} {db : Database}

/-- A user who passes the check is below the limit. -/
theorem limitReached_eq_none {userId : Int} (free : limitReached maxOwnerships db userId = none) :
    ∀ most ∈ maxOwnerships, (countActiveOwnerships db userId : Int) < most := by
  intro most limited
  rw [Option.mem_def] at limited
  rw [limitReached, limited, Option.filter_some] at free
  by_contra reached
  rw [if_pos (decide_eq_true (Int.not_lt.mp reached))] at free
  cases free

/-- A change takes rows away only, or it gives one row to a user who is below the limit. -/
inductive Settled (maxOwnerships : Option Int) (db : Database) : Database → Prop
  | reduced (after : Database) (moves : Moves db after)
      (fewer : ∀ who, held activeHolder after.vmOwners who ≤ held activeHolder db.vmOwners who) :
      Settled maxOwnerships db after
  | granted (released after : Database) (guest : Guest) (userId : Int) (assignedBy : Option Int)
      (source : OwnerSource) (moves : Moves db released)
      (fewer : ∀ who, held activeHolder released.vmOwners who ≤ held activeHolder db.vmOwners who)
      (free : limitReached maxOwnerships db userId = none)
      (inserted : insertOwner released guest userId assignedBy source = some after) :
      Settled maxOwnerships db after
  | audit (after : Database) (eventType : String) (username authType detail : Option String) (now : String)
      (settled : Settled maxOwnerships db after) :
      Settled maxOwnerships db (writeAuditLog after eventType username authType detail now)

/-- A request that changes nothing keeps the limit. -/
theorem Settled.unchanged : Settled maxOwnerships db db := .reduced db .start fun _ => le_refl _

/-- A settled request moves rows of owners only. -/
theorem Settled.moves {after : Database} (settled : Settled maxOwnerships db after) : Moves db after := by
  induction settled with
  | reduced after moves fewer => exact moves
  | granted released after guest userId assignedBy source moves fewer free inserted =>
      exact .insert released after guest userId assignedBy source moves inserted
  | audit after eventType username authType detail now _ ih =>
      exact .audit after eventType username authType detail now ih

/-- The limit survives a settled change. -/
theorem Settled.limitHeld {after : Database} (settled : Settled maxOwnerships db after)
    (limitHeld : LimitHeld maxOwnerships db) : LimitHeld maxOwnerships after := by
  rw [limitHeld_iff] at limitHeld ⊢
  induction settled with
  | reduced after moves fewer =>
      intro most limited
      exact (limitHeld most limited).mono fewer
  | granted released after guest userId assignedBy source moves fewer free inserted =>
      intro most limited
      rw [(insertOwner_eq_some.mp inserted).2]
      apply (limitHeld most limited).grant fewer
      intro who granted
      have named : userId = who := Option.some.inj granted
      have below := limitReached_eq_none free most limited
      rw [countActiveOwnerships_eq_held, named] at below
      exact below
  | audit after eventType username authType detail now _ ih => exact ih

/-- A removal keeps the limit. -/
theorem settled_softDelete (selected : VmOwner → Bool) (reason : DeletedReason) (now : String) :
    Settled maxOwnerships db (softDelete db selected reason now) :=
  .reduced _ (.softDelete db selected reason now .start) fun who => softDelete_held_le selected reason now who

variable (maxOwnerships db) (guest : Guest) (userId actorUserId : Int) (actorUsername now : String)

/-- An addition keeps the limit. -/
theorem addOwner_settled (source : OwnerSource) :
    Settled maxOwnerships db
      ((addOwner maxOwnerships db guest userId actorUserId source actorUsername now).toOption.getD db) := by
  unfold addOwner
  split
  · exact .unchanged
  · rename_i free
    split
    · exact .unchanged
    · split
      · exact .unchanged
      · split
        · exact .unchanged
        · rename_i after inserted
          apply Settled.audit
          exact .granted db after _ _ _ _ .start (fun _ => le_refl _) free inserted

/-- A removal by request keeps the limit. -/
theorem removeOwner_settled (orphan : Bool) (deletedReason : DeletedReason) :
    Settled maxOwnerships db
      ((removeOwner db guest userId orphan deletedReason actorUsername now).toOption.getD db) := by
  unfold removeOwner
  split
  · exact .unchanged
  · split
    · exact .unchanged
    · apply Settled.audit
      exact settled_softDelete _ _ _

/-- A transfer keeps the limit. -/
theorem transferOwner_settled (fromUserId toUserId : Int) :
    Settled maxOwnerships db
      ((transferOwner maxOwnerships db guest fromUserId toUserId actorUserId actorUsername
        now).toOption.getD db) := by
  unfold transferOwner
  split
  · exact .unchanged
  · rename_i free
    split
    · exact .unchanged
    · split
      · exact .unchanged
      · split
        · exact .unchanged
        · split
          · exact .unchanged
          · rename_i after inserted
            apply Settled.audit
            exact .granted _ after _ _ _ _ (.softDelete db _ _ _ .start)
              (fun who => softDelete_held_le _ _ _ who) free inserted

/-- An adoption keeps the limit. -/
theorem adopt_settled :
    Settled maxOwnerships db ((adopt maxOwnerships db guest actorUserId actorUsername now).toOption.getD db) := by
  unfold adopt
  split
  · exact .unchanged
  · split
    · exact .unchanged
    · rename_i free
      split
      · exact .unchanged
      · rename_i after inserted
        apply Settled.audit
        exact .granted db after _ _ _ _ .start (fun _ => le_refl _) free inserted

/-- The owner of a deployed guest keeps the limit. -/
theorem assignOwner_settled (site : HookSite) (job : JobRow) :
    Settled site.maxOwnerships db (assignOwner site db job guest userId now) := by
  unfold assignOwner
  split
  · exact .audit _ _ _ _ _ _ .unchanged
  · split
    · exact .audit _ _ _ _ _ _ .unchanged
    · rename_i free
      split
      · exact .unchanged
      · rename_i after inserted
        apply Settled.audit
        exact .granted db after _ _ _ _ .start (fun _ => le_refl _) free inserted

/-- The hook of a deployment keeps the limit. -/
theorem onDeploySuccess_settled (site : HookSite) (job : Option JobRow) :
    Settled site.maxOwnerships db (onDeploySuccess site db job now) := by
  unfold onDeploySuccess
  split
  · exact .unchanged
  · split
    · split
      · exact assignOwner_settled _ _ _ _ _ _
      · exact .audit _ _ _ _ _ _ .unchanged
      · exact .unchanged
    · exact .unchanged

/-- Ownerships that are given up leave audit rows only. -/
theorem orphan_settled (transferToUserId : Option Int) :
    Settled maxOwnerships db
      ((onUserDelete db userId actorUsername .orphan transferToUserId now).toOption.getD db) := by
  have audited : ∀ (entries : List VmOwner) (start : Database), Settled maxOwnerships db start →
      Settled maxOwnerships db (entries.foldl (fun db entry =>
        writeAuditLog db "owner_removed" (some actorUsername) (some "local")
          (some ("User-Delete-Orphan: " ++ (ownerGuest entry).label ++ " reason=user_deleted")) now) start) := by
    intro entries
    induction entries with
    | nil =>
        intro start settled
        exact settled
    | cons entry rest ih =>
        intro start settled
        exact ih _ (.audit start _ _ _ _ _ settled)
  exact audited _ _ (settled_softDelete _ _ _)

end Settled

section Handover
variable {db : Database} {userId toUserId : Int} {entry : VmOwner} (actorUsername now : String)

/-- A soft deletion of the rows of others leaves the active rows of a user. -/
theorem activeFor_markDeleted {who : Int} {owner : VmOwner} {selected : VmOwner → Bool}
    (other : selected owner = true → owner.userId ≠ who) (reason : DeletedReason) (now : String) :
    activeFor who (markDeleted selected reason now owner) = activeFor who owner := by
  rcases markDeleted_cases selected reason now owner with same | ⟨chosen, marked⟩
  · rw [same]
  · rw [marked]
    simp [activeFor, other chosen]

/-- The guest of a row does not change. -/
theorem ownerGuest_markDeleted (selected : VmOwner → Bool) (reason : DeletedReason) (now : String)
    (owner : VmOwner) : ownerGuest (markDeleted selected reason now owner) = ownerGuest owner := by
  rcases markDeleted_cases selected reason now owner with same | ⟨-, marked⟩
  · rw [same]
  · rw [marked]
    rfl

/-- A removal of the rows of others leaves the guests of a user alone. -/
theorem softDelete_others {who : Int} {selected : VmOwner → Bool}
    (others : ∀ owner ∈ db.vmOwners, selected owner = true → owner.userId ≠ who) (reason : DeletedReason)
    (now : String) :
    held activeHolder (softDelete db selected reason now).vmOwners who = held activeHolder db.vmOwners who ∧
      ∀ guest, isOwner (softDelete db selected reason now) who guest = isOwner db who guest := by
  constructor
  · apply held_map_eq
    intro owner stored
    change activeHolder (markDeleted selected reason now owner) = some who ↔ _
    rw [activeHolder_eq_some, activeHolder_eq_some, activeFor_markDeleted (others owner stored)]
  · intro guest
    unfold isOwner
    rw [softDelete_vmOwners, List.any_map, Bool.eq_iff_iff, List.any_eq_true, List.any_eq_true]
    apply exists_congr
    intro owner
    apply and_congr_right
    intro stored
    simp only [Function.comp_apply, ownerGuest_markDeleted, activeFor_markDeleted (others owner stored)]

/-- The key of a row selects this row only. -/
theorem WellKept.key_selects (kept : WellKept db) (stored : entry ∈ db.vmOwners) {owner : VmOwner}
    (member : owner ∈ db.vmOwners) (selected : owner.id = entry.id) : owner = entry :=
  List.inj_on_of_nodup_map kept.keys member stored selected

/-- The key of a row selects no row of another user. -/
theorem key_selects_others (kept : WellKept db) (stored : entry ∈ db.vmOwners)
    (active : activeFor userId entry = true) {who : Int} (other : who ≠ userId) :
    ∀ owner ∈ db.vmOwners, decide (owner.id = entry.id) = true → owner.userId ≠ who := by
  intro owner member selected
  rw [kept.key_selects stored member (of_decide_eq_true selected)]
  simp only [activeFor, Bool.and_eq_true, decide_eq_true_eq] at active
  rw [active.1]
  exact other.symm

/-- A new row is of the guest that it was made for. -/
theorem ownerGuest_newOwner (guest : Guest) (source : OwnerSource) :
    ownerGuest (newOwner db guest userId source) = guest := rfl

/-- The old row of a handover is deleted first. -/
def entryDeleted (db : Database) (entry : VmOwner) (now : String) : Database :=
  softDelete db (fun owner => owner.id = entry.id) .userDeleted now

/-- The rows after a handover, with the new row unless its insert is refused. -/
def entryMoved (db : Database) (entry : VmOwner) (toUserId : Int) (now : String) : Database :=
  (insertOwner (entryDeleted db entry now) (ownerGuest entry) toUserId none .transfer).getD
    (entryDeleted db entry now)

/-- The transfer of an entry changes the rows like a move. -/
theorem transferEntry_vmOwners :
    (transferEntry userId toUserId actorUsername now db entry).vmOwners =
      (entryMoved db entry toUserId now).vmOwners := rfl

/-- After the transfer of an entry a guest has the owners that a move leaves it. -/
theorem isOwner_transferEntry (who : Int) (guest : Guest) :
    isOwner (transferEntry userId toUserId actorUsername now db entry) who guest =
      isOwner (entryMoved db entry toUserId now) who guest := rfl

theorem entryMoved_cases (db : Database) (entry : VmOwner) (toUserId : Int) (now : String) :
    (insertOwner (entryDeleted db entry now) (ownerGuest entry) toUserId none .transfer = none ∧
        entryMoved db entry toUserId now = entryDeleted db entry now) ∨
      insertOwner (entryDeleted db entry now) (ownerGuest entry) toUserId none .transfer =
        some (entryMoved db entry toUserId now) := by
  unfold entryMoved
  cases insertOwner (entryDeleted db entry now) (ownerGuest entry) toUserId none .transfer with
  | none => exact .inl ⟨rfl, rfl⟩
  | some after => exact .inr rfl

/-- Another row stays stored when one row is handed over. -/
theorem mem_transferEntry (kept : WellKept db) (stored : entry ∈ db.vmOwners) {other : VmOwner}
    (member : other ∈ db.vmOwners) (different : other ≠ entry) :
    other ∈ (transferEntry userId toUserId actorUsername now db entry).vmOwners := by
  have survives : other ∈ (entryDeleted db entry now).vmOwners := by
    refine List.mem_map.mpr ⟨other, member, ?_⟩
    rcases markDeleted_cases (fun owner => owner.id = entry.id) .userDeleted now other with same | ⟨selected, -⟩
    · exact same
    · exact absurd (kept.key_selects stored member (of_decide_eq_true selected)) different
  rw [transferEntry_vmOwners]
  rcases entryMoved_cases db entry toUserId now with ⟨-, same⟩ | inserted
  · rw [same]
    exact survives
  · rw [(insertOwner_eq_some.mp inserted).2]
    exact List.mem_append_left _ survives

/-- A handed over row counts for its new owner unless that user already owns the guest. -/
theorem transferEntry_held (kept : WellKept db) (stored : entry ∈ db.vmOwners)
    (active : activeFor userId entry = true) (known : (getUserById db toUserId).isSome = true)
    (other : toUserId ≠ userId) :
    held activeHolder (transferEntry userId toUserId actorUsername now db entry).vmOwners toUserId =
        held activeHolder db.vmOwners toUserId + (if isOwner db toUserId (ownerGuest entry) then 0 else 1) ∧
      ∀ guest, guest ≠ ownerGuest entry →
        isOwner (transferEntry userId toUserId actorUsername now db entry) toUserId guest =
          isOwner db toUserId guest := by
  obtain ⟨counted, owned⟩ := softDelete_others (key_selects_others kept stored active other) .userDeleted now
  rw [transferEntry_vmOwners]
  simp only [isOwner_transferEntry]
  rcases entryMoved_cases db entry toUserId now with ⟨refused, same⟩ | inserted
  · have owns : isOwner db toUserId (ownerGuest entry) = true := by
      by_contra unowned
      have free : isOwner (entryDeleted db entry now) toUserId (ownerGuest entry) = false :=
        (owned (ownerGuest entry)).trans (Bool.eq_false_iff.mpr unowned)
      have accepted : insertOwner (entryDeleted db entry now) (ownerGuest entry) toUserId none .transfer =
          some _ := insertOwner_eq_some.mpr ⟨⟨kept.known entry stored, known, rfl, free⟩, rfl⟩
      rw [refused] at accepted
      cases accepted
    rw [if_pos owns, same]
    exact ⟨counted, fun guest _ => owned guest⟩
  · have accepted : isOwner db toUserId (ownerGuest entry) = false :=
      (owned (ownerGuest entry)).symm.trans (insertOwner_eq_some.mp inserted).1.2.2.2
    rw [if_neg (Bool.eq_false_iff.mp accepted)]
    constructor
    · have grown := insertOwner_held inserted toUserId
      rw [if_pos rfl] at grown
      exact grown.trans (congrArg (· + 1) counted)
    · intro guest different
      rw [(insertOwner_eq_some.mp inserted).2, ← owned guest]
      simp only [isOwner, List.any_append, List.any_cons, List.any_nil, ownerGuest_newOwner, different.symm,
        decide_false, Bool.and_false, Bool.or_false]
      rfl

/-- A handover gives nobody but its target a row. -/
theorem transferEntry_held_other (userId : Int) (db : Database) (entry : VmOwner) {who : Int}
    (other : toUserId ≠ who ∨ getUserById db toUserId = none) :
    held activeHolder (transferEntry userId toUserId actorUsername now db entry).vmOwners who ≤
      held activeHolder db.vmOwners who := by
  have less : held activeHolder (entryDeleted db entry now).vmOwners who ≤ held activeHolder db.vmOwners who :=
    softDelete_held_le _ _ _ who
  rw [transferEntry_vmOwners]
  rcases entryMoved_cases db entry toUserId now with ⟨-, same⟩ | inserted
  · rw [same]
    exact less
  · rcases other with different | missing
    · rw [insertOwner_held inserted, if_neg different]
      exact less
    · have known := (insertOwner_eq_some.mp inserted).1.2.1
      change (getUserById db toUserId).isSome = true at known
      rw [missing] at known
      cases known

/-- A user who receives the own rows keeps their number. -/
theorem transferEntry_held_self (stored : entry ∈ db.vmOwners) (active : activeFor userId entry = true) :
    held activeHolder (transferEntry userId userId actorUsername now db entry).vmOwners userId ≤
      held activeHolder db.vmOwners userId := by
  have taken : activeHolder (markDeleted (fun owner => owner.id = entry.id) .userDeleted now entry) = none := by
    simp only [activeFor, Bool.and_eq_true] at active
    unfold markDeleted
    rw [if_pos (by simp [active.2])]
    rfl
  have less : held activeHolder (entryDeleted db entry now).vmOwners userId < held activeHolder db.vmOwners userId :=
    (markDeleted_releases _ _ _).held_lt stored ((activeHolder_eq_some entry).mpr active) taken
  rw [transferEntry_vmOwners]
  rcases entryMoved_cases db entry userId now with ⟨-, same⟩ | inserted
  · rw [same]
    exact Nat.le_of_lt less
  · rw [insertOwner_held inserted, if_pos rfl]
    omega

theorem getUserById_transferEntry (userId toUserId who : Int) (db : Database) (entry : VmOwner) :
    getUserById (transferEntry userId toUserId actorUsername now db entry) who = getUserById db who := by
  obtain ⟨owners, audits, same⟩ := (transferEntry_moves userId toUserId actorUsername now db entry).frame
  rw [same]
  rfl

theorem handover_held_other (userId : Int) (entries : List VmOwner) (db : Database) {who : Int}
    (other : toUserId ≠ who ∨ getUserById db toUserId = none) :
    held activeHolder (entries.foldl (transferEntry userId toUserId actorUsername now) db).vmOwners who ≤
      held activeHolder db.vmOwners who := by
  induction entries generalizing db with
  | nil => exact le_refl _
  | cons entry rest ih =>
      have first := transferEntry_held_other actorUsername now userId db entry other
      rw [← getUserById_transferEntry actorUsername now userId toUserId toUserId db entry] at other
      exact le_trans (ih _ other) first

/-- The rows that wait for their handover are active rows of the user for different guests. -/
structure Pending (db : Database) (userId : Int) (entries : List VmOwner) : Prop where
  stored : ∀ entry ∈ entries, entry ∈ db.vmOwners
  active : ∀ entry ∈ entries, activeFor userId entry = true
  distinct : entries.Pairwise fun first second => ownerGuest first ≠ ownerGuest second

theorem WellKept.pending (kept : WellKept db) (userId : Int) : Pending db userId (activeEntries db userId) := by
  constructor
  · intro entry member
    exact (List.mem_filter.mp member).1
  · intro entry member
    exact (List.mem_filter.mp member).2
  · refine ((kept.unique.sublist List.filter_sublist).imp_of_mem ?_)
    intro first second firstMember secondMember different
    have firstActive := (List.mem_filter.mp firstMember).2
    have secondActive := (List.mem_filter.mp secondMember).2
    simp only [activeFor, Bool.and_eq_true, decide_eq_true_eq, Option.isNone_iff_eq_none] at firstActive secondActive
    exact different firstActive.2 secondActive.2 (firstActive.1.trans secondActive.1.symm)

theorem Pending.rest {rest : List VmOwner} (pending : Pending db userId (entry :: rest)) (kept : WellKept db) :
    Pending (transferEntry userId toUserId actorUsername now db entry) userId rest := by
  obtain ⟨apart, distinct⟩ := List.pairwise_cons.mp pending.distinct
  constructor
  · intro other member
    apply mem_transferEntry actorUsername now kept (pending.stored entry List.mem_cons_self)
      (pending.stored other (List.mem_cons_of_mem _ member))
    intro same
    exact apart other member (congrArg ownerGuest same.symm)
  · intro other member
    exact pending.active other (List.mem_cons_of_mem _ member)
  · exact distinct

theorem handover_held_self (entries : List VmOwner) (db : Database) (kept : WellKept db)
    (pending : Pending db userId entries) :
    held activeHolder (entries.foldl (transferEntry userId userId actorUsername now) db).vmOwners userId ≤
      held activeHolder db.vmOwners userId := by
  induction entries generalizing db with
  | nil => exact le_refl _
  | cons entry rest ih =>
      have first := transferEntry_held_self actorUsername now (pending.stored entry List.mem_cons_self)
        (pending.active entry List.mem_cons_self)
      have later := ih _ ((transferEntry_moves userId userId actorUsername now db entry).wellKept kept)
        (pending.rest actorUsername now kept)
      exact le_trans later first

/-- The target of a handover gets one row for each guest that it does not own yet. -/
theorem handover_held (other : toUserId ≠ userId) (entries : List VmOwner) (db : Database) (kept : WellKept db)
    (pending : Pending db userId entries) (known : (getUserById db toUserId).isSome = true) :
    held activeHolder (entries.foldl (transferEntry userId toUserId actorUsername now) db).vmOwners toUserId =
      held activeHolder db.vmOwners toUserId +
        (entries.filter fun entry => !isOwner db toUserId (ownerGuest entry)).length := by
  induction entries generalizing db with
  | nil => rfl
  | cons entry rest ih =>
      obtain ⟨counted, owned⟩ := transferEntry_held actorUsername now kept
        (pending.stored entry List.mem_cons_self) (pending.active entry List.mem_cons_self) known other
      have moves := transferEntry_moves userId toUserId actorUsername now db entry
      rw [← getUserById_transferEntry actorUsername now userId toUserId toUserId db entry] at known
      have later := ih _ (moves.wellKept kept) (pending.rest actorUsername now kept) known
      have waiting : (rest.filter fun next =>
          !isOwner (transferEntry userId toUserId actorUsername now db entry) toUserId (ownerGuest next)) =
            rest.filter fun next => !isOwner db toUserId (ownerGuest next) := by
        apply List.filter_congr
        intro next member
        rw [owned (ownerGuest next) ((List.pairwise_cons.mp pending.distinct).1 next member).symm]
      rw [List.foldl_cons, later, counted, waiting, List.filter_cons]
      by_cases owns : isOwner db toUserId (ownerGuest entry) = true
      · rw [if_pos owns, owns, Bool.not_true, if_neg Bool.false_ne_true]
        rfl
      · rw [if_neg owns, Bool.eq_false_iff.mpr owns, Bool.not_false, if_pos rfl, List.length_cons]
        omega

end Handover

section History
variable (site : HookSite)

/-- The active rows that a handover adds to those of its target. -/
def handedOver (db : Database) (userId toUserId : Int) : List VmOwner :=
  (activeEntries db userId).filter fun entry => !isOwner db toUserId (ownerGuest entry)

/-- The rows that a deletion hands over fit under the limit of an existing target. -/
def HandoverFits (maxOwnerships : Option Int) (db : Database) : OwnerEvent → Prop
  | .onUserDelete userId _ .transfer (some toUserId) _ =>
      (getUserById db toUserId).isSome = true → ∀ most ∈ maxOwnerships,
        ((countActiveOwnerships db toUserId + (handedOver db userId toUserId).length : Nat) : Int) ≤ most
  | _ => True

/-- A user owns the guests of the own active rows. -/
theorem handedOver_self (db : Database) (userId : Int) : handedOver db userId userId = [] := by
  refine List.filter_eq_nil_iff.mpr ?_
  intro entry member
  obtain ⟨stored, active⟩ := List.mem_filter.mp member
  have owns : isOwner db userId (ownerGuest entry) = true := by
    refine List.any_eq_true.mpr ⟨entry, stored, ?_⟩
    rw [active, decide_eq_true rfl]
    rfl
  rw [owns, Bool.not_true]
  exact Bool.false_ne_true

/-- The handover of a deleted user keeps the limit exactly when its guests fit with the new owner. -/
theorem handover_limitHeld_iff {maxOwnerships : Option Int} {db : Database} (kept : WellKept db)
    (limitHeld : LimitHeld maxOwnerships db) (userId toUserId : Int) (actorUsername now : String) :
    LimitHeld maxOwnerships
        ((activeEntries db userId).foldl (transferEntry userId toUserId actorUsername now) db) ↔
      ((getUserById db toUserId).isSome = true → ∀ most ∈ maxOwnerships,
        ((countActiveOwnerships db toUserId + (handedOver db userId toUserId).length : Nat) : Int) ≤ most) := by
  have pending := kept.pending userId
  have spared : ∀ who, (toUserId ≠ who ∨ getUserById db toUserId = none) → ∀ most ∈ maxOwnerships,
      (countActiveOwnerships ((activeEntries db userId).foldl
        (transferEntry userId toUserId actorUsername now) db) who : Int) ≤ most := by
    intro who other most limited
    have fewer := handover_held_other actorUsername now userId (activeEntries db userId) db other
    have before := limitHeld most limited who
    rw [countActiveOwnerships_eq_held] at before ⊢
    omega
  by_cases known : (getUserById db toUserId).isSome = true
  · rw [forall_prop_of_true known]
    by_cases self : toUserId = userId
    · rw [self, handedOver_self]
      constructor
      · intro _ most limited
        exact limitHeld most limited userId
      · intro _ most limited who
        by_cases same : toUserId = who
        · have fewer := handover_held_self actorUsername now (activeEntries db userId) db kept pending
          have before := limitHeld most limited userId
          rw [countActiveOwnerships_eq_held] at before ⊢
          rw [← same, self]
          omega
        · rw [← self]
          rw [← self] at spared
          exact spared who (.inl same) most limited
    · have exact_count := handover_held actorUsername now self (activeEntries db userId) db kept pending known
      rw [← countActiveOwnerships_eq_held, ← countActiveOwnerships_eq_held] at exact_count
      constructor
      · intro after most limited
        have bound := after most limited toUserId
        rw [exact_count] at bound
        exact bound
      · intro fits most limited who
        by_cases same : toUserId = who
        · rw [← same, exact_count]
          exact fits most limited
        · exact spared who (.inl same) most limited
  · constructor
    · intro _ stored
      exact absurd stored known
    · intro _ most limited who
      exact spared who (.inr (Option.not_isSome_iff_eq_none.mp known)) most limited

/-- Every change but a handover is settled by the checks of its own. -/
theorem step_settled (db : Database) (event : OwnerEvent) :
    Settled site.maxOwnerships db (step site db event) ∨ ∃ userId actorUsername toUserId now,
      event = .onUserDelete userId actorUsername .transfer (some toUserId) now := by
  cases event with
  | addOwner guest userId actorUserId source actorUsername now =>
      exact .inl (addOwner_settled _ _ _ _ _ _ _ _)
  | removeOwner guest userId orphan deletedReason actorUsername now =>
      exact .inl (removeOwner_settled _ _ _ _ _ _ _ _)
  | transferOwner guest fromUserId toUserId actorUserId actorUsername now =>
      exact .inl (transferOwner_settled _ _ _ _ _ _ _ _)
  | adopt guest actorUserId actorUsername now => exact .inl (adopt_settled _ _ _ _ _ _)
  | onDeploySuccess job now => exact .inl (onDeploySuccess_settled _ _ _ _)
  | onUserDelete userId actorUsername action transferToUserId now =>
      cases action with
      | orphan => exact .inl (orphan_settled _ db userId actorUsername now transferToUserId)
      | transfer =>
          cases transferToUserId with
          | none => exact .inl .unchanged
          | some toUserId => exact .inr ⟨userId, actorUsername, toUserId, now, rfl⟩

/-- Every event keeps the rows in order. -/
theorem step_wellKept {db : Database} (kept : WellKept db) (event : OwnerEvent) : WellKept (step site db event) := by
  rcases step_settled site db event with settled | ⟨userId, actorUsername, toUserId, now, same⟩
  · exact settled.moves.wellKept kept
  · rw [same]
    exact (onUserDelete_moves db userId actorUsername .transfer (some toUserId) now).wellKept kept

/-- An event keeps the limit exactly when a handover fits. -/
theorem step_limitHeld_iff {db : Database} (kept : WellKept db) (limitHeld : LimitHeld site.maxOwnerships db)
    (event : OwnerEvent) :
    LimitHeld site.maxOwnerships (step site db event) ↔ HandoverFits site.maxOwnerships db event := by
  rcases step_settled site db event with settled | ⟨userId, actorUsername, toUserId, now, same⟩
  · have fits : HandoverFits site.maxOwnerships db event ↔ True := by
      refine iff_true_intro ?_
      unfold HandoverFits
      split
      · rename_i userId actorUsername toUserId now
        exact (handover_limitHeld_iff kept limitHeld userId toUserId actorUsername now).mp
          (settled.limitHeld limitHeld)
      · trivial
    rw [fits]
    exact iff_true_intro (settled.limitHeld limitHeld)
  · rw [same]
    exact handover_limitHeld_iff kept limitHeld userId toUserId actorUsername now

/-- The limit holds in all states of a history exactly when all its handovers fit. -/
theorem limitHeld_reached_iff (db : Database) (events : List OwnerEvent) (kept : WellKept db)
    (limitHeld : LimitHeld site.maxOwnerships db) :
    (∀ after ∈ reached (step site) db events, LimitHeld site.maxOwnerships after) ↔
      ∀ visit ∈ visits (step site) db events, HandoverFits site.maxOwnerships visit.1 visit.2 := by
  have keep : ∀ db event, WellKept db → True → HandoverFits site.maxOwnerships db event →
      WellKept (step site db event) := fun db event kept _ _ => step_wellKept site kept event
  exact reached_iff_allowed (step site) keep
    (fun db event kept _ limitHeld => step_limitHeld_iff site kept limitHeld event) events kept limitHeld
    fun _ _ => trivial

end History

section Full
/-- Two users own two guests each, and the limit is two. -/
def fullSite : HookSite where
  maxOwnerships := some 2

def fullDb : Database where
  localUsers := [{ id := 1, username := "anna" }, { id := 2, username := "bert" }]
  nodes := [{ id := 1, name := "lab", url := "https://lab", proxmoxNode := "pve" }]
  vmOwners := [⟨1, .vm, 1, 101, 1, .deploy, none, none⟩, ⟨2, .vm, 1, 102, 1, .deploy, none, none⟩,
    ⟨3, .vm, 1, 103, 2, .deploy, none, none⟩, ⟨4, .vm, 1, 101, 2, .coownerAdd, none, none⟩]

/-- The rows of the example are in order. -/
theorem fullDb_wellKept : WellKept fullDb := ⟨by decide, by decide, by decide⟩

/-- Nobody of the example is above the limit. -/
theorem fullDb_limitHeld : LimitHeld fullSite.maxOwnerships fullDb := by
  intro most limited userId
  rw [← Option.some.inj limited]
  by_cases anna : userId = 1
  · rw [anna]
    decide
  · by_cases bert : userId = 2
    · rw [bert]
      decide
    · simp [countActiveOwnerships, fullDb, Ne.symm anna, Ne.symm bert]

/-- A history in which the limit refuses an adoption and an orphaning frees a row stays within the limit. -/
theorem limitHeld_reached_full :
    LimitHeld fullSite.maxOwnerships fullDb ∧
      ∀ after ∈ reached (step fullSite) fullDb [.adopt ⟨.vm, 1, 104⟩ 1 "anna" "t1",
          .onUserDelete 2 "anna" .orphan none "t2", .transferOwner ⟨.vm, 1, 102⟩ 1 2 1 "anna" "t3"],
        LimitHeld fullSite.maxOwnerships after := by
  refine ⟨fullDb_limitHeld, ?_⟩
  apply (limitHeld_reached_iff fullSite fullDb _ fullDb_wellKept fullDb_limitHeld).mpr
  intro visit member
  simp only [visits, List.mem_cons, List.not_mem_nil, or_false] at member
  rcases member with first | second | third
  · rw [first]
    trivial
  · rw [second]
    trivial
  · rw [third]
    trivial

/-- The deletion of Anna hands a third guest over to Bert. -/
theorem transfer_exceeds_limit :
    ¬ ∀ (site : HookSite) (db : Database) (events : List OwnerEvent), WellKept db →
      LimitHeld site.maxOwnerships db →
        ∀ after ∈ reached (step site) db events, LimitHeld site.maxOwnerships after := by
  intro claim
  have after := claim fullSite fullDb [.onUserDelete 1 "root" .transfer (some 2) "t1"] fullDb_wellKept
    fullDb_limitHeld _ (List.mem_cons_of_mem _ (mem_reached_start _ _ _)) 2 rfl 2
  revert after
  decide

end Full
end P3Portal.Owners
