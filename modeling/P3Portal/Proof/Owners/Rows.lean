import P3Portal.Construction.Owners.History
import P3Portal.Foundation.Assignments
import P3Portal.Foundation.KeyedRows

namespace P3Portal.Owners
open Schema Foundation Auth Automation

section Rows
variable {db : Database} {guest : Guest} {userId : Int}

/-- An active row is held by its user. -/
def activeHolder (owner : VmOwner) : Option Int := if owner.deletedAt.isNone then some owner.userId else none

/-- An active row is held by its user. -/
theorem activeHolder_eq_some (owner : VmOwner) :
    activeHolder owner = some userId ↔ activeFor userId owner = true := by
  unfold activeHolder activeFor
  cases owner.deletedAt <;> simp

/-- The count of a user is the number of rows held. -/
theorem countActiveOwnerships_eq_held (db : Database) (userId : Int) :
    countActiveOwnerships db userId = held activeHolder db.vmOwners userId := by
  unfold countActiveOwnerships held
  rw [List.countP_eq_length_filter]
  congr 2
  funext owner
  unfold activeHolder
  cases owner.deletedAt <;> simp

/-- No user has more active rows than the limit allows. -/
def LimitHeld (maxOwnerships : Option Int) (db : Database) : Prop :=
  ∀ most ∈ maxOwnerships, ∀ userId, (countActiveOwnerships db userId : Int) ≤ most

/-- The limit is held exactly when nobody holds more rows. -/
theorem limitHeld_iff (maxOwnerships : Option Int) (db : Database) :
    LimitHeld maxOwnerships db ↔ ∀ most ∈ maxOwnerships, Bounded activeHolder most db.vmOwners := by
  unfold LimitHeld Bounded
  simp only [countActiveOwnerships_eq_held]

/-- The change that a soft deletion makes to one row. -/
def markDeleted (selected : VmOwner → Bool) (reason : DeletedReason) (now : String) (owner : VmOwner) : VmOwner :=
  if selected owner && owner.deletedAt.isNone then
    { owner with deletedAt := some now, deletedReason := some reason }
  else owner

/-- A removal marks the selected rows. -/
theorem softDelete_vmOwners (db : Database) (selected : VmOwner → Bool) (reason : DeletedReason) (now : String) :
    (softDelete db selected reason now).vmOwners = db.vmOwners.map (markDeleted selected reason now) := rfl

/-- A row keeps its columns except for the two that mark the deletion. -/
theorem markDeleted_cases (selected : VmOwner → Bool) (reason : DeletedReason) (now : String) (owner : VmOwner) :
    markDeleted selected reason now owner = owner ∨
      selected owner = true ∧ markDeleted selected reason now owner =
        { owner with deletedAt := some now, deletedReason := some reason } := by
  unfold markDeleted
  by_cases marked : (selected owner && owner.deletedAt.isNone) = true
  · rw [if_pos marked]
    rw [Bool.and_eq_true] at marked
    exact .inr ⟨marked.1, rfl⟩
  · rw [if_neg marked]
    exact .inl rfl

/-- A row that is marked is held by nobody. -/
theorem markDeleted_releases (selected : VmOwner → Bool) (reason : DeletedReason) (now : String) :
    Releases activeHolder (markDeleted selected reason now) := by
  intro owner
  rcases markDeleted_cases selected reason now owner with same | ⟨-, marked⟩
  · exact .inl (congrArg activeHolder same)
  · rw [marked]
    exact .inr rfl

/-- A soft deletion leaves nobody with more active rows. -/
theorem softDelete_held_le (selected : VmOwner → Bool) (reason : DeletedReason) (now : String) (userId : Int) :
    held activeHolder (softDelete db selected reason now).vmOwners userId ≤ held activeHolder db.vmOwners userId :=
  (markDeleted_releases selected reason now).held_le db.vmOwners userId

/-- The row that an accepted insert appends. -/
def newOwner (db : Database) (guest : Guest) (userId : Int) (source : OwnerSource) : VmOwner :=
  ⟨nextOwnerId db, guest.resourceType, guest.nodeId, guest.vmid, userId, source, none, none⟩

/-- A row is inserted exactly when its keys are stored and the user is no owner yet. -/
theorem insertOwner_eq_some {assignedBy : Option Int} {source : OwnerSource} {after : Database} :
    insertOwner db guest userId assignedBy source = some after ↔
      ((Nodes.getNode db guest.nodeId).isSome = true ∧ (getUserById db userId).isSome = true ∧
        assignedBy.all (fun actor => (getUserById db actor).isSome) = true ∧ isOwner db userId guest = false) ∧
      after = { db with vmOwners := db.vmOwners ++ [newOwner db guest userId source] } := by
  unfold insertOwner
  split
  · rename_i accepted
    simp only [Bool.and_eq_true, Bool.not_eq_true'] at accepted
    constructor
    · intro inserted
      exact ⟨⟨accepted.1.1.1, accepted.1.1.2, accepted.1.2, accepted.2⟩, (Option.some.inj inserted).symm⟩
    · intro found
      rw [found.2]
      rfl
  · rename_i refused
    constructor
    · intro impossible
      cases impossible
    · intro found
      simp [found.1] at refused

/-- A new row is held by its user. -/
theorem insertOwner_held {assignedBy : Option Int} {source : OwnerSource} {after : Database}
    (inserted : insertOwner db guest userId assignedBy source = some after) (who : Int) :
    held activeHolder after.vmOwners who =
      held activeHolder db.vmOwners who + if userId = who then 1 else 0 := by
  rw [(insertOwner_eq_some.mp inserted).2]
  simp only [held_append_singleton, newOwner, activeHolder, Option.isNone_none, if_true, Option.some.injEq]

end Rows
section Kept
variable {db after : Database} {guest : Guest} {userId : Int}

/-- The schema keeps the row keys unique, the active rows unique for each guest and user, and the
installations of all rows stored. -/
structure WellKept (db : Database) : Prop where
  keys : (db.vmOwners.map VmOwner.id).Nodup
  unique : db.vmOwners.Pairwise fun first second => first.deletedAt = none → second.deletedAt = none →
    first.userId = second.userId → ownerGuest first ≠ ownerGuest second
  known : ∀ owner ∈ db.vmOwners, (Nodes.getNode db owner.nodeId).isSome = true

/-- A removal keeps the rows in order. -/
theorem WellKept.softDelete (kept : WellKept db) (selected : VmOwner → Bool) (reason : DeletedReason)
    (now : String) : WellKept (softDelete db selected reason now) := by
  have columns : ∀ owner, (markDeleted selected reason now owner).id = owner.id ∧
      (markDeleted selected reason now owner).nodeId = owner.nodeId := by
    intro owner
    rcases markDeleted_cases selected reason now owner with same | ⟨-, marked⟩
    · rw [same]
      exact ⟨rfl, rfl⟩
    · rw [marked]
      exact ⟨rfl, rfl⟩
  have untouched : ∀ owner, (markDeleted selected reason now owner).deletedAt = none →
      markDeleted selected reason now owner = owner := by
    intro owner active
    rcases markDeleted_cases selected reason now owner with same | ⟨-, marked⟩
    · exact same
    · rw [marked] at active
      cases active
  constructor
  · rw [softDelete_vmOwners, List.map_map]
    have same : VmOwner.id ∘ markDeleted selected reason now = VmOwner.id := by
      funext owner
      exact (columns owner).1
    rw [same]
    exact kept.keys
  · rw [softDelete_vmOwners, List.pairwise_map]
    apply kept.unique.imp
    intro first second different firstActive secondActive
    have firstSame := untouched first firstActive
    have secondSame := untouched second secondActive
    rw [firstSame] at firstActive
    rw [secondSame] at secondActive
    rw [firstSame, secondSame]
    exact different firstActive secondActive
  · rw [softDelete_vmOwners]
    intro owner member
    obtain ⟨old, stored, marked⟩ := List.mem_map.mp member
    rw [← marked, (columns old).2]
    exact kept.known old stored

/-- A user without an active row is no owner. -/
theorem isOwner_eq_false : isOwner db userId guest = false ↔
    ∀ owner ∈ db.vmOwners, owner.deletedAt = none → owner.userId = userId → ownerGuest owner ≠ guest := by
  simp only [isOwner, List.any_eq_false, activeFor, Bool.and_eq_true, decide_eq_true_eq,
    Option.isNone_iff_eq_none, not_and, ne_eq]
  constructor
  · intro absent owner stored active named
    exact absent owner stored ⟨named, active⟩
  · intro absent owner stored held
    exact absent owner stored held.2 held.1

/-- A new row keeps the rows in order. -/
theorem WellKept.insertOwner {assignedBy : Option Int} {source : OwnerSource} (kept : WellKept db)
    (inserted : insertOwner db guest userId assignedBy source = some after) : WellKept after := by
  obtain ⟨⟨known, -, -, unowned⟩, same⟩ := insertOwner_eq_some.mp inserted
  rw [same]
  constructor
  · rw [List.map_append, List.map_singleton]
    exact List.Nodup.append kept.keys (List.nodup_singleton _)
      (List.disjoint_singleton.mpr (next_key_unused _))
  · refine List.pairwise_append.mpr ⟨kept.unique, List.pairwise_singleton _ _, ?_⟩
    intro first stored second fresh active _ named
    rw [List.mem_singleton.mp fresh] at named ⊢
    exact isOwner_eq_false.mp unowned first stored active named
  · intro owner member
    rcases List.mem_append.mp member with old | fresh
    · exact kept.known owner old
    · rw [List.mem_singleton.mp fresh]
      exact known

/-- The audit log does not matter to the owner rows. -/
theorem WellKept.writeAuditLog (kept : WellKept db) (eventType : String) (username authType detail : Option String)
    (now : String) : WellKept (writeAuditLog db eventType username authType detail now) :=
  ⟨kept.keys, kept.unique, kept.known⟩

end Kept

section Moves
variable {db after : Database}

/-- Every change of the ownerships is made of soft deletions, accepted inserts and audit rows. -/
inductive Moves (db : Database) : Database → Prop
  | start : Moves db db
  | softDelete (mid : Database) (selected : VmOwner → Bool) (reason : DeletedReason) (now : String) :
      Moves db mid → Moves db (softDelete mid selected reason now)
  | insert (mid next : Database) (guest : Guest) (userId : Int) (assignedBy : Option Int) (source : OwnerSource) :
      Moves db mid → insertOwner mid guest userId assignedBy source = some next → Moves db next
  | audit (mid : Database) (eventType : String) (username authType detail : Option String) (now : String) :
      Moves db mid → Moves db (writeAuditLog mid eventType username authType detail now)

/-- Changes of rows in sequence are changes of rows. -/
theorem Moves.trans {mid : Database} (first : Moves db mid) (second : Moves mid after) : Moves db after := by
  induction second with
  | start => exact first
  | softDelete mid selected reason now _ ih => exact .softDelete mid selected reason now ih
  | insert mid next guest userId assignedBy source _ inserted ih =>
      exact .insert mid next guest userId assignedBy source ih inserted
  | audit mid eventType username authType detail now _ ih =>
      exact .audit mid eventType username authType detail now ih

/-- A change of rows keeps them in order. -/
theorem Moves.wellKept (moves : Moves db after) (kept : WellKept db) : WellKept after := by
  induction moves with
  | start => exact kept
  | softDelete mid selected reason now _ ih => exact ih.softDelete selected reason now
  | insert mid next guest userId assignedBy source _ inserted ih => exact ih.insertOwner inserted
  | audit mid eventType username authType detail now _ ih => exact ih.writeAuditLog _ _ _ _ _

/-- Only the owner rows and the audit log change. -/
theorem Moves.frame (moves : Moves db after) :
    ∃ owners audits, after = { db with vmOwners := owners, auditLogs := audits } := by
  induction moves with
  | start => exact ⟨db.vmOwners, db.auditLogs, rfl⟩
  | softDelete mid selected reason now _ ih =>
      obtain ⟨owners, audits, same⟩ := ih
      rw [same]
      exact ⟨_, audits, rfl⟩
  | insert mid next guest userId assignedBy source _ inserted ih =>
      obtain ⟨owners, audits, same⟩ := ih
      rw [(insertOwner_eq_some.mp inserted).2, same]
      exact ⟨_, audits, rfl⟩
  | audit mid eventType username authType detail now _ ih =>
      obtain ⟨owners, audits, same⟩ := ih
      rw [same]
      exact ⟨owners, _, rfl⟩

/-- A stored row stays with its user, whether it is active or not. -/
theorem Moves.keeps (moves : Moves db after) {owner : VmOwner} (stored : owner ∈ db.vmOwners) :
    ∃ kept ∈ after.vmOwners, kept.userId = owner.userId := by
  induction moves with
  | start => exact ⟨owner, stored, rfl⟩
  | softDelete mid selected reason now _ ih =>
      obtain ⟨kept, member, named⟩ := ih
      refine ⟨markDeleted selected reason now kept, List.mem_map_of_mem member, ?_⟩
      rw [← named]
      rcases markDeleted_cases selected reason now kept with same | ⟨-, marked⟩
      · rw [same]
      · rw [marked]
  | insert mid next guest userId assignedBy source _ inserted ih =>
      obtain ⟨kept, member, named⟩ := ih
      rw [(insertOwner_eq_some.mp inserted).2]
      exact ⟨kept, List.mem_append_left _ member, named⟩
  | audit mid eventType username authType detail now _ ih => exact ih

/-- The transfer of an entry changes rows only. -/
theorem transferEntry_moves (userId toUserId : Int) (actorUsername now : String) (db : Database) (entry : VmOwner) :
    Moves db (transferEntry userId toUserId actorUsername now db entry) := by
  unfold transferEntry
  apply Moves.audit
  cases inserted : insertOwner (softDelete db (fun owner => owner.id = entry.id) .userDeleted now)
      (ownerGuest entry) toUserId none .transfer with
  | none => exact .softDelete db _ _ _ .start
  | some next => exact .insert _ next _ _ _ _ (.softDelete db _ _ _ .start) inserted

/-- Changes for each of some items are changes of rows. -/
theorem foldl_moves {A : Type} {change : Database → A → Database} (moves : ∀ db item, Moves db (change db item))
    (items : List A) (db : Database) : Moves db (items.foldl change db) := by
  induction items generalizing db with
  | nil => exact .start
  | cons item rest ih => exact (moves db item).trans (ih (change db item))

/-- The hook for a deleted user changes rows only. -/
theorem onUserDelete_moves (db : Database) (userId : Int) (actorUsername : String) (action : OwnershipAction)
    (transferToUserId : Option Int) (now : String) :
    Moves db ((onUserDelete db userId actorUsername action transferToUserId now).toOption.getD db) := by
  cases action with
  | orphan =>
      have deleted : Moves db (softDelete db (fun owner => owner.userId = userId) .userDeleted now) :=
        .softDelete db _ _ _ .start
      apply deleted.trans
      apply foldl_moves
      intro db entry
      exact .audit db _ _ _ _ _ .start
  | transfer =>
      cases transferToUserId with
      | none => exact .start
      | some toUserId => exact foldl_moves (transferEntry_moves userId toUserId actorUsername now) _ db

end Moves

end P3Portal.Owners
