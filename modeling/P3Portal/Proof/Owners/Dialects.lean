import P3Portal.Construction.Owners.History
import P3Portal.Proof.Owners.Removal

namespace P3Portal.Owners
open Schema Foundation Auth Automation
variable {dialect : Dialect} {db after : Database} {guest : Guest} {userId : Int}

/-- On SQLite the index looks at active rows only. -/
theorem indexHolds_sqlite (db : Database) (userId : Int) (guest : Guest) :
    indexHolds .sqlite db userId guest = isOwner db userId guest := by
  unfold indexHolds isOwner
  congr 1

theorem indexHolds_eq_false : indexHolds dialect db userId guest = false ↔
    ∀ owner ∈ db.vmOwners, owner.userId = userId → ownerGuest owner = guest →
      dialect = .sqlite ∧ owner.deletedAt ≠ none := by
  unfold indexHolds indexed
  rw [List.any_eq_false]
  apply forall₂_congr
  intro owner stored
  cases dialect with
  | sqlite =>
      simp
      tauto
  | postgresql => simp

/-- The index always counts active rows. -/
theorem isOwner_of_index_free (free : indexHolds dialect db userId guest = false) :
    isOwner db userId guest = false := by
  rw [isOwner_eq_false]
  intro owner stored active named same
  exact ((indexHolds_eq_false.mp free) owner stored named same).2 active

theorem insertOwnerOn_eq_some {assignedBy : Option Int} {source : OwnerSource} :
    insertOwnerOn dialect db guest userId assignedBy source = some after ↔
      ((Nodes.getNode db guest.nodeId).isSome = true ∧ (getUserById db userId).isSome = true ∧
        assignedBy.all (fun actor => (getUserById db actor).isSome) = true ∧
        indexHolds dialect db userId guest = false) ∧
      after = { db with vmOwners := db.vmOwners ++ [newOwner db guest userId source] } := by
  unfold insertOwnerOn
  rw [Option.ite_none_right_eq_some, Option.some_inj, @eq_comm _ after]
  simp only [Bool.and_eq_true, Bool.not_eq_true', and_assoc]
  rfl

/-- What the index of PostgreSQL accepts, the index of SQLite accepts as well. -/
theorem insertOwner_of_on {assignedBy : Option Int} {source : OwnerSource}
    (inserted : insertOwnerOn dialect db guest userId assignedBy source = some after) :
    insertOwner db guest userId assignedBy source = some after := by
  obtain ⟨⟨node, user, actor, free⟩, same⟩ := insertOwnerOn_eq_some.mp inserted
  exact insertOwner_eq_some.mpr ⟨⟨node, user, actor, isOwner_of_index_free free⟩, same⟩

theorem insertOwnerOn_sqlite (db : Database) (guest : Guest) (userId : Int) (assignedBy : Option Int)
    (source : OwnerSource) :
    insertOwnerOn .sqlite db guest userId assignedBy source = insertOwner db guest userId assignedBy source := by
  unfold insertOwnerOn insertOwner
  rw [indexHolds_sqlite]

section Add
variable {maxOwnerships : Option Int} {actorUserId : Int} {source : OwnerSource} {actorUsername now : String}

/-- On SQLite the service is the one without a dialect. -/
theorem addOwnerOn_sqlite : addOwnerOn .sqlite maxOwnerships db guest userId actorUserId source actorUsername now =
    addOwner maxOwnerships db guest userId actorUserId source actorUsername now := by
  unfold addOwnerOn addOwner
  exact insertOwnerOn_sqlite db guest userId (some actorUserId) source ▸ rfl

theorem activeRows_eq_zero : activeRows db userId guest = 0 ↔ isOwner db userId guest = false := by
  rw [← Bool.not_eq_true, ← activeRows_pos]
  omega

/-- An active user below the limit is added exactly when the insert is accepted. -/
theorem addOwnerOn_eq_ok {target : LocalUser} (below : limitReached maxOwnerships db userId = none)
    (known : getUserById db userId = some target) (active : target.active = true) :
    addOwnerOn dialect maxOwnerships db guest userId actorUserId source actorUsername now = .ok after ↔
      ∃ inserted, insertOwnerOn dialect db guest userId (some actorUserId) source = some inserted ∧
        after = writeAuditLog inserted "owner_added" (some actorUsername) (some "local")
          (some ("Co-Owner user_id=" ++ toString userId ++ " hinzugefügt zu " ++ guest.label)) now := by
  unfold addOwnerOn
  rw [below, known]
  dsimp only
  rw [active, Bool.not_true, if_neg Bool.false_ne_true]
  cases insertOwnerOn dialect db guest userId (some actorUserId) source with
  | none => simp
  | some inserted => simp [eq_comm]

/-- The addition succeeds exactly when there is no active row, and then there is exactly one. -/
def AddWorks (dialect : Dialect) (maxOwnerships : Option Int) (db : Database) (guest : Guest) (userId actorUserId : Int)
    (source : OwnerSource) (actorUsername now : String) : Prop :=
  ((∃ after, addOwnerOn dialect maxOwnerships db guest userId actorUserId source actorUsername now = .ok after) ↔
      activeRows db userId guest = 0) ∧
    ∀ after, addOwnerOn dialect maxOwnerships db guest userId actorUserId source actorUsername now = .ok after →
      activeRows after userId guest = 1

/-- An accepted insert leaves exactly one active row. -/
theorem activeRows_insertOwnerOn {assignedBy : Option Int}
    (inserted : insertOwnerOn dialect db guest userId assignedBy source = some after) :
    activeRows after userId guest = 1 := by
  obtain ⟨⟨-, -, -, free⟩, same⟩ := insertOwnerOn_eq_some.mp inserted
  have before : activeRows db userId guest = 0 := activeRows_eq_zero.mpr (isOwner_of_index_free free)
  have fresh : (activeFor userId (newOwner db guest userId source) &&
      ownerGuest (newOwner db guest userId source) = guest) = true := by
    simp [activeFor, newOwner, ownerGuest]
  rw [same]
  unfold activeRows at before ⊢
  rw [List.filter_append, List.length_append, before, List.filter_singleton, fresh]
  rfl

/-- Whatever happened before, the addition of an active user below the limit works exactly when the user owns the guest
already, or when the installation and the actor are stored and, on PostgreSQL, the user never owned the guest. -/
theorem addOwner_works_iff (start : Database) (requests : List OwnerRequest) {target : LocalUser}
    (below : limitReached maxOwnerships (run (requestStep dialect maxOwnerships) start requests) userId = none)
    (known : getUserById (run (requestStep dialect maxOwnerships) start requests) userId = some target)
    (active : target.active = true) :
    AddWorks dialect maxOwnerships (run (requestStep dialect maxOwnerships) start requests) guest userId
        actorUserId source actorUsername now ↔
      isOwner (run (requestStep dialect maxOwnerships) start requests) userId guest = true ∨
      (Nodes.getNode (run (requestStep dialect maxOwnerships) start requests) guest.nodeId).isSome = true ∧
        (getUserById (run (requestStep dialect maxOwnerships) start requests) actorUserId).isSome = true ∧
        (dialect = .postgresql → ∀ owner ∈ (run (requestStep dialect maxOwnerships) start requests).vmOwners,
          owner.userId = userId → ownerGuest owner ≠ guest) := by
  generalize run (requestStep dialect maxOwnerships) start requests = db at below known ⊢
  have one : ∀ after,
      addOwnerOn dialect maxOwnerships db guest userId actorUserId source actorUsername now = .ok after →
      activeRows after userId guest = 1 := by
    intro after added
    obtain ⟨inserted, accepted, same⟩ := (addOwnerOn_eq_ok below known active).mp added
    have unlogged : activeRows after userId guest = activeRows inserted userId guest := by rw [same]; rfl
    rw [unlogged]
    exact activeRows_insertOwnerOn accepted
  have succeeds : (∃ after, addOwnerOn dialect maxOwnerships db guest userId actorUserId source actorUsername now =
      .ok after) ↔ (Nodes.getNode db guest.nodeId).isSome = true ∧ (getUserById db actorUserId).isSome = true ∧
        indexHolds dialect db userId guest = false := by
    simp only [addOwnerOn_eq_ok below known active, insertOwnerOn_eq_some, known, Option.isSome_some, true_and,
      Option.all_some]
    constructor
    · rintro ⟨after, inserted, ⟨⟨node, actor, free⟩, -⟩, -⟩
      exact ⟨node, actor, free⟩
    · rintro ⟨node, actor, free⟩
      exact ⟨_, _, ⟨⟨node, actor, free⟩, rfl⟩, rfl⟩
  unfold AddWorks
  rw [and_iff_left one, succeeds, activeRows_eq_zero]
  constructor
  · intro works
    by_cases owned : isOwner db userId guest = true
    · exact .inl owned
    · obtain ⟨node, actor, free⟩ := works.mpr (Bool.not_eq_true _ ▸ owned)
      refine .inr ⟨node, actor, ?_⟩
      rintro rfl owner stored named same
      exact absurd (indexHolds_eq_false.mp free owner stored named same).1 (by decide)
  · rintro (owned | ⟨node, actor, never⟩)
    · rw [owned]
      refine iff_of_false ?_ (by decide)
      rintro ⟨-, -, free⟩
      rw [isOwner_of_index_free free] at owned
      cases owned
    · constructor
      · intro works
        exact isOwner_of_index_free works.2.2
      · intro unowned
        refine ⟨node, actor, indexHolds_eq_false.mpr ?_⟩
        intro owner stored named same
        cases dialect with
        | sqlite => exact ⟨rfl, fun held => isOwner_eq_false.mp unowned owner stored held named same⟩
        | postgresql => exact absurd same (never rfl owner stored named)

/-- A portal with an admin, an operator and one installation. -/
def twoUsers : Database where
  localUsers := [{ id := 1, username := "admin", role := .admin }, { id := 2, username := "operator" }]
  nodes := [{ id := 1, name := "pve", url := "https://pve:8006", proxmoxNode := "pve" }]

/-- The admin adopts a guest, and the operator becomes an owner for a while. -/
def ownedForAWhile : List OwnerRequest :=
  [.adopt ⟨.vm, 1, 100⟩ 1 "admin" "2026-01-01", .addOwner ⟨.vm, 1, 100⟩ 2 1 .coownerAdd "admin" "2026-01-02",
    .removeOwner ⟨.vm, 1, 100⟩ 2 false .adminRemoved "admin" "2026-01-03"]

/-- On SQLite the removed owner is added again. -/
theorem addOwner_works_after_removal : AddWorks .sqlite (some 3)
    (run (requestStep .sqlite (some 3)) twoUsers ownedForAWhile) ⟨.vm, 1, 100⟩ 2 1 .coownerAdd "admin" "2026-01-04" ∧
    (run (requestStep .sqlite (some 3)) twoUsers ownedForAWhile).vmOwners.countP (·.userId = 2) = 1 := by
  have below : limitReached (some 3) (run (requestStep .sqlite (some 3)) twoUsers ownedForAWhile) 2 = none := by
    decide +kernel
  have known : getUserById (run (requestStep .sqlite (some 3)) twoUsers ownedForAWhile) 2 =
      some { id := 2, username := "operator" } := by
    decide +kernel
  have stored : (Nodes.getNode (run (requestStep .sqlite (some 3)) twoUsers ownedForAWhile) 1).isSome = true ∧
      (getUserById (run (requestStep .sqlite (some 3)) twoUsers ownedForAWhile) 1).isSome = true := by
    decide +kernel
  refine ⟨(addOwner_works_iff twoUsers ownedForAWhile below known rfl).mpr ?_, by decide +kernel⟩
  exact .inr ⟨stored.1, stored.2, fun other => by cases other⟩

/-- On PostgreSQL the removed owner has no active row and cannot be added again. -/
theorem removed_owner_refused :
    (getUserById (run (requestStep .postgresql none) twoUsers ownedForAWhile) 2).map LocalUser.active = some true ∧
    limitReached none (run (requestStep .postgresql none) twoUsers ownedForAWhile) 2 = none ∧
    activeRows (run (requestStep .postgresql none) twoUsers ownedForAWhile) 2 ⟨.vm, 1, 100⟩ = 0 ∧
    ¬ AddWorks .postgresql none (run (requestStep .postgresql none) twoUsers ownedForAWhile) ⟨.vm, 1, 100⟩ 2 1
      .coownerAdd "admin" "2026-01-04" := by
  have removed : activeRows (run (requestStep .postgresql none) twoUsers ownedForAWhile) 2 ⟨.vm, 1, 100⟩ = 0 := by
    decide +kernel
  have refused : insertOwnerOn .postgresql (run (requestStep .postgresql none) twoUsers ownedForAWhile)
      ⟨.vm, 1, 100⟩ 2 (some 1) .coownerAdd = none := by
    decide +kernel
  have known : getUserById (run (requestStep .postgresql none) twoUsers ownedForAWhile) 2 =
      some { id := 2, username := "operator" } := by
    decide +kernel
  refine ⟨by rw [known]; rfl, rfl, removed, ?_⟩
  intro works
  obtain ⟨after, added⟩ := works.1.mpr removed
  obtain ⟨inserted, accepted, -⟩ := (addOwnerOn_eq_ok rfl known rfl).mp added
  rw [refused] at accepted
  cases accepted

end Add
end P3Portal.Owners
