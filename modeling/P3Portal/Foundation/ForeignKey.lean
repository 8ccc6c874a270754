import Mathlib.Data.List.Basic
import Mathlib.Tactic.Common

namespace P3Portal.Foundation

/-- A foreign key says what happens to the rows that refer to a deleted key. -/
inductive OnDelete {Row Key : Type} (reference : Row → Option Key) where
  | restrict
  | cascade
  | setNull (clear : Row → Row) (cleared : ∀ row, reference (clear row) = none)

structure ForeignKey (Row Key : Type) where
  reference : Row → Option Key
  onDelete : OnDelete reference

namespace ForeignKey
variable {Row Key : Type} [DecidableEq Key] (foreignKey : ForeignKey Row Key) (key : Key)

def refers (row : Row) : Bool := foreignKey.reference row = some key

/-- The deletion of a key is refused, or it changes the referring rows only. -/
def delete (rows : List Row) : Option (List Row) :=
  match foreignKey.onDelete with
  | .restrict => if rows.any (foreignKey.refers key) then none else some rows
  | .cascade => some (rows.filter fun row => !foreignKey.refers key row)
  | .setNull clear _ => some (rows.map fun row => if foreignKey.refers key row then clear row else row)

variable {foreignKey key} {rows after : List Row}

/-- A restricting key accepts the deletion exactly when nothing refers to it, and then changes nothing. -/
theorem delete_restrict_eq_some (restricts : foreignKey.onDelete = .restrict) :
    foreignKey.delete key rows = some after ↔
      (∀ row ∈ rows, foreignKey.refers key row = false) ∧ after = rows := by
  unfold delete
  rw [restricts]
  by_cases referred : rows.any (foreignKey.refers key) = true
  · rw [if_pos referred]
    obtain ⟨row, stored, refers⟩ := List.any_eq_true.mp referred
    constructor
    · intro impossible
      cases impossible
    · intro unreferred
      rw [unreferred.1 row stored] at refers
      cases refers
  · rw [if_neg referred]
    have unreferred : ∀ row ∈ rows, foreignKey.refers key row = false := fun row stored =>
      Bool.eq_false_iff.mpr fun refers => referred (List.any_eq_true.mpr ⟨row, stored, refers⟩)
    constructor
    · intro kept
      exact ⟨unreferred, (Option.some.inj kept).symm⟩
    · intro kept
      rw [kept.2]

/-- A row that does not refer to the key survives every accepted deletion as it is. -/
theorem mem_delete_of_not_refers (deleted : foreignKey.delete key rows = some after) {row : Row}
    (member : row ∈ rows) (other : foreignKey.refers key row = false) : row ∈ after := by
  unfold delete at deleted
  split at deleted
  · split at deleted
    · cases deleted
    · rw [← Option.some.inj deleted]
      exact member
  · rw [← Option.some.inj deleted]
    exact List.mem_filter.mpr ⟨member, by rw [other]; rfl⟩
  · rw [← Option.some.inj deleted]
    exact List.mem_map.mpr ⟨row, member, by rw [other]; rfl⟩

end ForeignKey
end P3Portal.Foundation
