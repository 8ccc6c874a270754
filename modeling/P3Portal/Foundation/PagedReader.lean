import Mathlib.Data.List.Basic
import Mathlib.Tactic.Common

namespace P3Portal.Foundation.PagedReader
variable {A : Type} (limit : Nat)

/-- A page holds at most the limit of elements from a position on. -/
def page (position : Nat) (snapshot : List A) : List A := (snapshot.drop position).take limit

/-- A reader asks each snapshot for the page behind the elements that it has seen. -/
def collected (position : Nat) : List (List A) → List A
  | [] => []
  | snapshot :: rest => page limit position snapshot ++ collected (position + (page limit position snapshot).length) rest

/-- The position of the reader behind the last page. -/
def advance (position : Nat) : List (List A) → Nat
  | [] => position
  | snapshot :: rest => advance (position + (page limit position snapshot).length) rest

/-- Every snapshot continues the one before, and the whole continues all of them. -/
def Grows (snapshots : List (List A)) (whole : List A) : Prop := (snapshots ++ [whole]).Pairwise (· <+: ·)

section Reading
variable {limit} {position : Nat} {snapshot whole : List A} {rest snapshots : List (List A)}

theorem Grows.tail (grows : Grows (snapshot :: rest) whole) : Grows rest whole := (List.pairwise_cons.mp grows).2

theorem Grows.front (grows : Grows (snapshot :: rest) whole) : snapshot <+: whole :=
  (List.pairwise_cons.mp grows).1 whole (List.mem_append_right rest List.mem_cons_self)

/-- A reader that has not passed a snapshot has not passed the next ones either. -/
theorem Grows.later (grows : Grows (snapshot :: rest) whole) {bound : Nat} (within : bound ≤ snapshot.length) :
    ∀ next ∈ rest, bound ≤ next.length := by
  intro next member
  have continued := (List.pairwise_cons.mp grows).1 next (List.mem_append_left _ member)
  exact Nat.le_trans within continued.length_le

theorem page_length (within : position ≤ snapshot.length) :
    position + (page limit position snapshot).length = min snapshot.length (position + limit) := by
  simp only [page, List.length_take, List.length_drop]
  omega

/-- A page continues what was read of the whole. -/
theorem take_page (continued : snapshot <+: whole) (within : position ≤ snapshot.length) :
    whole.take position ++ page limit position snapshot =
      whole.take (position + (page limit position snapshot).length) := by
  obtain ⟨behind, rfl⟩ := continued
  rw [page_length within, page, List.take_append_of_le_length within, List.take_append_of_le_length (Nat.min_le_left _ _),
    ← List.take_append_drop position (snapshot.take (min snapshot.length (position + limit))), List.take_take,
    List.drop_take]
  have shorter : min position (min snapshot.length (position + limit)) = position := by omega
  rw [shorter]
  congr 1
  by_cases enough : position + limit ≤ snapshot.length
  · rw [Nat.min_eq_right enough, Nat.add_sub_cancel_left]
  · have short : (snapshot.drop position).length ≤ limit := by
      rw [List.length_drop]
      omega
    have rest : (snapshot.drop position).length ≤ snapshot.length - position := Nat.le_of_eq List.length_drop
    rw [Nat.min_eq_left (by omega), List.take_of_length_le short, List.take_of_length_le rest]

/-- What the reader collects is what it has read of the whole. -/
theorem take_collected (grows : Grows snapshots whole) (within : ∀ snapshot ∈ snapshots, position ≤ snapshot.length) :
    whole.take position ++ collected limit position snapshots = whole.take (advance limit position snapshots) := by
  induction snapshots generalizing position with
  | nil => exact List.append_nil _
  | cons snapshot rest ih =>
      have here := within snapshot List.mem_cons_self
      have reached : position + (page limit position snapshot).length ≤ snapshot.length := by
        rw [page_length here]
        exact Nat.min_le_left _ _
      rw [collected, advance, ← List.append_assoc, take_page grows.front here]
      exact ih grows.tail (grows.later reached)

/-- The reader gets as far as every snapshot and its pages let it. -/
theorem le_advance_iff (grows : Grows snapshots whole) (within : ∀ snapshot ∈ snapshots, position ≤ snapshot.length)
    (goal : Nat) :
    goal ≤ advance limit position snapshots ↔ goal ≤ position + limit * snapshots.length ∧
      ∀ earlier snapshot later, snapshots = earlier ++ snapshot :: later → goal ≤ snapshot.length + limit * later.length := by
  induction snapshots generalizing position with
  | nil => simp [advance]
  | cons snapshot rest ih =>
      have here := within snapshot List.mem_cons_self
      have moved := @page_length A limit position snapshot here
      have reached : position + (page limit position snapshot).length ≤ snapshot.length := by
        rw [moved]
        exact Nat.min_le_left _ _
      rw [advance, ih grows.tail (grows.later reached), moved, List.length_cons, Nat.mul_succ]
      constructor
      · rintro ⟨bound, behind⟩
        refine ⟨by omega, fun earlier other later split => ?_⟩
        cases earlier with
        | nil =>
            obtain ⟨rfl, rfl⟩ := List.cons.inj split
            omega
        | cons first earlier => exact behind earlier other later (List.cons.inj split).2
      · rintro ⟨bound, all⟩
        have first := all [] snapshot rest rfl
        refine ⟨by omega, fun earlier other later split => all (snapshot :: earlier) other later ?_⟩
        rw [split]
        rfl

end Reading

theorem collected_append (position : Nat) (front back : List (List A)) :
    collected limit position (front ++ back) =
      collected limit position front ++ collected limit (advance limit position front) back := by
  induction front generalizing position with
  | nil => rfl
  | cons snapshot rest ih =>
      rw [List.cons_append, collected, collected, advance, ih, List.append_assoc]

end P3Portal.Foundation.PagedReader
