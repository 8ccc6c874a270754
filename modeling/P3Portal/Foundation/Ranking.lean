import Mathlib.Data.List.MinMax
import Mathlib.Data.List.Sort
import Mathlib.Tactic.Common

namespace P3Portal.Foundation

section Top
variable {Row Key : Type} [LinearOrder Key] (key : Row → Key)

/-- The rows in descending order of a key up to a limit; equal rows keep their order. -/
def topBy (limit : Nat) (rows : List Row) : List Row :=
  (rows.insertionSort fun left right => key right ≤ key left).take limit

variable {key} {limit : Nat} {rows : List Row} {row : Row}

/-- A limit that no list of this length reaches drops nothing. -/
theorem topBy_perm (fits : rows.length ≤ limit) : (topBy key limit rows).Perm rows := by
  unfold topBy
  rw [List.take_of_length_le (by rwa [List.length_insertionSort])]
  exact List.perm_insertionSort _ rows

theorem mem_topBy (member : row ∈ topBy key limit rows) : row ∈ rows :=
  (List.mem_insertionSort _).mp (List.mem_of_mem_take member)

end Top

section Ties
variable {Row Key : Type} [LinearOrder Key]

/-- A database returns rows in descending order of a key, and rows with equal keys in any order. -/
structure Sorter (key : Row → Key) where
  order : List Row → List Row
  perm : ∀ rows, (order rows).Perm rows
  descending : ∀ rows, (order rows).Pairwise fun left right => key right ≤ key left

/-- The sorter that keeps the order of rows with equal keys after a rearrangement of its input. -/
def Sorter.stableAfter (key : Row → Key) (arrange : List Row → List Row)
    (arranged : ∀ rows, (arrange rows).Perm rows) : Sorter key where
  order rows := (arrange rows).insertionSort fun left right => key right ≤ key left
  perm rows := (List.perm_insertionSort _ _).trans (arranged rows)
  descending rows := by
    have : Std.Total fun left right : Row => key right ≤ key left := ⟨fun left right => le_total _ _⟩
    have : IsTrans Row fun left right => key right ≤ key left := ⟨fun _ _ _ first second => second.trans first⟩
    exact List.pairwise_insertionSort _ _

/-- The sorter that keeps the order of rows with equal keys. -/
def Sorter.stable (key : Row → Key) : Sorter key := .stableAfter key id fun rows => .refl rows

variable {key : Row → Key} (sorter : Sorter key) {limit : Nat} {rows : List Row} {row : Row}

/-- `ORDER BY key DESC LIMIT limit` -/
def Sorter.select (limit : Nat) (rows : List Row) : List Row := (sorter.order rows).take limit

theorem Sorter.mem_order : row ∈ sorter.order rows ↔ row ∈ rows := (sorter.perm rows).mem_iff

theorem Sorter.mem_of_select (member : row ∈ sorter.select limit rows) : row ∈ rows :=
  (sorter.perm rows).mem_iff.mp (List.mem_of_mem_take member)

/-- A row that the limit cuts off finds the limit used up by rows that are at least as high. -/
theorem Sorter.select_or_full (member : row ∈ rows) :
    row ∈ sorter.select limit rows ∨ ((sorter.select limit rows).length = limit ∧
      ∀ other ∈ sorter.select limit rows, key row ≤ key other) := by
  have sorted := sorter.descending rows
  have inside := (sorter.perm rows).mem_iff.mpr member
  rw [← List.take_append_drop limit (sorter.order rows), List.pairwise_append] at sorted
  rw [← List.take_append_drop limit (sorter.order rows), List.mem_append] at inside
  rcases inside with kept | cut
  · exact .inl kept
  · right
    have long : limit < (sorter.order rows).length := by
      by_contra short
      rw [List.drop_of_length_le (by omega)] at cut
      cases cut
    refine ⟨?_, fun other selected => sorted.2.2 other selected row cut⟩
    rw [Sorter.select, List.length_take]
    omega

/-- Some sorter puts a given row first among rows with its key. -/
theorem Sorter.exists_first (key : Row → Key) (row : Row) :
    ∃ sorter : Sorter key, ∀ rows limit, row ∈ rows → (∀ other ∈ rows, key other = key row) → 0 < limit →
      row ∈ sorter.select limit rows := by
  classical
  let arrange : List Row → List Row := fun rows => if row ∈ rows then row :: rows.erase row else rows
  have arranged : ∀ rows, (arrange rows).Perm rows := by
    intro rows
    by_cases member : row ∈ rows
    · simp only [arrange, if_pos member]
      exact (List.perm_cons_erase member).symm
    · simp only [arrange, if_neg member]
      exact .refl rows
  refine ⟨.stableAfter key arrange arranged, ?_⟩
  intro rows limit member level positive
  have first : (Sorter.stableAfter key arrange arranged).order rows =
      List.orderedInsert (fun left right => key right ≤ key left) row
        ((rows.erase row).insertionSort fun left right => key right ≤ key left) := by
    simp only [Sorter.stableAfter, arrange, if_pos member]
    rfl
  obtain ⟨more, rfl⟩ : ∃ more, limit = more + 1 := ⟨limit - 1, by omega⟩
  rw [Sorter.select, first]
  cases rest : (rows.erase row).insertionSort fun left right => key right ≤ key left with
  | nil => simp
  | cons other others =>
      have listed : other ∈ rows.erase row := by
        rw [← List.mem_insertionSort fun left right => key right ≤ key left, rest]
        exact List.mem_cons_self
      rw [List.orderedInsert, if_pos (le_of_eq (level other (List.mem_of_mem_erase listed)))]
      simp

end Ties

section Highest
variable {Item Rank : Type} [LinearOrder Rank] {rank : Item → Rank} {items others : List Item}

/-- Each item has an item of the other list that is at least as high. -/
def Dominated (rank : Item → Rank) (items others : List Item) : Prop :=
  ∀ item ∈ items, ∃ other ∈ others, rank item ≤ rank other

/-- A list with an item has a highest item, and this item dominates the list. -/
theorem exists_argmax (rank : Item → Rank) {item : Item} (member : item ∈ items) :
    ∃ highest ∈ items, items.argmax rank = some highest ∧ rank item ≤ rank highest := by
  cases found : items.argmax rank with
  | none =>
      rw [List.argmax_eq_none.mp found] at member
      cases member
  | some highest =>
      have here : highest ∈ items.argmax rank := found
      exact ⟨highest, List.argmax_mem here, rfl, List.le_of_mem_argmax member here⟩

/-- Two lists that dominate each other have the same highest item when the rank tells items apart. -/
theorem argmax_eq_of_dominated (apart : Function.Injective rank) (upper : Dominated rank items others)
    (lower : Dominated rank others items) : items.argmax rank = others.argmax rank := by
  cases items with
  | nil =>
      cases others with
      | nil => rfl
      | cons other rest =>
          obtain ⟨item, absent, -⟩ := lower other List.mem_cons_self
          cases absent
  | cons first rest =>
      obtain ⟨highest, member, found, -⟩ := exists_argmax rank (List.mem_cons_self : first ∈ first :: rest)
      obtain ⟨other, otherMember, above⟩ := upper highest member
      obtain ⟨top, topMember, topFound, topAbove⟩ := exists_argmax rank otherMember
      obtain ⟨item, itemMember, below⟩ := lower top topMember
      have atMost : rank item ≤ rank highest := List.le_of_mem_argmax itemMember found
      rw [found, topFound]
      exact congrArg some (apart (le_antisymm (above.trans topAbove) (below.trans atMost)))

/-- Lists with the same items dominate each other. -/
theorem Dominated.of_subset (subset : items ⊆ others) : Dominated rank items others :=
  fun item member => ⟨item, subset member, le_refl _⟩

theorem Dominated.append {more : List Item} (first : Dominated rank items others)
    (second : Dominated rank more others) : Dominated rank (items ++ more) others := by
  intro item member
  rcases List.mem_append.mp member with here | there
  · exact first item here
  · exact second item there

end Highest
end P3Portal.Foundation
