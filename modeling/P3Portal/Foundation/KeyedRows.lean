import Mathlib.Algebra.Order.Ring.Int
import Mathlib.Data.List.Nodup
import Mathlib.Tactic.Common

namespace P3Portal.Foundation

theorem le_foldl_max (keys : List Int) (start : Int) :
    start ≤ keys.foldl max start ∧ ∀ key ∈ keys, key ≤ keys.foldl max start := by
  induction keys generalizing start with
  | nil =>
      constructor
      · exact le_refl start
      · intro key absent
        cases absent
  | cons first rest ih =>
      have later := ih (max start first)
      rw [List.foldl_cons]
      constructor
      · exact le_trans (le_max_left start first) later.1
      · intro key member
        rcases List.mem_cons.mp member with here | there
        · rw [here]
          exact le_trans (le_max_right start first) later.1
        · exact later.2 key there

/-- The key after the greatest one is not in use. -/
theorem next_key_unused (keys : List Int) : keys.foldl max 0 + 1 ∉ keys := by
  intro used
  have bound := (le_foldl_max keys 0).2 _ used
  omega

section Keyed
variable {Row Key : Type} {key : Row → Key} {rows : List Row} {row : Row}

/-- A row that a key finds is stored under this key. -/
theorem find?_key_spec [DecidableEq Key] {wanted : Key}
    (found : rows.find? (fun row => key row = wanted) = some row) : row ∈ rows ∧ key row = wanted := by
  have named := List.find?_some found
  rw [decide_eq_true_eq] at named
  exact ⟨List.mem_of_find?_eq_some found, named⟩

/-- A key that is unique in the table finds its row. -/
theorem find?_key [DecidableEq Key] (unique : (rows.map key).Nodup) (stored : row ∈ rows) :
    rows.find? (fun other => key other = key row) = some row := by
  cases found : rows.find? fun other => key other = key row with
  | none => exact absurd (decide_eq_true rfl) (List.find?_eq_none.mp found row stored)
  | some other =>
      obtain ⟨member, named⟩ := find?_key_spec found
      rw [List.inj_on_of_nodup_map unique member stored named]

/-- A change that keeps the keys changes the row that a key finds. -/
theorem find?_map_key [DecidableEq Key] {change : Row → Row} (named : ∀ row, key (change row) = key row)
    (wanted : Key) :
    (rows.map change).find? (fun row => key row = wanted) =
      (rows.find? fun row => key row = wanted).map change := by
  have same : ((fun row => decide (key row = wanted)) ∘ change) = fun row => decide (key row = wanted) := by
    funext row
    simp only [Function.comp_apply, named]
  rw [List.find?_map, same]

/-- A change of selected rows that keeps their keys changes the row that a key finds when it is selected. -/
theorem find?_map_selected [DecidableEq Key] (selected : Row → Prop) [DecidablePred selected] {change : Row → Row}
    (named : ∀ row, key (change row) = key row) (wanted : Key) :
    (rows.map fun row => if selected row then change row else row).find? (fun row => key row = wanted) =
      (rows.find? fun row => key row = wanted).map fun row => if selected row then change row else row := by
  apply find?_map_key
  intro row
  split
  · exact named row
  · rfl

/-- A column that the change of selected rows keeps is the same in the whole table. -/
theorem map_column_selected {Column : Type} (selected : Row → Prop) [DecidablePred selected] {column : Row → Column}
    {change : Row → Row} (named : ∀ row, column (change row) = column row) :
    (rows.map fun row => if selected row then change row else row).map column = rows.map column := by
  rw [List.map_map]
  apply List.map_congr_left
  intro row _
  rw [Function.comp_apply]
  split
  · exact named row
  · rfl

/-- A row with an unused key joins the table. -/
theorem nodup_append_key (unique : (rows.map key).Nodup) (unused : key row ∉ rows.map key) :
    ((rows ++ [row]).map key).Nodup := by
  rw [List.map_append, List.map_singleton, ← List.concat_eq_append]
  exact unique.concat unused

/-- Besides a marked row there is another one exactly when more than one row is marked. -/
theorem one_lt_countP_iff (unique : (rows.map key).Nodup) (stored : row ∈ rows) {marked : Row → Bool}
    (present : marked row = true) :
    1 < rows.countP marked ↔ ∃ other ∈ rows, marked other = true ∧ key other ≠ key row := by
  obtain ⟨before, later, same⟩ := List.append_of_mem stored
  have several : 1 < rows.countP marked ↔ 0 < before.countP marked ∨ 0 < later.countP marked := by
    rw [same, List.countP_append, List.countP_cons, if_pos present]
    omega
  have apart : ∀ other, other ∈ before ∨ other ∈ later → key other ≠ key row := by
    rw [same, List.map_append, List.map_cons, List.nodup_append] at unique
    intro other member
    rcases member with first | second
    · exact unique.2.2 _ (List.mem_map_of_mem first) _ List.mem_cons_self
    · intro equal
      apply (List.nodup_cons.mp unique.2.1).1
      rw [← equal]
      exact List.mem_map_of_mem second
  rw [several, List.countP_pos_iff, List.countP_pos_iff]
  constructor
  · intro found
    rcases found with ⟨other, member, holds⟩ | ⟨other, member, holds⟩
    · exact ⟨other, by rw [same]; exact List.mem_append_left _ member, holds, apart other (.inl member)⟩
    · refine ⟨other, ?_, holds, apart other (.inr member)⟩
      rw [same]
      exact List.mem_append_right _ (List.mem_cons_of_mem _ member)
  · intro found
    obtain ⟨other, member, holds, different⟩ := found
    rw [same] at member
    rcases List.mem_append.mp member with first | second
    · exact .inl ⟨other, first, holds⟩
    · rcases List.mem_cons.mp second with here | there
      · exact absurd (congrArg key here) different
      · exact .inr ⟨other, there, holds⟩

/-- In a table with unique keys a key finds its row among the kept rows when the row is kept. -/
theorem find?_filter_key [DecidableEq Key] (unique : (rows.map key).Nodup) (keep : Row → Bool) (wanted : Key) :
    (rows.filter keep).find? (fun row => key row = wanted) = (rows.find? fun row => key row = wanted).filter keep := by
  cases found : rows.find? fun row => key row = wanted with
  | none =>
      rw [Option.filter_none, List.find?_eq_none]
      rw [List.find?_eq_none] at found
      exact fun row member => found row (List.mem_of_mem_filter member)
  | some row =>
      obtain ⟨member, named⟩ := find?_key_spec found
      rw [Option.filter_some]
      split
      · rename_i kept
        have remaining : ((rows.filter keep).map key).Nodup := unique.sublist (List.filter_sublist.map key)
        have again := find?_key remaining (List.mem_filter.mpr ⟨member, kept⟩)
        rwa [named] at again
      · rename_i dropped
        rw [List.find?_eq_none]
        intro other remains same
        have one : other = row := List.inj_on_of_nodup_map unique (List.mem_of_mem_filter remains) member
          ((of_decide_eq_true same).trans named.symm)
        rw [one] at remains
        exact dropped (List.of_mem_filter remains)

/-- A row is still stored after a change that keeps the keys exactly when the change leaves it as it is. -/
theorem mem_map_iff_unchanged (unique : (rows.map key).Nodup) {change : Row → Row}
    (named : ∀ row, key (change row) = key row) (stored : row ∈ rows) :
    row ∈ rows.map change ↔ change row = row := by
  constructor
  · intro member
    obtain ⟨other, otherStored, same⟩ := List.mem_map.mp member
    have one : key other = key row := by
      rw [← same, named]
    rw [List.inj_on_of_nodup_map unique otherStored stored one] at same
    exact same
  · intro same
    rw [← same]
    exact List.mem_map_of_mem stored

/-- The replacement of the row of a key changes nothing exactly when it is the stored row. -/
theorem map_replace_eq_self_iff [DecidableEq Key] (unique : (rows.map key).Nodup) (stored : row ∈ rows) (replaced : Row) :
    (rows.map fun other => if key other = key row then replaced else other) = rows ↔ replaced = row := by
  have unchanged : (rows.map fun other => if key other = key row then replaced else other) = rows ↔
      ∀ other ∈ rows, (if key other = key row then replaced else other) = other := by
    have plain := List.map_inj_left (f := fun other => if key other = key row then replaced else other) (g := id) (l := rows)
    rwa [List.map_id] at plain
  rw [unchanged]
  constructor
  · intro every
    have here := every row stored
    rwa [if_pos rfl] at here
  · intro same other listed
    split
    · rename_i equal
      rw [same]
      exact List.inj_on_of_nodup_map unique stored listed equal.symm
    · rfl

/-- A change that unmarks the selected rows takes them out of the count. -/
theorem countP_map_unmarked {marked selected : Row → Bool} {change : Row → Row}
    (unmarks : ∀ row, marked (change row) = (marked row && !selected row)) (rows : List Row) :
    (rows.map change).countP marked + rows.countP (fun row => marked row && selected row) = rows.countP marked := by
  induction rows with
  | nil => rfl
  | cons row rest ih =>
      rw [List.map_cons, List.countP_cons, List.countP_cons, List.countP_cons, unmarks, ← ih]
      cases marked row <;> cases selected row <;> simp <;> omega

/-- Rows that exclude each other are marked at most once. -/
theorem countP_le_one {marked : Row → Bool}
    (apart : rows.Pairwise fun first second => marked first = true → marked second = false) :
    rows.countP marked ≤ 1 := by
  induction rows with
  | nil => exact Nat.zero_le 1
  | cons row rest ih =>
      obtain ⟨excluded, further⟩ := List.pairwise_cons.mp apart
      rw [List.countP_cons]
      by_cases here : marked row = true
      · have none_left : rest.countP marked = 0 := by
          rw [List.countP_eq_zero]
          intro other member
          rw [excluded other member here]
          exact Bool.false_ne_true
        rw [none_left, if_pos here]
      · rw [if_neg here]
        exact ih further

end Keyed
end P3Portal.Foundation
