import Mathlib.Algebra.Order.Ring.Int
import Mathlib.Data.List.Nodup
import Mathlib.Data.List.Range
import Mathlib.Tactic.Common

namespace P3Portal.Foundation

/-- Two lists hold the same set of keys. -/
def sameKeys (first second : List Int) : Bool :=
  first.all (second.contains ·) && second.all (first.contains ·)

theorem sameKeys_iff {first second : List Int} :
    sameKeys first second = true ↔ ∀ key, key ∈ first ↔ key ∈ second := by
  rw [sameKeys, Bool.and_eq_true, List.all_eq_true, List.all_eq_true]
  simp only [List.contains_iff_mem]
  exact ⟨fun both key => ⟨both.1 key, both.2 key⟩, fun same => ⟨fun key => (same key).mp, fun key => (same key).mpr⟩⟩

/-- Two lists that hold the same set of keys, each once, are permutations of each other. -/
theorem sameKeys_perm {first second : List Int} (distinct : first.Nodup) (unique : second.Nodup)
    (same : sameKeys first second = true) : first.Perm second :=
  (List.perm_ext_iff_of_nodup distinct unique).mpr (sameKeys_iff.mp same)

/-- Rows have a key that stays and a position that a write replaces. -/
structure Positioned (Row : Type) where
  key : Row → Int
  position : Row → Int
  place : Row → Nat → Row
  key_place : ∀ row index, key (place row index) = key row
  position_place : ∀ row index, position (place row index) = index
  place_place : ∀ row first second, place (place row first) second = place row second

namespace Positioned
variable {Row : Type} (table : Positioned Row)

/-- The loop writes the index of each key, starting from a number, to the eligible rows with the key. -/
def renumberFrom (eligible : Row → Bool) (start : Nat) : List Int → List Row → List Row
  | [], rows => rows
  | wanted :: rest, rows => renumberFrom eligible (start + 1) rest
      (rows.map fun row => if table.key row = wanted && eligible row then table.place row start else row)

/-- `for position, key in enumerate(keys)` with one update for each key. -/
def renumber (eligible : Row → Bool) (keys : List Int) (rows : List Row) : List Row :=
  table.renumberFrom eligible 0 keys rows

/-- A key that occurs several times ends at its last index. -/
def lastIndex (start : Nat) : List Int → Int → Option Nat
  | [], _ => none
  | first :: rest, wanted => (lastIndex (start + 1) rest wanted).or (if first = wanted then some start else none)

/-- The row at the last index of its key, or as it is when the key is not listed. -/
def settle (eligible : Row → Bool) (start : Nat) (keys : List Int) (row : Row) : Row :=
  match lastIndex start keys (table.key row) with
  | some index => if eligible row then table.place row index else row
  | none => row

theorem lastIndex_bounds {start : Nat} {keys : List Int} {wanted : Int} {index : Nat}
    (found : lastIndex start keys wanted = some index) :
    start ≤ index ∧ index < start + keys.length ∧ keys[index - start]? = some wanted := by
  induction keys generalizing start with
  | nil => cases found
  | cons first rest ih =>
      rw [lastIndex, Option.or_eq_some_iff] at found
      rw [List.length_cons]
      rcases found with later | ⟨-, here⟩
      · obtain ⟨above, below, stored⟩ := ih later
        obtain ⟨offset, rfl⟩ := Nat.exists_eq_add_of_le above
        refine ⟨by omega, by omega, ?_⟩
        rw [show start + 1 + offset - start = offset + 1 by omega, List.getElem?_cons_succ]
        rwa [show start + 1 + offset - (start + 1) = offset by omega] at stored
      · split at here
        · rename_i same
          rw [← Option.some.inj here, Nat.sub_self]
          exact ⟨by omega, by omega, congrArg some same⟩
        · cases here

/-- Different keys end at different indices. -/
theorem lastIndex_injective {start : Nat} {keys : List Int} {first second : Int} {index : Nat}
    (one : lastIndex start keys first = some index) (other : lastIndex start keys second = some index) :
    first = second :=
  Option.some.inj ((lastIndex_bounds one).2.2.symm.trans (lastIndex_bounds other).2.2)

theorem lastIndex_isSome {start : Nat} {keys : List Int} {wanted : Int} (member : wanted ∈ keys) :
    (lastIndex start keys wanted).isSome = true := by
  induction keys generalizing start with
  | nil => cases member
  | cons first rest ih =>
      rw [lastIndex, Option.isSome_or, Bool.or_eq_true]
      rcases List.mem_cons.mp member with here | later
      · rw [if_pos here.symm]
        exact .inr rfl
      · exact .inl (ih later)

theorem lastIndex_eq_none {start : Nat} {keys : List Int} {wanted : Int} (absent : wanted ∉ keys) :
    lastIndex start keys wanted = none := by
  apply Option.eq_none_iff_forall_ne_some.mpr
  intro index found
  exact absent (List.mem_of_getElem? (lastIndex_bounds found).2.2)

/-- Among distinct keys each key ends at its only index. -/
theorem map_lastIndex {keys : List Int} (distinct : keys.Nodup) (start : Nat) :
    keys.map (lastIndex start keys) = (List.range' start keys.length).map some := by
  induction keys generalizing start with
  | nil => rfl
  | cons first rest ih =>
      obtain ⟨fresh, distinct⟩ := List.nodup_cons.mp distinct
      have head : lastIndex start (first :: rest) first = some start := by
        rw [lastIndex, lastIndex_eq_none fresh, if_pos rfl, Option.none_or]
      have tail : rest.map (lastIndex start (first :: rest)) = rest.map (lastIndex (start + 1) rest) := by
        apply List.map_congr_left
        intro wanted member
        rw [lastIndex, Option.or_of_isSome (lastIndex_isSome member)]
      rw [List.map_cons, head, tail, ih distinct, List.length_cons, List.range'_succ, List.map_cons]

/-- The last listed key ends at the last index. -/
theorem lastIndex_append_singleton (start : Nat) (earlier : List Int) (last : Int) :
    lastIndex start (earlier ++ [last]) last = some (start + earlier.length) := by
  induction earlier generalizing start with
  | nil => rw [List.nil_append, lastIndex, if_pos rfl, lastIndex, Option.none_or, List.length_nil, Nat.add_zero]
  | cons first rest ih =>
      rw [List.cons_append, lastIndex, ih, Option.some_or, List.length_cons]
      congr 1
      omega

theorem key_settle (eligible : Row → Bool) (start : Nat) (keys : List Int) (row : Row) :
    table.key (table.settle eligible start keys row) = table.key row := by
  unfold settle
  split
  · split
    · exact table.key_place row _
    · rfl
  · rfl

/-- A listed eligible row is placed at the last index of its key. -/
theorem settle_of_listed {eligible : Row → Bool} {start index : Nat} {keys : List Int} {row : Row}
    (found : lastIndex start keys (table.key row) = some index) (chosen : eligible row = true) :
    table.settle eligible start keys row = table.place row index := by
  rw [settle, found]
  exact if_pos chosen

/-- A row that is not eligible stays as it is. -/
theorem settle_of_ineligible {eligible : Row → Bool} {row : Row} (other : eligible row = false) (start : Nat)
    (keys : List Int) : table.settle eligible start keys row = row := by
  unfold settle
  split
  · rw [other]
    exact if_neg Bool.false_ne_true
  · rfl

/-- A row whose key is not listed stays as it is. -/
theorem settle_of_unlisted (eligible : Row → Bool) {row : Row} {keys : List Int} (other : table.key row ∉ keys)
    (start : Nat) : table.settle eligible start keys row = row := by
  rw [settle, lastIndex_eq_none other]

/-- Two eligible rows with different listed keys get different positions, also when a key is listed twice. -/
theorem positions_differ {eligible : Row → Bool} {keys : List Int} {first second : Row}
    (listed : table.key first ∈ keys)
    (also : table.key second ∈ keys) (chosen : eligible first = true) (too : eligible second = true)
    (same : table.position (table.settle eligible 0 keys first) =
      table.position (table.settle eligible 0 keys second)) : table.key first = table.key second := by
  obtain ⟨index, found⟩ := Option.isSome_iff_exists.mp (lastIndex_isSome  listed)
  obtain ⟨other, located⟩ := Option.isSome_iff_exists.mp (lastIndex_isSome  also)
  rw [settle_of_listed table found chosen, settle_of_listed table located too, table.position_place,
    table.position_place] at same
  rw [← Int.ofNat.inj same] at located
  exact lastIndex_injective found located

section Loop
variable {eligible : Row → Bool} (stable : ∀ row index, eligible (table.place row index) = eligible row)
include stable

/-- The first key is written before the rest, and the rest overwrites it. -/
theorem settle_cons (start : Nat) (first : Int) (rest : List Int) (row : Row) :
    table.settle eligible (start + 1) rest
        (if table.key row = first && eligible row then table.place row start else row) =
      table.settle eligible start (first :: rest) row := by
  by_cases chosen : eligible row = true
  · by_cases same : table.key row = first
    · rw [if_pos (by simp [same, chosen])]
      cases later : lastIndex (start + 1) rest first with
      | none =>
          have here : lastIndex start (first :: rest) (table.key row) = some start := by
            rw [lastIndex, same, later, if_pos rfl, Option.none_or]
          rw [settle_of_listed table here chosen, settle, table.key_place, same, later]
      | some index =>
          have here : lastIndex start (first :: rest) (table.key row) = some index := by
            rw [lastIndex, same, later, Option.some_or]
          rw [settle_of_listed table here chosen]
          rw [settle_of_listed table ((congrArg _ ((table.key_place row start).trans same)).trans later)
            ((stable row start).trans chosen), table.place_place]
    · rw [if_neg (by simp [same])]
      unfold settle
      rw [lastIndex, if_neg (Ne.symm same), Option.or_none]
  · have other : eligible row = false := Bool.eq_false_iff.mpr chosen
    rw [if_neg (by simp [other]), settle_of_ineligible table other, settle_of_ineligible table other]

/-- The loop settles every row. -/
theorem renumberFrom_eq_map (start : Nat) (keys : List Int) (rows : List Row) :
    table.renumberFrom eligible start keys rows = rows.map (table.settle eligible start keys) := by
  induction keys generalizing start rows with
  | nil => exact (List.map_id' rows).symm
  | cons first rest ih =>
      rw [renumberFrom, ih, List.map_map]
      apply List.map_congr_left
      intro row _
      exact table.settle_cons stable start first rest row

theorem renumber_eq_map (keys : List Int) (rows : List Row) :
    table.renumber eligible keys rows = rows.map (table.settle eligible 0 keys) :=
  table.renumberFrom_eq_map stable 0 keys rows

theorem map_key_renumber (keys : List Int) (rows : List Row) :
    (table.renumber eligible keys rows).map table.key = rows.map table.key := by
  rw [table.renumber_eq_map stable, List.map_map]
  apply List.map_congr_left
  intro row _
  exact table.key_settle eligible 0 keys row

variable {group : Row → Bool} (kept : ∀ row index, group (table.place row index) = group row)
include kept

/-- A group that no write changes has the same rows after the loop, each settled. -/
theorem filter_renumber (keys : List Int) (rows : List Row) :
    (table.renumber eligible keys rows).filter group =
      (rows.filter group).map (table.settle eligible 0 keys) := by
  have same : group ∘ table.settle eligible 0 keys = group := by
    funext row
    show group (table.settle eligible 0 keys row) = group row
    unfold settle
    split
    · split
      · exact kept row _
      · rfl
    · rfl
  rw [table.renumber_eq_map stable, List.filter_map, same]

/-- A group without a listed eligible row stays as it is. -/
theorem filter_renumber_untouched {keys : List Int} {rows : List Row}
    (other : ∀ row ∈ rows, group row = true → eligible row = true → table.key row ∉ keys) :
    (table.renumber eligible keys rows).filter group = rows.filter group := by
  rw [table.filter_renumber stable kept]
  conv_rhs => rw [← List.map_id (rows.filter group)]
  apply List.map_congr_left
  intro row member
  obtain ⟨stored, inside⟩ := List.mem_filter.mp member
  by_cases chosen : eligible row = true
  · exact table.settle_of_unlisted eligible (other row stored inside chosen) 0
  · exact table.settle_of_ineligible (Bool.eq_false_iff.mpr chosen) 0 keys

/-- A loop over the keys of a group, each once, numbers its rows from zero. -/
theorem positions_renumber {keys : List Int} {rows : List Row} (distinct : keys.Nodup)
    (complete : keys.Perm ((rows.filter group).map table.key))
    (chosen : ∀ row ∈ rows, group row = true → eligible row = true) :
    (((table.renumber eligible keys rows).filter group).map table.position).Perm
      ((List.range keys.length).map Int.ofNat) := by
  have placed : ((rows.filter group).map (table.settle eligible 0 keys)).map table.position =
      ((rows.filter group).map table.key).map fun key => Int.ofNat ((lastIndex 0 keys key).getD 0) := by
    rw [List.map_map, List.map_map]
    apply List.map_congr_left
    intro row member
    have listed : (lastIndex 0 keys (table.key row)).isSome = true :=
      lastIndex_isSome (complete.mem_iff.mpr (List.mem_map_of_mem member))
    obtain ⟨index, found⟩ := Option.isSome_iff_exists.mp listed
    obtain ⟨stored, inside⟩ := List.mem_filter.mp member
    show table.position (table.settle eligible 0 keys row) = Int.ofNat ((lastIndex 0 keys (table.key row)).getD 0)
    rw [settle_of_listed table found (chosen row stored inside), table.position_place, found]
    rfl
  have numbered : keys.map (fun key => Int.ofNat ((lastIndex 0 keys key).getD 0)) =
      (List.range keys.length).map Int.ofNat := by
    have listed := congrArg (List.map fun found => Int.ofNat (found.getD 0)) (map_lastIndex distinct 0)
    rw [List.map_map, List.map_map] at listed
    rw [List.range_eq_range']
    exact listed
  rw [table.filter_renumber stable kept, placed, ← numbered]
  exact (complete.map _).symm

end Loop
end Positioned
end P3Portal.Foundation
