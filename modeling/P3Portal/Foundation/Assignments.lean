import Mathlib.Data.Finset.Card
import Mathlib.Data.List.Basic
import Mathlib.Tactic.Common
import P3Portal.Foundation.OrderedMap

namespace P3Portal.Foundation

section
variable {Row Holder : Type} [DecidableEq Holder] (holder : Row → Option Holder)

/-- The number of rows that a holder has. -/
def held (rows : List Row) (who : Holder) : Nat := rows.countP fun row => holder row = some who

/-- No holder has more rows than the bound. -/
def Bounded (most : Int) (rows : List Row) : Prop := ∀ who, (held holder rows who : Int) ≤ most

/-- A change releases rows when it never gives a row to somebody. -/
def Releases (change : Row → Row) : Prop := ∀ row, holder (change row) = holder row ∨ holder (change row) = none

variable {holder}

theorem held_append_singleton (rows : List Row) (row : Row) (who : Holder) :
    held holder (rows ++ [row]) who = held holder rows who + if holder row = some who then 1 else 0 := by
  unfold held
  rw [List.countP_append, List.countP_singleton]
  simp only [decide_eq_true_eq]

/-- A release leaves nobody with more rows. -/
theorem Releases.held_le {change : Row → Row} (releases : Releases holder change) (rows : List Row) (who : Holder) :
    held holder (rows.map change) who ≤ held holder rows who := by
  unfold held
  rw [List.countP_map]
  apply List.countP_mono_left
  intro row _ holds
  rcases releases row with same | free
  · simpa only [Function.comp_apply, same] using holds
  · simp only [Function.comp_apply, free, reduceCtorEq, decide_false, Bool.false_eq_true] at holds

/-- A release that takes a row away from its holder leaves fewer rows. -/
theorem Releases.held_lt {change : Row → Row} (releases : Releases holder change) {rows : List Row} {row : Row}
    {who : Holder} (stored : row ∈ rows) (owned : holder row = some who) (taken : holder (change row) = none) :
    held holder (rows.map change) who < held holder rows who := by
  obtain ⟨before, later, same⟩ := List.append_of_mem stored
  have first := releases.held_le before who
  have second := releases.held_le later who
  rw [same]
  unfold held at first second ⊢
  simp only [List.map_append, List.map_cons, List.countP_append, List.countP_cons, owned, taken,
    reduceCtorEq, decide_false, decide_true, if_true, Bool.false_eq_true, if_false]
  omega

/-- The rows of a holder stay as they are when the change leaves them alone. -/
theorem held_map_eq {change : Row → Row} {rows : List Row} {who : Holder}
    (same : ∀ row ∈ rows, (holder (change row) = some who ↔ holder row = some who)) :
    held holder (rows.map change) who = held holder rows who := by
  unfold held
  rw [List.countP_map]
  apply List.countP_congr
  intro row member
  simp only [Function.comp_apply, decide_eq_true_eq]
  exact same row member

/-- One more row fits a holder who is below the bound. -/
theorem Bounded.grant {most : Int} {before rows : List Row} {row : Row} (bounded : Bounded holder most before)
    (fewer : ∀ who, held holder rows who ≤ held holder before who)
    (below : ∀ who, holder row = some who → (held holder before who : Int) < most) :
    Bounded holder most (rows ++ [row]) := by
  intro who
  rw [held_append_singleton]
  have less := fewer who
  have old := bounded who
  split
  · rename_i granted
    have room := below who granted
    omega
  · omega

theorem Bounded.mono {most : Int} {before rows : List Row} (bounded : Bounded holder most before)
    (fewer : ∀ who, held holder rows who ≤ held holder before who) : Bounded holder most rows := by
  intro who
  have less := fewer who
  have old := bounded who
  omega
end
end P3Portal.Foundation

namespace P3Portal.Foundation.OrderedMap

section
variable {Key Value : Type} [DecidableEq Key]

/-- A pass over the rows assigns each value to its key, so the last row of a key wins. -/
def assignAll (map : OrderedMap Key Value) (rows : List (Key × Value)) : OrderedMap Key Value :=
  rows.foldl (fun map row => map.set row.1 row.2) map

theorem assignAll_append (map : OrderedMap Key Value) (first second : List (Key × Value)) :
    map.assignAll (first ++ second) = (map.assignAll first).assignAll second :=
  List.foldl_append

/-- A key answers with a row of its own or as before. -/
theorem get?_assignAll (map : OrderedMap Key Value) (rows : List (Key × Value)) (key : Key) :
    (∃ value, (key, value) ∈ rows ∧ (map.assignAll rows).get? key = some value) ∨
      key ∉ rows.map Prod.fst ∧ (map.assignAll rows).get? key = map.get? key := by
  induction rows generalizing map with
  | nil => exact .inr ⟨by simp, rfl⟩
  | cons row rest ih =>
      rcases ih (map.set row.1 row.2) with ⟨value, member, stored⟩ | ⟨absent, kept⟩
      · exact .inl ⟨value, List.mem_cons_of_mem row member, stored⟩
      · by_cases same : key = row.1
        · subst same
          refine .inl ⟨row.2, List.mem_cons_self, ?_⟩
          show ((map.set row.1 row.2).assignAll rest).get? row.1 = some row.2
          rw [kept, get?_set, if_pos rfl]
        · refine .inr ⟨by simpa [same] using absent, ?_⟩
          show ((map.set row.1 row.2).assignAll rest).get? key = map.get? key
          rw [kept, get?_set, if_neg same]

/-- A key without a row answers as before. -/
theorem get?_assignAll_of_absent (map : OrderedMap Key Value) {rows : List (Key × Value)} {key : Key}
    (absent : ∀ value, (key, value) ∉ rows) : (map.assignAll rows).get? key = map.get? key := by
  rcases get?_assignAll map rows key with ⟨value, member, -⟩ | ⟨-, kept⟩
  · exact absurd member (absent value)
  · exact kept

/-- From nothing, a key is stored exactly when some row names it. -/
theorem mem_keys_assignAll (rows : List (Key × Value)) (key : Key) :
    key ∈ (assignAll empty rows).entries.map Prod.fst ↔ key ∈ rows.map Prod.fst := by
  rw [mem_keys_iff]
  rcases get?_assignAll empty rows key with ⟨value, member, stored⟩ | ⟨absent, kept⟩
  · rw [stored]
    exact iff_of_true rfl (List.mem_map.mpr ⟨(key, value), member, rfl⟩)
  · rw [kept]
    exact iff_of_false (by simp) absent

/-- From nothing, every answer is one of the rows. -/
theorem mem_of_get?_assignAll {rows : List (Key × Value)} {key : Key} {value : Value}
    (stored : (assignAll empty rows).get? key = some value) : (key, value) ∈ rows := by
  rcases get?_assignAll empty rows key with ⟨other, member, here⟩ | ⟨absent, kept⟩
  · rw [stored] at here
    rw [Option.some.inj here]
    exact member
  · rw [stored] at kept
    cases kept

/-- From nothing, each distinct key gives one entry. -/
theorem length_assignAll (rows : List (Key × Value)) :
    (assignAll empty rows).entries.length = (rows.map Prod.fst).toFinset.card := by
  rw [← List.length_map Prod.fst, ← List.toFinset_card_of_nodup (assignAll empty rows).keysNodup]
  congr 1
  ext key
  rw [List.mem_toFinset, List.mem_toFinset, mem_keys_assignAll]

/-- A row whose key has no other value is found again. -/
theorem get?_assignAll_of_unique (map : OrderedMap Key Value) {rows : List (Key × Value)} {key : Key}
    {value : Value} (member : (key, value) ∈ rows) (unique : ∀ other, (key, other) ∈ rows → other = value) :
    (map.assignAll rows).get? key = some value := by
  rcases get?_assignAll map rows key with ⟨other, found, here⟩ | ⟨absent, kept⟩
  · rw [here, unique other found]
  · exact absurd (List.mem_map.mpr ⟨(key, value), member, rfl⟩) absent

/-- Grouping collects the items under their keys in the order in which they come. -/
def groupAll {Item : Type} (key : Item → Key) (map : OrderedMap Key (List Item)) (items : List Item) :
    OrderedMap Key (List Item) :=
  items.foldl (fun groups item => groups.alter (key item) fun stored => stored.getD [] ++ [item]) map

theorem get?_groupAll {Item : Type} (key : Item → Key) (map : OrderedMap Key (List Item)) (items : List Item)
    (query : Key) : ((groupAll key map items).get? query).getD [] =
      (map.get? query).getD [] ++ items.filter fun item => key item = query := by
  induction items generalizing map with
  | nil => simp [groupAll]
  | cons item rest ih =>
      refine (ih _).trans ?_
      rw [get?_alter]
      by_cases same : query = key item
      · rw [if_pos same, Option.getD_some, same, List.filter_cons_of_pos (by simp), List.append_assoc]
        rfl
      · rw [if_neg same, List.filter_cons_of_neg (by simpa using fun equal => same equal.symm)]

theorem get?_groupAll_ne_nil {Item : Type} (key : Item → Key) (items : List Item) {map : OrderedMap Key (List Item)}
    (filled : ∀ query list, map.get? query = some list → list ≠ []) :
    ∀ query list, (groupAll key map items).get? query = some list → list ≠ [] := by
  induction items generalizing map with
  | nil => exact filled
  | cons item rest ih =>
      apply ih
      intro query list found
      rw [get?_alter] at found
      split at found
      · rw [← Option.some.inj found]
        exact List.append_ne_nil_of_right_ne_nil _ (List.cons_ne_nil _ _)
      · exact filled query list found

/-- No group is stored without an item. -/
theorem group_ne_nil {Item : Type} {key : Item → Key} {items : List Item} {group : Key × List Item}
    (stored : group ∈ (groupAll key empty items).entries) : group.2 ≠ [] :=
  get?_groupAll_ne_nil key items (fun query list found => by cases found) group.1 group.2 (get?_of_mem _ stored)

/-- A stored group lists the items of its key. -/
theorem group_eq_filter {Item : Type} {key : Item → Key} {items : List Item} {group : Key × List Item}
    (stored : group ∈ (groupAll key empty items).entries) :
    group.2 = items.filter fun item => key item = group.1 := by
  have listed := get?_groupAll key empty items group.1
  rw [get?_of_mem _ stored] at listed
  exact listed

/-- The groups hold exactly the items. -/
theorem mem_groupAll {Item : Type} (key : Item → Key) (items : List Item) (item : Item) :
    (∃ group ∈ (groupAll key empty items).entries, item ∈ group.2) ↔ item ∈ items := by
  constructor
  · intro found
    obtain ⟨group, stored, member⟩ := found
    rw [group_eq_filter stored] at member
    exact List.mem_of_mem_filter member
  · intro member
    have inside : item ∈ ((groupAll key empty items).get? (key item)).getD [] := by
      rw [get?_groupAll]
      exact List.mem_append_right _ (List.mem_filter.mpr ⟨member, decide_eq_true rfl⟩)
    cases stored : (groupAll key empty items).get? (key item) with
    | none =>
        rw [stored] at inside
        cases inside
    | some group =>
        rw [stored] at inside
        exact ⟨(key item, group), (get?_eq_some_iff _).mp stored, inside⟩

/-- Every item of a group has the key of the group. -/
theorem key_of_mem_groupAll {Item : Type} {key : Item → Key} {items : List Item} {group : Key × List Item}
    (stored : group ∈ (groupAll key empty items).entries) {item : Item} (member : item ∈ group.2) :
    key item = group.1 := by
  rw [group_eq_filter stored] at member
  exact of_decide_eq_true (List.mem_filter.mp member).2
end
end P3Portal.Foundation.OrderedMap
