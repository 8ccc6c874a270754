import Mathlib.Data.Finset.Basic
import Mathlib.Data.List.Nodup
import Mathlib.Tactic.Common

namespace P3Portal.Foundation

/-- An ordered map keeps each key once, in the order of the first insertion. -/
structure OrderedMap (Key Value : Type) where
  entries : List (Key × Value)
  keysNodup : (entries.map Prod.fst).Nodup

namespace OrderedMap
variable {Key Value : Type}

/-- The empty map stores no key. -/
def empty : OrderedMap Key Value := ⟨[], List.nodup_nil⟩

variable [DecidableEq Key]

/-- A lookup returns the value of the only entry with the key. -/
def get? (map : OrderedMap Key Value) (key : Key) : Option Value := map.entries.lookup key

/-- The update replaces the entry of a stored key in place and appends a new key. -/
def alterEntries (key : Key) (change : Option Value → Value) : List (Key × Value) → List (Key × Value)
  | [] => [(key, change none)]
  | entry :: rest =>
      if entry.1 = key then (key, change (some entry.2)) :: rest
      else entry :: alterEntries key change rest

theorem alterEntries_keys (key : Key) (change : Option Value → Value) (entries : List (Key × Value)) :
    (alterEntries key change entries).map Prod.fst =
      if key ∈ entries.map Prod.fst then entries.map Prod.fst else entries.map Prod.fst ++ [key] := by
  induction entries with
  | nil => simp [alterEntries]
  | cons entry rest ih =>
      by_cases same : entry.1 = key
      · simp [alterEntries, same]
      · have different : ¬ key = entry.1 := fun equal => same equal.symm
        simp only [alterEntries, same, if_false, List.map_cons, ih, List.mem_cons, different, false_or]
        split <;> simp

theorem alterEntries_nodup (key : Key) (change : Option Value → Value) (entries : List (Key × Value))
    (distinct : (entries.map Prod.fst).Nodup) : ((alterEntries key change entries).map Prod.fst).Nodup := by
  rw [alterEntries_keys]
  split
  · exact distinct
  · rename_i absent
    exact List.nodup_append.mpr ⟨distinct, List.nodup_singleton key, by
      rintro other member key' here rfl
      exact absent (List.mem_singleton.mp here ▸ member)⟩

/-- The update of one key sees the stored value when there is one. -/
def alter (map : OrderedMap Key Value) (key : Key) (change : Option Value → Value) :
    OrderedMap Key Value :=
  ⟨alterEntries key change map.entries, alterEntries_nodup key change map.entries map.keysNodup⟩

/-- An assignment overwrites the stored value. -/
def set (map : OrderedMap Key Value) (key : Key) (value : Value) : OrderedMap Key Value :=
  map.alter key fun _ => value

@[simp] theorem get?_empty (key : Key) : (empty : OrderedMap Key Value).get? key = none := rfl

theorem lookup_alterEntries (key query : Key) (change : Option Value → Value)
    (entries : List (Key × Value)) :
    (alterEntries key change entries).lookup query =
      if query = key then some (change (entries.lookup key)) else entries.lookup query := by
  induction entries with
  | nil => by_cases same : query = key <;> simp [alterEntries, same]
  | cons entry rest ih =>
      obtain ⟨stored, value⟩ := entry
      by_cases here : stored = key
      · subst here
        by_cases same : query = stored
        · simp [alterEntries, same]
        · have missed : (query == stored) = false := by simpa using same
          simp [alterEntries, List.lookup_cons, same, missed]
      · by_cases found : query = stored
        · subst found
          simp [alterEntries, here]
        · have missed : (query == stored) = false := by simpa using found
          have kept : (key == stored) = false := by simpa using fun equal => here equal.symm
          simp only [alterEntries, here, if_false, List.lookup_cons, missed, ih, kept]

/-- The updated map answers the changed value at the key and the old value elsewhere. -/
@[simp] theorem get?_alter (map : OrderedMap Key Value) (key query : Key)
    (change : Option Value → Value) :
    (map.alter key change).get? query =
      if query = key then some (change (map.get? key)) else map.get? query :=
  lookup_alterEntries key query change map.entries

@[simp] theorem get?_set (map : OrderedMap Key Value) (key query : Key) (value : Value) :
    (map.set key value).get? query = if query = key then some value else map.get? query :=
  get?_alter map key query fun _ => value

/-- A key is stored exactly when the lookup answers. -/
theorem mem_keys_iff (map : OrderedMap Key Value) (key : Key) :
    key ∈ map.entries.map Prod.fst ↔ (map.get? key).isSome := by
  simp only [get?, List.lookup_isSome_iff, List.mem_map, beq_iff_eq]
  constructor
  · rintro ⟨entry, member, rfl⟩
    exact ⟨entry, member, rfl⟩
  · rintro ⟨entry, member, same⟩
    exact ⟨entry, member, same.symm⟩

/-- The lookup of a stored entry returns its value because keys are unique. -/
theorem get?_of_mem (map : OrderedMap Key Value) {key : Key} {value : Value}
    (member : (key, value) ∈ map.entries) : map.get? key = some value := by
  obtain ⟨entries, distinct⟩ := map
  simp only [get?] at member ⊢
  induction entries with
  | nil => simp at member
  | cons entry rest ih =>
      rw [List.map_cons, List.nodup_cons] at distinct
      rcases List.mem_cons.mp member with rfl | inside
      · simp
      · have different : (key == entry.1) = false := by
          refine beq_false_of_ne fun same => distinct.1 ?_
          exact List.mem_map.mpr ⟨(key, value), inside, same⟩
        rw [List.lookup_cons, different]
        exact ih distinct.2 inside

theorem get?_eq_some_iff (map : OrderedMap Key Value) {key : Key} {value : Value} :
    map.get? key = some value ↔ (key, value) ∈ map.entries := by
  constructor
  · intro found
    obtain ⟨before, after, split, -⟩ := List.lookup_eq_some_iff.mp found
    rw [split]
    exact List.mem_append_right before List.mem_cons_self
  · exact map.get?_of_mem

/-- Values that know their keys are found among the values. -/
theorem values_filter (map : OrderedMap Key Value) {key : Value → Key}
    (known : ∀ entry ∈ map.entries, key entry.2 = entry.1) (query : Key) :
    (map.entries.map Prod.snd).filter (fun value => key value = query) = (map.get? query).toList := by
  obtain ⟨entries, distinct⟩ := map
  unfold get?
  dsimp only at known ⊢
  induction entries with
  | nil => rfl
  | cons entry rest ih =>
      rw [List.map_cons, List.nodup_cons] at distinct
      have later := ih distinct.2 fun other member => known other (List.mem_cons_of_mem _ member)
      rw [List.map_cons, List.filter_cons, later, known entry List.mem_cons_self, List.lookup_cons]
      by_cases same : entry.1 = query
      · have absent : rest.lookup query = none := by
          rw [List.lookup_eq_none_iff]
          intro other member
          rw [bne_iff_ne]
          intro equal
          rw [same, equal] at distinct
          exact distinct.1 (List.mem_map_of_mem member)
        rw [if_pos (decide_eq_true same), absent, beq_iff_eq.mpr same.symm]
        rfl
      · rw [if_neg (by simpa using same), beq_eq_false_iff_ne.mpr fun equal => same equal.symm]

/-- After an assignment the key has its new value and the other entries are the old ones. -/
theorem mem_set (map : OrderedMap Key Value) (key : Key) (value : Value) (entry : Key × Value) :
    entry ∈ (map.set key value).entries ↔ entry = (key, value) ∨ entry.1 ≠ key ∧ entry ∈ map.entries := by
  obtain ⟨query, stored⟩ := entry
  rw [← get?_eq_some_iff, get?_set, ← get?_eq_some_iff]
  by_cases same : query = key
  · rw [if_pos same]
    simp [same, eq_comm]
  · rw [if_neg same]
    simp [same]

/-- The filter drops entries and keeps the order of the others. -/
def filter (map : OrderedMap Key Value) (keep : Key → Value → Bool) : OrderedMap Key Value where
  entries := map.entries.filter fun entry => keep entry.1 entry.2
  keysNodup := map.keysNodup.sublist (List.filter_sublist.map Prod.fst)

/-- A filtered map answers what passes the filter. -/
@[simp] theorem get?_filter (map : OrderedMap Key Value) (keep : Key → Value → Bool) (key : Key) :
    (map.filter keep).get? key = (map.get? key).filter (keep key) := by
  apply Option.ext
  intro value
  rw [get?_eq_some_iff, Option.filter_eq_some_iff, get?_eq_some_iff]
  exact List.mem_filter

/-- A filtered map answers as before or not at all. -/
theorem get?_filter_cases (map : OrderedMap Key Value) (keep : Key → Value → Bool) (key : Key) :
    (map.filter keep).get? key = map.get? key ∨ (map.filter keep).get? key = none := by
  rw [get?_filter]
  cases map.get? key with
  | none => exact .inr rfl
  | some value =>
      rw [Option.filter_some]
      split
      · exact .inl rfl
      · exact .inr rfl

/-- The assignment to a key that the filter drops does not show. -/
theorem filter_set (map : OrderedMap Key Value) {keep : Key → Value → Bool} {key : Key}
    (dropped : ∀ value, keep key value = false) (value : Value) : (map.set key value).filter keep = map.filter keep := by
  have unseen (entries : List (Key × Value)) :
      (alterEntries key (fun _ => value) entries).filter (fun entry => keep entry.1 entry.2) =
        entries.filter fun entry => keep entry.1 entry.2 := by
    induction entries with
    | nil => simp [alterEntries, dropped]
    | cons entry rest ih =>
        unfold alterEntries
        split
        · rename_i same
          rw [List.filter_cons_of_neg (by simp [dropped]), List.filter_cons_of_neg (by simp [same, dropped])]
        · rw [List.filter_cons, List.filter_cons, ih]
  unfold filter set alter
  simp only [unseen]

omit [DecidableEq Key] in
/-- A filter that every entry passes changes nothing. -/
theorem filter_eq_self (map : OrderedMap Key Value) {keep : Key → Value → Bool}
    (kept : ∀ entry ∈ map.entries, keep entry.1 entry.2 = true) : map.filter keep = map := by
  obtain ⟨entries, distinct⟩ := map
  unfold filter
  simp only [List.filter_eq_self.mpr kept]

/-- A gathering pass unites the items of all rows with one key under that key. -/
def gather {Item : Type} [DecidableEq Item] (map : OrderedMap Key (Finset Item))
    (rows : List (Key × List Item)) : OrderedMap Key (Finset Item) :=
  rows.foldl (fun map row => map.alter row.1 fun stored => stored.getD ∅ ∪ row.2.toFinset) map

/-- The value under a key, or the empty set when the key is absent. -/
def members {Item : Type} (map : OrderedMap Key (Finset Item)) (key : Key) : Finset Item :=
  (map.get? key).getD ∅

@[simp] theorem members_empty {Item : Type} (key : Key) :
    (empty : OrderedMap Key (Finset Item)).members key = ∅ := rfl

/-- The gathered value holds the old items and those of the rows with the key. -/
theorem mem_members_gather {Item : Type} [DecidableEq Item] (map : OrderedMap Key (Finset Item))
    (rows : List (Key × List Item)) (key : Key) (item : Item) :
    item ∈ (map.gather rows).members key ↔
      item ∈ map.members key ∨ ∃ row ∈ rows, row.1 = key ∧ item ∈ row.2 := by
  induction rows generalizing map with
  | nil => simp [gather]
  | cons row rest ih =>
      have step : map.gather (row :: rest) =
          (map.alter row.1 fun stored => stored.getD ∅ ∪ row.2.toFinset).gather rest := rfl
      rw [step, ih]
      by_cases same : key = row.1
      · subst same
        simp [members, or_assoc]
      · have different : ¬ row.1 = key := fun equal => same equal.symm
        simp [members, same, different]

/-- A gathering pass ends without an entry exactly when it starts without one and reads no row. -/
theorem gather_entries_eq_nil {Item : Type} [DecidableEq Item] (map : OrderedMap Key (Finset Item))
    (rows : List (Key × List Item)) : (map.gather rows).entries = [] ↔ map.entries = [] ∧ rows = [] := by
  induction rows generalizing map with
  | nil => simp [gather]
  | cons row rest ih =>
      have step : map.gather (row :: rest) =
          (map.alter row.1 fun stored => stored.getD ∅ ∪ row.2.toFinset).gather rest := rfl
      have filled : (map.alter row.1 fun stored => stored.getD ∅ ∪ row.2.toFinset).entries ≠ [] := by
        intro none
        have stored := (mem_keys_iff _ row.1).mpr (by rw [get?_alter, if_pos rfl]; rfl :
          ((map.alter row.1 fun stored => stored.getD ∅ ∪ row.2.toFinset).get? row.1).isSome = true)
        rw [none] at stored
        cases stored
      rw [step, ih]
      simp [filled]

/-- One pass of a storing loop writes a value under its key unless the value is empty. -/
def storeNonempty {Source Item : Type} [DecidableEq Item] (key : Source → Key)
    (value : Source → Finset Item) (map : OrderedMap Key (Finset Item)) (source : Source) :
    OrderedMap Key (Finset Item) :=
  if value source = ∅ then map else map.set (key source) (value source)

/-- The loop leaves one of the values that it stored under a key, or the old value. -/
theorem members_storeNonempty {Source Item : Type} [DecidableEq Item] (key : Source → Key)
    (value : Source → Finset Item) (sources : List Source) (map : OrderedMap Key (Finset Item))
    (query : Key) :
    ((∀ source ∈ sources, key source = query → value source = ∅) ∧
        (sources.foldl (storeNonempty key value) map).members query = map.members query) ∨
      ∃ source ∈ sources, key source = query ∧ value source ≠ ∅ ∧
        (sources.foldl (storeNonempty key value) map).members query = value source := by
  induction sources generalizing map with
  | nil => exact .inl ⟨by simp, rfl⟩
  | cons source rest ih =>
      rcases ih (storeNonempty key value map source) with ⟨silent, kept⟩ | ⟨last, inside, found, filled, stored⟩
      · by_cases skipped : value source = ∅
        · refine .inl ⟨?_, ?_⟩
          · simpa [skipped] using silent
          · simpa [storeNonempty, skipped] using kept
        · by_cases same : key source = query
          · refine .inr ⟨source, by simp, same, skipped, ?_⟩
            rw [List.foldl_cons, kept]
            simp [storeNonempty, skipped, members, same]
          · refine .inl ⟨?_, ?_⟩
            · simpa [same] using silent
            · rw [List.foldl_cons, kept]
              have different : ¬ query = key source := fun equal => same equal.symm
              simp [storeNonempty, skipped, members, different]
      · exact .inr ⟨last, List.mem_cons_of_mem source inside, found, filled, stored⟩

end OrderedMap
end P3Portal.Foundation
