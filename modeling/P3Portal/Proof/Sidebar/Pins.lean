import P3Portal.Construction.Sidebar.Pins
import P3Portal.Foundation.KeyedRows
import P3Portal.Foundation.Run
import Mathlib.Data.List.Dedup

namespace P3Portal.Sidebar
open Foundation

/-- The pins of a user occupy the positions from zero on, each once. -/
def Gapless (userId : Int) (pins : List Pin) : Prop :=
  ((pins.filter (ownedBy userId)).map Pin.position).Perm
    ((List.range (pins.filter (ownedBy userId)).length).map Int.ofNat)

/-- The identifiers are a primary key. -/
def UniqueIds (pins : List Pin) : Prop := (pins.map Pin.id).Nodup

section Compactify
variable {userId : Int} {pins : List Pin}

/-- New positions leave the pins as they are. -/
theorem ids_compactifyPositions (userId : Int) (pins : List Pin) :
    (compactifyPositions userId pins).map Pin.id = pins.map Pin.id :=
  positioned.map_key_renumber (fun _ _ => rfl) _ pins

/-- The loop writes positions only, so that every user keeps as many pins. -/
theorem length_compactifyPositions (userId other : Int) (pins : List Pin) :
    ((compactifyPositions userId pins).filter (ownedBy other)).length = (pins.filter (ownedBy other)).length := by
  rw [compactifyPositions, positioned.filter_renumber (fun _ _ => rfl) (fun _ _ => rfl), List.length_map]

/-- The listing of a user has the pins of the user in another order. -/
theorem ids_pinsOf_perm (userId : Int) (pins : List Pin) :
    ((pinsOf userId pins).map Pin.id).Perm ((pins.filter (ownedBy userId)).map Pin.id) :=
  (List.perm_insertionSort _ _).map Pin.id

/-- A user has each pin once. -/
theorem ownedIds_nodup (unique : UniqueIds pins) (userId : Int) :
    ((pins.filter (ownedBy userId)).map Pin.id).Nodup :=
  unique.sublist (List.filter_sublist.map Pin.id)

/-- A user has as many ids as pins. -/
theorem length_ownedIds (userId : Int) (pins : List Pin) :
    ((pins.filter (ownedBy userId)).map Pin.id).length = (pins.filter (ownedBy userId)).length := List.length_map _

/-- The user's pins are numbered from zero. -/
theorem gapless_compactifyPositions (unique : UniqueIds pins) (userId : Int) :
    Gapless userId (compactifyPositions userId pins) := by
  have listed := ids_pinsOf_perm userId pins
  rw [Gapless, length_compactifyPositions, ← length_ownedIds, ← listed.length_eq]
  exact positioned.positions_renumber (fun _ _ => rfl) (fun _ _ => rfl)
    (listed.nodup_iff.mpr (ownedIds_nodup unique userId)) listed fun _ _ _ => rfl

/-- The pins of other users stay as they are. -/
theorem filter_compactifyPositions (unique : UniqueIds pins) {other : Int} (different : other ≠ userId) :
    (compactifyPositions userId pins).filter (ownedBy other) = pins.filter (ownedBy other) := by
  apply positioned.filter_renumber_untouched (fun _ _ => rfl) (fun _ _ => rfl)
  intro pin stored owned _ listed
  obtain ⟨same, member, named⟩ := List.mem_map.mp ((ids_pinsOf_perm userId pins).mem_iff.mp listed)
  obtain ⟨stored', owned'⟩ := List.mem_filter.mp member
  rw [List.inj_on_of_nodup_map unique stored' stored named] at owned'
  exact different ((of_decide_eq_true owned).symm.trans (of_decide_eq_true owned'))

/-- Gaps of the named users are closed one user after the other. -/
theorem gapless_foldl (users : List Int) {pins : List Pin} (unique : UniqueIds pins)
    (rest : ∀ userId, userId ∉ users → Gapless userId pins) (userId : Int) :
    Gapless userId (users.foldl (fun pins userId => compactifyPositions userId pins) pins) := by
  induction users generalizing pins with
  | nil => exact rest userId (List.not_mem_nil)
  | cons first later ih =>
      have unique' : UniqueIds (compactifyPositions first pins) := by
        rw [UniqueIds, ids_compactifyPositions]
        exact unique
      apply ih unique'
      intro other absent
      by_cases same : other = first
      · rw [same]
        exact gapless_compactifyPositions unique first
      · rw [Gapless, filter_compactifyPositions unique same]
        exact rest other (fun member => (List.mem_cons.mp member).elim same absent)

/-- New positions for some users leave all pins as they are. -/
theorem ids_foldl (users : List Int) (pins : List Pin) :
    (users.foldl (fun pins userId => compactifyPositions userId pins) pins).map Pin.id = pins.map Pin.id := by
  induction users generalizing pins with
  | nil => rfl
  | cons first later ih => rw [List.foldl_cons, ih, ids_compactifyPositions]

/-- New positions for some users leave each user the same number of pins. -/
theorem length_foldl (users : List Int) (userId : Int) (pins : List Pin) :
    ((users.foldl (fun pins userId => compactifyPositions userId pins) pins).filter (ownedBy userId)).length =
      (pins.filter (ownedBy userId)).length := by
  induction users generalizing pins with
  | nil => rfl
  | cons first later ih => rw [List.foldl_cons, ih, length_compactifyPositions]

end Compactify

/-- Rows are deleted, and then the gaps of the named users are closed. -/
def closeGaps (users : List Int) (keep : Pin → Bool) (pins : List Pin) : List Pin :=
  users.foldl (fun pins userId => compactifyPositions userId pins) (pins.filter keep)

section Removal
variable {users : List Int} {keep : Pin → Bool} {pins : List Pin}

/-- The ids stay unique when gaps are closed. -/
theorem uniqueIds_closeGaps (users : List Int) (keep : Pin → Bool) (unique : UniqueIds pins) :
    UniqueIds (closeGaps users keep pins) := by
  rw [UniqueIds, closeGaps, ids_foldl]
  exact unique.sublist (List.filter_sublist.map Pin.id)

/-- It is enough to close the gaps of the users who lose a pin. -/
theorem gapless_closeGaps (unique : UniqueIds pins) (gapless : ∀ userId, Gapless userId pins)
    (named : ∀ pin ∈ pins, keep pin = false → pin.userId ∈ users) (userId : Int) :
    Gapless userId (closeGaps users keep pins) := by
  apply gapless_foldl users (unique.sublist (List.filter_sublist.map Pin.id))
  intro other absent
  have same : (pins.filter keep).filter (ownedBy other) = pins.filter (ownedBy other) := by
    rw [List.filter_filter]
    apply List.filter_congr
    intro pin stored
    by_cases owned : ownedBy other pin = true
    · have kept : keep pin = true := by
        by_contra lost
        apply absent
        rw [← of_decide_eq_true owned]
        exact named pin stored (Bool.eq_false_iff.mpr lost)
      rw [kept, Bool.and_true]
    · rw [Bool.eq_false_iff.mpr owned, Bool.false_and]
  rw [Gapless, same]
  exact gapless other

/-- Nobody has more pins when gaps are closed. -/
theorem length_closeGaps (users : List Int) (keep : Pin → Bool) (userId : Int) (pins : List Pin) :
    ((closeGaps users keep pins).filter (ownedBy userId)).length ≤ (pins.filter (ownedBy userId)).length := by
  rw [closeGaps, length_foldl]
  exact (List.filter_sublist.filter _).length_le

end Removal

/-- Pins go, and the gaps of all users who lose one are closed. -/
def Removal (pins after : List Pin) : Prop :=
  ∃ (users : List Int) (keep : Pin → Bool),
    after = closeGaps users keep pins ∧ ∀ pin ∈ pins, keep pin = false → pin.userId ∈ users

section Steps
variable {pins after : List Pin}

/-- A request that removes nothing is a removal. -/
theorem removal_nothing (pins : List Pin) : Removal pins pins := by
  refine ⟨[], fun _ => true, ?_, ?_⟩
  · rw [closeGaps, List.filter_true]
    rfl
  · intro pin _ removed
    cases removed

/-- A pin that is found is stored and belongs to the user. -/
theorem findPin_spec {pinId userId : Int} {pin : Pin} (found : findPin pinId userId pins = some pin) :
    pin ∈ pins ∧ pin.id = pinId ∧ pin.userId = userId := by
  have chosen := List.find?_some found
  rw [Bool.and_eq_true, decide_eq_true_eq] at chosen
  exact ⟨List.mem_of_find?_eq_some found, chosen.1, of_decide_eq_true chosen.2⟩

/-- The deletion of a pin is a removal. -/
theorem deletePin_removal (unique : UniqueIds pins) (pinId userId : Int) :
    Removal pins (deletePin pinId userId pins).1 := by
  unfold deletePin
  split
  · exact removal_nothing pins
  · rename_i found
    obtain ⟨stored, named, owned⟩ := findPin_spec found
    refine ⟨[userId], _, rfl, ?_⟩
    intro pin member removed
    have equal : pin.id = pinId := not_not.mp (of_decide_eq_false removed)
    rw [List.inj_on_of_nodup_map unique member stored (equal.trans named.symm), owned]
    exact List.mem_singleton_self userId

/-- A list request removes pins of the caller only. -/
theorem runStaleCleanup_removal (unique : UniqueIds pins) (context : StaleContext) (userId : Int) :
    Removal pins (runStaleCleanup context userId pins).1 := by
  unfold runStaleCleanup
  dsimp only
  split
  · exact removal_nothing pins
  · refine ⟨[userId], _, rfl, ?_⟩
    intro pin member removed
    obtain ⟨stale, chosen, named⟩ := List.mem_map.mp (not_not.mp (of_decide_eq_false removed))
    have listed := (List.perm_insertionSort _ _).mem_iff.mp (List.mem_filter.mp chosen).1
    obtain ⟨stored, owned⟩ := List.mem_filter.mp listed
    rw [List.inj_on_of_nodup_map unique member stored named.symm, of_decide_eq_true owned]
    exact List.mem_singleton_self userId

/-- The users of the removed pins are read before the pins are deleted. -/
theorem cleanupPinsForResource_removal (unique : UniqueIds pins) (resourceKind : PinKind) (resourceRef : String) :
    Removal pins (cleanupPinsForResource resourceKind resourceRef pins) := by
  unfold cleanupPinsForResource
  dsimp only
  split
  · exact removal_nothing pins
  · refine ⟨_, _, rfl, ?_⟩
    intro pin member removed
    obtain ⟨row, chosen, named⟩ := List.mem_map.mp (not_not.mp (of_decide_eq_false removed))
    rw [List.mem_dedup, List.inj_on_of_nodup_map unique member (List.mem_filter.mp chosen).1 named.symm]
    exact List.mem_map_of_mem chosen

/-- A new label changes no identifier. -/
theorem ids_updatePinLabel (pinId userId : Int) (label : Option String) (pins : List Pin) :
    (updatePinLabel pinId userId label pins).1.map Pin.id = pins.map Pin.id := by
  unfold updatePinLabel
  split
  · rfl
  · exact map_column_selected (fun pin : Pin => pin.id = pinId) fun _ => rfl

/-- A new label changes no user and no position. -/
theorem positions_updatePinLabel (pinId userId other : Int) (label : Option String) (pins : List Pin) :
    ((updatePinLabel pinId userId label pins).1.filter (ownedBy other)).map Pin.position =
      (pins.filter (ownedBy other)).map Pin.position := by
  unfold updatePinLabel
  split
  · rfl
  · have same : (ownedBy other ∘ fun pin => if pin.id = pinId then { pin with label := label } else pin) =
        ownedBy other := by
      funext pin
      rw [Function.comp_apply]
      split
      · rfl
      · rfl
    dsimp only
    rw [List.filter_map, same]
    exact map_column_selected (fun pin : Pin => pin.id = pinId) fun _ => rfl

/-- The greatest position of gapless pins is one below their number. -/
theorem nextPosition_eq {userId : Int} (gapless : Gapless userId pins) :
    nextPosition userId pins = ((pins.filter (ownedBy userId)).length : Int) := by
  unfold nextPosition
  cases amount : (pins.filter (ownedBy userId)).length with
  | zero =>
      rw [List.length_eq_zero_iff.mp amount]
      rfl
  | succ count =>
      have greatest : ((pins.filter (ownedBy userId)).map Pin.position).max? = some (count : Int) := by
        rw [List.max?_eq_some_iff]
        rw [Gapless, amount] at gapless
        constructor
        · rw [gapless.mem_iff]
          exact List.mem_map_of_mem (List.mem_range.mpr (Nat.lt_succ_self count))
        · intro position member
          obtain ⟨index, inside, same⟩ := List.mem_map.mp (gapless.mem_iff.mp member)
          have bound := List.mem_range.mp inside
          rw [← same]
          exact Int.ofNat_le.mpr (by omega)
      rw [greatest]
      rfl

/-- An accepted pin is appended after the other pins of the user, below the limit. -/
theorem addPin_spec {request : AddPin} {result : List Pin × Pin × Option String}
    (accepted : addPin request pins = .ok result) :
    ∃ pin : Pin, result.1 = pins ++ [pin] ∧ pin.id = nextPinId pins ∧ pin.userId = request.userId ∧
      pin.position = nextPosition request.userId pins ∧
      ((pins.filter (ownedBy request.userId)).length : Int) < request.limit := by
  unfold addPin at accepted
  dsimp only at accepted
  split at accepted
  · cases accepted
  · rename_i below
    split at accepted
    · cases accepted
    · rw [← Except.ok.inj accepted]
      exact ⟨_, rfl, rfl, rfl, rfl, by omega⟩

/-- A further pin belongs to its user. -/
theorem filter_append_pin (userId : Int) (pins : List Pin) (pin : Pin) :
    (pins ++ [pin]).filter (ownedBy userId) =
      pins.filter (ownedBy userId) ++ if pin.userId = userId then [pin] else [] := by
  rw [List.filter_append, List.filter_singleton, ownedBy, Bool.cond_decide]

/-- The new pin takes the position after the last one. -/
theorem gapless_addPin {request : AddPin} {result : List Pin × Pin × Option String}
    (accepted : addPin request pins = .ok result) (gapless : ∀ userId, Gapless userId pins) (userId : Int) :
    Gapless userId result.1 := by
  obtain ⟨pin, same, -, owner, placed, -⟩ := addPin_spec accepted
  rw [Gapless, same, filter_append_pin]
  by_cases owned : pin.userId = userId
  · have position := placed.trans (nextPosition_eq (gapless request.userId))
    rw [← owner, owned] at position
    rw [if_pos owned, List.map_append, List.length_append, List.length_singleton, List.range_succ, List.map_append,
      List.map_singleton, List.map_singleton, position]
    exact (gapless userId).append_right _
  · rw [if_neg owned, List.append_nil]
    exact gapless userId

/-- An accepted order names the pins of the user. -/
theorem reorderPins_ok {userId : Int} {pinIds : List Int} {result : List Pin × List Pin}
    (accepted : reorderPins userId pinIds pins = .ok result) :
    sameKeys pinIds ((pins.filter (ownedBy userId)).map Pin.id) = true ∧
      result.1 = positioned.renumber (ownedBy userId) pinIds pins := by
  unfold reorderPins at accepted
  dsimp only at accepted
  split at accepted
  · rename_i same
    rw [← Except.ok.inj accepted]
    exact ⟨same, rfl⟩
  · cases accepted

/-- A request that names each pin once numbers the user's pins from zero and leaves the others alone. -/
theorem gapless_reorder {userId : Int} {pinIds : List Int} (gapless : ∀ userId, Gapless userId pins)
    (listed : pinIds.Perm ((pins.filter (ownedBy userId)).map Pin.id))
    (distinct : pinIds.Nodup) (other : Int) :
    Gapless other (positioned.renumber (ownedBy userId) pinIds pins) := by
  by_cases same : other = userId
  · rw [same, Gapless, positioned.filter_renumber (fun _ _ => rfl) (fun _ _ => rfl), List.length_map,
      ← positioned.filter_renumber (fun _ _ => rfl) (fun _ _ => rfl), ← length_ownedIds,
      ← listed.length_eq]
    exact positioned.positions_renumber (fun _ _ => rfl) (fun _ _ => rfl) distinct listed fun _ _ owned => owned
  · rw [Gapless, positioned.filter_renumber_untouched (fun _ _ => rfl) (fun _ _ => rfl)]
    · exact gapless other
    · intro pin _ owned chosen
      exact absurd ((of_decide_eq_true owned).symm.trans (of_decide_eq_true chosen)) same

/-- The last identifier of an accepted request ends at the last index. Without a gap the request is therefore
no longer than the list of the user's pins. -/
theorem length_le_of_gapless {userId : Int} {pinIds : List Int}
    (same : sameKeys pinIds ((pins.filter (ownedBy userId)).map Pin.id) = true)
    (gapless : Gapless userId (positioned.renumber (ownedBy userId) pinIds pins)) :
    pinIds.length ≤ (pins.filter (ownedBy userId)).length := by
  rw [Gapless, positioned.filter_renumber (fun _ _ => rfl) (fun _ _ => rfl), List.length_map] at gapless
  induction pinIds using List.reverseRecOn with
  | nil => exact Nat.zero_le _
  | append_singleton earlier last _ =>
      have named := (sameKeys_iff.mp same last).mp (List.mem_append_right earlier (List.mem_singleton_self last))
      obtain ⟨pin, member, key⟩ := List.mem_map.mp named
      have placed : positioned.settle (ownedBy userId) 0 (earlier ++ [last]) pin =
          { pin with position := (earlier.length : Int) } := by
        apply positioned.settle_of_listed _ (List.mem_filter.mp member).2
        have final := Positioned.lastIndex_append_singleton 0 earlier last
        rw [Nat.zero_add, ← key] at final
        rw [← key]
        exact final
      have position := gapless.mem_iff.mp (List.mem_map_of_mem (List.mem_map_of_mem member))
      rw [placed] at position
      obtain ⟨index, inside, equal⟩ := List.mem_map.mp position
      have bound := List.mem_range.mp inside
      have index_eq := Int.ofNat.inj equal
      rw [List.length_append, List.length_singleton]
      omega

/-- An accepted request leaves no gap exactly when it names no pin twice. -/
theorem gapless_reorder_iff {userId : Int} {pinIds : List Int} (unique : UniqueIds pins)
    (gapless : ∀ userId, Gapless userId pins)
    (same : sameKeys pinIds ((pins.filter (ownedBy userId)).map Pin.id) = true) :
    (∀ other, Gapless other (positioned.renumber (ownedBy userId) pinIds pins)) ↔ pinIds.Nodup := by
  have owned := ownedIds_nodup unique userId
  constructor
  · intro after
    have short := length_le_of_gapless same (after userId)
    rw [← length_ownedIds] at short
    have inside : (pins.filter (ownedBy userId)).map Pin.id ⊆ pinIds := fun id => (sameKeys_iff.mp same id).mpr
    exact ((List.subperm_of_subset owned inside).perm_of_length_le short).nodup_iff.mp owned
  · intro distinct other
    exact gapless_reorder gapless (sameKeys_perm distinct owned same) distinct other

/-- No event breaks the primary key. -/
theorem uniqueIds_step (event : PinEvent) (unique : UniqueIds pins) : UniqueIds (pinStep pins event) := by
  have removed : ∀ {after}, Removal pins after → UniqueIds after := by
    intro after removal
    obtain ⟨users, keep, same, -⟩ := removal
    rw [same]
    exact uniqueIds_closeGaps users keep unique
  cases event with
  | add request =>
      cases accepted : addPin request pins with
      | error error =>
          rw [pinStep, accepted]
          exact unique
      | ok result =>
          obtain ⟨pin, same, fresh, -⟩ := addPin_spec accepted
          rw [pinStep, accepted]
          dsimp only
          rw [same]
          apply nodup_append_key unique
          rw [fresh]
          exact next_key_unused _
  | updateLabel pinId userId label =>
      rw [UniqueIds, pinStep, ids_updatePinLabel]
      exact unique
  | delete pinId userId => exact removed (deletePin_removal unique pinId userId)
  | reorder userId pinIds =>
      cases accepted : reorderPins userId pinIds pins with
      | error error =>
          rw [pinStep, accepted]
          exact unique
      | ok result =>
          rw [pinStep, accepted]
          dsimp only
          rw [UniqueIds, (reorderPins_ok accepted).2]
          exact (congrArg List.Nodup (positioned.map_key_renumber (fun _ _ => rfl) pinIds pins)).mpr unique
  | list context userId => exact removed (runStaleCleanup_removal unique context userId)
  | cleanupResource resourceKind resourceRef =>
      exact removed (cleanupPinsForResource_removal unique resourceKind resourceRef)

/-- A reorder request with the same set of identifiers as the user's pins names no pin twice. -/
def NamesOnce (pins : List Pin) : PinEvent → Prop
  | .reorder userId pinIds =>
      sameKeys pinIds ((pins.filter (ownedBy userId)).map Pin.id) = true → pinIds.Nodup
  | _ => True

/-- An accepted reorder request lists each of the user's pins exactly once. -/
def ListsEachOnce (pins : List Pin) : PinEvent → Prop
  | .reorder userId pinIds =>
      (∃ result, reorderPins userId pinIds pins = .ok result) →
        pinIds.Perm ((pins.filter (ownedBy userId)).map Pin.id)
  | _ => True

/-- A list with each pin once is a list of different ids. -/
theorem listsEachOnce_iff (event : PinEvent) (unique : UniqueIds pins) :
    ListsEachOnce pins event ↔ NamesOnce pins event := by
  cases event with
  | reorder userId pinIds =>
      have owned := ownedIds_nodup unique userId
      constructor
      · intro listed same
        have accepted : ∃ result, reorderPins userId pinIds pins = .ok result := ⟨_, if_pos same⟩
        exact (listed accepted).nodup_iff.mpr owned
      · intro once accepted
        obtain ⟨result, accepted⟩ := accepted
        have same := (reorderPins_ok accepted).1
        exact sameKeys_perm (once same) owned same
  | _ => exact Iff.rfl

/-- An event keeps the positions gapless exactly when it is no accepted reorder request that names a pin twice. -/
theorem gapless_step (event : PinEvent) (unique : UniqueIds pins) (gapless : ∀ userId, Gapless userId pins) :
    (∀ other, Gapless other (pinStep pins event)) ↔ NamesOnce pins event := by
  have removed : ∀ {after}, Removal pins after → ∀ other, Gapless other after := by
    intro after removal other
    obtain ⟨users, keep, same, named⟩ := removal
    rw [same]
    exact gapless_closeGaps unique gapless named other
  cases event with
  | add request =>
      apply iff_of_true _ trivial
      cases accepted : addPin request pins with
      | error error =>
          rw [pinStep, accepted]
          exact gapless
      | ok result =>
          rw [pinStep, accepted]
          exact gapless_addPin accepted gapless
  | updateLabel pinId userId label =>
      apply iff_of_true _ trivial
      intro other
      have same := positions_updatePinLabel pinId userId other label pins
      have amount := congrArg List.length same
      rw [List.length_map, List.length_map] at amount
      rw [Gapless, pinStep, same, amount]
      exact gapless other
  | delete pinId userId => exact iff_of_true (removed (deletePin_removal unique pinId userId)) trivial
  | reorder userId pinIds =>
      rw [pinStep]
      unfold reorderPins NamesOnce
      dsimp only
      by_cases same : sameKeys pinIds ((pins.filter (ownedBy userId)).map Pin.id) = true
      · rw [if_pos same]
        exact (gapless_reorder_iff unique gapless same).trans ⟨fun distinct _ => distinct, fun once => once same⟩
      · rw [if_neg same]
        exact iff_of_true gapless fun accepted => absurd accepted same
  | list context userId => exact iff_of_true (removed (runStaleCleanup_removal unique context userId)) trivial
  | cleanupResource resourceKind resourceRef =>
      exact iff_of_true (removed (cleanupPinsForResource_removal unique resourceKind resourceRef)) trivial

/-- Only an accepted pin raises the number of a user's pins, and it meets the limit. -/
theorem length_step (event : PinEvent) (unique : UniqueIds pins) {limit : Nat}
    (limited : ∀ request, event = .add request → request.limit ≤ limit)
    (within : ∀ userId, (pins.filter (ownedBy userId)).length ≤ limit) (other : Int) :
    ((pinStep pins event).filter (ownedBy other)).length ≤ limit := by
  have removed : ∀ {after}, Removal pins after → (after.filter (ownedBy other)).length ≤ limit := by
    intro after removal
    obtain ⟨users, keep, same, -⟩ := removal
    rw [same]
    exact le_trans (length_closeGaps users keep other pins) (within other)
  cases event with
  | add request =>
      cases accepted : addPin request pins with
      | error error =>
          rw [pinStep, accepted]
          exact within other
      | ok result =>
          obtain ⟨pin, same, -, owner, -, below⟩ := addPin_spec accepted
          have bound := limited request rfl
          have before := within other
          rw [pinStep, accepted]
          dsimp only
          rw [same, filter_append_pin, List.length_append]
          by_cases owned : pin.userId = other
          · rw [← owner, owned] at below
            rw [if_pos owned, List.length_singleton]
            omega
          · rw [if_neg owned, List.length_nil]
            omega
  | updateLabel pinId userId label =>
      have amount := congrArg List.length (positions_updatePinLabel pinId userId other label pins)
      rw [List.length_map, List.length_map] at amount
      rw [pinStep, amount]
      exact within other
  | delete pinId userId => exact removed (deletePin_removal unique pinId userId)
  | reorder userId pinIds =>
      cases accepted : reorderPins userId pinIds pins with
      | error error =>
          rw [pinStep, accepted]
          exact within other
      | ok result =>
          rw [pinStep, accepted]
          dsimp only
          rw [(reorderPins_ok accepted).2, positioned.filter_renumber (fun _ _ => rfl) (fun _ _ => rfl),
            List.length_map]
          exact within other
  | list context userId => exact removed (runStaleCleanup_removal unique context userId)
  | cleanupResource resourceKind resourceRef =>
      exact removed (cleanupPinsForResource_removal unique resourceKind resourceRef)

end Steps

section Runs
variable (events : List PinEvent)

/-- An empty table has unique ids. -/
theorem uniqueIds_nil : UniqueIds [] := List.nodup_nil

/-- The primary key holds at each visit of a run from the empty table. -/
theorem uniqueIds_visits : ∀ visit ∈ visits pinStep [] events, UniqueIds visit.1 :=
  visits_invariant pinStep (fun _ event unique (_ : True) => uniqueIds_step event unique) events uniqueIds_nil
    fun _ _ => trivial

/-- The positions of all users are gapless throughout a run exactly when no accepted reorder request names a pin
twice. -/
theorem gapless_reached :
    (∀ pins ∈ reached pinStep [] events, ∀ userId, Gapless userId pins) ↔
      ∀ visit ∈ visits pinStep [] events, NamesOnce visit.1 visit.2 :=
  reached_iff_allowed pinStep (fun _ event unique (_ : True) _ => uniqueIds_step event unique)
    (fun _ event unique _ gapless => gapless_step event unique gapless) events uniqueIds_nil
    (fun _ => List.Perm.refl []) fun _ _ => trivial

/-- The numbers of pins stay within every bound on the limits of the requests. -/
theorem length_reached {limit : Nat} (limited : ∀ request, PinEvent.add request ∈ events → request.limit ≤ limit) :
    ∀ pins ∈ reached pinStep [] events, ∀ userId, (pins.filter (ownedBy userId)).length ≤ limit := by
  have kept : ∀ pins event,
      (UniqueIds pins ∧ ∀ userId, (pins.filter (ownedBy userId)).length ≤ limit) → event ∈ events →
      UniqueIds (pinStep pins event) ∧
        ∀ userId, ((pinStep pins event).filter (ownedBy userId)).length ≤ limit := by
    intro pins event fine member
    refine ⟨uniqueIds_step event fine.1, length_step event fine.1 ?_ fine.2⟩
    intro request same
    rw [same] at member
    exact limited request member
  intro pins member
  exact (reached_invariant pinStep kept events ⟨uniqueIds_nil, fun _ => Nat.zero_le limit⟩
    (fun _ => visits_event pinStep [] events) pins member).2

/-- In every history the pins of each user occupy the positions from zero on, each once, their number stays
within every bound on the limits of the requests, and each accepted reorder request lists each of the user's
pins once, exactly when no request with the same set of identifiers as the user's pins names a pin twice. -/
theorem pins_gapless_iff :
    ((∀ pins ∈ reached pinStep [] events, ∀ userId, Gapless userId pins) ∧
      (∀ limit : Nat, (∀ request, PinEvent.add request ∈ events → request.limit ≤ limit) →
        ∀ pins ∈ reached pinStep [] events, ∀ userId, (pins.filter (ownedBy userId)).length ≤ limit) ∧
      ∀ visit ∈ visits pinStep [] events, ListsEachOnce visit.1 visit.2) ↔
      ∀ visit ∈ visits pinStep [] events, NamesOnce visit.1 visit.2 := by
  rw [gapless_reached]
  constructor
  · intro property
    exact property.1
  · intro once
    refine ⟨once, fun limit limited => length_reached events limited, ?_⟩
    intro visit member
    exact (listsEachOnce_iff visit.2 (uniqueIds_visits events visit member)).mpr (once visit member)

end Runs

/-- A request for a pin in Core. -/
def corePin (route : String) : AddPin :=
  { userId := 1, isPlus := false, softMax := coreMaxSidebarPins, route := route, label := none,
    pinKind := .other, resourceRef := none, now := "2026-01-01T00:00:00+00:00" }

/-- The request that names the first pin again after the second is accepted and leaves the positions one and two. -/
theorem reorderPins_leaves_gap :
    ∃ pins, reorderPins 1 [1, 2, 1] (run pinStep [] [.add (corePin "/vms"), .add (corePin "/nodes")]) = .ok pins ∧
      (pins.2.map fun pin => (pin.id, pin.position)) = [(2, 1), (1, 2)] ∧ ¬Gapless 1 pins.1 := by
  refine ⟨_, rfl, by decide +kernel, ?_⟩
  intro gapless
  have lowest : (0 : Int) ∈ ([2, 1] : List Int) := gapless.mem_iff.mpr (by decide +kernel)
  exact absurd lowest (by decide)

end P3Portal.Sidebar
