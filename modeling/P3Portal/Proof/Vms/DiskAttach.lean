import P3Portal.Construction.Vms.Disks
import P3Portal.Foundation.Run

namespace P3Portal.Vms
open Foundation Http

section Slots
variable {config : VmConfig} {bus : DiskBus} {index : Nat}

/-- The decimal text of a valid index reads back as the index. -/
theorem natural_toString : ∀ index ≤ 30, Number.natural (toString index).toList = some index ∧
    (toString index).toList.all (fun character => (Number.digitValue character).isSome) = true := by
  decide

theorem DiskBus.max_le (bus : DiskBus) : bus.max ≤ 30 := by
  cases bus <;> decide

theorem slotIndex_slotName (valid : index ≤ bus.max) : slotIndex bus (slotName bus index) = some index := by
  obtain ⟨read, digits⟩ := natural_toString index (le_trans valid bus.max_le)
  have starts : Text.startsWith bus.name (slotName bus index) = true :=
    (Text.startsWith_iff _ _).mpr ⟨(toString index).toList, String.toList_append⟩
  have rest : (slotName bus index).toList.drop bus.name.length = (toString index).toList := by
    show (bus.name ++ toString index).toList.drop bus.name.length = (toString index).toList
    rw [String.toList_append, ← String.length_toList, List.drop_left]
  unfold slotIndex
  rw [if_pos starts, rest]
  simp only [digits, read, if_true]

/-- A slot of the bus that is not in use is empty. -/
theorem get?_slotName (valid : index ≤ bus.max) (unused : index ∉ usedIndices config bus) :
    config.get? (slotName bus index) = none := by
  have absent : slotName bus index ∉ config.entries.map Prod.fst := by
    intro stored
    exact unused (List.mem_filterMap.mpr ⟨slotName bus index, stored, slotIndex_slotName valid⟩)
  rw [config.mem_keys_iff, Bool.not_eq_true, Option.isSome_eq_false_iff, Option.isNone_iff_eq_none] at absent
  exact absent

/-- The chosen slot is empty in the configuration that was read. -/
theorem nextFreeDiskSlot_empty (chosen : nextFreeDiskSlot config bus = .ok index) :
    config.get? (slotName bus index) = none := by
  unfold nextFreeDiskSlot at chosen
  split at chosen
  · rename_i found searched
    rw [Except.ok.inj chosen] at searched
    have inside := List.mem_range.mp (List.mem_of_find?_eq_some searched)
    have unused := List.find?_some searched
    rw [decide_eq_true_eq] at unused
    exact get?_slotName (Nat.lt_succ_iff.mp inside) unused
  · cases chosen

end Slots

section Turns

def ProxmoxReply.carriedOut : ProxmoxReply → Bool
  | .answered | .answerLost => true
  | .failed _ => false

/-- The slot of a request that was answered with success. -/
def AttachCall.succeeded (call : AttachCall) : Option String :=
  match call.phase with
  | .finished (.ok slot) => some slot
  | _ => none

/-- The slot that a request has written and may still report. -/
def AttachCall.written (call : AttachCall) : Option String :=
  match call.phase with
  | .attached slot => some slot
  | _ => call.succeeded

theorem AttachCall.written_of_succeeded (call : AttachCall) (slot : String)
    (reported : call.succeeded = some slot) : call.written = some slot := by
  obtain ⟨body, serial, phase⟩ := call
  cases phase with
  | attached other => cases reported
  | arrived access => exact reported
  | chosen other => exact reported
  | finished answer => exact reported

/-- No slot that held a disk was assigned, and the successful requests have pairwise different slots. -/
structure NothingDisplaced (state : DiskState) : Prop where
  empty : ∀ assignment ∈ state.shared.assigned, assignment.2 = none
  apart : (state.processes.filterMap AttachCall.succeeded).Nodup

/-- The slots that requests have written hold a disk each. -/
structure WrittenApart (state : DiskState) : Prop where
  apart : (state.processes.filterMap AttachCall.written).Nodup
  held : ∀ slot ∈ state.processes.filterMap AttachCall.written, (state.shared.config.get? slot).isSome = true

/-- The slot that a request chose earlier is still empty when Proxmox carries out its write. -/
def SlotStillFree (state : DiskState) : DiskEvent → Prop
  | .request _ _ _ => True
  | .advance index reply => ∀ call, state.processes[index]? = some call → ∀ slot, call.phase = .chosen slot →
      reply.carriedOut = true → state.shared.config.get? slot = none

variable {store : DiskStore} {call : AttachCall} {reply : ProxmoxReply}

/-- A turn writes the chosen slot, or it leaves the store and reports no new slot. -/
theorem turn_cases (reply : ProxmoxReply) (store : DiskStore) (call : AttachCall) :
    (∃ slot value, call.phase = .chosen slot ∧ reply.carriedOut = true ∧
        (call.advance reply store).1 = store.put slot value ∧ call.written = none ∧
        (call.advance reply store).2.succeeded = none ∧
        ∀ other, (call.advance reply store).2.written = some other → other = slot) ∨
      ((call.advance reply store).1 = store ∧ (∀ slot, call.phase = .chosen slot → reply.carriedOut = false) ∧
        ∀ slot, (call.advance reply store).2.written = some slot → call.written = some slot) := by
  obtain ⟨body, serial, phase⟩ := call
  cases phase with
  | arrived access =>
      right
      cases access with
      | error exception => simp [AttachCall.advance, AttachCall.turn, AttachCall.written, AttachCall.succeeded]
      | ok vmType =>
          simp only [AttachCall.advance, AttachCall.turn]
          split
          · simp [AttachCall.written, AttachCall.succeeded]
          · cases reply with
            | answered =>
                simp only
                split <;> simp [AttachCall.written, AttachCall.succeeded]
            | answerLost => simp [AttachCall.written, AttachCall.succeeded]
            | failed error => simp [AttachCall.written, AttachCall.succeeded]
  | chosen slot =>
      cases reply with
      | answered =>
          left
          exact ⟨slot, diskValue body serial, rfl, rfl, rfl, rfl, rfl, fun other same => (Option.some.inj same).symm⟩
      | answerLost =>
          left
          refine ⟨slot, diskValue body serial, rfl, rfl, rfl, rfl, rfl, ?_⟩
          intro other absent
          cases absent
      | failed error =>
          right
          simp [AttachCall.advance, AttachCall.turn, AttachCall.written, AttachCall.succeeded,
            ProxmoxReply.carriedOut]
  | attached slot =>
      right
      cases reply <;> simp [AttachCall.advance, AttachCall.turn, AttachCall.written, AttachCall.succeeded]
  | finished answer =>
      right
      simp [AttachCall.advance, AttachCall.turn]

/-- A request that has to write has just chosen an empty slot, or it had chosen its slot before. -/
theorem turn_chosen {slot : String}
    (waiting : ∀ slot, call.phase = .chosen slot → store.config.get? slot = none)
    (chosen : (call.advance reply store).2.phase = .chosen slot) : store.config.get? slot = none := by
  obtain ⟨body, serial, phase⟩ := call
  cases phase with
  | arrived access =>
      cases access with
      | error exception => cases chosen
      | ok vmType =>
          simp only [AttachCall.advance, AttachCall.turn] at chosen
          split at chosen
          · cases chosen
          · cases reply with
            | answered =>
                simp only at chosen
                split at chosen
                · rename_i index searched
                  rw [← AttachPhase.chosen.inj chosen]
                  exact nextFreeDiskSlot_empty searched
                · cases chosen
            | answerLost => cases chosen
            | failed error => cases chosen
  | chosen other => cases reply <;> cases chosen
  | attached other => cases reply <;> cases chosen
  | finished answer => cases chosen

end Turns

section History
variable {state : DiskState}

theorem WrittenApart.mem_others (kept : WrittenApart state) {index : Nat} {call : AttachCall}
    (present : state.processes[index]? = some call) {slot : String}
    (member : slot ∈ (state.others index).filterMap AttachCall.written) :
    (state.shared.config.get? slot).isSome = true :=
  kept.held slot ((Interleaved.filterMap_perm _ present).mem_iff.mpr (List.mem_append_right _ member))

/-- A write to an empty slot adds a new disk beside the ones that requests have written. -/
theorem WrittenApart.put (kept : WrittenApart state) {index : Nat} {call : AttachCall} {reply : ProxmoxReply}
    (present : state.processes[index]? = some call) {slot value : String}
    (empty : state.shared.config.get? slot = none)
    (stored : (call.advance reply state.shared).1 = state.shared.put slot value)
    (named : ∀ other, (call.advance reply state.shared).2.written = some other → other = slot) :
    WrittenApart (state.act (AttachCall.advance reply) index) := by
  have shown : ((state.act (AttachCall.advance reply) index).processes.filterMap AttachCall.written).Perm
      ((call.advance reply state.shared).2.written.toList ++ (state.others index).filterMap AttachCall.written) :=
    Interleaved.act_filterMap_perm AttachCall.written present
  have elsewhere : slot ∉ (state.others index).filterMap AttachCall.written := by
    intro member
    have occupied := kept.mem_others present member
    rw [empty] at occupied
    cases occupied
  have othersApart := ((Interleaved.filterMap_perm _ present).nodup_iff.mp kept.apart).of_append_right
  have config : (state.act (AttachCall.advance reply) index).shared.config =
      state.shared.config.set slot value := by
    rw [Interleaved.act_shared present, stored]
    rfl
  constructor
  · rw [shown.nodup_iff]
    cases new : (call.advance reply state.shared).2.written with
    | none => exact othersApart
    | some other =>
        rw [named other new]
        exact List.nodup_cons.mpr ⟨elsewhere, othersApart⟩
  · intro held member
    rw [config, OrderedMap.get?_set]
    rcases List.mem_append.mp (shown.mem_iff.mp member) with here | there
    · rw [named held (Option.mem_toList.mp here), if_pos rfl]
      rfl
    · have different : held ≠ slot := by
        intro same
        rw [same] at there
        exact elsewhere there
      rw [if_neg different]
      exact kept.mem_others present there

/-- A turn without a write may only stop reporting its slot. -/
theorem WrittenApart.quiet (kept : WrittenApart state) {index : Nat} {call : AttachCall} {reply : ProxmoxReply}
    (present : state.processes[index]? = some call)
    (stored : (call.advance reply state.shared).1 = state.shared)
    (named : ∀ slot, (call.advance reply state.shared).2.written = some slot → call.written = some slot) :
    WrittenApart (state.act (AttachCall.advance reply) index) := by
  have before := Interleaved.filterMap_perm AttachCall.written present
  have shown : ((state.act (AttachCall.advance reply) index).processes.filterMap AttachCall.written).Perm
      ((call.advance reply state.shared).2.written.toList ++ (state.others index).filterMap AttachCall.written) :=
    Interleaved.act_filterMap_perm AttachCall.written present
  have part : ((call.advance reply state.shared).2.written.toList ++
      (state.others index).filterMap AttachCall.written).Sublist
      (call.written.toList ++ (state.others index).filterMap AttachCall.written) := by
    apply List.Sublist.append _ (List.Sublist.refl _)
    cases new : (call.advance reply state.shared).2.written with
    | none => exact List.nil_sublist _
    | some slot => rw [named slot new]
  constructor
  · exact shown.nodup_iff.mpr ((before.nodup_iff.mp kept.apart).sublist part)
  · intro slot member
    rw [Interleaved.act_shared present, stored]
    exact kept.held slot (before.mem_iff.mpr (part.subset (shown.mem_iff.mp member)))

theorem diskStep_writtenApart (event : DiskEvent) (kept : WrittenApart state)
    (free : SlotStillFree state event) : WrittenApart (diskStep state event) := by
  cases event with
  | request body serial access =>
      have shown : (diskStep state (.request body serial access)).processes.filterMap AttachCall.written =
          state.processes.filterMap AttachCall.written := by
        show (state.processes ++ [_]).filterMap AttachCall.written = _
        rw [List.filterMap_append]
        exact List.append_nil _
      constructor
      · rw [shown]
        exact kept.apart
      · rw [shown]
        exact kept.held
  | advance index reply =>
      show WrittenApart (state.act (AttachCall.advance reply) index)
      cases present : state.processes[index]? with
      | none =>
          rw [Interleaved.act_absent present]
          exact kept
      | some call =>
          rcases turn_cases reply state.shared call with ⟨slot, value, chosen, carried, stored, -, -, named⟩ |
            ⟨stored, -, named⟩
          · exact kept.put present (free call present slot chosen carried) stored named
          · exact kept.quiet present stored named

theorem WrittenApart.succeeded_apart (kept : WrittenApart state) :
    (state.processes.filterMap AttachCall.succeeded).Nodup :=
  kept.apart.sublist (filterMap_sublist AttachCall.written_of_succeeded state.processes)

/-- A step displaces no disk exactly when the slot that it writes is still empty. -/
theorem diskStep_nothingDisplaced_iff (event : DiskEvent) (kept : WrittenApart state)
    (before : NothingDisplaced state) :
    NothingDisplaced (diskStep state event) ↔ SlotStillFree state event := by
  cases event with
  | request body serial access =>
      have fine : SlotStillFree state (.request body serial access) := trivial
      apply iff_of_true _ fine
      exact ⟨before.empty, (diskStep_writtenApart _ kept fine).succeeded_apart⟩
  | advance index reply =>
      constructor
      · intro after call present slot chosen carried
        rcases turn_cases reply state.shared call with ⟨other, value, phase, -, stored, -, -, -⟩ | ⟨-, idle, -⟩
        · have same : other = slot := by
            rw [chosen] at phase
            cases phase
            rfl
          have shared : (diskStep state (.advance index reply)).shared = state.shared.put other value := by
            rw [← stored]
            exact Interleaved.act_shared present
          have empty := after.empty (other, state.shared.config.get? other)
          rw [shared, same] at empty
          exact empty (List.mem_append_right _ (List.mem_singleton.mpr rfl))
        · rw [idle slot chosen] at carried
          cases carried
      · intro free
        refine ⟨?_, (diskStep_writtenApart _ kept free).succeeded_apart⟩
        show ∀ assignment ∈ (state.act (AttachCall.advance reply) index).shared.assigned, assignment.2 = none
        cases present : state.processes[index]? with
        | none =>
            rw [Interleaved.act_absent present]
            exact before.empty
        | some call =>
            rw [Interleaved.act_shared present]
            rcases turn_cases reply state.shared call with ⟨slot, value, chosen, carried, stored, -, -, -⟩ |
              ⟨stored, -, -⟩
            · rw [stored]
              intro assignment member
              rcases List.mem_append.mp member with old | new
              · exact before.empty assignment old
              · rw [List.mem_singleton.mp new]
                exact free call present slot chosen carried
            · rw [stored]
              exact before.empty

/-- Every request that still has to write finds its slot empty. -/
def ChosenFree (state : DiskState) : Prop :=
  ∀ call ∈ state.processes, ∀ slot, call.phase = .chosen slot → state.shared.config.get? slot = none

theorem ChosenFree.slotStillFree (free : ChosenFree state) (event : DiskEvent) : SlotStillFree state event := by
  cases event with
  | request body serial access => trivial
  | advance index reply =>
      intro call present slot chosen carried
      exact free call (Interleaved.mem_processes present) slot chosen

/-- A slot stays free from the reading of the configuration until another request writes. -/
theorem diskStep_chosenFree (event : DiskEvent) (free : ChosenFree state)
    (unwritten : (diskStep state event).shared.config = state.shared.config) :
    ChosenFree (diskStep state event) := by
  intro call member slot chosen
  rw [unwritten]
  cases event with
  | request body serial access =>
      rcases List.mem_append.mp member with old | new
      · exact free call old slot chosen
      · rw [List.mem_singleton.mp new] at chosen
        cases chosen
  | advance index reply =>
      cases present : state.processes[index]? with
      | none =>
          have same : diskStep state (.advance index reply) = state := Interleaved.act_absent present
          rw [same] at member
          exact free call member slot chosen
      | some before =>
          have turned : ∀ other ∈ (state.act (AttachCall.advance reply) index).processes, ∀ slot,
              other.phase = .chosen slot → state.shared.config.get? slot = none := by
            refine Interleaved.forall_act present free ?_ ?_
            · intro waiting slot chosen
              exact turn_chosen waiting chosen
            · intro other _ waiting
              exact waiting
          exact turned call member slot chosen

/-- The guest before its first request. -/
def diskStart (config : VmConfig) : DiskState := ⟨⟨config, []⟩, []⟩

/-- No disk is displaced in any state of a history exactly when every write finds its slot still empty. -/
theorem nothing_displaced_iff (config : VmConfig) (events : List DiskEvent) :
    (∀ after ∈ reached diskStep (diskStart config) events, NothingDisplaced after) ↔
      ∀ visit ∈ visits diskStep (diskStart config) events, SlotStillFree visit.1 visit.2 := by
  have keep : ∀ (state : DiskState) (event : DiskEvent), WrittenApart state → True → SlotStillFree state event →
      WrittenApart (diskStep state event) :=
    fun state event kept _ free => diskStep_writtenApart event kept free
  have once : ∀ (state : DiskState) (event : DiskEvent), WrittenApart state → True → NothingDisplaced state →
      (NothingDisplaced (diskStep state event) ↔ SlotStillFree state event) :=
    fun state event kept _ before => diskStep_nothingDisplaced_iff event kept before
  have started : WrittenApart (diskStart config) := by
    constructor
    · exact List.nodup_nil
    · intro slot absent
      cases absent
  have untouched : NothingDisplaced (diskStart config) := by
    constructor
    · intro assignment absent
      cases absent
    · exact List.nodup_nil
  exact reached_iff_allowed _ keep once events started untouched fun _ _ => trivial

end History

section Overlap
/-- The guest has one disk. -/
def oneDisk : VmConfig := ⟨[("scsihw", "virtio-scsi-pci"), ("scsi0", "local:vm-100-disk-0")], by decide⟩

def eightGib : DiskAttachRequest where
  sizeGb := 8
  storage := "local"

/-- Both requests read the configuration before either of them writes it. -/
def overlappingRequests : List DiskEvent :=
  [.request eightGib "p3-1" (.ok "qemu"), .request eightGib "p3-2" (.ok "qemu"), .advance 0 .answered,
    .advance 1 .answered, .advance 0 .answered, .advance 1 .answered, .advance 0 .answered, .advance 1 .answered]

/-- The second write replaces the disk of the first one, and both requests report the same slot. -/
theorem overlap_displaces : ¬ ∀ (config : VmConfig) (events : List DiskEvent),
    ∀ after ∈ reached diskStep (diskStart config) events, NothingDisplaced after := by
  intro claim
  have last := claim oneDisk overlappingRequests (run diskStep (diskStart oneDisk) overlappingRequests)
    (run_mem_reached _ _ _)
  have apart := last.apart
  revert apart
  decide

end Overlap
end P3Portal.Vms
