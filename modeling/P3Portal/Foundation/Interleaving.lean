import Mathlib.Data.List.Perm.Basic
import Mathlib.Tactic.Common

namespace P3Portal.Foundation

section Shown
variable {Item Shown : Type} {shown narrower : Item → Option Shown}

theorem filterMap_cons_toList (item : Item) (rest : List Item) :
    (item :: rest).filterMap shown = (shown item).toList ++ rest.filterMap shown := by
  rw [List.filterMap_cons]
  cases shown item <;> rfl

/-- Items that show less show a part of the list. -/
theorem filterMap_sublist (part : ∀ item value, narrower item = some value → shown item = some value)
    (items : List Item) : (items.filterMap narrower).Sublist (items.filterMap shown) := by
  induction items with
  | nil => exact List.Sublist.slnil
  | cons item rest ih =>
      rw [filterMap_cons_toList, filterMap_cons_toList]
      have here : (narrower item).toList.Sublist (shown item).toList := by
        cases value : narrower item with
        | none => exact List.nil_sublist _
        | some found =>
            rw [part item found value]
      exact here.append ih

end Shown

/-- Several processes take turns over one shared state. -/
structure Interleaved (Shared Process : Type) where
  shared : Shared
  processes : List Process

namespace Interleaved
variable {Shared Process : Type} (next : Shared → Process → Shared × Process)

/-- The process with the index takes one turn; an index without a process changes nothing. -/
def act (state : Interleaved Shared Process) (index : Nat) : Interleaved Shared Process :=
  match state.processes[index]? with
  | none => state
  | some process =>
      { shared := (next state.shared process).1
        processes := state.processes.set index (next state.shared process).2 }

/-- A new process joins behind the others. -/
def spawn (state : Interleaved Shared Process) (process : Process) : Interleaved Shared Process :=
  { state with processes := state.processes ++ [process] }

variable {next} {state : Interleaved Shared Process} {index : Nat} {process : Process}

/-- The other processes are those at the remaining indices. -/
def others (state : Interleaved Shared Process) (index : Nat) : List Process :=
  state.processes.eraseIdx index

theorem act_absent (absent : state.processes[index]? = none) : state.act next index = state := by
  unfold act
  rw [absent]

/-- A turn that changes neither the shared state nor the process changes nothing. -/
theorem act_idle (present : state.processes[index]? = some process)
    (idle : next state.shared process = (state.shared, process)) : state.act next index = state := by
  obtain ⟨inside, rfl⟩ := List.getElem?_eq_some_iff.mp present
  unfold act
  rw [present]
  simp only [idle, List.set_getElem_self]

/-- A turn changes nothing unless the process at the index is one that acts. -/
theorem act_cases {acts : Process → Prop}
    (idle : ∀ process, ¬ acts process → next state.shared process = (state.shared, process)) (index : Nat) :
    (state.act next index = state ∧ ∀ process, state.processes[index]? = some process → ¬ acts process) ∨
      ∃ process, state.processes[index]? = some process ∧ acts process := by
  cases present : state.processes[index]? with
  | none =>
      refine .inl ⟨act_absent present, ?_⟩
      intro process found
      cases found
  | some process =>
      by_cases active : acts process
      · exact .inr ⟨process, rfl, active⟩
      · refine .inl ⟨act_idle present (idle process active), ?_⟩
        intro other found
        rwa [← Option.some.inj found]

theorem act_shared (present : state.processes[index]? = some process) :
    (state.act next index).shared = (next state.shared process).1 := by
  unfold act
  rw [present]

/-- A turn changes the process at its index only. -/
theorem getElem?_act (present : state.processes[index]? = some process) (other : Nat) :
    (state.act next index).processes[other]? =
      if other = index then some (next state.shared process).2 else state.processes[other]? := by
  obtain ⟨inside, -⟩ := List.getElem?_eq_some_iff.mp present
  unfold act
  rw [present]
  by_cases same : other = index
  · rw [if_pos same, same]
    exact List.getElem?_set_self inside
  · rw [if_neg same]
    exact List.getElem?_set_ne fun equal => same equal.symm

/-- A new process stands behind the others. -/
theorem getElem?_spawn (state : Interleaved Shared Process) (process : Process) (other : Nat) :
    (state.spawn process).processes[other]? =
      if other = state.processes.length then some process else state.processes[other]? := by
  unfold spawn
  by_cases same : other = state.processes.length
  · rw [if_pos same, same]
    simp
  · rw [if_neg same]
    rcases Nat.lt_or_gt_of_ne same with inside | outside
    · exact List.getElem?_append_left inside
    · rw [List.getElem?_eq_none (by rw [List.length_append, List.length_singleton]; omega),
        List.getElem?_eq_none (by omega)]

theorem processes_perm (present : state.processes[index]? = some process) :
    state.processes.Perm (process :: state.others index) := by
  obtain ⟨inside, same⟩ := List.getElem?_eq_some_iff.mp present
  rw [← same]
  exact (List.getElem_cons_eraseIdx_perm inside).symm

theorem mem_processes (present : state.processes[index]? = some process) : process ∈ state.processes :=
  (processes_perm present).mem_iff.mpr List.mem_cons_self

/-- One turn exchanges the process and keeps the others. -/
theorem act_processes_perm (present : state.processes[index]? = some process) :
    (state.act next index).processes.Perm ((next state.shared process).2 :: state.others index) := by
  obtain ⟨inside, -⟩ := List.getElem?_eq_some_iff.mp present
  have longer : index < (state.processes.set index (next state.shared process).2).length := by
    rw [List.length_set]
    exact inside
  have exchanged := List.getElem_cons_eraseIdx_perm longer
  rw [List.getElem_set_self, List.eraseIdx_set_eq] at exchanged
  unfold act
  rw [present]
  exact exchanged.symm

/-- A property of all processes survives a turn when the new process has it and the others keep it. -/
theorem forall_act {good after : Process → Prop} (present : state.processes[index]? = some process)
    (all : ∀ other ∈ state.processes, good other)
    (changed : good process → after (next state.shared process).2)
    (kept : ∀ other ∈ state.others index, good other → after other) :
    ∀ other ∈ (state.act next index).processes, after other := by
  intro other member
  have before := fun other => (processes_perm present).mem_iff (a := other)
  rcases List.mem_cons.mp ((act_processes_perm present).mem_iff.mp member) with here | there
  · rw [here]
    exact changed (all process ((before process).mpr List.mem_cons_self))
  · exact kept other there (all other ((before other).mpr (List.mem_cons_of_mem _ there)))

/-- The process after its turn is one of the processes. -/
theorem mem_act (present : state.processes[index]? = some process) :
    (next state.shared process).2 ∈ (state.act next index).processes :=
  (act_processes_perm present).mem_iff.mpr List.mem_cons_self

/-- When all processes have a property, a turn keeps it exactly when the process has it afterwards. -/
theorem forall_act_iff {good : Process → Prop} (present : state.processes[index]? = some process)
    (all : ∀ other ∈ state.processes, good other) :
    (∀ other ∈ (state.act next index).processes, good other) ↔ good (next state.shared process).2 := by
  constructor
  · intro after
    exact after _ (mem_act present)
  · intro changed
    exact forall_act present all (fun _ => changed) fun _ _ fine => fine

/-- A turn changes the count of marked processes by the marks of the one process. -/
theorem countP_act (marked : Process → Bool) (present : state.processes[index]? = some process) :
    (state.act next index).processes.countP marked + (if marked process then 1 else 0) =
      state.processes.countP marked + if marked (next state.shared process).2 then 1 else 0 := by
  rw [(act_processes_perm present).countP_eq, (processes_perm present).countP_eq, List.countP_cons,
    List.countP_cons]
  omega

/-- What the processes show is what the one process and the others show. -/
theorem filterMap_perm {Shown : Type} (shown : Process → Option Shown)
    (present : state.processes[index]? = some process) :
    (state.processes.filterMap shown).Perm ((shown process).toList ++ (state.others index).filterMap shown) := by
  rw [← filterMap_cons_toList]
  exact (processes_perm present).filterMap shown

/-- A turn changes what the one process shows. -/
theorem act_filterMap_perm {Shown : Type} (shown : Process → Option Shown)
    (present : state.processes[index]? = some process) :
    ((state.act next index).processes.filterMap shown).Perm
      ((shown (next state.shared process).2).toList ++ (state.others index).filterMap shown) := by
  rw [← filterMap_cons_toList]
  exact (act_processes_perm present).filterMap shown

end Interleaved
end P3Portal.Foundation
