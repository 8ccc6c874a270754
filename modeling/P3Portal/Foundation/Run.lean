import Mathlib.Tactic.Common

namespace P3Portal.Foundation
variable {State Event : Type} (step : State → Event → State)

/-- A run applies its events in turn. -/
def run (state : State) (events : List Event) : State := events.foldl step state

/-- The visits of a run pair each event with the state that it meets. -/
def visits (state : State) : List Event → List (State × Event)
  | [] => []
  | event :: rest => (state, event) :: visits (step state event) rest

/-- A run passes through its start and the state after each event. -/
def reached (state : State) : List Event → List State
  | [] => [state]
  | event :: rest => state :: reached (step state event) rest

/-- The visits of a run meet its events. -/
theorem visits_event (state : State) (events : List Event) {visit : State × Event}
    (member : visit ∈ visits step state events) : visit.2 ∈ events := by
  induction events generalizing state with
  | nil => cases member
  | cons event rest ih =>
      rcases List.mem_cons.mp member with first | later
      · rw [first]
        exact List.mem_cons_self
      · exact List.mem_cons_of_mem _ (ih (step state event) later)

/-- A property that every allowed event keeps holds at each visit of a run of allowed events. -/
theorem visits_invariant {holds : State → Prop} {allowed : State → Event → Prop}
    (kept : ∀ state event, holds state → allowed state event → holds (step state event))
    (events : List Event) {state : State} (start : holds state)
    (allowedAll : ∀ visit ∈ visits step state events, allowed visit.1 visit.2) :
    ∀ visit ∈ visits step state events, holds visit.1 := by
  induction events generalizing state with
  | nil =>
      intro visit absent
      cases absent
  | cons event rest ih =>
      have here := allowedAll (state, event) List.mem_cons_self
      intro visit member
      rcases List.mem_cons.mp member with first | later
      · rw [first]
        exact start
      · exact ih (kept state event start here)
          (fun visit member => allowedAll visit (List.mem_cons_of_mem _ member)) visit later

/-- The same property holds in the last state. -/
theorem run_invariant {holds : State → Prop} {allowed : State → Event → Prop}
    (kept : ∀ state event, holds state → allowed state event → holds (step state event))
    (events : List Event) {state : State} (start : holds state)
    (allowedAll : ∀ visit ∈ visits step state events, allowed visit.1 visit.2) :
    holds (run step state events) := by
  induction events generalizing state with
  | nil => exact start
  | cons event rest ih =>
      have here := allowedAll (state, event) List.mem_cons_self
      exact ih (kept state event start here)
        fun visit member => allowedAll visit (List.mem_cons_of_mem _ member)

/-- The property holds in every state that the run passes. -/
theorem reached_invariant {holds : State → Prop} {allowed : State → Event → Prop}
    (kept : ∀ state event, holds state → allowed state event → holds (step state event))
    (events : List Event) {state : State} (start : holds state)
    (allowedAll : ∀ visit ∈ visits step state events, allowed visit.1 visit.2) :
    ∀ after ∈ reached step state events, holds after := by
  induction events generalizing state with
  | nil =>
      intro after member
      rw [List.mem_singleton.mp member]
      exact start
  | cons event rest ih =>
      have here := allowedAll (state, event) List.mem_cons_self
      intro after member
      rcases List.mem_cons.mp member with first | later
      · rw [first]
        exact start
      · exact ih (kept state event start here)
          (fun visit member => allowedAll visit (List.mem_cons_of_mem _ member)) after later

/-- A property of the visits so far and the state that every allowed event keeps holds at each visit. -/
theorem visits_history {holds : List (State × Event) → State → Prop} {allowed : State → Event → Prop}
    (kept : ∀ past state event, holds past state → allowed state event →
      holds (past ++ [(state, event)]) (step state event))
    (events : List Event) {past : List (State × Event)} {state : State} (start : holds past state)
    (allowedAll : ∀ visit ∈ visits step state events, allowed visit.1 visit.2)
    {before after : List (State × Event)} {visit : State × Event}
    (split : visits step state events = before ++ visit :: after) : holds (past ++ before) visit.1 := by
  induction events generalizing past state before with
  | nil =>
      rw [visits] at split
      exact absurd split (by simp)
  | cons event rest ih =>
      have here := allowedAll (state, event) List.mem_cons_self
      cases before with
      | nil =>
          rw [← (List.cons.inj split).1, List.append_nil]
          exact start
      | cons first earlier =>
          obtain ⟨same, later⟩ := List.cons.inj split
          have next := ih (kept past state event start here)
            (fun visit member => allowedAll visit (List.mem_cons_of_mem _ member)) later
          rw [← same]
          simpa only [List.append_assoc, List.singleton_append] using next

/-- A property of the visits so far and the state that every allowed event keeps holds at the end of a run. -/
theorem run_history {holds : List (State × Event) → State → Prop} {allowed : State → Event → Prop}
    (kept : ∀ past state event, holds past state → allowed state event →
      holds (past ++ [(state, event)]) (step state event))
    (events : List Event) {past : List (State × Event)} {state : State} (start : holds past state)
    (allowedAll : ∀ visit ∈ visits step state events, allowed visit.1 visit.2) :
    holds (past ++ visits step state events) (run step state events) := by
  induction events generalizing past state with
  | nil =>
      rw [visits, List.append_nil]
      exact start
  | cons event rest ih =>
      have here := allowedAll (state, event) List.mem_cons_self
      have next := ih (kept past state event start here)
        fun visit member => allowedAll visit (List.mem_cons_of_mem _ member)
      rw [List.append_assoc] at next
      exact next

/-- The start of a run is one of its states. -/
theorem mem_reached_start (state : State) (events : List Event) : state ∈ reached step state events := by
  cases events with
  | nil => exact List.mem_singleton.mpr rfl
  | cons event rest => exact List.mem_cons_self

/-- The end of a run is one of its states. -/
theorem run_mem_reached (state : State) (events : List Event) : run step state events ∈ reached step state events := by
  induction events generalizing state with
  | nil => exact List.mem_singleton.mpr rfl
  | cons event rest ih => exact List.mem_cons_of_mem _ (ih (step state event))

/-- A property that an event keeps exactly when the event is allowed holds in all states of a run exactly
when all its events are allowed. The invariant may rest on what the environment provides. -/
theorem reached_iff_allowed {holds good : State → Prop} {provided allowed : State → Event → Prop}
    (kept : ∀ state event, holds state → provided state event → allowed state event → holds (step state event))
    (exact_step : ∀ state event, holds state → provided state event → good state →
      (good (step state event) ↔ allowed state event))
    (events : List Event) {state : State} (start : holds state) (fine : good state)
    (environment : ∀ visit ∈ visits step state events, provided visit.1 visit.2) :
    (∀ after ∈ reached step state events, good after) ↔
      ∀ visit ∈ visits step state events, allowed visit.1 visit.2 := by
  induction events generalizing state with
  | nil =>
      constructor
      · intro _ visit absent
        cases absent
      · intro _ after member
        rw [List.mem_singleton.mp member]
        exact fine
  | cons event rest ih =>
      have here := environment (state, event) List.mem_cons_self
      have later := fun visit member => environment visit (List.mem_cons_of_mem _ member)
      have once := exact_step state event start here fine
      constructor
      · intro everywhere visit member
        have after := everywhere _ (List.mem_cons_of_mem _ (mem_reached_start step _ rest))
        have permitted := once.mp after
        rcases List.mem_cons.mp member with first | further
        · rw [first]
          exact permitted
        · exact (ih (kept state event start here permitted) after later).mp
            (fun next member => everywhere next (List.mem_cons_of_mem _ member)) visit further
      · intro everywhere next member
        have permitted := everywhere (state, event) List.mem_cons_self
        rcases List.mem_cons.mp member with first | further
        · rw [first]
          exact fine
        · exact (ih (kept state event start here permitted) (once.mpr permitted) later).mpr
            (fun visit member => everywhere visit (List.mem_cons_of_mem _ member)) next further

/-- When all states of a run are related to the later ones, its start is related to all of them. -/
theorem start_related {related : State → State → Prop} (refl : ∀ state, related state state) {state : State}
    {events : List Event} (ordered : (reached step state events).Pairwise related) :
    ∀ after ∈ reached step state events, related state after := by
  cases events with
  | nil =>
      intro after member
      rw [List.mem_singleton.mp member]
      exact refl state
  | cons event rest =>
      intro after member
      rcases List.mem_cons.mp member with here | later
      · rw [here]
        exact refl state
      · exact (List.pairwise_cons.mp ordered).1 after later

/-- All states of a run are related to the later ones exactly when every event is allowed, provided that an
event relates its two states exactly when it is allowed. Relations compose over what every event lets grow. -/
theorem reached_pairwise_iff {holds : State → Prop} {allowed : State → Event → Prop}
    {related grows : State → State → Prop} (refl : ∀ state, related state state)
    (compose : ∀ first second third, grows first second → related first second → related second third →
      related first third)
    (grow : ∀ state event, grows state (step state event))
    (kept : ∀ state event, holds state → holds (step state event))
    (exact_step : ∀ state event, holds state → (related state (step state event) ↔ allowed state event))
    (events : List Event) {state : State} (start : holds state) :
    (reached step state events).Pairwise related ↔
      ∀ visit ∈ visits step state events, allowed visit.1 visit.2 := by
  induction events generalizing state with
  | nil =>
      apply iff_of_true (List.pairwise_singleton _ _)
      intro visit absent
      cases absent
  | cons event rest ih =>
      have later := ih (kept state event start)
      have once := exact_step state event start
      show (state :: reached step (step state event) rest).Pairwise related ↔ _
      rw [List.pairwise_cons, later]
      constructor
      · intro everywhere visit member
        rcases List.mem_cons.mp member with first | further
        · rw [first]
          exact once.mp (everywhere.1 _ (mem_reached_start step _ rest))
        · exact everywhere.2 visit further
      · intro everywhere
        have further := fun visit member => everywhere visit (List.mem_cons_of_mem _ member)
        have first := once.mpr (everywhere (state, event) List.mem_cons_self)
        refine ⟨?_, further⟩
        intro after member
        exact compose _ _ _ (grow state event) first (start_related step refl (later.mpr further) after member)

end P3Portal.Foundation
