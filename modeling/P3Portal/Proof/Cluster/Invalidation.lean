import P3Portal.Proof.Cluster.SingleFlight

namespace P3Portal.Cluster
open Foundation

variable {Data : Type}

/-- A forced call cuts off the past of its key, and an invalidation of a node that of the keys of the node. -/
def Cuts : CacheEvent Data → CacheKey → Prop
  | .call request, key => request.force = true ∧ request.key = key
  | .invalidateNode nodeId, key => key.nodeId = nodeId
  | _, _ => False

instance (event : CacheEvent Data) (key : CacheKey) : Decidable (Cuts event key) :=
  match event with
  | .call request => inferInstanceAs (Decidable (request.force = true ∧ request.key = key))
  | .invalidateNode nodeId => inferInstanceAs (Decidable (key.nodeId = nodeId))
  | .resume _ | .succeed _ _ | .fail _ | .cancel _ | .invalidateAll | .elapse _ => inferInstanceAs (Decidable False)

/-- No fetch is in flight for a key that the event cuts off. -/
def Quiet (state : CacheState Data) (event : CacheEvent Data) : Prop :=
  ∀ call ∈ state.processes, ∀ key ∈ call.fetchingKey, ¬ Cuts event key

/-- The past of the key was cut off at the moment. -/
def Barrier (history : History Data) (key : CacheKey) (moment : Nat) : Prop :=
  ∃ state event, history[moment]? = some (state, event) ∧ Cuts event key

/-- What a forced call returns was fetched after the call began, and what a call returns after the invalidation of
its node was fetched after the invalidation. -/
structure NotUndone (history : History Data) (state : CacheState Data) : Prop where
  forced : ∀ index (call : Call Data) (entry : CacheEntry Data) way moment now,
    Returns state index call entry way moment now → call.request.force = true → call.calledAt < entry.started
  invalidated : ∀ before (earlier : CacheState Data) nodeId, history[before]? = some (earlier, .invalidateNode nodeId) →
    ∀ index (call : Call Data) (entry : CacheEntry Data) way moment now,
      Returns state index call entry way moment now → call.request.key.nodeId = nodeId → before < moment →
        before < entry.started

/-- The fetch of the entry started after every barrier of the key. -/
def After (history : History Data) (key : CacheKey) (entry : CacheEntry Data) : Prop :=
  ∀ moment, Barrier history key moment → moment < entry.started

/-- What the barriers tell about a call in its phase. -/
def PhaseGuarded (history : History Data) (call : Call Data) : Phase Data → Prop
  | .fetching started found => (∀ moment, Barrier history call.request.key moment → moment < started) ∧
      ∀ entry ∈ found, After history call.request.key entry
  | .done (.returned entry _ moment _) => moment < history.length ∧
      (∀ before, Barrier history call.request.key before → before < moment → before < entry.started) ∧
      (call.request.force = true → call.calledAt < entry.started)
  | _ => True

/-- Nothing that is stored, in flight or returned reaches across a barrier. -/
structure Guarded (history : History Data) (state : CacheState Data) : Prop where
  entries : ∀ key entry, state.shared.entries.get? key = some entry → After history key entry
  calls : ∀ call ∈ state.processes, PhaseGuarded history call call.phase

section Extend
variable {history : History Data} {visit : CacheState Data × CacheEvent Data} {key : CacheKey}

theorem Barrier.inside {moment : Nat} (barrier : Barrier history key moment) : moment < history.length := by
  obtain ⟨state, event, here, -⟩ := barrier
  exact (List.getElem?_eq_some_iff.mp here).1

/-- A barrier of the longer history is an old one or the new event. -/
theorem Barrier.cases {moment : Nat} (barrier : Barrier (history ++ [visit]) key moment) :
    Barrier history key moment ∨ (moment = history.length ∧ Cuts visit.2 key) := by
  obtain ⟨state, event, here, cuts⟩ := barrier
  rcases Nat.lt_trichotomy moment history.length with old | last | beyond
  · rw [List.getElem?_append_left old] at here
    exact .inl ⟨state, event, here, cuts⟩
  · rw [last, getElem?_last visit] at here
    rw [Option.some.inj here]
    exact .inr ⟨last, cuts⟩
  · rw [List.getElem?_eq_none (by rw [List.length_append, List.length_singleton]; omega)] at here
    cases here

theorem Barrier.old {moment : Nat} (barrier : Barrier (history ++ [visit]) key moment) (uncut : ¬ Cuts visit.2 key) :
    Barrier history key moment := by
  rcases barrier.cases with old | ⟨-, cuts⟩
  · exact old
  · exact absurd cuts uncut

theorem After.extend {entry : CacheEntry Data} (after : After history key entry) (uncut : ¬ Cuts visit.2 key) :
    After (history ++ [visit]) key entry :=
  fun moment barrier => after moment (barrier.old uncut)

/-- A call that is not cut in its flight stays guarded; a returned one looks back from its own moment. -/
theorem PhaseGuarded.extend {call : Call Data} (guarded : PhaseGuarded history call call.phase)
    (uncut : ∀ key, call.fetchingKey = some key → ¬ Cuts visit.2 key) :
    PhaseGuarded (history ++ [visit]) call call.phase := by
  cases phase : call.phase with
  | waiting => trivial
  | fetching started found =>
      rw [phase] at guarded
      have spared := uncut call.request.key (by rw [Call.fetchingKey, phase])
      exact ⟨fun moment barrier => guarded.1 moment (barrier.old spared),
        fun entry member => (guarded.2 entry member).extend spared⟩
  | done outcome =>
      rw [phase] at guarded
      cases outcome with
      | returned entry way moment now =>
          obtain ⟨inside, later, forced⟩ := guarded
          refine ⟨?_, ?_, forced⟩
          · rw [List.length_append]
            omega
          · intro before barrier earlier
            rcases barrier.cases with old | ⟨last, -⟩
            · exact later before old earlier
            · omega
      | raised => trivial
      | cancelled => trivial

end Extend

section Step
variable {history : History Data} {state : CacheState Data} {event : CacheEvent Data} {index : Nat} {call : Call Data}

/-- An event that cuts nothing in flight keeps the calls guarded. -/
theorem Guarded.calls_extend (guarded : Guarded history state) (quiet : Quiet state event) :
    ∀ call ∈ state.processes, PhaseGuarded (history ++ [(state, event)]) call call.phase :=
  fun call member => (guarded.calls call member).extend (quiet call member)

/-- A turn of one call cuts nothing; it stays guarded when its entries and its call are. -/
theorem Guarded.turn {next : ClusterCache Data → Call Data → ClusterCache Data × Call Data}
    (guarded : Guarded history state) (uncut : ∀ key, ¬ Cuts event key)
    (present : state.processes[index]? = some call)
    (entries : ∀ key entry, (next state.shared call).1.entries.get? key = some entry → After history key entry)
    (changed : PhaseGuarded (history ++ [(state, event)]) (next state.shared call).2 (next state.shared call).2.phase) :
    Guarded (history ++ [(state, event)]) (counted state (state.act next index)) := by
  refine ⟨?_, ?_⟩
  · intro key entry stored
    change (state.act next index).shared.entries.get? key = some entry at stored
    rw [Interleaved.act_shared present] at stored
    exact (entries key entry stored).extend (uncut key)
  · exact Interleaved.forall_act present guarded.calls (fun _ => changed)
      fun other _ good => good.extend fun key _ => uncut key

theorem Guarded.idle (guarded : Guarded history state) (uncut : ∀ key, ¬ Cuts event key) :
    Guarded (history ++ [(state, event)]) (counted state state) :=
  ⟨fun key entry stored => (guarded.entries key entry stored).extend (uncut key),
    guarded.calls_extend fun _ _ key _ => uncut key⟩

/-- A call returns an entry of the cache or of its own guarded flight after it began. -/
theorem guarded_return {entry : CacheEntry Data} (way : Way) (sound : Sound history state)
    (after : After history call.request.key entry) (begun : ∃ earlier, history[call.calledAt]? = some (earlier,
      (.call call.request : CacheEvent Data))) (uncut : ∀ key, ¬ Cuts event key) :
    PhaseGuarded (history ++ [(state, event)]) call
      (.done (.returned entry way state.shared.moment state.shared.now)) := by
  refine ⟨?_, ?_, ?_⟩
  · rw [sound.moment, List.length_append, List.length_singleton]
    omega
  · intro before barrier _
    exact after before (barrier.old (uncut _))
  · intro forced
    obtain ⟨earlier, here⟩ := begun
    exact after call.calledAt ⟨earlier, _, here, ⟨forced, rfl⟩⟩

theorem Guarded.resume (guarded : Guarded history state) (sound : Sound history state) :
    Guarded (history ++ [(state, .resume index)]) (cacheStep state (.resume index)) := by
  rw [cacheStep, perform]
  rcases resume_cases state index with same | ⟨call, present, -, ⟨entry, found, result⟩ | ⟨-, result⟩⟩
  · rw [same]
    exact guarded.idle fun _ => id
  · have stored := guarded.entries _ entry (valid_spec found).1
    apply guarded.turn (fun _ => id) present <;> rw [result]
    · exact guarded.entries
    · exact guarded_return .cached sound stored (sound.calls index call present).begun fun _ => id
  · apply guarded.turn (fun _ => id) present <;> rw [result]
    · exact guarded.entries
    · refine ⟨?_, ?_⟩
      · intro moment barrier
        rw [sound.moment]
        exact (barrier.old id).inside
      · intro entry member
        exact (guarded.entries _ entry member).extend id

theorem Guarded.succeed (guarded : Guarded history state) (sound : Sound history state) (data : Data) :
    Guarded (history ++ [(state, .succeed index data)]) (cacheStep state (.succeed index data)) := by
  rw [cacheStep, perform]
  rcases Interleaved.act_cases (complete_landed index data state.shared) index with
    ⟨same, -⟩ | ⟨call, present, started, found, phase⟩
  · rw [same]
    exact guarded.idle fun _ => id
  · have flight : PhaseGuarded history call (.fetching started found) :=
      phase ▸ guarded.calls call (Interleaved.mem_processes present)
    apply guarded.turn (fun _ => id) present <;> rw [complete_fetching _ _ _ _ phase]
    · intro key entry stored
      rw [OrderedMap.get?_set] at stored
      split at stored
      · rename_i same
        rw [← Option.some.inj stored, same]
        exact flight.1
      · exact guarded.entries key entry stored
    · exact guarded_return .fetched sound flight.1 (sound.calls index call present).begun fun _ => id

theorem Guarded.fail (guarded : Guarded history state) (sound : Sound history state) :
    Guarded (history ++ [(state, .fail index)]) (cacheStep state (.fail index)) := by
  rw [cacheStep, perform]
  rcases Interleaved.act_cases (giveUp_landed state.shared) index with
    ⟨same, -⟩ | ⟨call, present, started, found, phase⟩
  · rw [same]
    exact guarded.idle fun _ => id
  · have flight : PhaseGuarded history call (.fetching started found) :=
      phase ▸ guarded.calls call (Interleaved.mem_processes present)
    cases found with
    | none =>
        apply guarded.turn (fun _ => id) present <;> rw [ClusterCache.giveUp, phase]
        · exact guarded.entries
        · trivial
    | some entry =>
        apply guarded.turn (fun _ => id) present <;> rw [ClusterCache.giveUp, phase]
        · intro key stored inside
          obtain ⟨before, old, same⟩ := markStale_get? inside
          have after := guarded.entries key before old
          rcases same with rfl | rfl
          · exact after
          · exact after
        · exact guarded_return .stale sound (flight.2 entry rfl) (sound.calls index call present).begun fun _ => id

theorem Guarded.cancel (guarded : Guarded history state) :
    Guarded (history ++ [(state, .cancel index)]) (cacheStep state (.cancel index)) := by
  rw [cacheStep, perform]
  rcases Interleaved.act_cases (cancel_answered state.shared) index with
    ⟨same, -⟩ | ⟨call, present, waiting | ⟨started, found, phase⟩⟩
  · rw [same]
    exact guarded.idle fun _ => id
  · apply guarded.turn (fun _ => id) present <;> rw [ClusterCache.cancel, waiting]
    · exact guarded.entries
    · trivial
  · apply guarded.turn (fun _ => id) present <;> rw [ClusterCache.cancel, phase]
    · exact guarded.entries
    · trivial

/-- A forced call empties the cache before it looks, and any other call cuts nothing. -/
theorem Guarded.enter (guarded : Guarded history state) (sound : Sound history state) (request : Request)
    (quiet : Quiet state (.call request)) :
    Guarded (history ++ [(state, .call request)]) (cacheStep state (.call request)) := by
  obtain ⟨phase, result, answer⟩ := getOrFetch_cases state.shared request
  have entries : ∀ key entry, (if request.force then state.shared.invalidateAll else state.shared).entries.get? key =
      some entry → After (history ++ [(state, .call request)]) key entry ∧ request.force = false := by
    intro key entry stored
    cases force : request.force with
    | true =>
        rw [force] at stored
        cases stored
    | false =>
        rw [force] at stored
        refine ⟨(guarded.entries key entry stored).extend ?_, rfl⟩
        rintro ⟨forced, -⟩
        rw [force] at forced
        cases forced
  have after : cacheStep state (.call request) = counted state ({ state with
      shared := if request.force then state.shared.invalidateAll else state.shared }.spawn
        ⟨request, state.shared.moment, phase⟩) := by
    simp only [cacheStep, perform, result]
  rw [after]
  refine ⟨fun key entry stored => (entries key entry stored).1, ?_⟩
  intro call member
  rcases List.mem_append.mp member with old | new
  · exact guarded.calls_extend quiet call old
  · rw [List.mem_singleton.mp new]
    rcases answer with rfl | ⟨entry, rfl, found⟩
    · trivial
    · obtain ⟨fetched, unforced⟩ := entries _ entry (valid_spec found).1
      refine ⟨?_, fun before barrier _ => fetched before barrier, ?_⟩
      · rw [sound.moment, List.length_append, List.length_singleton]
        omega
      · intro forced
        rw [show request.force = true from forced] at unforced
        cases unforced

/-- Every quiet event keeps what is stored, in flight or returned behind the barriers. -/
theorem Guarded.step (guarded : Guarded history state) (sound : Sound history state) (quiet : Quiet state event) :
    Guarded (history ++ [(state, event)]) (cacheStep state event) := by
  cases event with
  | call request => exact guarded.enter sound request quiet
  | resume index => exact guarded.resume sound
  | succeed index data => exact guarded.succeed sound data
  | fail index => exact guarded.fail sound
  | cancel index => exact guarded.cancel
  | invalidateAll =>
      refine ⟨?_, guarded.calls_extend quiet⟩
      intro key entry stored
      cases stored
  | invalidateNode nodeId =>
      refine ⟨?_, guarded.calls_extend quiet⟩
      intro key entry stored
      change (state.shared.invalidateNode nodeId).entries.get? key = some entry at stored
      rw [ClusterCache.invalidateNode, OrderedMap.get?_filter, Option.filter_eq_some_iff] at stored
      exact (guarded.entries key entry stored.1).extend (of_decide_eq_true stored.2)
  | elapse ticks =>
      exact ⟨fun key entry stored => (guarded.entries key entry stored).extend id, guarded.calls_extend quiet⟩

end Step

theorem Guarded.notUndone {history : History Data} {state : CacheState Data} (guarded : Guarded history state) :
    NotUndone history state := by
  have returned {index : Nat} {call : Call Data} {entry : CacheEntry Data} {way : Way} {moment now : Nat}
      (returns : Returns state index call entry way moment now) :
      PhaseGuarded history call (.done (.returned entry way moment now)) :=
    returns.2 ▸ guarded.calls call (Interleaved.mem_processes returns.1)
  refine ⟨?_, ?_⟩
  · intro index call entry way moment now returns forced
    exact (returned returns).2.2 forced
  · intro before earlier nodeId invalidated index call entry way moment now returns same later
    exact (returned returns).2.1 before ⟨earlier, _, invalidated, same⟩ later

/-- When no fetch is in flight for a key that a forced call or an invalidation cuts off, no invalidation is undone. -/
theorem cache_notUndone (events : List (CacheEvent Data))
    (quiet : ∀ visit ∈ visits cacheStep .initial events, Quiet visit.1 visit.2) :
    NotUndone (visits cacheStep .initial events) (run cacheStep .initial events) := by
  have start : Guarded ([] : History Data) .initial := by
    refine ⟨?_, ?_⟩
    · intro key entry stored
      cases stored
    · intro call member
      cases member
  have kept : ∀ past state (event : CacheEvent Data), Sound past state ∧ Guarded past state → Quiet state event →
      Sound (past ++ [(state, event)]) (cacheStep state event) ∧
        Guarded (past ++ [(state, event)]) (cacheStep state event) :=
    fun past state event both quiet => ⟨both.1.step event, both.2.step both.1 quiet⟩
  exact (run_history cacheStep kept events ⟨.initial, start⟩ quiet).2.notUndone

/-- A forced refresh between two fetches of one key, and then the deletion of the node. -/
def quietRefresh : List (CacheEvent Nat) :=
  [.call ⟨⟨1, "nodes"⟩, 30, false, true⟩, .resume 0, .succeed 0 7, .elapse 5, .call ⟨⟨1, "nodes"⟩, 30, true, true⟩,
    .resume 1, .succeed 1 8, .invalidateNode 1]

theorem cache_notUndone_quietRefresh :
    NotUndone (visits cacheStep .initial quietRefresh) (run cacheStep .initial quietRefresh) :=
  cache_notUndone quietRefresh (by unfold Quiet; decide +kernel)

/-- A fetch is in flight when a call forces a refresh and the node is invalidated; its answer is stored afterwards,
and the forced call returns it. -/
theorem cache_undone :
    ¬ ∀ events : List (CacheEvent Nat),
      NotUndone (visits cacheStep .initial events) (run cacheStep .initial events) := by
  intro kept
  have undone := kept [.call ⟨⟨1, "nodes"⟩, 30, false, false⟩, .resume 0, .call ⟨⟨1, "nodes"⟩, 30, true, false⟩,
    .invalidateNode 1, .succeed 0 7, .resume 1]
  have late := undone.forced 1 ⟨⟨⟨1, "nodes"⟩, 30, true, false⟩, 2, .done (.returned ⟨7, 0, false, 0, 1, 4⟩ .cached 5 0)⟩
    ⟨7, 0, false, 0, 1, 4⟩ .cached 5 0 ⟨by decide +kernel, rfl⟩ rfl
  revert late
  decide

end P3Portal.Cluster
