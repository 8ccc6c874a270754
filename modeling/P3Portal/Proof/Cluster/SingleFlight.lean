import P3Portal.Construction.Cluster.Cache

namespace P3Portal.Cluster
open Foundation

variable {Data : Type}

/-- The states that the events of a run met, with the events. -/
abbrev History (Data : Type) := List (CacheState Data × CacheEvent Data)

/-- The key that a call fetches at present. -/
def Call.fetchingKey (call : Call Data) : Option CacheKey :=
  match call.phase with
  | .fetching _ _ => some call.request.key
  | _ => none

/-- The call waits for the answer of its fetch. -/
def Call.InFlight (call : Call Data) : Prop := ∃ started found, call.phase = .fetching started found

/-- The fetch of an entry is found in the history: its start, and its completion with the data of the entry. -/
structure FetchedBy (history : History Data) (key : CacheKey) (entry : CacheEntry Data) : Prop where
  began : ∃ state, history[entry.started]? = some (state, .resume entry.fetchedBy)
  ended : ∃ state call found, history[entry.completed]? = some (state, .succeed entry.fetchedBy entry.data) ∧
    state.processes[entry.fetchedBy]? = some call ∧ call.request.key = key ∧
    call.phase = .fetching entry.started found ∧ state.shared.now = entry.fetchedAt

/-- A fetch that the call began failed at the moment. -/
def FetchFailed (history : History Data) (index : Nat) (call : Call Data) (moment : Nat) : Prop :=
  ∃ state before started found, history[moment]? = some (state, .fail index) ∧
    state.processes[index]? = some before ∧ before.phase = .fetching started found ∧ call.calledAt < started

/-- How a call may come by the entry that it returns. -/
def Justified (history : History Data) (index : Nat) (call : Call Data) (entry : CacheEntry Data) (moment now : Nat) :
    Way → Prop
  | .cached => (now : Int) - entry.fetchedAt < call.request.ttl
  | .fetched => entry.fetchedBy = index ∧ entry.completed = moment ∧ entry.fetchedAt = now ∧
      call.calledAt < entry.started ∧ entry.started < entry.completed
  | .stale => FetchFailed history index call moment

/-- What the history tells about a call in its phase. -/
def PhaseSound (history : History Data) (index : Nat) (call : Call Data) : Phase Data → Prop
  | .fetching started found => call.calledAt < started ∧ started < history.length ∧
      (∃ state, history[started]? = some (state, .resume index)) ∧
      ∀ entry ∈ found, FetchedBy history call.request.key entry
  | .done (.returned entry way moment now) =>
      FetchedBy history call.request.key entry ∧ Justified history index call entry moment now way
  | _ => True

/-- A call is in the history at its beginning and as its phase tells. -/
structure CallSound (history : History Data) (index : Nat) (call : Call Data) : Prop where
  begun : ∃ state, history[call.calledAt]? = some (state, .call call.request)
  phase : PhaseSound history index call call.phase

/-- The callback that the completion of a fetch asks for. -/
def freshOf (visit : CacheState Data × CacheEvent Data) : Option (FreshData Data) :=
  match visit.2 with
  | .succeed index data => (visit.1.processes[index]?).bind fun call =>
      if call.fetchingKey.isSome && call.request.hasOnFreshData then some ⟨call.request.key, data⟩ else none
  | _ => none

/-- The locks are those of the fetching calls, and everything in the state is in the history. -/
structure Sound (history : History Data) (state : CacheState Data) : Prop where
  moment : state.shared.moment = history.length
  locks : state.shared.locked.Perm (state.processes.filterMap Call.fetchingKey)
  distinct : state.shared.locked.Nodup
  entries : ∀ key entry, state.shared.entries.get? key = some entry → FetchedBy history key entry
  calls : ∀ index call, state.processes[index]? = some call → CallSound history index call
  fresh : state.shared.freshData = history.filterMap freshOf

section Extend
variable {history : History Data} (visit : CacheState Data × CacheEvent Data)

/-- A further visit leaves the earlier ones where they are. -/
theorem getElem?_extend {index : Nat} {found : CacheState Data × CacheEvent Data} (here : history[index]? = some found) :
    (history ++ [visit])[index]? = some found := by
  obtain ⟨inside, -⟩ := List.getElem?_eq_some_iff.mp here
  rw [List.getElem?_append_left inside, here]

/-- A fetch stays in the history. -/
theorem FetchedBy.extend {key : CacheKey} {entry : CacheEntry Data} (fetched : FetchedBy history key entry) :
    FetchedBy (history ++ [visit]) key entry := by
  obtain ⟨⟨start, began⟩, stop, call, found, ended, rest⟩ := fetched
  exact ⟨⟨start, getElem?_extend visit began⟩, stop, call, found, getElem?_extend visit ended, rest⟩

/-- An answer stays justified. -/
theorem Justified.extend {index : Nat} {call : Call Data} {entry : CacheEntry Data} {moment now : Nat} {way : Way}
    (justified : Justified history index call entry moment now way) :
    Justified (history ++ [visit]) index call entry moment now way := by
  cases way with
  | cached => exact justified
  | fetched => exact justified
  | stale =>
      obtain ⟨state, before, started, found, failed, rest⟩ := justified
      exact ⟨state, before, started, found, getElem?_extend visit failed, rest⟩

/-- A phase stays sound. -/
theorem PhaseSound.extend {index : Nat} {call : Call Data} {phase : Phase Data}
    (sound : PhaseSound history index call phase) : PhaseSound (history ++ [visit]) index call phase := by
  cases phase with
  | waiting => trivial
  | fetching started found =>
      obtain ⟨later, inside, ⟨state, resumed⟩, known⟩ := sound
      refine ⟨later, ?_, ⟨state, getElem?_extend visit resumed⟩, fun entry member => (known entry member).extend visit⟩
      rw [List.length_append]
      omega
  | done outcome =>
      cases outcome with
      | returned entry way moment now => exact ⟨sound.1.extend visit, sound.2.extend visit⟩
      | raised => trivial
      | cancelled => trivial

/-- A call stays sound. -/
theorem CallSound.extend {index : Nat} {call : Call Data} (sound : CallSound history index call) :
    CallSound (history ++ [visit]) index call := by
  obtain ⟨state, begun⟩ := sound.begun
  exact ⟨⟨state, getElem?_extend visit begun⟩, sound.phase.extend visit⟩

/-- The newest visit is the last one. -/
theorem getElem?_last : (history ++ [visit])[history.length]? = some visit := by
  rw [List.getElem?_append_right (Nat.le_refl _), Nat.sub_self]
  rfl

end Extend

section Step
variable {history : History Data} {state : CacheState Data} {event : CacheEvent Data} {index : Nat} {call : Call Data}

/-- The locks belong to the one call and to the other calls. -/
theorem Sound.locks_perm (sound : Sound history state) (present : state.processes[index]? = some call) :
    state.shared.locked.Perm
      (call.fetchingKey.toList ++ (state.others index).filterMap Call.fetchingKey) :=
  sound.locks.trans (Interleaved.filterMap_perm Call.fetchingKey present)

/-- An event that only takes entries away or lets time pass keeps the history sound. -/
theorem Sound.narrow (sound : Sound history state) {cache : ClusterCache Data} (quiet : freshOf (state, event) = none)
    (locked : cache.locked = state.shared.locked) (fresh : cache.freshData = state.shared.freshData)
    (entries : ∀ key entry, cache.entries.get? key = some entry → state.shared.entries.get? key = some entry) :
    Sound (history ++ [(state, event)]) (counted state { state with shared := cache }) where
  moment := by
    rw [List.length_append, List.length_singleton, ← sound.moment]
    rfl
  locks := by
    show cache.locked.Perm _
    rw [locked]
    exact sound.locks
  distinct := by
    show cache.locked.Nodup
    rw [locked]
    exact sound.distinct
  entries key entry stored := (sound.entries key entry (entries key entry stored)).extend _
  calls other process present := (sound.calls other process present).extend _
  fresh := by
    show cache.freshData = _
    rw [fresh, sound.fresh, List.filterMap_append, List.filterMap_cons_none quiet, List.filterMap_nil,
      List.append_nil]

/-- A turn of one call keeps the history sound when it leaves sound entries, a sound call and the right locks. -/
theorem Sound.turn {next : ClusterCache Data → Call Data → ClusterCache Data × Call Data} (sound : Sound history state)
    (present : state.processes[index]? = some call)
    (entries : ∀ key entry, (next state.shared call).1.entries.get? key = some entry →
      FetchedBy (history ++ [(state, event)]) key entry)
    (changed : CallSound (history ++ [(state, event)]) index (next state.shared call).2)
    (locks : (next state.shared call).1.locked.Perm
      ((next state.shared call).2.fetchingKey.toList ++ (state.others index).filterMap Call.fetchingKey))
    (distinct : (next state.shared call).1.locked.Nodup)
    (fresh : (next state.shared call).1.freshData = state.shared.freshData ++ (freshOf (state, event)).toList) :
    Sound (history ++ [(state, event)]) (counted state (state.act next index)) where
  moment := by
    rw [List.length_append, List.length_singleton, ← sound.moment]
    rfl
  locks := by
    show (state.act next index).shared.locked.Perm ((state.act next index).processes.filterMap Call.fetchingKey)
    rw [Interleaved.act_shared present]
    exact locks.trans (Interleaved.act_filterMap_perm Call.fetchingKey present).symm
  distinct := by
    show (state.act next index).shared.locked.Nodup
    rwa [Interleaved.act_shared present]
  entries key entry stored := by
    change (state.act next index).shared.entries.get? key = some entry at stored
    rw [Interleaved.act_shared present] at stored
    exact entries key entry stored
  calls other process found := by
    change (state.act next index).processes[other]? = some process at found
    rw [Interleaved.getElem?_act present] at found
    split at found
    · rename_i same
      rw [same, ← Option.some.inj found]
      exact changed
    · exact (sound.calls other process found).extend _
  fresh := by
    show (state.act next index).shared.freshData = _
    rw [Interleaved.act_shared present, fresh, sound.fresh, List.filterMap_append, filterMap_cons_toList,
      List.filterMap_nil, List.append_nil]

/-- An event that changes nothing keeps the history sound. -/
theorem Sound.idle (sound : Sound history state) (quiet : freshOf (state, event) = none) :
    Sound (history ++ [(state, event)]) (counted state state) := by
  have same : Sound _ (counted state { state with shared := state.shared }) :=
    sound.narrow quiet rfl rfl fun _ _ stored => stored
  exact same

end Step

section Parts
variable {cache : ClusterCache Data} {call : Call Data} {request : Request}

/-- An entry that counts is stored and younger than the poll interval. -/
theorem valid_spec {entry : CacheEntry Data} (found : cache.valid request = some entry) :
    cache.entries.get? request.key = some entry ∧ (cache.now : Int) - entry.fetchedAt < request.ttl := by
  rw [ClusterCache.valid, Option.filter_eq_some_iff] at found
  obtain ⟨stored, young⟩ := found
  refine ⟨stored, ?_⟩
  simpa [ClusterCache.isExpired] using young

/-- A call returns at once with an entry that counts, or it waits for the lock. -/
theorem getOrFetch_cases (cache : ClusterCache Data) (request : Request) :
    ∃ phase, cache.getOrFetch request =
        (if request.force then cache.invalidateAll else cache, ⟨request, cache.moment, phase⟩) ∧
      (phase = .waiting ∨ ∃ entry, phase = .done (.returned entry .cached cache.moment cache.now) ∧
        (if request.force then cache.invalidateAll else cache).valid request = some entry) := by
  have same (force : Bool) : (if force then cache.invalidateAll else cache).moment = cache.moment ∧
      (if force then cache.invalidateAll else cache).now = cache.now := by
    cases force <;> exact ⟨rfl, rfl⟩
  unfold ClusterCache.getOrFetch
  dsimp only
  split
  · rename_i entry found
    rw [(same _).1, (same _).2]
    exact ⟨_, rfl, .inr ⟨entry, rfl, found⟩⟩
  · rw [(same _).1]
    exact ⟨_, rfl, .inl rfl⟩

/-- What a resumed call does: nothing, return an entry that counts, or take the free lock and start its fetch. -/
theorem acquire_cases (cache : ClusterCache Data) (call : Call Data) :
    cache.acquire call = (cache, call) ∨
      (∃ entry, call.phase = .waiting ∧ cache.valid call.request = some entry ∧ cache.acquire call =
        (cache, { call with phase := .done (.returned entry .cached cache.moment cache.now) })) ∨
      (call.phase = .waiting ∧ call.request.key ∉ cache.locked ∧ cache.acquire call =
        ({ cache with locked := call.request.key :: cache.locked },
          { call with phase := .fetching cache.moment (cache.entries.get? call.request.key) })) := by
  unfold ClusterCache.acquire
  split
  · rename_i waiting
    split
    · exact .inl rfl
    · rename_i free
      split
      · rename_i entry found
        exact .inr (.inl ⟨entry, waiting, found, rfl⟩)
      · exact .inr (.inr ⟨waiting, free, rfl⟩)
  · exact .inl rfl

/-- The completion of a fetch stores a new entry and releases the lock. -/
theorem complete_fetching (index : Nat) (data : Data) (cache : ClusterCache Data) (call : Call Data) {started : Nat}
    {found : Option (CacheEntry Data)} (phase : call.phase = .fetching started found) :
    cache.complete index data call =
      ({ cache with
          entries := cache.entries.set call.request.key ⟨data, cache.now, false, index, started, cache.moment⟩
          locked := cache.locked.erase call.request.key
          freshData := if call.request.hasOnFreshData then cache.freshData ++ [⟨call.request.key, data⟩]
            else cache.freshData },
        { call with phase := .done (.returned ⟨data, cache.now, false, index, started, cache.moment⟩ .fetched
            cache.moment cache.now) }) := by
  rw [ClusterCache.complete, phase]

/-- A call that has landed fetches nothing. -/
theorem fetchingKey_landed (landed : ¬ call.InFlight) : call.fetchingKey = none := by
  unfold Call.fetchingKey
  split
  · rename_i started found phase
    exact absurd ⟨started, found, phase⟩ landed
  · rfl

/-- An answer reaches no call but one in flight. -/
theorem complete_landed (index : Nat) (data : Data) (cache : ClusterCache Data) (call : Call Data)
    (landed : ¬ call.InFlight) : cache.complete index data call = (cache, call) := by
  unfold ClusterCache.complete
  split
  · rename_i started found phase
    exact absurd ⟨started, found, phase⟩ landed
  · rfl

/-- A call that has landed gives nothing up. -/
theorem giveUp_landed (cache : ClusterCache Data) (call : Call Data) (landed : ¬ call.InFlight) :
    cache.giveUp call = (cache, call) := by
  unfold ClusterCache.giveUp
  split
  · rename_i started phase
    exact absurd ⟨started, none, phase⟩ landed
  · rename_i started entry phase
    exact absurd ⟨started, some entry, phase⟩ landed
  · rfl

/-- A call that has answered is cancelled no more. -/
theorem cancel_answered (cache : ClusterCache Data) (call : Call Data)
    (answered : ¬ (call.phase = .waiting ∨ call.InFlight)) : cache.cancel call = (cache, call) := by
  unfold ClusterCache.cancel
  split
  · rename_i phase
    exact absurd (.inl phase) answered
  · rename_i started found phase
    exact absurd (.inr ⟨started, found, phase⟩) answered
  · rfl

/-- A resumed call does nothing unless it returns an entry that counts or takes the free lock. -/
theorem resume_cases (state : CacheState Data) (index : Nat) :
    state.act ClusterCache.acquire index = state ∨
      ∃ call, state.processes[index]? = some call ∧ call.phase = .waiting ∧
        ((∃ entry, state.shared.valid call.request = some entry ∧ state.shared.acquire call =
          (state.shared, { call with phase := .done (.returned entry .cached state.shared.moment state.shared.now) })) ∨
        (call.request.key ∉ state.shared.locked ∧ state.shared.acquire call =
          ({ state.shared with locked := call.request.key :: state.shared.locked },
            { call with phase := .fetching state.shared.moment (state.shared.entries.get? call.request.key) }))) := by
  have idle : ∀ call, ¬ state.shared.acquire call ≠ (state.shared, call) →
      state.shared.acquire call = (state.shared, call) := fun call => not_not.mp
  rcases Interleaved.act_cases idle index with ⟨same, -⟩ | ⟨call, present, active⟩
  · exact .inl same
  · rcases acquire_cases state.shared call with idle | ⟨entry, waiting, found, result⟩ | ⟨waiting, free, result⟩
    · exact absurd idle active
    · exact .inr ⟨call, present, waiting, .inl ⟨entry, found, result⟩⟩
    · exact .inr ⟨call, present, waiting, .inr ⟨free, result⟩⟩

/-- A marked entry differs from the stored one in its mark only. -/
theorem markStale_get? {key other : CacheKey} {entry : CacheEntry Data}
    (stored : (cache.markStale key).get? other = some entry) :
    ∃ before, cache.entries.get? other = some before ∧ (entry = before ∨ entry = { before with isStale := true }) := by
  unfold ClusterCache.markStale at stored
  split at stored
  · exact ⟨entry, stored, .inl rfl⟩
  · rename_i before found
    rw [OrderedMap.get?_set] at stored
    split at stored
    · rename_i same
      rw [same]
      exact ⟨before, found, .inr (Option.some.inj stored).symm⟩
    · exact ⟨entry, stored, .inl rfl⟩

/-- An entry that becomes stale was fetched as before. -/
theorem FetchedBy.marked {history : History Data} {key : CacheKey} {entry : CacheEntry Data}
    (fetched : FetchedBy history key entry) : FetchedBy history key { entry with isStale := true } :=
  ⟨fetched.began, fetched.ended⟩

end Parts

section Events
variable {history : History Data} {state : CacheState Data}

/-- The lookup after an invalidation of everything finds nothing. -/
theorem get?_invalidated (cache : ClusterCache Data) (force : Bool) {key : CacheKey} {entry : CacheEntry Data}
    (stored : (if force then cache.invalidateAll else cache).entries.get? key = some entry) :
    cache.entries.get? key = some entry := by
  cases force with
  | true => cases stored
  | false => exact stored

/-- A request keeps the invariant. -/
theorem Sound.call (sound : Sound history state) (request : Request) :
    Sound (history ++ [(state, .call request)]) (cacheStep state (.call request)) := by
  obtain ⟨phase, result, answer⟩ := getOrFetch_cases state.shared request
  have quiet : freshOf (state, (.call request : CacheEvent Data)) = none := rfl
  have narrow : Sound (history ++ [(state, .call request)])
      (counted state { state with shared := if request.force then state.shared.invalidateAll else state.shared }) := by
    apply sound.narrow quiet
    · cases request.force <;> rfl
    · cases request.force <;> rfl
    · exact fun key entry => get?_invalidated state.shared request.force
  have after : cacheStep state (.call request) = (counted state { state with
      shared := if request.force then state.shared.invalidateAll else state.shared }).spawn
        ⟨request, state.shared.moment, phase⟩ := by
    simp only [cacheStep, perform, result]
    rfl
  have waits : (⟨request, state.shared.moment, phase⟩ : Call Data).fetchingKey = none := by
    rcases answer with rfl | ⟨entry, rfl, -⟩ <;> rfl
  rw [after]
  refine ⟨narrow.moment, ?_, narrow.distinct, narrow.entries, ?_, narrow.fresh⟩
  · show List.Perm _ ((_ ++ [_]).filterMap Call.fetchingKey)
    rw [List.filterMap_append, List.filterMap_cons_none waits, List.filterMap_nil, List.append_nil]
    exact narrow.locks
  · intro index call present
    rw [Interleaved.getElem?_spawn] at present
    change (if index = state.processes.length then _ else state.processes[index]?) = _ at present
    by_cases last : index = state.processes.length
    · rw [if_pos last] at present
      rw [← Option.some.inj present]
      refine ⟨⟨state, ?_⟩, ?_⟩
      · rw [sound.moment]
        exact getElem?_last _
      · rcases answer with rfl | ⟨entry, rfl, found⟩
        · trivial
        · obtain ⟨stored, young⟩ := valid_spec found
          refine ⟨narrow.entries _ entry stored, ?_⟩
          have same : (if request.force then state.shared.invalidateAll else state.shared).now = state.shared.now := by
            cases request.force <;> rfl
          rwa [same] at young
    · rw [if_neg last] at present
      exact narrow.calls index call present

/-- A turn of a call keeps the invariant. -/
theorem Sound.resume (sound : Sound history state) (index : Nat) :
    Sound (history ++ [(state, .resume index)]) (cacheStep state (.resume index)) := by
  have quiet : freshOf (state, (.resume index : CacheEvent Data)) = none := rfl
  rw [cacheStep, perform]
  rcases resume_cases state index with same | ⟨call, present, waiting, answer⟩
  · rw [same]
    exact sound.idle quiet
  · have before := sound.calls index call present
    have locks := sound.locks_perm present
    rw [Call.fetchingKey, waiting] at locks
    rcases answer with ⟨entry, found, result⟩ | ⟨free, result⟩
    · obtain ⟨stored, young⟩ := valid_spec found
      apply sound.turn present <;> rw [result]
      · exact fun key entry stored => (sound.entries key entry stored).extend _
      · have begun := (before.extend (state, .resume index)).begun
        exact ⟨begun, (sound.entries _ entry stored).extend _, young⟩
      · exact locks
      · exact sound.distinct
      · rw [quiet]
        exact (List.append_nil _).symm
    · obtain ⟨beginning, begun⟩ := before.begun
      obtain ⟨inside, -⟩ := List.getElem?_eq_some_iff.mp begun
      apply sound.turn present <;> rw [result]
      · exact fun key entry stored => (sound.entries key entry stored).extend _
      · refine ⟨(before.extend (state, .resume index)).begun, ?_, ?_, ⟨state, ?_⟩, ?_⟩
        · show call.calledAt < state.shared.moment
          rwa [sound.moment]
        · rw [sound.moment, List.length_append, List.length_singleton]
          omega
        · rw [sound.moment]
          exact getElem?_last _
        · exact fun entry stored => (sound.entries _ entry stored).extend _
      · exact locks.cons _
      · exact List.nodup_cons.mpr ⟨free, sound.distinct⟩
      · rw [quiet]
        exact (List.append_nil _).symm

/-- A call that fetches releases its lock and no other when its fetch ends. -/
theorem Sound.released (sound : Sound history state) {index : Nat} {call : Call Data}
    (present : state.processes[index]? = some call) {started : Nat} {found : Option (CacheEntry Data)}
    (phase : call.phase = .fetching started found) : (state.shared.locked.erase call.request.key).Perm
      ((state.others index).filterMap Call.fetchingKey) := by
  have fetchingKey : call.fetchingKey = some call.request.key := by
    rw [Call.fetchingKey, phase]
  have erased := (sound.locks_perm present).erase call.request.key
  rwa [fetchingKey, Option.toList_some, List.singleton_append, List.erase_cons_head] at erased

/-- A fetch that succeeds keeps the invariant. -/
theorem Sound.succeed (sound : Sound history state) (index : Nat) (data : Data) :
    Sound (history ++ [(state, .succeed index data)]) (cacheStep state (.succeed index data)) := by
  rw [cacheStep, perform]
  rcases Interleaved.act_cases (complete_landed index data state.shared) index with
    ⟨same, landed⟩ | ⟨call, present, started, found, phase⟩
  · rw [same]
    apply sound.idle
    show ((state.processes[index]?).bind fun call => _) = none
    cases present : state.processes[index]? with
    | none => rfl
    | some call =>
        rw [Option.bind_some, fetchingKey_landed (landed call present)]
        rfl
  · have before := sound.calls index call present
    have fetchingKey : call.fetchingKey = some call.request.key := by
      rw [Call.fetchingKey, phase]
    have released := sound.released present phase
    obtain ⟨later, inside, ⟨beginning, began⟩, -⟩ : PhaseSound _ _ _ (.fetching started found) :=
      phase ▸ before.phase
    have fetched : FetchedBy (history ++ [(state, .succeed index data)]) call.request.key
        ⟨data, state.shared.now, false, index, started, state.shared.moment⟩ := by
      refine ⟨⟨beginning, getElem?_extend _ began⟩, state, call, found, ?_, present, rfl, phase, rfl⟩
      rw [sound.moment]
      exact getElem?_last _
    apply sound.turn present <;> rw [complete_fetching _ _ _ _ phase]
    · intro key entry stored
      rw [OrderedMap.get?_set] at stored
      split at stored
      · rename_i same
        rw [← Option.some.inj stored, same]
        exact fetched
      · exact (sound.entries key entry stored).extend _
    · refine ⟨(before.extend _).begun, fetched, rfl, rfl, rfl, later, ?_⟩
      rwa [sound.moment]
    · exact released
    · exact sound.distinct.erase _
    · simp only [freshOf, present, Option.bind_some, fetchingKey, Option.isSome_some, Bool.true_and]
      cases call.request.hasOnFreshData
      · exact (List.append_nil _).symm
      · rfl

/-- A fetch that fails keeps the invariant. -/
theorem Sound.fail (sound : Sound history state) (index : Nat) :
    Sound (history ++ [(state, .fail index)]) (cacheStep state (.fail index)) := by
  have quiet : freshOf (state, (.fail index : CacheEvent Data)) = none := rfl
  rw [cacheStep, perform]
  rcases Interleaved.act_cases (giveUp_landed state.shared) index with
    ⟨same, -⟩ | ⟨call, present, started, found, phase⟩
  · rw [same]
    exact sound.idle quiet
  · have before := sound.calls index call present
    obtain ⟨later, -, -, known⟩ : PhaseSound _ _ _ (.fetching started found) := phase ▸ before.phase
    have released := sound.released present phase
    cases found with
    | none =>
        apply sound.turn present <;> rw [ClusterCache.giveUp, phase]
        · exact fun key entry stored => (sound.entries key entry stored).extend _
        · exact ⟨(before.extend _).begun, trivial⟩
        · exact released
        · exact sound.distinct.erase _
        · rw [quiet]
          exact (List.append_nil _).symm
    | some entry =>
        apply sound.turn present <;> rw [ClusterCache.giveUp, phase]
        · intro key stored inside
          obtain ⟨entry, old, same⟩ := markStale_get? inside
          have fetched := (sound.entries key entry old).extend (state, .fail index)
          rcases same with rfl | rfl
          · exact fetched
          · exact fetched.marked
        · refine ⟨(before.extend _).begun, ((known entry rfl).extend _).marked, ?_⟩
          refine ⟨state, call, started, some entry, ?_, present, phase, later⟩
          rw [sound.moment]
          exact getElem?_last _
        · exact released
        · exact sound.distinct.erase _
        · rw [quiet]
          exact (List.append_nil _).symm

/-- A call that is cancelled keeps the invariant. -/
theorem Sound.cancel (sound : Sound history state) (index : Nat) :
    Sound (history ++ [(state, .cancel index)]) (cacheStep state (.cancel index)) := by
  have quiet : freshOf (state, (.cancel index : CacheEvent Data)) = none := rfl
  rw [cacheStep, perform]
  rcases Interleaved.act_cases (cancel_answered state.shared) index with
    ⟨same, -⟩ | ⟨call, present, waiting | ⟨started, found, phase⟩⟩
  · rw [same]
    exact sound.idle quiet
  · have begun := ((sound.calls index call present).extend (state, .cancel index)).begun
    have locks := sound.locks_perm present
    rw [Call.fetchingKey, waiting] at locks
    apply sound.turn present <;> rw [ClusterCache.cancel, waiting]
    · exact fun key entry stored => (sound.entries key entry stored).extend _
    · exact ⟨begun, trivial⟩
    · exact locks
    · exact sound.distinct
    · rw [quiet]
      exact (List.append_nil _).symm
  · have begun := ((sound.calls index call present).extend (state, .cancel index)).begun
    apply sound.turn present <;> rw [ClusterCache.cancel, phase]
    · exact fun key entry stored => (sound.entries key entry stored).extend _
    · exact ⟨begun, trivial⟩
    · exact sound.released present phase
    · exact sound.distinct.erase _
    · rw [quiet]
      exact (List.append_nil _).symm

/-- Every event keeps the history sound. -/
theorem Sound.step (sound : Sound history state) (event : CacheEvent Data) :
    Sound (history ++ [(state, event)]) (cacheStep state event) := by
  cases event with
  | call request => exact sound.call request
  | resume index => exact sound.resume index
  | succeed index data => exact sound.succeed index data
  | fail index => exact sound.fail index
  | cancel index => exact sound.cancel index
  | invalidateAll =>
      have narrow : Sound (history ++ [(state, .invalidateAll)])
          (counted state { state with shared := state.shared.invalidateAll }) := by
        refine sound.narrow rfl rfl rfl ?_
        intro key entry stored
        cases stored
      exact narrow
  | invalidateNode nodeId =>
      have narrow : Sound (history ++ [(state, .invalidateNode nodeId)])
          (counted state { state with shared := state.shared.invalidateNode nodeId }) := by
        refine sound.narrow rfl rfl rfl ?_
        intro key entry stored
        rw [ClusterCache.invalidateNode, OrderedMap.get?_filter, Option.filter_eq_some_iff] at stored
        exact stored.1
      exact narrow
  | elapse ticks =>
      have narrow : Sound (history ++ [(state, .elapse ticks)])
          (counted state { state with shared := { state.shared with now := state.shared.now + ticks } }) :=
        sound.narrow rfl rfl rfl fun key entry stored => stored
      exact narrow

/-- The cache starts in the invariant. -/
theorem Sound.initial : Sound ([] : History Data) .initial := by
  refine ⟨rfl, List.Perm.refl _, List.nodup_nil, ?_, ?_, rfl⟩
  · intro key entry stored
    cases stored
  · intro index call present
    cases present

/-- Whatever happens, the history of a run is sound. -/
theorem sound_run (events : List (CacheEvent Data)) :
    Sound (visits cacheStep .initial events) (run cacheStep .initial events) := by
  have kept : ∀ past state (event : CacheEvent Data), Sound past state → True →
      Sound (past ++ [(state, event)]) (cacheStep state event) := fun past state event sound _ => sound.step event
  exact run_history cacheStep kept events .initial fun _ _ => trivial

end Events

/-- A call of the state returned an entry in some way, at a moment and a time. -/
def Returns (state : CacheState Data) (index : Nat) (call : Call Data) (entry : CacheEntry Data) (way : Way)
    (moment now : Nat) : Prop :=
  state.processes[index]? = some call ∧ call.phase = .done (.returned entry way moment now)

/-- Fetches are single, results are young or fetched by the call, and each completed fetch has its callback. -/
structure SingleFlight (history : History Data) (state : CacheState Data) : Prop where
  /-- At most one fetch of a key is in flight. -/
  single : ∀ key, state.processes.countP (fun call => call.fetchingKey = some key) ≤ 1
  /-- A result comes from a fetch of its key that the history holds. -/
  origin : ∀ index (call : Call Data) (entry : CacheEntry Data) way moment now,
    Returns state index call entry way moment now → FetchedBy history call.request.key entry
  /-- A result that is not an expired one is younger than the poll interval, or its fetch completed after the
  call began. -/
  young : ∀ index (call : Call Data) (entry : CacheEntry Data) way moment now,
    Returns state index call entry way moment now → way ≠ .stale →
      (now : Int) - entry.fetchedAt < call.request.ttl ∨ call.calledAt < entry.completed
  /-- An expired result follows a fetch that the call began and that failed. -/
  stale : ∀ index (call : Call Data) (entry : CacheEntry Data) moment now,
    Returns state index call entry .stale moment now → FetchFailed history index call moment
  /-- The callbacks are those of the completed fetches, one for each in their order. -/
  fresh : state.shared.freshData = history.filterMap freshOf

/-- An answer of a call is justified by the history. -/
theorem Sound.returned {history : History Data} {state : CacheState Data} (sound : Sound history state) {index : Nat}
    {call : Call Data} {entry : CacheEntry Data} {way : Way} {moment now : Nat}
    (returns : Returns state index call entry way moment now) :
    FetchedBy history call.request.key entry ∧ Justified history index call entry moment now way := by
  have phase := (sound.calls index call returns.1).phase
  rw [returns.2] at phase
  exact phase

/-- Two calls that fetch one key would hold its lock twice. -/
theorem Sound.single {history : History Data} {state : CacheState Data} (sound : Sound history state) (key : CacheKey) :
    state.processes.countP (fun call => call.fetchingKey = some key) ≤ 1 := by
  have distinct := sound.locks.nodup_iff.mp sound.distinct
  have once := List.nodup_iff_count_le_one.mp distinct key
  have marked : (fun call : Call Data => decide (call.fetchingKey = some key)) =
      fun call => call.fetchingKey == some key := by
    funext call
    exact (beq_eq_decide _ _).symm
  rw [List.count_filterMap] at once
  rwa [marked]

/-- In every run fetches are single, results are young or their own, and each completed fetch has its callback. -/
theorem cache_singleFlight (events : List (CacheEvent Data)) :
    SingleFlight (visits cacheStep .initial events) (run cacheStep .initial events) := by
  have sound := sound_run events
  refine ⟨sound.single, ?_, ?_, ?_, sound.fresh⟩
  · intro index call entry way moment now returns
    exact (sound.returned returns).1
  · intro index call entry way moment now returns fresh
    have justified := (sound.returned returns).2
    cases way with
    | cached => exact .inl justified
    | fetched =>
        obtain ⟨-, -, -, before, after⟩ := justified
        exact .inr (before.trans after)
    | stale => exact absurd rfl fresh
  · intro index call entry moment now returns
    exact (sound.returned returns).2

end P3Portal.Cluster
