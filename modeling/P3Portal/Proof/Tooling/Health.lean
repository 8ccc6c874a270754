import P3Portal.Construction.Tooling.Health

namespace P3Portal.Tooling
open Foundation

/-- The states that the events of a run met, with the events. -/
abbrev History := List (ToolingState × ToolingEvent)

/-- The check holds the lock. -/
def Check.running (check : Check) : Bool :=
  match check.phase with
  | .version _ _ => true
  | .probe _ _ _ => true
  | .extra => true
  | .reporting _ => true
  | _ => false

/-- The audit row that the check is about to write. -/
def Check.pending (check : Check) : Option Transition :=
  match check.phase with
  | .reporting transition => some transition
  | _ => none

/-- A check that does not run has no result under way. -/
theorem pending_idle {check : Check} (idle : check.running = false) : check.pending = none := by
  unfold Check.running at idle
  unfold Check.pending
  split at idle <;> simp_all

section Results

/-- The last of the results of a tool. -/
def lastResult (tool : String) (results : List (String × CheckResult)) : Option CheckResult :=
  (results.reverse.find? fun result => result.1 = tool).map Prod.snd

def lastState (tool : String) (results : List (String × CheckResult)) : ToolState :=
  ((lastResult tool results).map CheckResult.status).getD .unknown

/-- What the cache should tell about a tool after its last result. -/
def statusOf (tool : String) (result : Option CheckResult) : ToolStatus :=
  match result with
  | none => { tool := tool }
  | some result => ⟨tool, result.version, result.status, some result.checkedAt, some result.stdout, some result.stderr⟩

/-- The audit rows for a sequence of results: each result is compared with the one before it of the same tool. -/
def changes : List (String × CheckResult) → List (String × CheckResult) → List Transition
  | _, [] => []
  | past, result :: rest =>
      (emitStatusTransition result.1 (lastState result.1 past) result.2).toList ++ changes (past ++ [result]) rest

/-- The last result of a tool is the newest one of its own. -/
theorem lastResult_snoc (tool : String) (results : List (String × CheckResult)) (result : String × CheckResult) :
    lastResult tool (results ++ [result]) = if result.1 = tool then some result.2 else lastResult tool results := by
  unfold lastResult
  rw [List.reverse_append, List.reverse_singleton, List.singleton_append, List.find?_cons]
  by_cases same : result.1 = tool
  · simp [same]
  · simp [same]

/-- Results of other tools are none of this tool. -/
theorem lastResult_absent {tool : String} {results : List (String × CheckResult)}
    (absent : ∀ result ∈ results, result.1 ≠ tool) : lastResult tool results = none := by
  have unseen : results.reverse.find? (fun result => result.1 = tool) = none := by
    rw [List.find?_eq_none]
    intro result member
    simpa using absent result (List.mem_reverse.mp member)
  rw [lastResult, unseen]
  rfl

/-- A tool without a result is unknown. -/
theorem statusOf_status (tool : String) (result : Option CheckResult) :
    (statusOf tool result).status = (result.map CheckResult.status).getD .unknown := by
  cases result <;> rfl

/-- A further result adds the transition from the state before it. -/
theorem changes_snoc (past results : List (String × CheckResult)) (result : String × CheckResult) :
    changes past (results ++ [result]) = changes past results ++
      (emitStatusTransition result.1 (lastState result.1 (past ++ results)) result.2).toList := by
  induction results generalizing past with
  | nil => simp [changes]
  | cons first rest ih =>
      rw [List.cons_append, changes, changes, ih, List.append_assoc, List.append_assoc, List.singleton_append]

end Results

variable (decimal : Char → Bool)

/-- The result that an event hands to the cache, with its tool. -/
def deliveredAt (visit : ToolingState × ToolingEvent) : Option (String × CheckResult) :=
  match visit.2 with
  | .deliver index answer => (visit.1.processes[index]?).bind fun check =>
      match check.progress decimal answer with
      | .checked result => some (check.tool, result)
      | _ => none
  | _ => none

def delivered (history : History) : List (String × CheckResult) := history.filterMap (deliveredAt decimal)

/-- No audit row of the history failed to be written. -/
def NothingLost (history : History) : Prop := ∀ visit ∈ history, ∀ index, visit.2 ≠ .written index false

/-- The state follows from the results that were delivered in the history. -/
structure Sound (history : History) (state : ToolingState) : Prop where
  lock : state.processes.countP Check.running = if state.shared.locked then 1 else 0
  core : ∀ tool ∈ coreTools, tool ∈ state.shared.knownTools
  tools : ∀ check ∈ state.processes, check.tool ∈ state.shared.knownTools
  known : ∀ result ∈ delivered decimal history, result.1 ∈ state.shared.knownTools
  cached : ∀ tool, state.shared.cache.get? tool =
    if tool ∈ state.shared.knownTools then some (statusOf tool (lastResult tool (delivered decimal history))) else none
  audited : (state.shared.audit ++ state.processes.filterMap Check.pending).Sublist
    (changes [] (delivered decimal history))
  complete : NothingLost history →
    state.shared.audit ++ state.processes.filterMap Check.pending = changes [] (delivered decimal history)

section Extension
variable {service after later : HealthService}

/-- The service knows more tools and is the same otherwise; the limits may change. -/
structure Extends (service after : HealthService) : Prop where
  locked : after.locked = service.locked
  audit : after.audit = service.audit
  now : after.now = service.now
  known : ∀ tool ∈ service.knownTools, tool ∈ after.knownTools
  cached : ∀ tool, after.cache.get? tool =
    if tool ∈ after.knownTools ∧ tool ∉ service.knownTools then some { tool := tool } else service.cache.get? tool

/-- A service that does nothing keeps what it stores. -/
theorem Extends.refl (service : HealthService) : Extends service service := by
  refine ⟨rfl, rfl, rfl, fun _ known => known, ?_⟩
  intro tool
  rw [if_neg]
  intro both
  exact both.2 both.1

/-- Two steps that keep the stored results keep them together. -/
theorem Extends.trans (first : Extends service after) (second : Extends after later) : Extends service later := by
  refine ⟨second.locked.trans first.locked, second.audit.trans first.audit, second.now.trans first.now,
    fun tool known => second.known tool (first.known tool known), ?_⟩
  intro tool
  rw [second.cached, first.cached]
  have grows := second.known tool
  have grew := first.known tool
  by_cases old : tool ∈ service.knownTools
  · simp [old, grew old]
  · by_cases middle : tool ∈ after.knownTools
    · simp [old, middle, grows middle]
    · simp [old, middle]

/-- Another runner or other limits extend the service. -/
theorem Extends.of_same (locked : after.locked = service.locked) (audit : after.audit = service.audit)
    (now : after.now = service.now) (known : after.knownTools = service.knownTools)
    (cache : after.cache = service.cache) : Extends service after := by
  have same := Extends.refl service
  refine ⟨locked, audit, now, ?_, ?_⟩
  · rw [known]
    exact same.known
  · rw [known, cache]
    exact same.cached

/-- An unknown tool joins with a status that nothing tells about. -/
theorem Extends.join (service : HealthService) (tool : String) :
    Extends service (if tool ∈ service.knownTools then service else { service with
      knownTools := service.knownTools ++ [tool]
      cache := service.cache.set tool { tool := tool } }) := by
  split
  · exact Extends.refl service
  · rename_i unknown
    refine ⟨rfl, rfl, rfl, fun other known => List.mem_append_left _ known, ?_⟩
    intro other
    rw [OrderedMap.get?_set]
    by_cases same : other = tool
    · subst same
      simp [unknown]
    · simp [same]

/-- The registration of a tool keeps the results of all tools. -/
theorem registerTool_extends (service : HealthService) (cfg : ToolConfig) : Extends service (service.registerTool cfg) := by
  unfold HealthService.registerTool
  split
  · exact Extends.refl service
  · rename_i tool _
    have offered : Extends service (if cfg.hasRunner then
        { service with extraRunners := service.extraRunners.insert tool } else service) := by
      split
      · exact Extends.of_same rfl rfl rfl rfl rfl
      · exact Extends.refl service
    by_cases core : tool ∈ coreTools
    · rw [if_pos core]
      exact Extends.refl service
    · rw [if_neg core]
      exact offered.trans (Extends.join _ tool)

/-- The start of the service keeps the stored results. -/
theorem initTools_extends (service : HealthService) (hook : Hook) : Extends service (service.initTools hook) := by
  have all (configs : List ToolConfig) (service : HealthService) :
      Extends service (configs.foldl HealthService.registerTool service) := by
    induction configs generalizing service with
    | nil => exact Extends.refl service
    | cons cfg rest ih => exact (registerTool_extends service cfg).trans (ih _)
  exact all _ service

/-- The marks of the rate limit leave the results alone. -/
theorem markRateLimit_extends (userId : Option Int) (tools : List String) (service : HealthService) :
    Extends service (tools.foldl (HealthService.markRateLimit userId) service) := by
  induction tools generalizing service with
  | nil => exact Extends.refl service
  | cons tool rest ih =>
      have marked : Extends service (HealthService.markRateLimit userId service tool) := Extends.of_same rfl rfl rfl rfl rfl
      exact marked.trans (ih _)

/-- An accepted recheck keeps the results until its checks are done. -/
theorem forceRecheck_extends (service : HealthService) (userId : Option Int) (hook : Hook) :
    Extends service (service.forceRecheck userId hook).1 := by
  have registered := initTools_extends service hook
  unfold HealthService.forceRecheck
  dsimp only
  split
  · exact registered
  · split
    · exact registered
    · exact registered.trans (markRateLimit_extends _ _ _)

/-- The endpoint of the recheck keeps the results as well. -/
theorem recheckTooling_extends (service : HealthService) (userId : Option Int) (first second : Hook) :
    Extends service (service.recheckTooling userId first second).1 := by
  have registered := initTools_extends service first
  unfold HealthService.recheckTooling
  dsimp only
  split
  · exact registered
  · exact registered.trans (forceRecheck_extends _ _ _)

end Extension

section Step
variable {decimal} {history : History} {state : ToolingState} {event : ToolingEvent} {index : Nat} {check : Check}
  {next : HealthService → Check → HealthService × Check}

/-- What was not lost in a run was not lost in its beginning. -/
theorem NothingLost.before (unlost : NothingLost (history ++ [(state, event)])) : NothingLost history :=
  fun visit member => unlost visit (List.mem_append_left _ member)

/-- A step without a result delivers nothing. -/
theorem delivered_quiet (quiet : deliveredAt decimal (state, event) = none) :
    delivered decimal (history ++ [(state, event)]) = delivered decimal history := by
  rw [delivered, List.filterMap_append, List.filterMap_cons_none quiet, List.filterMap_nil, List.append_nil]
  rfl

/-- A step with a result delivers it last. -/
theorem delivered_snoc {result : String × CheckResult} (found : deliveredAt decimal (state, event) = some result) :
    delivered decimal (history ++ [(state, event)]) = delivered decimal history ++ [result] := by
  rw [delivered, List.filterMap_append, List.filterMap_cons_some found, List.filterMap_nil]
  rfl

/-- A short list has no other order. -/
theorem eq_of_perm_short {Item : Type} {items same : List Item} (perm : items.Perm same) (short : same.length ≤ 1) :
    items = same := by
  match same, short with
  | [], _ => exact perm.eq_nil
  | [item], _ => exact List.perm_singleton.mp perm

/-- Only running checks have results under way. -/
theorem length_filterMap_pending (checks : List Check) :
    (checks.filterMap Check.pending).length ≤ checks.countP Check.running := by
  induction checks with
  | nil => exact Nat.le_refl 0
  | cons check rest ih =>
      rw [filterMap_cons_toList, List.length_append, List.countP_cons]
      cases runs : check.running with
      | false =>
          rw [pending_idle runs]
          simpa using ih
      | true =>
          have single : check.pending.toList.length ≤ 1 := by
            cases check.pending <;> simp
          simp only [if_true]
          omega

/-- At most one check runs at any time. -/
theorem Sound.once (sound : Sound decimal history state) : state.processes.countP Check.running ≤ 1 := by
  rw [sound.lock]
  split <;> omega

/-- While one check holds the lock, no other has an audit row to write. -/
theorem Sound.others_idle (sound : Sound decimal history state) (present : state.processes[index]? = some check)
    (runs : check.running = true) : (state.others index).filterMap Check.pending = [] := by
  have once := sound.once
  rw [(Interleaved.processes_perm present).countP_eq, List.countP_cons, runs] at once
  have short := length_filterMap_pending (state.others index)
  apply List.eq_nil_of_length_eq_zero
  simp only [if_true] at once
  omega

/-- The audit rows to write are those of the check that holds the lock. -/
theorem Sound.pendings (sound : Sound decimal history state) (present : state.processes[index]? = some check)
    (runs : check.running = true) : state.processes.filterMap Check.pending = check.pending.toList := by
  have perm := Interleaved.filterMap_perm Check.pending present
  rw [sound.others_idle present runs, List.append_nil] at perm
  apply eq_of_perm_short perm
  cases check.pending <;> simp

/-- A turn of the running check leaves its own result under way and no other. -/
theorem Sound.pendings_act (sound : Sound decimal history state) (present : state.processes[index]? = some check)
    (runs : check.running = true) :
    (state.act next index).processes.filterMap Check.pending = (next state.shared check).2.pending.toList := by
  have perm : ((state.act next index).processes.filterMap Check.pending).Perm _ :=
    Interleaved.act_filterMap_perm Check.pending present
  rw [sound.others_idle present runs, List.append_nil] at perm
  apply eq_of_perm_short perm
  cases (next state.shared check).2.pending <;> simp

/-- A check without an audit row before and after its turn leaves the others with theirs. -/
theorem Sound.pendings_kept (sound : Sound decimal history state) (present : state.processes[index]? = some check)
    (before : check.pending = none) (after : (next state.shared check).2.pending = none) :
    (state.act next index).processes.filterMap Check.pending = state.processes.filterMap Check.pending := by
  have turned : ((state.act next index).processes.filterMap Check.pending).Perm _ :=
    Interleaved.act_filterMap_perm Check.pending present
  have found := Interleaved.filterMap_perm Check.pending present
  rw [after] at turned
  rw [before] at found
  apply eq_of_perm_short (turned.trans found.symm)
  have short := length_filterMap_pending state.processes
  have once := sound.once
  omega

/-- What a turn has to keep. -/
theorem Sound.turn (sound : Sound decimal history state) (present : state.processes[index]? = some check)
    (known : (next state.shared check).1.knownTools = state.shared.knownTools)
    (tool : (next state.shared check).2.tool = check.tool)
    (lock : (if (next state.shared check).2.running then 1 else 0) + (if state.shared.locked then 1 else 0) =
      (if check.running then 1 else 0) + if (next state.shared check).1.locked then 1 else 0)
    (named : ∀ result, deliveredAt decimal (state, event) = some result → result.1 = check.tool)
    (cached : ∀ query, (next state.shared check).1.cache.get? query = if query ∈ state.shared.knownTools then
      some (statusOf query (lastResult query (delivered decimal (history ++ [(state, event)])))) else none)
    (audited : ((next state.shared check).1.audit ++ (state.act next index).processes.filterMap Check.pending).Sublist
      (changes [] (delivered decimal (history ++ [(state, event)]))))
    (complete : NothingLost (history ++ [(state, event)]) →
      (next state.shared check).1.audit ++ (state.act next index).processes.filterMap Check.pending =
        changes [] (delivered decimal (history ++ [(state, event)]))) :
    Sound decimal (history ++ [(state, event)]) (state.act next index) where
  lock := by
    have count : (state.act next index).processes.countP Check.running + _ = _ :=
      Interleaved.countP_act Check.running present
    rw [sound.lock] at count
    rw [Interleaved.act_shared present]
    omega
  core := by
    rw [Interleaved.act_shared present, known]
    exact sound.core
  tools := by
    rw [Interleaved.act_shared present, known]
    have changed : check.tool ∈ state.shared.knownTools →
        (next state.shared check).2.tool ∈ state.shared.knownTools := by
      rw [tool]
      exact id
    exact Interleaved.forall_act present sound.tools changed fun _ _ kept => kept
  known := by
    rw [Interleaved.act_shared present, known, delivered, List.filterMap_append]
    intro result member
    rcases List.mem_append.mp member with old | new
    · exact sound.known result old
    · obtain ⟨visit, only, found⟩ := List.mem_filterMap.mp new
      rw [List.mem_singleton.mp only] at found
      rw [named result found]
      exact sound.tools check (Interleaved.mem_processes present)
  cached := by
    rw [Interleaved.act_shared present, known]
    exact cached
  audited := by
    rw [Interleaved.act_shared present]
    exact audited
  complete := by
    rw [Interleaved.act_shared present]
    exact complete

/-- A turn that neither delivers a result nor writes a row. -/
theorem Sound.quiet (sound : Sound decimal history state) (present : state.processes[index]? = some check)
    (same : (next state.shared check).1 = { state.shared with locked := (next state.shared check).1.locked })
    (tool : (next state.shared check).2.tool = check.tool)
    (lock : (if (next state.shared check).2.running then 1 else 0) + (if state.shared.locked then 1 else 0) =
      (if check.running then 1 else 0) + if (next state.shared check).1.locked then 1 else 0)
    (before : check.pending = none) (after : (next state.shared check).2.pending = none)
    (silent : deliveredAt decimal (state, event) = none) :
    Sound decimal (history ++ [(state, event)]) (state.act next index) := by
  have known : (next state.shared check).1.knownTools = state.shared.knownTools := by rw [same]
  have cache : (next state.shared check).1.cache = state.shared.cache := by rw [same]
  have audit : (next state.shared check).1.audit = state.shared.audit := by rw [same]
  apply sound.turn present known tool lock
  · intro result found
    rw [silent] at found
    cases found
  · rw [delivered_quiet silent, cache]
    exact sound.cached
  · rw [delivered_quiet silent, audit, sound.pendings_kept present before after]
    exact sound.audited
  · rw [delivered_quiet silent, audit, sound.pendings_kept present before after]
    exact fun stored => sound.complete stored.before

/-- A service that only knows more tools, and new tasks that wait to begin. -/
theorem Sound.extends (sound : Sound decimal history state) {service : HealthService} {joining : List Check}
    (extended : Extends state.shared service) (silent : deliveredAt decimal (state, event) = none)
    (fresh : ∀ check ∈ joining, check.running = false ∧ check.tool ∈ service.knownTools) :
    Sound decimal (history ++ [(state, event)]) ⟨service, state.processes ++ joining⟩ := by
  have pendings : (state.processes ++ joining).filterMap Check.pending = state.processes.filterMap Check.pending := by
    have nothing : joining.filterMap Check.pending = [] :=
      List.filterMap_eq_nil_iff.mpr fun check member => pending_idle (fresh check member).1
    rw [List.filterMap_append, nothing, List.append_nil]
  have idle : joining.countP Check.running = 0 := by
    rw [List.countP_eq_zero]
    intro check member
    rw [(fresh check member).1]
    exact Bool.false_ne_true
  refine ⟨?_, ?_, ?_, ?_, ?_, ?_, ?_⟩
  · rw [List.countP_append, idle, Nat.add_zero, extended.locked]
    exact sound.lock
  · exact fun tool member => extended.known tool (sound.core tool member)
  · intro check member
    rcases List.mem_append.mp member with old | new
    · exact extended.known _ (sound.tools check old)
    · exact (fresh check new).2
  · rw [delivered_quiet silent]
    exact fun result member => extended.known _ (sound.known result member)
  · intro tool
    rw [delivered_quiet silent, extended.cached, sound.cached]
    have grows := extended.known tool
    by_cases old : tool ∈ state.shared.knownTools
    · simp [old, grows old]
    · have absent : lastResult tool (delivered decimal history) = none := by
        apply lastResult_absent
        intro result member same
        exact old (same ▸ sound.known result member)
      simp only [old, not_false_eq_true, and_true, if_false, absent]
      rfl
  · rw [delivered_quiet silent, extended.audit, pendings]
    exact sound.audited
  · rw [delivered_quiet silent, extended.audit, pendings]
    exact fun stored => sound.complete stored.before

/-- An event that changes nothing. -/
theorem Sound.idle (sound : Sound decimal history state) (silent : deliveredAt decimal (state, event) = none) :
    Sound decimal (history ++ [(state, event)]) state := by
  have same : Sound decimal (history ++ [(state, event)]) ⟨state.shared, state.processes ++ []⟩ := by
    apply sound.extends (Extends.refl _) silent
    intro check absent
    cases absent
  rwa [List.append_nil] at same

/-- What a resumed task does: nothing, end or wait, or take the free lock and start its runner. -/
theorem checkOne_cases (service : HealthService) (check : Check) :
    service.checkOne check = (service, check) ∨
      (∃ phase, check.running = false ∧ (phase = .done ∨ phase = .waiting) ∧
        service.checkOne check = (service, { check with phase })) ∨
      ∃ phase, check.phase = .waiting ∧ service.locked = false ∧
        (check.bypassCache = true ∨ service.isFresh check.tool = false) ∧ service.runTool check.tool = some phase ∧
        service.checkOne check = ({ service with locked := true }, { check with phase }) := by
  unfold HealthService.checkOne Check.running
  split
  · rename_i created
    rw [created]
    split
    · exact .inr (.inl ⟨.done, rfl, .inl rfl, rfl⟩)
    · exact .inr (.inl ⟨.waiting, rfl, .inr rfl, rfl⟩)
  · rename_i waiting
    rw [waiting]
    split
    · exact .inl rfl
    · rename_i free
      split
      · exact .inr (.inl ⟨.done, rfl, .inl rfl, rfl⟩)
      · rename_i due
        split
        · exact .inr (.inl ⟨.done, rfl, .inl rfl, rfl⟩)
        · rename_i phase started
          refine .inr (.inr ⟨phase, rfl, by simpa using free, ?_, started, rfl⟩)
          cases bypass : check.bypassCache with
          | true => exact .inl rfl
          | false => exact .inr (by simpa [bypass] using due)
  · exact .inl rfl

/-- A runner starts with a command or with the callable of the extension. -/
theorem runTool_running {service : HealthService} {tool : String} {phase : Phase}
    (started : service.runTool tool = some phase) (check : Check) :
    ({ check with phase } : Check).running = true ∧ ({ check with phase } : Check).pending = none := by
  unfold HealthService.runTool at started
  split at started
  · rw [← Option.some.inj started]
    exact ⟨rfl, rfl⟩
  · split at started
    · rw [← Option.some.inj started]
      exact ⟨rfl, rfl⟩
    · cases started

/-- A turn of a check keeps the invariant. -/
theorem Sound.resume (sound : Sound decimal history state) (index : Nat) :
    Sound decimal (history ++ [(state, .resume index)]) (toolingStep decimal state (.resume index)) := by
  have silent : deliveredAt decimal (state, .resume index) = none := rfl
  rw [toolingStep]
  cases present : state.processes[index]? with
  | none =>
      rw [Interleaved.act_absent present]
      exact sound.idle silent
  | some check =>
      rcases checkOne_cases state.shared check with
        same | ⟨phase, idle, ends, turned⟩ | ⟨phase, waiting, free, -, started, turned⟩
      · rw [Interleaved.act_idle present same]
        exact sound.idle silent
      · have after : ({ check with phase } : Check).running = false := by
          rcases ends with rfl | rfl <;> rfl
        apply sound.quiet present _ _ _ (pending_idle idle) _ silent <;> rw [turned]
        · rw [idle, after]
        · exact pending_idle after
      · obtain ⟨runs, nothing⟩ := runTool_running started check
        have idle : check.running = false := by
          rw [Check.running, waiting]
        apply sound.quiet present _ _ _ (pending_idle idle) _ silent <;> rw [turned]
        · rw [idle, runs, free]
          rfl
        · exact nothing

/-- An answer is asked for by a check that holds the lock and has no row to write. -/
theorem progress_asked {answer : Answer} (asked : check.progress decimal answer ≠ .unasked) :
    check.running = true ∧ check.pending = none := by
  unfold Check.progress at asked
  unfold Check.running Check.pending
  split at asked <;> simp_all

/-- The next command is awaited with the lock. -/
theorem progress_next {answer : Answer} {phase : Phase} (found : check.progress decimal answer = .next phase) :
    ({ check with phase } : Check).running = true ∧ ({ check with phase } : Check).pending = none := by
  unfold Check.progress at found
  split at found
  · dsimp only at found
    split at found
    · cases found
    · cases found
      exact ⟨rfl, rfl⟩
  · cases found
  · cases found
  · cases found
  · cases found

/-- The result of a check becomes the status of its tool, and a change is about to be audited. -/
theorem applyStatus_spec (service : HealthService) (check : Check) (result : CheckResult) {stored : ToolStatus}
    (previous : service.cache.get? check.tool = some stored) :
    ∃ locked phase, service.applyStatus check result = ({ service with
        cache := service.cache.set check.tool (statusOf check.tool (some result))
        locked }, { check with phase }) ∧
      ({ check with phase } : Check).pending = emitStatusTransition check.tool stored.status result ∧
      ({ check with phase } : Check).running = (emitStatusTransition check.tool stored.status result).isSome ∧
      locked = if (emitStatusTransition check.tool stored.status result).isSome then service.locked else false := by
  unfold HealthService.applyStatus
  rw [previous, Option.map_some, Option.getD_some]
  dsimp only
  cases emitStatusTransition check.tool stored.status result with
  | none => exact ⟨false, .done, rfl, rfl, rfl, rfl⟩
  | some transition => exact ⟨service.locked, .reporting transition, rfl, rfl, rfl, rfl⟩

/-- While a check runs, the lock of the service is held. -/
theorem Sound.locked (sound : Sound decimal history state) (present : state.processes[index]? = some check)
    (runs : check.running = true) : state.shared.locked = true := by
  have counted := sound.lock
  rw [(Interleaved.processes_perm present).countP_eq, List.countP_cons, runs] at counted
  by_contra free
  rw [if_neg free] at counted
  simp at counted

/-- The result of a check is appended to those delivered before. -/
theorem Sound.checked (sound : Sound decimal history state) {answer : Answer} {result : CheckResult}
    (present : state.processes[index]? = some check) (found : check.progress decimal answer = .checked result) :
    Sound decimal (history ++ [(state, .deliver index answer)])
      (state.act (HealthService.receive decimal answer) index) := by
  have handed : deliveredAt decimal (state, .deliver index answer) = some (check.tool, result) := by
    simp only [deliveredAt, present, Option.bind_some, found]
  have member := sound.tools check (Interleaved.mem_processes present)
  have stored := sound.cached check.tool
  rw [if_pos member] at stored
  obtain ⟨locked, phase, applied, pending, running, kept⟩ := applyStatus_spec state.shared check result stored
  rw [statusOf_status] at pending running kept
  have turned : HealthService.receive decimal answer state.shared check = ({ state.shared with
      cache := state.shared.cache.set check.tool (statusOf check.tool (some result))
      locked }, { check with phase }) := by
    rw [HealthService.receive, found]
    exact applied
  obtain ⟨runs, nothing⟩ : check.running = true ∧ check.pending = none := by
    apply progress_asked
    rw [found]
    exact Progress.noConfusion
  have grows : changes [] (delivered decimal history ++ [(check.tool, result)]) =
      changes [] (delivered decimal history) ++ ({ check with phase } : Check).pending.toList := by
    rw [changes_snoc, pending]
    rfl
  have before := sound.pendings present runs
  rw [nothing, Option.toList_none] at before
  apply sound.turn present
  · rw [turned]
  · rw [turned]
  · rw [turned, sound.locked present runs]
    dsimp only
    rw [runs, running, kept, sound.locked present runs]
    cases emitStatusTransition check.tool _ result <;> rfl
  · intro other same
    rw [← Option.some.inj (handed.symm.trans same)]
  · intro query
    rw [delivered_snoc handed, turned, OrderedMap.get?_set, lastResult_snoc]
    by_cases same : query = check.tool
    · rw [same, if_pos rfl, if_pos member, if_pos rfl]
    · have different : ¬ check.tool = query := fun equal => same equal.symm
      rw [if_neg same, if_neg different]
      exact sound.cached query
  · rw [delivered_snoc handed, sound.pendings_act present runs, turned, grows]
    have rows := sound.audited
    rw [before, List.append_nil] at rows
    exact rows.append_right _
  · intro unlost
    rw [delivered_snoc handed, sound.pendings_act present runs, turned, grows]
    have rows := sound.complete unlost.before
    rw [before, List.append_nil] at rows
    rw [rows]

/-- The answer of a tool keeps the invariant. -/
theorem Sound.deliver (sound : Sound decimal history state) (index : Nat) (answer : Answer) :
    Sound decimal (history ++ [(state, .deliver index answer)])
      (toolingStep decimal state (.deliver index answer)) := by
  rw [toolingStep]
  cases present : state.processes[index]? with
  | none =>
      rw [Interleaved.act_absent present]
      apply sound.idle
      simp only [deliveredAt, present, Option.bind_none]
  | some check =>
      cases found : check.progress decimal answer with
      | unasked =>
          have turned : HealthService.receive decimal answer state.shared check = (state.shared, check) := by
            rw [HealthService.receive, found]
          rw [Interleaved.act_idle present turned]
          apply sound.idle
          simp only [deliveredAt, present, Option.bind_some, found]
      | checked result => exact sound.checked present found
      | next phase =>
          have silent : deliveredAt decimal (state, .deliver index answer) = none := by
            simp only [deliveredAt, present, Option.bind_some, found]
          obtain ⟨runs, nothing⟩ : check.running = true ∧ check.pending = none := by
            apply progress_asked
            rw [found]
            exact Progress.noConfusion
          obtain ⟨still, none⟩ := progress_next found
          have turned : HealthService.receive decimal answer state.shared check =
              (state.shared, { check with phase }) := by
            rw [HealthService.receive, found]
          apply sound.quiet present _ _ _ nothing _ silent <;> rw [turned]
          · rw [runs, still]
          · exact none
      | failed =>
          have silent : deliveredAt decimal (state, .deliver index answer) = none := by
            simp only [deliveredAt, present, Option.bind_some, found]
          obtain ⟨runs, nothing⟩ : check.running = true ∧ check.pending = none := by
            apply progress_asked
            rw [found]
            exact Progress.noConfusion
          have turned : HealthService.receive decimal answer state.shared check =
              ({ state.shared with locked := false }, { check with phase := .done }) := by
            rw [HealthService.receive, found]
          apply sound.quiet present _ _ _ nothing _ silent <;> rw [turned]
          · rw [runs, sound.locked present runs]
            rfl
          · rfl

/-- The end of a write keeps the invariant. -/
theorem Sound.written (sound : Sound decimal history state) (index : Nat) (stored : Bool) :
    Sound decimal (history ++ [(state, .written index stored)])
      (toolingStep decimal state (.written index stored)) := by
  have silent : deliveredAt decimal (state, .written index stored) = none := rfl
  rw [toolingStep]
  cases present : state.processes[index]? with
  | none =>
      rw [Interleaved.act_absent present]
      exact sound.idle silent
  | some check =>
      by_cases reports : ∃ transition, check.phase = .reporting transition
      · obtain ⟨transition, phase⟩ := reports
        have runs : check.running = true := by rw [Check.running, phase]
        have pending : check.pending = some transition := by rw [Check.pending, phase]
        have turned : HealthService.written stored state.shared check = ({ state.shared with
            locked := false
            audit := if stored then state.shared.audit ++ [transition] else state.shared.audit },
              { check with phase := .done }) := by
          rw [HealthService.written, phase]
        have before := sound.pendings present runs
        rw [pending, Option.toList_some] at before
        have after : (state.act (HealthService.written stored) index).processes.filterMap Check.pending = _ :=
          sound.pendings_act present runs
        rw [turned] at after
        apply sound.turn present
        · rw [turned]
        · rw [turned]
        · rw [turned, runs, sound.locked present runs]
          rfl
        · intro result found
          rw [silent] at found
          cases found
        · rw [delivered_quiet silent, turned]
          exact sound.cached
        · rw [delivered_quiet silent, after, turned]
          have rows := sound.audited
          rw [before] at rows
          cases stored with
          | true => simpa [Check.pending] using rows
          | false => simpa [Check.pending] using (List.sublist_append_left _ _).trans rows
        · intro unlost
          rw [delivered_quiet silent, after, turned]
          have rows := sound.complete unlost.before
          rw [before] at rows
          cases stored with
          | true => simpa [Check.pending] using rows
          | false => exact absurd rfl (unlost _ (List.mem_append_right _ List.mem_cons_self) index)
      · have same : HealthService.written stored state.shared check = (state.shared, check) := by
          unfold HealthService.written
          split
          · rename_i transition phase
            exact absurd ⟨transition, phase⟩ reports
          · rfl
        rw [Interleaved.act_idle present same]
        exact sound.idle silent

/-- A new task for each known tool. -/
theorem Sound.gather (sound : Sound decimal history state) {service : HealthService} (bypassCache : Bool)
    (extended : Extends state.shared service) (silent : deliveredAt decimal (state, event) = none) :
    Sound decimal (history ++ [(state, event)]) (gather service bypassCache state.processes) := by
  apply sound.extends extended silent
  intro check member
  obtain ⟨tool, known, rfl⟩ := List.mem_map.mp member
  exact ⟨rfl, known⟩

/-- A service that only knows more tools. -/
theorem Sound.serve (sound : Sound decimal history state) {service : HealthService}
    (extended : Extends state.shared service) (silent : deliveredAt decimal (state, event) = none) :
    Sound decimal (history ++ [(state, event)]) { state with shared := service } := by
  have joined : Sound decimal (history ++ [(state, event)]) ⟨service, state.processes ++ []⟩ := by
    apply sound.extends extended silent
    intro check absent
    cases absent
  rwa [List.append_nil] at joined

/-- The clock is no part of what the history tells. -/
theorem Sound.elapse (sound : Sound decimal history state) (microseconds : Nat) :
    Sound decimal (history ++ [(state, .elapse microseconds)])
      (toolingStep decimal state (.elapse microseconds)) := by
  have same : Sound decimal (history ++ [(state, .elapse microseconds)]) state := sound.idle rfl
  exact ⟨same.lock, same.core, same.tools, same.known, same.cached, same.audited, same.complete⟩

/-- Every event keeps what the history tells. -/
theorem Sound.step (sound : Sound decimal history state) (event : ToolingEvent) :
    Sound decimal (history ++ [(state, event)]) (toolingStep decimal state event) := by
  cases event with
  | status hook => exact sound.serve (initTools_extends _ hook) rfl
  | checkAll hook => exact sound.gather false (initTools_extends _ hook) rfl
  | recheck userId first second =>
      have extended := recheckTooling_extends state.shared userId first second
      rw [toolingStep]
      split
      · rename_i service retryAfter verdict
        rw [verdict] at extended
        exact sound.serve extended rfl
      · rename_i service verdict
        rw [verdict] at extended
        exact sound.gather true extended rfl
  | resume index => exact sound.resume index
  | deliver index answer => exact sound.deliver index answer
  | written index stored => exact sound.written index stored
  | elapse microseconds => exact sound.elapse microseconds

/-- The service starts in the invariant. -/
theorem Sound.initial : Sound decimal [] .initial := by
  refine ⟨rfl, fun _ member => member, ?_, ?_, ?_, List.Sublist.slnil, fun _ => rfl⟩
  · intro check absent
    cases absent
  · intro result absent
    cases absent
  · intro tool
    show (OrderedMap.set (OrderedMap.set _ _ _) _ _).get? tool = _
    rw [OrderedMap.get?_set, OrderedMap.get?_set, OrderedMap.get?_empty]
    by_cases packer : tool = "packer"
    · rw [packer]
      rfl
    · by_cases ansible : tool = "ansible"
      · rw [ansible]
        rfl
      · rw [if_neg packer, if_neg ansible, if_neg]
        intro known
        rcases List.mem_cons.mp known with same | rest
        · exact ansible same
        · exact packer (List.mem_singleton.mp rest)

/-- Whatever happens, the state follows from the results that were delivered. -/
theorem sound_run (events : List ToolingEvent) :
    Sound decimal (visits (toolingStep decimal) .initial events) (run (toolingStep decimal) .initial events) := by
  have kept : ∀ past state (event : ToolingEvent), Sound decimal past state → True →
      Sound decimal (past ++ [(state, event)]) (toolingStep decimal state event) :=
    fun past state event sound _ => sound.step event
  exact run_history (toolingStep decimal) kept events .initial fun _ _ => trivial

end Step

/-- One check runs at a time, the cache tells the last result of each tool, and the audit tells the changes. -/
structure Supervised (history : History) (state : ToolingState) : Prop where
  single : state.processes.countP Check.running ≤ 1
  cached : ∀ tool ∈ state.shared.knownTools,
    state.shared.cache.get? tool = some (statusOf tool (lastResult tool (delivered decimal history)))
  /-- No row is made up, repeated or out of order. -/
  audited : state.shared.audit.Sublist (changes [] (delivered decimal history))
  /-- Without a failed write no change is lost; the last row may still be on its way. -/
  complete : NothingLost history →
    state.shared.audit ++ state.processes.filterMap Check.pending = changes [] (delivered decimal history)

/-- In every run checks run one at a time, and the cache and the audit rows follow their results. -/
theorem tooling_supervised (events : List ToolingEvent) :
    Supervised decimal (visits (toolingStep decimal) .initial events) (run (toolingStep decimal) .initial events) := by
  have sound : Sound decimal _ _ := sound_run events
  refine ⟨sound.once, ?_, (List.sublist_append_left _ _).trans sound.audited, sound.complete⟩
  intro tool known
  rw [sound.cached, if_pos known]

section Starting
variable {decimal} {history : History} {state : ToolingState}

/-- A tool is fresh exactly when its last result is young. -/
theorem Sound.isFresh (sound : Sound decimal history state) {tool : String} (known : tool ∈ state.shared.knownTools) :
    state.shared.isFresh tool = false ↔
      ∀ result ∈ lastResult tool (delivered decimal history), cacheTtl ≤ state.shared.now - result.checkedAt := by
  unfold HealthService.isFresh
  rw [sound.cached, if_pos known, Option.bind_some]
  cases lastResult tool (delivered decimal history) with
  | none => simp [statusOf]
  | some result => simp [statusOf]

/-- A waiting check with the free lock starts when it has a runner and finds no fresh status. -/
theorem checkOne_running {service : HealthService} {check : Check} (waiting : check.phase = .waiting) :
    (service.checkOne check).2.running = true ↔ service.locked = false ∧
      (service.runTool check.tool).isSome = true ∧ (check.bypassCache = true ∨ service.isFresh check.tool = false) := by
  have idle : check.running = false := by
    rw [Check.running, waiting]
  unfold HealthService.checkOne
  rw [waiting]
  dsimp only
  cases service.locked with
  | true => simp [idle]
  | false =>
      by_cases fresh : (!check.bypassCache && service.isFresh check.tool) = true
      · rw [if_pos fresh]
        simp only [Bool.and_eq_true, Bool.not_eq_true'] at fresh
        simp [Check.running, fresh.1, fresh.2]
      · rw [if_neg fresh]
        have due : check.bypassCache = true ∨ service.isFresh check.tool = false := by
          cases bypass : check.bypassCache with
          | true => exact .inl rfl
          | false => exact .inr (by simpa [bypass] using fresh)
        cases started : service.runTool check.tool with
        | none => simp [Check.running]
        | some phase => simp [due, (runTool_running started check).1]

end Starting

/-- After any run, a waiting check that is resumed starts its runner exactly when no other check runs, its tool has a
runner, and it bypasses the cache or the last result of its tool is at least twelve minutes old. -/
theorem check_starts_iff (events : List ToolingEvent) {index : Nat} {check : Check}
    (present : (run (toolingStep decimal) .initial events).processes[index]? = some check)
    (waiting : check.phase = .waiting) :
    (∃ turned, (run (toolingStep decimal) .initial (events ++ [.resume index])).processes[index]? = some turned ∧
        turned.running = true) ↔
      (∀ other ∈ (run (toolingStep decimal) .initial events).processes, other.running = false) ∧
      ((run (toolingStep decimal) .initial events).shared.runTool check.tool).isSome = true ∧
      (check.bypassCache = true ∨
        ∀ result ∈ lastResult check.tool (delivered decimal (visits (toolingStep decimal) .initial events)),
          cacheTtl ≤ (run (toolingStep decimal) .initial events).shared.now - result.checkedAt) := by
  have sound : Sound decimal _ _ := sound_run events
  have known := sound.tools check (Interleaved.mem_processes present)
  have next : run (toolingStep decimal) .initial (events ++ [.resume index]) =
      (run (toolingStep decimal) .initial events).act HealthService.checkOne index := by
    rw [run, List.foldl_append]
    rfl
  have free : (run (toolingStep decimal) .initial events).shared.locked = false ↔
      ∀ other ∈ (run (toolingStep decimal) .initial events).processes, other.running = false := by
    have counted := sound.lock
    cases locked : (run (toolingStep decimal) .initial events).shared.locked with
    | true =>
        rw [locked, if_pos rfl] at counted
        constructor
        · intro impossible
          cases impossible
        · intro idle
          rw [List.countP_eq_zero.mpr fun other member => by simp [idle other member]] at counted
          cases counted
    | false =>
        rw [locked, if_neg Bool.false_ne_true, List.countP_eq_zero] at counted
        simpa using counted
  rw [next, Interleaved.getElem?_act present, if_pos rfl, ← sound.isFresh known, ← free, ← checkOne_running waiting]
  simp

/-- After the first request the check of all tools starts at its turn. -/
theorem first_check_starts :
    (∃ turned, (run (toolingStep fun _ => false) .initial ([.checkAll none, .resume 0] ++ [.resume 0])).processes[0]? =
        some turned ∧ turned.running = true) ↔
      (∀ other ∈ (run (toolingStep fun _ => false) .initial [.checkAll none, .resume 0]).processes,
        other.running = false) ∧
      ((run (toolingStep fun _ => false) .initial [.checkAll none, .resume 0]).shared.runTool "ansible").isSome = true ∧
      (false = true ∨ ∀ result ∈ lastResult "ansible" (delivered (fun _ => false)
          (visits (toolingStep fun _ => false) .initial [.checkAll none, .resume 0])),
        cacheTtl ≤ (run (toolingStep fun _ => false) .initial [.checkAll none, .resume 0]).shared.now -
          result.checkedAt) :=
  @check_starts_iff (fun _ => false) [.checkAll none, .resume 0] 0 ⟨"ansible", false, .waiting⟩ rfl rfl

section Limits
variable {decimal} {history : History} {service after : HealthService}

/-- An accepted recheck of a portal user, with its moment. -/
def acceptedAt (visit : ToolingState × ToolingEvent) : Option (Int × Int) :=
  match visit.2 with
  | .recheck (some userId) first second =>
      if (visit.1.shared.recheckTooling (some userId) first second).2 = none then some (userId, visit.1.shared.now)
      else none
  | _ => none

/-- The moments of the accepted rechecks of a user. -/
def acceptedMoments (userId : Int) (history : History) : List Int :=
  ((history.filterMap acceptedAt).filter fun accepted => accepted.1 = userId).map Prod.snd

/-- The answer to a recheck, given the moment of the last accepted one. -/
def verdict (now : Int) (last : Option Int) : Option Int :=
  last.bind fun moment =>
    if now - moment < rateLimitSeconds * second then
      some ((rateLimitSeconds * second - (now - moment)) / second + 1)
    else none

/-- The stored limits of a user are those of the last accepted recheck. -/
structure Limits (history : History) (service : HealthService) : Prop where
  core : "ansible" ∈ service.knownTools
  marks : ∀ userId tool moment, service.rateLimits.get? (userId, tool) = some moment →
    tool ∈ service.knownTools ∧ ∃ user, userId = some user ∧ (acceptedMoments user history).getLast? = some moment
  kept : ∀ user moment, (acceptedMoments user history).getLast? = some moment →
    service.rateLimits.get? (some user, "ansible") = some moment

/-- When all answers agree and one is given, it is the first. -/
theorem findSome?_eq_of_agree {Item Answer : Type} {answer : Item → Option Answer} {given : Answer} {items : List Item}
    (agree : ∀ item ∈ items, answer item = none ∨ answer item = some given)
    (one : ∃ item ∈ items, answer item = some given) : items.findSome? answer = some given := by
  cases found : items.findSome? answer with
  | none =>
      obtain ⟨item, member, gives⟩ := one
      rw [List.findSome?_eq_none_iff.mp found item member] at gives
      cases gives
  | some other =>
      obtain ⟨item, member, gives⟩ := List.exists_of_findSome?_eq_some found
      rcases agree item member with nothing | same
      · rw [nothing] at gives
        cases gives
      · rw [← gives, same]

/-- The service refuses a user by the last recheck that it accepted from this user. -/
theorem Limits.rateLimited (limits : Limits history service) (userId : Option Int) :
    service.rateLimited userId =
      userId.bind fun user => verdict service.now (acceptedMoments user history).getLast? := by
  have each (tool : String) : service.checkRateLimit userId tool = verdict service.now
      (service.rateLimits.get? (userId, tool)) := by
    unfold HealthService.checkRateLimit verdict
    cases service.rateLimits.get? (userId, tool) <;> rfl
  have agree (tool : String) : service.checkRateLimit userId tool = none ∨ service.checkRateLimit userId tool =
      userId.bind fun user => verdict service.now (acceptedMoments user history).getLast? := by
    rw [each]
    cases marked : service.rateLimits.get? (userId, tool) with
    | none => exact .inl rfl
    | some moment =>
        obtain ⟨-, user, rfl, last⟩ := limits.marks userId tool moment marked
        rw [Option.bind_some, last]
        exact .inr rfl
  cases limited : userId.bind fun user => verdict service.now (acceptedMoments user history).getLast? with
  | none =>
      apply List.findSome?_eq_none_iff.mpr
      intro tool _
      rcases agree tool with nothing | same
      · exact nothing
      · rw [same, limited]
  | some retryAfter =>
      rw [limited] at agree
      apply findSome?_eq_of_agree fun tool _ => agree tool
      refine ⟨"ansible", limits.core, ?_⟩
      obtain ⟨user, rfl, given⟩ := Option.bind_eq_some_iff.mp limited
      obtain ⟨moment, last, -⟩ := Option.bind_eq_some_iff.mp given
      rw [each, limits.kept user moment last, ← last, given]

/-- The start of the service marks nobody. -/
theorem initTools_rateLimits (service : HealthService) (hook : Hook) :
    (service.initTools hook).rateLimits = service.rateLimits := by
  have one (service : HealthService) (cfg : ToolConfig) : (service.registerTool cfg).rateLimits = service.rateLimits := by
    unfold HealthService.registerTool
    dsimp only
    repeat' split
    all_goals rfl
  have all (configs : List ToolConfig) (service : HealthService) :
      (configs.foldl HealthService.registerTool service).rateLimits = service.rateLimits := by
    induction configs generalizing service with
    | nil => rfl
    | cons cfg rest ih => exact (ih _).trans (one service cfg)
  exact all _ service

/-- The limits do not depend on further tools. -/
theorem Limits.keeps (limits : Limits history service) (same : after.rateLimits = service.rateLimits)
    (grows : ∀ tool ∈ service.knownTools, tool ∈ after.knownTools) : Limits history after := by
  refine ⟨grows _ limits.core, ?_, ?_⟩
  · intro userId tool moment marked
    rw [same] at marked
    obtain ⟨known, rest⟩ := limits.marks userId tool moment marked
    exact ⟨grows tool known, rest⟩
  · rw [same]
    exact limits.kept

/-- The start of the service keeps the marks of the rate limit. -/
theorem Limits.initTools (limits : Limits history service) (hook : Hook) : Limits history (service.initTools hook) :=
  limits.keeps (initTools_rateLimits service hook) (initTools_extends service hook).known

/-- The endpoint and the service agree on the limits. -/
theorem Limits.recheckTooling (limits : Limits history service) (userId : Option Int) (first second : Hook) :
    (service.recheckTooling userId first second).2 =
      userId.bind fun user => verdict service.now (acceptedMoments user history).getLast? := by
  have once := (limits.initTools first).rateLimited userId
  have twice := ((limits.initTools first).initTools second).rateLimited userId
  rw [(initTools_extends _ second).now] at twice
  rw [(initTools_extends service first).now] at once twice
  unfold HealthService.recheckTooling HealthService.forceRecheck
  dsimp only
  rw [once, twice]
  cases userId with
  | none => rfl
  | some user =>
      rw [Option.bind_some]
      cases verdict service.now (acceptedMoments user history).getLast? <;> rfl

/-- A mark is set for the user and for each of the tools. -/
theorem get?_markRateLimit (userId : Option Int) (tools : List String) (service : HealthService)
    (query : Option Int × String) :
    (tools.foldl (HealthService.markRateLimit userId) service).rateLimits.get? query =
      if query.1 = userId ∧ query.2 ∈ tools then some service.now else service.rateLimits.get? query := by
  induction tools generalizing service with
  | nil => simp
  | cons tool rest ih =>
      have now : (HealthService.markRateLimit userId service tool).now = service.now := rfl
      have marked : (HealthService.markRateLimit userId service tool).rateLimits.get? query =
          if query = (userId, tool) then some service.now else service.rateLimits.get? query := by
        rw [HealthService.markRateLimit, OrderedMap.get?_set]
      rw [List.foldl_cons, ih, now, marked]
      by_cases user : query.1 = userId
      · by_cases here : query.2 = tool
        · simp [Prod.ext_iff, user, here]
        · simp [Prod.ext_iff, user, here]
      · simp [Prod.ext_iff, user]

/-- The marks of the rate limit name no new tools. -/
theorem knownTools_markRateLimit (userId : Option Int) (tools : List String) (service : HealthService) :
    (tools.foldl (HealthService.markRateLimit userId) service).knownTools = service.knownTools := by
  induction tools generalizing service with
  | nil => rfl
  | cons tool rest ih => exact ih _

section Accepted
variable {state : ToolingState} {event : ToolingEvent}

/-- A step that accepts no recheck leaves the accepted moments alone. -/
theorem acceptedMoments_quiet (quiet : acceptedAt (state, event) = none) (userId : Int) :
    acceptedMoments userId (history ++ [(state, event)]) = acceptedMoments userId history := by
  rw [acceptedMoments, List.filterMap_append, List.filterMap_cons_none quiet, List.filterMap_nil, List.append_nil]
  rfl

/-- An accepted recheck adds its moment for its own user. -/
theorem acceptedMoments_snoc {accepted : Int × Int} (found : acceptedAt (state, event) = some accepted) (userId : Int) :
    acceptedMoments userId (history ++ [(state, event)]) =
      acceptedMoments userId history ++ if accepted.1 = userId then [accepted.2] else [] := by
  rw [acceptedMoments, List.filterMap_append, List.filterMap_cons_some found, List.filterMap_nil, List.filter_append,
    List.map_append]
  by_cases same : accepted.1 = userId
  · simp [acceptedMoments, same]
  · simp [acceptedMoments, same]

/-- A step without an accepted recheck keeps the marks in line with the history. -/
theorem Limits.quiet (limits : Limits history state.shared) (quiet : acceptedAt (state, event) = none)
    (same : after.rateLimits = state.shared.rateLimits)
    (grows : ∀ tool ∈ state.shared.knownTools, tool ∈ after.knownTools) :
    Limits (history ++ [(state, event)]) after := by
  obtain ⟨core, marks, kept⟩ := limits.keeps same grows
  refine ⟨core, ?_, ?_⟩
  · intro userId tool moment marked
    obtain ⟨known, user, rfl, last⟩ := marks userId tool moment marked
    refine ⟨known, user, rfl, ?_⟩
    rw [acceptedMoments_quiet quiet, last]
  · intro user moment last
    rw [acceptedMoments_quiet quiet] at last
    exact kept user moment last

/-- An accepted recheck sets the limits of all known tools to its moment. -/
theorem Limits.accept {user : Int} (limits : Limits history service)
    (accepted : acceptedAt (state, event) = some (user, service.now)) :
    Limits (history ++ [(state, event)]) (service.knownTools.foldl (HealthService.markRateLimit (some user)) service) := by
  refine ⟨?_, ?_, ?_⟩
  · rw [knownTools_markRateLimit]
    exact limits.core
  · intro userId tool moment marked
    rw [knownTools_markRateLimit]
    rw [get?_markRateLimit] at marked
    by_cases same : userId = some user ∧ tool ∈ service.knownTools
    · rw [if_pos same] at marked
      refine ⟨same.2, user, same.1, ?_⟩
      rw [acceptedMoments_snoc accepted, if_pos rfl, List.getLast?_concat]
      exact marked
    · rw [if_neg same] at marked
      obtain ⟨known, other, rfl, last⟩ := limits.marks userId tool moment marked
      refine ⟨known, other, rfl, ?_⟩
      have different : ¬ user = other := fun equal => same ⟨by rw [equal], known⟩
      rw [acceptedMoments_snoc accepted, if_neg different, List.append_nil, last]
  · intro other moment last
    rw [acceptedMoments_snoc accepted] at last
    rw [get?_markRateLimit]
    by_cases same : user = other
    · rw [if_pos same, List.getLast?_concat] at last
      rw [if_pos ⟨by rw [same], limits.core⟩, last]
    · rw [if_neg same, List.append_nil] at last
      have different : ¬ (some other = some user ∧ "ansible" ∈ service.knownTools) :=
        fun both => same (Option.some.inj both.1).symm
      rw [if_neg different, limits.kept other moment last]

/-- The endpoint of the recheck keeps the marks in line with the history. -/
theorem Limits.recheck (limits : Limits history state.shared) (userId : Option Int) (first second : Hook) :
    Limits (history ++ [(state, .recheck userId first second)])
      (state.shared.recheckTooling userId first second).1 := by
  have registered := limits.initTools first
  have again := registered.initTools second
  have given := limits.recheckTooling userId first second
  have grows := (recheckTooling_extends state.shared userId first second).known
  have once := registered.rateLimited userId
  have twice := again.rateLimited userId
  rw [(initTools_extends _ second).now] at twice
  rw [(initTools_extends state.shared first).now] at once twice
  cases userId with
  | none =>
      apply limits.quiet rfl _ grows
      unfold HealthService.recheckTooling HealthService.forceRecheck
      dsimp only
      rw [once]
      exact (initTools_rateLimits _ second).trans (initTools_rateLimits _ first)
  | some user =>
      rw [Option.bind_some] at once twice given
      cases answer : verdict state.shared.now (acceptedMoments user history).getLast? with
      | some retryAfter =>
          apply limits.quiet _ _ grows
          · simp only [acceptedAt, given, answer, reduceCtorEq, if_false]
          · unfold HealthService.recheckTooling
            dsimp only
            rw [once, answer]
            exact initTools_rateLimits _ first
      | none =>
          have turned : (state.shared.recheckTooling (some user) first second).1 =
              (((state.shared.initTools first).initTools second).knownTools.foldl
                (HealthService.markRateLimit (some user)) ((state.shared.initTools first).initTools second)) := by
            unfold HealthService.recheckTooling HealthService.forceRecheck
            dsimp only
            rw [once, twice, answer]
          rw [turned]
          apply again.accept
          rw [(initTools_extends _ second).now, (initTools_extends _ first).now]
          simp only [acceptedAt, given, answer, if_true]

/-- What a turn of a task leaves as it is. -/
structure SameLimits (service after : HealthService) : Prop where
  rateLimits : after.rateLimits = service.rateLimits
  known : after.knownTools = service.knownTools
  now : after.now = service.now

/-- A service has the limits of itself. -/
theorem SameLimits.refl (service : HealthService) : SameLimits service service := ⟨rfl, rfl, rfl⟩

/-- A result changes no mark of the rate limit. -/
theorem applyStatus_limits (service : HealthService) (check : Check) (result : CheckResult) :
    SameLimits service (service.applyStatus check result).1 := by
  unfold HealthService.applyStatus
  dsimp only
  split <;> exact ⟨rfl, rfl, rfl⟩

/-- The start of a check changes no mark of the rate limit. -/
theorem checkOne_limits (service : HealthService) (check : Check) : SameLimits service (service.checkOne check).1 := by
  rcases checkOne_cases service check with same | ⟨phase, -, -, turned⟩ | ⟨phase, -, -, -, -, turned⟩
  · rw [same]
    exact SameLimits.refl service
  · rw [turned]
    exact SameLimits.refl service
  · rw [turned]
    exact ⟨rfl, rfl, rfl⟩

/-- The answer of a tool changes no mark of the rate limit. -/
theorem receive_limits (answer : Answer) (service : HealthService) (check : Check) :
    SameLimits service (service.receive decimal answer check).1 := by
  unfold HealthService.receive
  split
  · exact SameLimits.refl service
  · exact applyStatus_limits service check _
  · exact ⟨rfl, rfl, rfl⟩
  · exact SameLimits.refl service

/-- The end of a write changes no mark of the rate limit. -/
theorem written_limits (stored : Bool) (service : HealthService) (check : Check) :
    SameLimits service (service.written stored check).1 := by
  unfold HealthService.written
  split
  · exact ⟨rfl, rfl, rfl⟩
  · exact SameLimits.refl service

/-- A turn of a check changes no mark when its own step changes none. -/
theorem act_limits {next : HealthService → Check → HealthService × Check}
    (same : ∀ service check, SameLimits service (next service check).1) (state : ToolingState) (index : Nat) :
    SameLimits state.shared (state.act next index).shared := by
  cases present : state.processes[index]? with
  | none =>
      rw [Interleaved.act_absent present]
      exact SameLimits.refl _
  | some check =>
      rw [Interleaved.act_shared present]
      exact same _ check

/-- A step that leaves the marks alone keeps them in line with the history. -/
theorem Limits.same (limits : Limits history state.shared) (quiet : acceptedAt (state, event) = none)
    (same : SameLimits state.shared after) : Limits (history ++ [(state, event)]) after := by
  apply limits.quiet quiet same.rateLimits
  rw [same.known]
  exact fun _ known => known

/-- Every step keeps the marks in line with the history. -/
theorem Limits.step (limits : Limits history state.shared) (event : ToolingEvent) :
    Limits (history ++ [(state, event)]) (toolingStep decimal state event).shared := by
  cases event with
  | status hook => exact limits.quiet rfl (initTools_rateLimits _ hook) (initTools_extends _ hook).known
  | checkAll hook => exact limits.quiet rfl (initTools_rateLimits _ hook) (initTools_extends _ hook).known
  | recheck userId first second =>
      have checked := limits.recheck userId first second
      rw [toolingStep]
      split
      · rename_i service retryAfter answer
        rw [answer] at checked
        exact checked
      · rename_i service answer
        rw [answer] at checked
        exact checked
  | resume index => exact limits.same rfl (act_limits checkOne_limits state index)
  | deliver index answer => exact limits.same rfl (act_limits (receive_limits answer) state index)
  | written index stored => exact limits.same rfl (act_limits (written_limits stored) state index)
  | elapse microseconds => exact limits.quiet rfl rfl fun _ known => known

/-- Time does not run back. -/
theorem now_le_step (state : ToolingState) (event : ToolingEvent) :
    state.shared.now ≤ (toolingStep decimal state event).shared.now := by
  cases event with
  | status hook => exact le_of_eq (initTools_extends _ hook).now.symm
  | checkAll hook => exact le_of_eq (initTools_extends _ hook).now.symm
  | recheck userId first second =>
      have same := (recheckTooling_extends state.shared userId first second).now
      rw [toolingStep]
      split
      · rename_i service retryAfter answer
        rw [answer] at same
        exact le_of_eq same.symm
      · rename_i service answer
        rw [answer] at same
        exact le_of_eq same.symm
  | resume index => exact le_of_eq (act_limits checkOne_limits state index).now.symm
  | deliver index answer => exact le_of_eq (act_limits (receive_limits answer) state index).now.symm
  | written index stored => exact le_of_eq (act_limits (written_limits stored) state index).now.symm
  | elapse microseconds =>
      show state.shared.now ≤ state.shared.now + microseconds
      omega

end Accepted

section Spacing
variable {state : ToolingState}

/-- The accepted rechecks of each user keep their distance, and none is in the future. -/
structure Spaced (history : History) (now : Int) : Prop where
  past : ∀ user, ∀ moment ∈ acceptedMoments user history, moment ≤ now
  apart : ∀ user, (acceptedMoments user history).Pairwise fun earlier later =>
    earlier + rateLimitSeconds * second ≤ later

/-- A recheck that the last one lets through is far from all earlier ones. -/
theorem far_of_verdict {moments : List Int} {now : Int}
    (apart : moments.Pairwise fun earlier later => earlier + rateLimitSeconds * second ≤ later)
    (passes : verdict now moments.getLast? = none) {moment : Int} (member : moment ∈ moments) :
    moment + rateLimitSeconds * second ≤ now := by
  obtain ⟨front, last, rfl⟩ : ∃ front last, moments = front ++ [last] := by
    rcases List.eq_nil_or_concat moments with rfl | whole
    · cases member
    · simpa using whole
  rw [List.getLast?_concat, verdict, Option.bind_some] at passes
  have late : ¬ now - last < rateLimitSeconds * second := by
    intro early
    rw [if_pos early] at passes
    cases passes
  rcases List.mem_append.mp member with earlier | same
  · have before := (List.pairwise_append.mp apart).2.2 moment earlier last List.mem_cons_self
    have positive : (0 : Int) ≤ rateLimitSeconds * second := by decide
    omega
  · rw [List.mem_singleton.mp same]
    omega

/-- Every step keeps the accepted rechecks of a user apart. -/
theorem Spaced.step (spaced : Spaced history state.shared.now) (limits : Limits history state.shared)
    (event : ToolingEvent) : Spaced (history ++ [(state, event)]) (toolingStep decimal state event).shared.now := by
  have later : state.shared.now ≤ (toolingStep decimal state event).shared.now := now_le_step state event
  cases found : acceptedAt (state, event) with
  | none =>
      refine ⟨?_, ?_⟩
      · intro user moment member
        rw [acceptedMoments_quiet found] at member
        exact (spaced.past user moment member).trans later
      · intro user
        rw [acceptedMoments_quiet found]
        exact spaced.apart user
  | some accepted =>
      obtain ⟨first, second, rfl, passes, moment⟩ : ∃ first second, event = .recheck (some accepted.1) first second ∧
          (state.shared.recheckTooling (some accepted.1) first second).2 = none ∧ accepted.2 = state.shared.now := by
        unfold acceptedAt at found
        split at found
        · rename_i userId first second same
          split at found
          · rename_i passes
            rw [← Option.some.inj found]
            exact ⟨first, second, same, passes, rfl⟩
          · cases found
        · cases found
      rw [limits.recheckTooling, Option.bind_some] at passes
      refine ⟨?_, ?_⟩
      · intro user earlier member
        rw [acceptedMoments_snoc found] at member
        rcases List.mem_append.mp member with old | new
        · exact (spaced.past user earlier old).trans later
        · split at new
          · rw [List.mem_singleton.mp new, moment]
            exact later
          · cases new
      · intro user
        rw [acceptedMoments_snoc found]
        by_cases same : accepted.1 = user
        · rw [if_pos same, List.pairwise_append]
          refine ⟨spaced.apart user, List.pairwise_singleton _ _, ?_⟩
          intro earlier old last only
          rw [List.mem_singleton.mp only, moment]
          rw [same] at passes
          exact far_of_verdict (spaced.apart user) passes old
        · rw [if_neg same, List.append_nil]
          exact spaced.apart user

/-- Who waits as long as told is not refused again for the same recheck. -/
theorem verdict_retry {now moment retryAfter : Int} (past : moment ≤ now)
    (refused : verdict now (some moment) = some retryAfter) :
    1 ≤ retryAfter ∧ retryAfter ≤ 31 ∧
      ∀ later, now + retryAfter * second ≤ later → verdict later (some moment) = none := by
  unfold verdict rateLimitSeconds second at *
  rw [Option.bind_some] at refused
  split at refused
  · rename_i early
    have given := Option.some.inj refused
    refine ⟨by omega, by omega, ?_⟩
    intro later waited
    rw [Option.bind_some, if_neg]
    omega
  · cases refused

end Spacing

/-- What the limits of the rechecks come to after a history. -/
structure RateLimited (history : History) (service : HealthService) : Prop where
  /-- A recheck is refused exactly within thirty seconds after the last accepted one of its user. -/
  verdicts : ∀ userId first second, (service.recheckTooling userId first second).2 =
    userId.bind fun user => verdict service.now (acceptedMoments user history).getLast?
  apart : ∀ user, (acceptedMoments user history).Pairwise fun earlier later =>
    earlier + rateLimitSeconds * second ≤ later
  /-- A refused user who waits as long as told is accepted. -/
  retry : ∀ user retryAfter, verdict service.now (acceptedMoments user history).getLast? = some retryAfter →
    1 ≤ retryAfter ∧ retryAfter ≤ 31 ∧
      ∀ later, service.now + retryAfter * second ≤ later → verdict later (acceptedMoments user history).getLast? = none

/-- In every run the rechecks are limited by the accepted ones of the same user only, whatever tools join. -/
theorem recheck_rateLimited (events : List ToolingEvent) :
    RateLimited (visits (toolingStep decimal) .initial events)
      (run (toolingStep decimal) .initial events).shared := by
  have kept : ∀ past state (event : ToolingEvent), Limits past state.shared ∧ Spaced past state.shared.now → True →
      Limits (past ++ [(state, event)]) (toolingStep decimal state event).shared ∧
        Spaced (past ++ [(state, event)]) (toolingStep decimal state event).shared.now := by
    intro past state event both _
    exact ⟨both.1.step event, both.2.step both.1 event⟩
  have start : Limits [] ToolingState.initial.shared ∧ Spaced [] ToolingState.initial.shared.now := by
    refine ⟨⟨List.mem_cons_self, ?_, ?_⟩, ?_, fun user => List.Pairwise.nil⟩
    · intro userId tool moment marked
      cases marked
    · intro user moment last
      cases last
    · intro user moment member
      cases member
  obtain ⟨limits, spaced⟩ := run_history (toolingStep decimal) kept events start fun _ _ => trivial
  refine ⟨limits.recheckTooling, spaced.apart, ?_⟩
  intro user retryAfter refused
  obtain ⟨moment, last, -⟩ := Option.bind_eq_some_iff.mp refused
  have past := spaced.past user moment (List.mem_of_getLast? last)
  rw [List.nil_append] at *
  rw [last] at refused ⊢
  exact verdict_retry past refused

end Limits

end P3Portal.Tooling
