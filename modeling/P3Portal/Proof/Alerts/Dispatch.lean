import Mathlib.Data.List.Perm.Basic
import P3Portal.Construction.Alerts.Dispatch
import P3Portal.Foundation.KeyedRows
import P3Portal.Proof.Alerts.Edits
import P3Portal.Proof.Alerts.Layers
import P3Portal.Proof.Alerts.Checks

namespace P3Portal.Alerts
open Foundation

/-- The event without its rule, which it loses when the rule is deleted. -/
def AlertEvent.content {F : Type} (event : AlertEvent F) : AlertEvent F := { event with ruleId := none }

section Edits
variable {F : Type} [PythonFloat F] {db after : AlertDb F} {isPlus : Bool}

/-- The change keeps the ids of the rules apart and the contents of the events. -/
structure Orderly (db after : AlertDb F) : Prop where
  keyed : (db.rules.map AlertRule.id).Nodup → (after.rules.map AlertRule.id).Nodup
  contents : after.events.map AlertEvent.content = db.events.map AlertEvent.content

omit [PythonFloat F] in
theorem orderly_refl (db : AlertDb F) : Orderly db db := ⟨id, rfl⟩

omit [PythonFloat F] in
theorem Orderly.trans {later : AlertDb F} (first : Orderly db after) (second : Orderly after later) :
    Orderly db later :=
  ⟨second.keyed ∘ first.keyed, second.contents.trans first.contents⟩

omit [PythonFloat F] in
/-- Changes of this kind may follow one another. -/
theorem orderly_foldl {Item : Type} {change : AlertDb F → Item → AlertDb F}
    (each : ∀ db item, Orderly db (change db item)) (items : List Item) (db : AlertDb F) :
    Orderly db (items.foldl change db) := by
  induction items generalizing db with
  | nil => exact orderly_refl db
  | cons item rest ih => exact (each db item).trans (ih (change db item))

/-- A new rule takes an unused id. -/
theorem orderly_createRule (place : RulePlace) (body : AlertRuleBase F) (createdBy now : String) :
    Orderly db (createRule db place body createdBy now) :=
  ⟨fun keyed => nodup_append_key keyed (next_key_unused _), rfl⟩

omit [PythonFloat F] in
/-- Rows that keep their ids stay apart. -/
theorem orderly_map {change : AlertRule String → AlertRule String} (kept : ∀ row, (change row).id = row.id) :
    Orderly db { db with rules := db.rules.map change } := by
  refine ⟨?_, rfl⟩
  intro keyed
  show ((db.rules.map change).map AlertRule.id).Nodup
  have same : AlertRule.id ∘ change = AlertRule.id := funext kept
  rw [List.map_map, same]
  exact keyed

omit [PythonFloat F] in
theorem orderly_setToken (ruleId : Int) (token : EncryptedToken) : Orderly db (setToken db ruleId token) := by
  apply orderly_map
  intro row
  split
  · rfl
  · rfl

theorem orderly_recreateRule (tokens : String → AlertMetric → Option EncryptedToken) (presetId : Int)
    (updatedBy now : String) (db : AlertDb F) (body : AlertRuleBase F) :
    Orderly db (recreateRule tokens presetId updatedBy now db body) := by
  have created : Orderly db (createRule db (.preset presetId) body updatedBy now) := orderly_createRule _ _ _ _
  rcases recreateRule_cases tokens presetId updatedBy now db body with plain | ⟨token, -, -, attached⟩
  · rw [plain]
    exact created
  · rw [attached]
    exact created.trans (orderly_setToken _ token)

theorem orderly_updateRule {ruleId : Int} {updates : GlobalRuleUpdateRequest F} {now : String}
    (updated : updateRule db ruleId updates now = some after) : Orderly db after := by
  obtain ⟨row, _, _, named, patched, changed, rfl⟩ := updateRule_eq updated
  obtain ⟨name, metric, sustainedPolls, _, _, _, rfl⟩ := patchRow_eq changed
  apply orderly_map
  intro other
  split
  · rename_i same
    exact named.trans same.symm
  · rfl

omit [PythonFloat F] in
/-- The events of a deleted rule only lose their reference. -/
theorem orderly_deleteRules (gone : AlertRule String → Bool) : Orderly db (deleteRules db gone) := by
  constructor
  · intro keyed
    exact (List.filter_sublist.map AlertRule.id).nodup keyed
  · unfold deleteRules
    rw [List.map_map]
    rfl

theorem orderly_edited {edit : AlertEdit F} (edited : Edited db edit after) : Orderly db after := by
  cases edited with
  | createdGlobal | createdVm => exact orderly_createRule _ _ _ _
  | updatedGlobal _ updated | updatedVm _ _ updated => exact orderly_updateRule updated
  | deletedGlobal | deletedVm => exact orderly_deleteRules _
  | presetDeleted presetId =>
      have deleted : Orderly db (deleteRules db fun row => row.presetId = some presetId) := orderly_deleteRules _
      exact ⟨deleted.keyed, deleted.contents⟩
  | presetCreated sent presets presetId rules createdBy now =>
      have listed : Orderly db { db with presets := presets } := ⟨id, rfl⟩
      exact listed.trans (orderly_foldl (fun db body => orderly_createRule _ body _ _) _ _)
  | presetReplaced presetId name rules updatedBy now presets =>
      have listed : Orderly db { db with presets := presets } := ⟨id, rfl⟩
      exact (listed.trans (orderly_deleteRules _)).trans (orderly_foldl (orderly_recreateRule _ _ _ _) _ _)
  | presetRenamed | unassigned => exact ⟨id, rfl⟩
  | assigned made =>
      rw [← Option.some.inj (Option.ite_none_left_eq_some.mp made).2]
      exact ⟨id, rfl⟩
  | overrides stored =>
      rw [← Option.some.inj (Option.ite_none_right_eq_some.mp stored).2]
      exact ⟨id, rfl⟩

theorem orderly_applyEdit (edit : AlertEdit F) : Orderly db (applyEdit isPlus db edit) := by
  rcases applyEdit_cases db isPlus edit with unchanged | edited
  · rw [unchanged]
    exact orderly_refl db
  · exact orderly_edited edited

end Edits

section Rules
variable {F : Type} [PythonFloat F] {db : AlertDb F} {isPlus : Bool}

/-- The rule has the webhook of the row, but not its switch for TLS. -/
structure ReadFrom (rule : EffectiveRule F) (row : AlertRule String) : Prop where
  webhookUrl : rule.webhookUrl = row.webhookUrl
  webhookReceiverType : rule.webhookReceiverType = row.webhookReceiverType
  webhookVerifySsl : rule.webhookVerifySsl = none

/-- An effective rule is read from the row with its id, also under an override. -/
theorem readFrom_effective (keyed : (db.rules.map AlertRule.id).Nodup) {vm : VmKey} {rule : EffectiveRule F}
    (effective : rule ∈ getEffectiveRules db isPlus vm) :
    ∃ row, db.rules.find? (fun row => row.id = rule.id) = some row ∧ ReadFrom rule row := by
  obtain ⟨row, stored, _, same | ⟨_, override, _, _, same⟩⟩ := getEffectiveRules_stored rule effective
  · refine ⟨row, ?_, ?_⟩
    · rw [same]
      exact find?_key keyed stored
    · constructor <;> rw [same] <;> rfl
  · refine ⟨row, ?_, ?_⟩
    · rw [same]
      exact find?_key keyed stored
    · constructor <;> rw [same] <;> rfl

end Rules

section Tasks
variable {F : Type} [PythonFloat F] {db : AlertDb F} {lower : String → String} {isPlus : Bool}

omit [PythonFloat F] in
/-- The state machine records an event exactly when it starts a task for it. -/
theorem tasks_cases (call : Call F) (isPlus : Bool) (db : AlertDb F) :
    (call.tasks isPlus db = [] ∧ (processSeverity db call.check).events = db.events) ∨
      ∃ eventState, call.tasks isPlus db = [call.task isPlus db eventState] ∧
        (processSeverity db call.check).events = (recordEvent db call.check eventState).events := by
  unfold Call.tasks processSeverity
  dsimp only
  cases breached : call.check.breached with
  | true =>
      by_cases quiet : (getState db call.check.key).state = .ok ∨ (getState db call.check.key).state = .pending
      · by_cases sustained : call.check.sustained ≤ (getState db call.check.key).pendingCount + 1
        · exact .inr ⟨.firing, by simp [quiet, sustained], by simp [quiet, sustained, recordEvent, upsertState]⟩
        · exact .inl ⟨by simp [sustained], by simp [quiet, sustained, upsertState]⟩
      · exact .inl ⟨by simp [quiet], by simp [quiet, upsertState]⟩
  | false =>
      by_cases raised : (getState db call.check.key).state = call.check.key.severity.target
      · cases recovers : call.check.notifyRecovery with
        | true => exact .inr ⟨.resolved, by simp [raised], by simp [raised, recordEvent, upsertState]⟩
        | false => exact .inl ⟨by simp, by simp [raised, upsertState]⟩
      · refine .inl ⟨by simp [raised], ?_⟩
        simp only [raised, decide_false, Bool.false_and, Bool.false_eq_true, if_false]
        repeat' split
        all_goals rfl

/-- The calls are those of the state machine, each with the rule that it was made for. -/
theorem vmCalls_checks (nodeId : Int) (vmData : VmData F) :
    (vmCalls lower isPlus db nodeId vmData).map Call.check = vmChecks lower isPlus db nodeId vmData := by
  unfold vmCalls vmChecks
  cases identified : vmData.vmid with
  | none => rfl
  | some vmid =>
      cases template : vmData.template with
      | true => rfl
      | false =>
          simp only [Bool.false_eq_true, if_false]
          rw [List.map_flatMap]
          apply List.flatMap_congr
          intro rule _
          rw [List.map_map]
          exact List.map_id _

theorem readFrom_vmCalls (keyed : (db.rules.map AlertRule.id).Nodup) {nodeId : Int} {vmData : VmData F} {call : Call F}
    (called : call ∈ vmCalls lower isPlus db nodeId vmData) :
    ∃ row, call.stored = some row ∧ ReadFrom call.rule row := by
  unfold vmCalls at called
  split at called
  · cases called
  · split at called
    · cases called
    · obtain ⟨rule, effective, made⟩ := List.mem_flatMap.mp called
      obtain ⟨check, _, rfl⟩ := List.mem_map.mp made
      exact readFrom_effective keyed (List.mem_filter.mp effective).1

end Tasks

section Histories
variable {F : Type} [PythonFloat F] {lower : String → String} {state : Dispatching F}

/-- All tasks that were started, the waiting ones first. -/
def Dispatching.started (state : Dispatching F) : List (Task F) := state.tasks ++ state.sent.map Sending.task

/-- The task carries the values of the event. -/
structure Task.Tells (task : Task F) (event : AlertEvent F) : Prop where
  value : task.value = event.value
  threshold : task.threshold = event.threshold
  severity : task.severity = event.severity
  eventState : task.eventState = event.state

/-- The number of the task is the number of an event with its values. -/
def Told (db : AlertDb F) (task : Task F) : Prop :=
  ∃ index event, task.eventId = index + 1 ∧ db.events[index]? = some event ∧ task.Tells event

omit [PythonFloat F] in
/-- Later events and lost references leave the told ones as they were. -/
theorem told_of_prefix {db after : AlertDb F}
    (longer : db.events.map AlertEvent.content <+: after.events.map AlertEvent.content) {task : Task F}
    (told : Told db task) : Told after task := by
  obtain ⟨index, event, number, listed, tells⟩ := told
  have before : (db.events.map AlertEvent.content)[index]? = some event.content := by
    rw [List.getElem?_map, listed]
    rfl
  obtain ⟨more, longer⟩ := longer
  have kept : (after.events.map AlertEvent.content)[index]? = some event.content := by
    rw [← longer, List.getElem?_append_left (List.getElem?_eq_some_iff.mp before).1]
    exact before
  rw [List.getElem?_map] at kept
  obtain ⟨later, present, same⟩ := Option.map_eq_some_iff.mp kept
  refine ⟨index, later, number, present, ?_⟩
  constructor
  · exact tells.value.trans (congrArg AlertEvent.value same).symm
  · exact tells.threshold.trans (congrArg AlertEvent.threshold same).symm
  · exact tells.severity.trans (congrArg AlertEvent.severity same).symm
  · exact tells.eventState.trans (congrArg AlertEvent.state same).symm

omit [PythonFloat F] in
/-- The task of a recorded event carries its number and its values. -/
theorem told_new {db : AlertDb F} {call : Call F} {isPlus : Bool} {eventState : AlertEventState}
    (recorded : (processSeverity db call.check).events = (recordEvent db call.check eventState).events) :
    Told (processSeverity db call.check) (call.task isPlus db eventState) := by
  obtain ⟨event, appended, tells⟩ : ∃ event, (recordEvent db call.check eventState).events = db.events ++ [event] ∧
      (call.task isPlus db eventState).Tells event := ⟨_, rfl, rfl, rfl, rfl, rfl⟩
  refine ⟨db.events.length, event, rfl, ?_, tells⟩
  rw [recorded, appended]
  exact List.getElem?_concat_length

/-- Every event has one task with its values, and every rule in use was read from its row. -/
structure Numbered (state : Dispatching F) : Prop where
  keyed : (state.db.rules.map AlertRule.id).Nodup
  calls : ∀ poll ∈ state.polls, ∀ call ∈ poll.calls, ∃ row, call.stored = some row ∧ ReadFrom call.rule row
  rules : ∀ task ∈ state.started, ∃ row, task.stored = some row ∧ ReadFrom task.rule row
  told : ∀ task ∈ state.started, Told state.db task
  numbers : (state.started.map fun task => task.eventId).Perm (List.range' 1 state.db.events.length)
  sent : ∀ sending ∈ state.sent, ∃ timestamp, sending.request =
    if sending.task.isPlus then sending.task.sendWebhook sending.found timestamp else none

omit [PythonFloat F] in
/-- The portal starts without tasks. -/
theorem numbered_start : Numbered ({} : Dispatching F) := by
  constructor
  · exact List.nodup_nil
  · intro poll absent
    cases absent
  · intro task absent
    cases absent
  · intro task absent
    cases absent
  · exact .nil
  · intro sending absent
    cases absent

omit [PythonFloat F] in
/-- A change of the database that is orderly leaves everything numbered. -/
theorem numbered_edit (numbered : Numbered state) {after : AlertDb F} (orderly : Orderly state.db after) :
    Numbered { state with db := after } := by
  have count : after.events.length = state.db.events.length := by
    have lengths := congrArg List.length orderly.contents
    rw [List.length_map, List.length_map] at lengths
    exact lengths
  refine ⟨orderly.keyed numbered.keyed, numbered.calls, numbered.rules, ?_, ?_, numbered.sent⟩
  · intro task begun
    apply told_of_prefix _ (numbered.told task begun)
    rw [orderly.contents]
  · show List.Perm _ (List.range' 1 after.events.length)
    rw [count]
    exact numbered.numbers

omit [PythonFloat F] in
/-- Other polls whose rules were read from their rows leave everything numbered. -/
theorem numbered_polls (numbered : Numbered state) {polls : List (RulePoll F)}
    (calls : ∀ poll ∈ polls, ∀ call ∈ poll.calls, ∃ row, call.stored = some row ∧ ReadFrom call.rule row) :
    Numbered { state with polls := polls } :=
  ⟨numbered.keyed, calls, numbered.rules, numbered.told, numbered.numbers, numbered.sent⟩

omit [PythonFloat F] in
/-- A replaced poll has the calls that it is given. -/
theorem calls_set {polls : List (RulePoll F)} {index : Nat} {replaced : RulePoll F} {fine : Call F → Prop}
    (before : ∀ poll ∈ polls, ∀ call ∈ poll.calls, fine call) (new : ∀ call ∈ replaced.calls, fine call) :
    ∀ poll ∈ polls.set index replaced, ∀ call ∈ poll.calls, fine call := by
  intro poll member
  rcases List.mem_or_eq_of_mem_set member with old | same
  · exact before poll old
  · rw [same]
    exact new

omit [PythonFloat F] in
/-- A call adds an event and a task with its number, or neither. -/
theorem numbered_call (numbered : Numbered state) {index : Nat} {poll : RulePoll F} {call : Call F}
    {rest : List (Call F)} (waiting : state.polls[index]? = some poll) (first : poll.calls = call :: rest) :
    Numbered { state with
      db := processSeverity state.db call.check
      polls := state.polls.set index { poll with calls := rest }
      tasks := state.tasks ++ call.tasks poll.isPlus state.db } := by
  have begun : call ∈ poll.calls := by
    rw [first]
    exact List.mem_cons_self
  have origin := numbered.calls poll (List.mem_of_getElem? waiting) call begun
  have calls : ∀ other ∈ state.polls.set index { poll with calls := rest }, ∀ call ∈ other.calls,
      ∃ row, call.stored = some row ∧ ReadFrom call.rule row := by
    apply calls_set numbered.calls
    intro later member
    apply numbered.calls poll (List.mem_of_getElem? waiting)
    rw [first]
    exact List.mem_cons_of_mem _ member
  have keyed : ((processSeverity state.db call.check).rules.map AlertRule.id).Nodup := by
    rw [(tables_processSeverity state.db call.check).1]
    exact numbered.keyed
  rcases tasks_cases call poll.isPlus state.db with ⟨none, silent⟩ | ⟨eventState, one, recorded⟩
  · rw [none, List.append_nil]
    have told : ∀ task ∈ state.started, Told (processSeverity state.db call.check) task := by
      intro task member
      apply told_of_prefix _ (numbered.told task member)
      rw [silent]
    refine ⟨keyed, calls, numbered.rules, told, ?_, numbered.sent⟩
    show List.Perm _ (List.range' 1 (processSeverity state.db call.check).events.length)
    rw [silent]
    exact numbered.numbers
  · rw [one]
    have appended : Dispatching.started { state with
        db := processSeverity state.db call.check
        polls := state.polls.set index { poll with calls := rest }
        tasks := state.tasks ++ [call.task poll.isPlus state.db eventState] } =
          state.tasks ++ call.task poll.isPlus state.db eventState :: state.sent.map Sending.task := by
      show (state.tasks ++ [_]) ++ _ = _
      rw [List.append_assoc]
      rfl
    have split (task : Task F) (member : task ∈ state.tasks ++
        call.task poll.isPlus state.db eventState :: state.sent.map Sending.task) :
          task = call.task poll.isPlus state.db eventState ∨ task ∈ state.started :=
      List.mem_cons.mp (List.perm_middle.mem_iff.mp member)
    refine ⟨keyed, calls, ?_, ?_, ?_, numbered.sent⟩
    · rw [appended]
      intro task member
      rcases split task member with new | old
      · rw [new]
        exact origin
      · exact numbered.rules task old
    · rw [appended]
      intro task member
      rcases split task member with new | old
      · rw [new]
        exact told_new recorded
      · apply told_of_prefix _ (numbered.told task old)
        show _ <+: (processSeverity state.db call.check).events.map AlertEvent.content
        rw [recorded]
        exact (List.prefix_append _ _).map AlertEvent.content
    · rw [appended]
      have more : (processSeverity state.db call.check).events.length = state.db.events.length + 1 := by
        rw [recorded]
        exact List.length_append
      show List.Perm _ (List.range' 1 (processSeverity state.db call.check).events.length)
      rw [more, List.range'_1_concat]
      have moved : List.Perm ((state.tasks ++ call.task poll.isPlus state.db eventState ::
          state.sent.map Sending.task).map fun task => task.eventId)
            ((call.task poll.isPlus state.db eventState :: state.started).map fun task => task.eventId) :=
        List.perm_middle.map _
      apply moved.trans
      have last : 1 + state.db.events.length = state.db.events.length + 1 := Nat.add_comm _ _
      rw [last]
      exact (numbered.numbers.cons _).trans (List.perm_append_singleton _ _).symm

omit [PythonFloat F] in
/-- A task that runs is started as before. -/
theorem numbered_dispatch (numbered : Numbered state) {index : Nat} {task : Task F}
    (waiting : state.tasks[index]? = some task) (timestamp : UtcTime) :
    Numbered { state with
      tasks := state.tasks.eraseIdx index
      sent := state.sent ++ [⟨task, getRawWebhookToken state.db task.rule.id,
        dispatch state.db timestamp task.toDispatch⟩] } := by
  have picked : (task :: state.tasks.eraseIdx index).Perm state.tasks := by
    obtain ⟨inside, rfl⟩ := List.getElem?_eq_some_iff.mp waiting
    exact List.getElem_cons_eraseIdx_perm inside
  have same : (Dispatching.started { state with
      tasks := state.tasks.eraseIdx index
      sent := state.sent ++ [⟨task, getRawWebhookToken state.db task.rule.id,
        dispatch state.db timestamp task.toDispatch⟩] }).Perm state.started := by
    show (state.tasks.eraseIdx index ++ (state.sent ++ [_]).map Sending.task).Perm _
    rw [List.map_append, ← List.append_assoc]
    apply (List.perm_append_singleton task _).trans
    exact picked.append_right (state.sent.map Sending.task)
  refine ⟨numbered.keyed, numbered.calls, ?_, ?_, (same.map fun task => task.eventId).trans numbered.numbers, ?_⟩
  · intro other member
    exact numbered.rules other (same.mem_iff.mp member)
  · intro other member
    exact numbered.told other (same.mem_iff.mp member)
  · intro sending member
    rcases List.mem_append.mp member with old | new
    · exact numbered.sent sending old
    · rw [List.mem_singleton.mp new]
      exact ⟨timestamp, rfl⟩

/-- One step leaves everything numbered. -/
theorem numbered_step (state : Dispatching F) (step : DispatchStep F) (numbered : Numbered state) :
    Numbered (dispatchStep lower state step) := by
  cases step with
  | edit isPlus edit => exact numbered_edit numbered (orderly_applyEdit edit)
  | start isPlus nodeId vmsData =>
      apply numbered_polls numbered
      intro poll member
      rcases List.mem_append.mp member with old | new
      · exact numbered.calls poll old
      · rw [List.mem_singleton.mp new]
        intro call absent
        cases absent
  | nextVm index =>
      unfold dispatchStep
      dsimp only
      split
      · apply numbered_polls numbered
        apply calls_set numbered.calls
        intro call called
        exact readFrom_vmCalls numbered.keyed called
      · exact numbered
  | nextCall index =>
      unfold dispatchStep
      dsimp only
      split
      · rename_i isPlus vms call rest waiting
        split
        · exact numbered_call numbered waiting rfl
        · apply numbered_polls numbered
          apply calls_set numbered.calls
          intro later member
          apply numbered.calls _ (List.mem_of_getElem? waiting)
          exact List.mem_cons_of_mem _ ((List.dropWhile_sublist _).mem member)
      · exact numbered
  | dispatch index timestamp =>
      unfold dispatchStep
      dsimp only
      split
      · rename_i task waiting
        exact numbered_dispatch numbered waiting timestamp
      · exact numbered

theorem numbered_run (steps : List (DispatchStep F)) : Numbered (run (dispatchStep lower) {} steps) := by
  have kept (state : Dispatching F) (step : DispatchStep F) (numbered : Numbered state) (_ : True) :
      Numbered (dispatchStep lower state step) := numbered_step state step numbered
  exact run_invariant _ kept steps numbered_start fun _ _ => trivial

/-- The request is made with the stored settings of the rule and with the values of the event. -/
structure Uses (row : AlertRule String) (number : Nat) (event : AlertEvent F) (request : WebhookRequest F) : Prop where
  webhookUrl : row.webhookUrl = some request.webhookUrl
  webhookToken : request.bearerToken = row.webhookToken.map EncryptedToken.plain
  receiverType : request.receiverType = Text.orElse row.webhookReceiverType "custom"
  verifySsl : row.webhookVerifySsl = some request.verifySsl
  eventId : request.payload.eventId = number
  value : request.payload.value = event.value
  threshold : request.payload.threshold = event.threshold
  severity : request.payload.severity = event.severity
  eventState : request.payload.state = event.state

/-- A stored webhook has one request, which uses it, and without a webhook there is none. -/
structure Answers (row : AlertRule String) (number : Nat) (event : AlertEvent F)
    (request : Option (WebhookRequest F)) : Prop where
  made : request.isSome = (Text.truthy row.webhookUrl).isSome
  uses : ∀ made, request = some made → Uses row number event made

/-- The event has exactly one task, which waits or has run, and in Plus it answers the row that its rule was read
from. -/
structure Announced (state : Dispatching F) (number : Nat) (event : AlertEvent F) : Prop where
  once : (state.tasks.filter fun task => task.eventId = number).length +
    (state.sent.filter fun sending => sending.task.eventId = number).length = 1
  answered : ∀ sending ∈ state.sent, sending.task.eventId = number → sending.task.isPlus = true →
    ∃ row, sending.task.stored = some row ∧ Answers row number event sending.request

/-- The rule was stored with TLS verification, and its token was not replaced before the task ran. -/
def Sending.Intact (sending : Sending F) : Prop :=
  ∀ row, sending.task.stored = some row → (Text.truthy row.webhookUrl).isSome = true →
    row.webhookVerifySsl = some true ∧
      sending.found.map EncryptedToken.plain = row.webhookToken.map EncryptedToken.plain

omit [PythonFloat F] in
/-- Every event is announced once in the order of the numbers. -/
theorem announced_once (numbered : Numbered state) {index : Nat} (recorded : index < state.db.events.length) :
    (state.tasks.filter fun task => task.eventId = index + 1).length +
      (state.sent.filter fun sending => sending.task.eventId = index + 1).length = 1 := by
  have number : (List.range' 1 state.db.events.length).count (index + 1) = 1 := by
    apply List.count_eq_one_of_mem List.nodup_range'
    rw [List.mem_range'_1]
    omega
  have counted := numbered.numbers.count_eq (index + 1)
  rw [number] at counted
  unfold Dispatching.started at counted
  rw [List.map_append, List.count_append, List.map_map, List.count_eq_countP, List.count_eq_countP, List.countP_map,
    List.countP_map, List.countP_eq_length_filter, List.countP_eq_length_filter] at counted
  exact counted

omit [PythonFloat F] in
/-- The request of a task answers the row of its rule exactly when the sending is intact. -/
theorem answers_iff {sending : Sending F} {row : AlertRule String} {event : AlertEvent F} {number : Nat}
    {timestamp : UtcTime} (made : sending.request = sending.task.sendWebhook sending.found timestamp)
    (stored : sending.task.stored = some row) (read : ReadFrom sending.task.rule row)
    (named : sending.task.eventId = number) (tells : sending.task.Tells event) :
    Answers row number event sending.request ↔ sending.Intact := by
  unfold Dispatch.sendWebhook at made
  rw [read.webhookUrl, read.webhookReceiverType, read.webhookVerifySsl] at made
  constructor
  · intro answers other same present
    rw [← Option.some.inj (stored.symm.trans same)] at present ⊢
    obtain ⟨webhookUrl, shown⟩ := Option.isSome_iff_exists.mp present
    rw [shown, Option.map_some] at made
    have uses := answers.uses _ made
    exact ⟨uses.verifySsl, uses.webhookToken⟩
  · intro intact
    constructor
    · rw [made, Option.isSome_map]
    · intro request posted
      rw [made] at posted
      obtain ⟨webhookUrl, shown, rfl⟩ := Option.map_eq_some_iff.mp posted
      obtain ⟨verified, kept⟩ := intact row stored (by rw [shown]; rfl)
      exact {
        webhookUrl := ((Text.truthy_eq_some _ _).mp shown).1
        webhookToken := kept
        receiverType := rfl
        verifySsl := verified
        eventId := named
        value := tells.value
        threshold := tells.threshold
        severity := tells.severity
        eventState := tells.eventState }

/-- However edits, polls and notifications take turns, every recorded event is announced exactly once, and its request
uses what was stored for the rule and recorded for the event exactly when every notification of Plus that was sent
for a rule with a webhook was for one with TLS verification whose token was not replaced meanwhile. -/
theorem dispatch_uses_stored_iff (steps : List (DispatchStep F)) :
    (∀ index event, (run (dispatchStep lower) {} steps).db.events[index]? = some event →
      Announced (run (dispatchStep lower) {} steps) (index + 1) event) ↔
    ∀ sending ∈ (run (dispatchStep lower) {} steps).sent, sending.task.isPlus = true → sending.Intact := by
  have numbered : Numbered (run (dispatchStep lower) {} steps) := numbered_run steps
  have begun {sending : Sending F} (member : sending ∈ (run (dispatchStep lower) {} steps).sent) :
      sending.task ∈ (run (dispatchStep lower) {} steps).started :=
    List.mem_append_right _ (List.mem_map_of_mem member)
  have posted {sending : Sending F} (member : sending ∈ (run (dispatchStep lower) {} steps).sent)
      (plus : sending.task.isPlus = true) :
        ∃ timestamp, sending.request = sending.task.sendWebhook sending.found timestamp := by
    obtain ⟨timestamp, made⟩ := numbered.sent sending member
    rw [if_pos plus] at made
    exact ⟨timestamp, made⟩
  constructor
  · intro announced sending member plus
    obtain ⟨index, event, named, recorded, tells⟩ := numbered.told _ (begun member)
    obtain ⟨row, stored, answers⟩ := (announced index event recorded).answered sending member named plus
    obtain ⟨other, same, read⟩ := numbered.rules _ (begun member)
    rw [← Option.some.inj (stored.symm.trans same)] at read
    obtain ⟨timestamp, made⟩ := posted member plus
    exact (answers_iff made stored read named tells).mp answers
  · intro intact index event recorded
    refine ⟨announced_once numbered (List.getElem?_eq_some_iff.mp recorded).1, ?_⟩
    intro sending member named plus
    obtain ⟨row, stored, read⟩ := numbered.rules _ (begun member)
    obtain ⟨place, told, number, listed, tells⟩ := numbered.told _ (begun member)
    have here : place = index := Nat.succ.inj (number.symm.trans named)
    rw [here, recorded] at listed
    rw [← Option.some.inj listed] at tells
    obtain ⟨timestamp, made⟩ := posted member plus
    exact ⟨row, stored, (answers_iff made stored read named tells).mpr (intact sending member plus)⟩

end Histories

section Wire
variable {F : Type} [PythonFloat F] {checkNetloc : List Char → Except String Unit} {fixed : F → String}

omit [PythonFloat F] in
/-- The requests of the tasks are the deliveries of the tokens. -/
theorem dispatch_delivers (db : AlertDb F) (timestamp : UtcTime) (call : Dispatch F) :
    (dispatch db timestamp call).map (fun request => (⟨request.webhookUrl, getRawWebhookToken db call.rule.id,
      request.effectiveUrl, request.authorization checkNetloc⟩ : Delivery)) =
    sendWebhook checkNetloc db ⟨call.rule.id, call.rule.webhookUrl, call.rule.webhookReceiverType, call.isPlus⟩ := by
  unfold dispatch sendWebhook
  cases call.isPlus with
  | false => rfl
  | true => exact Option.map_map _ _ _

/-- Receivers without a shape of their own, and no others, are sent the payload with the number of the event. -/
theorem body_native_iff (request : WebhookRequest F) :
    request.body checkNetloc fixed = .native request.payload ↔
      request.receiverType ∉ ["gotify", "ntfy", "slack", "mattermost", "discord"] ∧
        isGotifyUrl checkNetloc request.effectiveUrl = false := by
  unfold WebhookRequest.body adaptBody
  by_cases gotify : (request.receiverType = "gotify" || isGotifyUrl checkNetloc request.effectiveUrl) = true
  · rw [if_pos gotify]
    simp only [Bool.or_eq_true, decide_eq_true_eq] at gotify
    rcases gotify with named | shaped
    · simp [named, toGotifyPayload]
    · simp [shaped, toGotifyPayload]
  · rw [if_neg gotify]
    simp only [Bool.or_eq_true, decide_eq_true_eq, not_or, Bool.not_eq_true] at gotify
    by_cases ntfy : request.receiverType = "ntfy"
    · simp [ntfy, toNtfyPayload]
    · by_cases slack : request.receiverType = "slack" ∨ request.receiverType = "mattermost"
      · rcases slack with named | named <;> simp [named, toSlackPayload]
      · by_cases discord : request.receiverType = "discord"
        · simp [discord, toDiscordPayload]
        · simp [gotify, ntfy, slack, discord]

end Wire

section Examples

/-- The receiver has a certificate that cannot be verified. -/
def unverifiedBody : AlertRuleBase Nat :=
  { cpuBody with
    webhookUrl := some "https://hook.example"
    webhookVerifySsl := false }

def unverifiedRequest : RuleCreateRequest Nat := ⟨unverifiedBody, unverifiedBody, by decide +kernel⟩

/-- The rule is created and fires for a guest at full load. -/
def unverifiedRun : Dispatching Nat :=
  run (dispatchStep id) {} [.edit true (.createGlobalRule unverifiedRequest "admin" "2026-01-01"),
    .start true 1 [{ vmid := some "100", name := "web", cpu := some 1 }], .nextVm 0, .nextCall 0,
    .dispatch 0 ⟨⟨2026, 1, 2, by decide, by decide, by decide⟩, 12, 0, 0, 0⟩]

/-- The event of a rule that was stored without TLS verification is sent with it. -/
theorem unverified_rule_is_verified :
    (∃ sending ∈ unverifiedRun.sent, sending.task.eventId = 1 ∧ sending.task.isPlus = true ∧
      sending.task.stored.map AlertRule.webhookVerifySsl = some (some false) ∧
      sending.request.map WebhookRequest.verifySsl = some true) ∧
    ∃ event, unverifiedRun.db.events[0]? = some event ∧ ¬ Announced unverifiedRun 1 event := by
  have sent : ∃ sending ∈ unverifiedRun.sent, sending.task.eventId = 1 ∧ sending.task.isPlus = true ∧
      sending.task.stored.map AlertRule.webhookVerifySsl = some (some false) ∧
      sending.request.map WebhookRequest.verifySsl = some true := by decide +kernel
  have recorded : unverifiedRun.db.events[0]?.isSome = true := by decide +kernel
  refine ⟨sent, ?_⟩
  obtain ⟨event, found⟩ := Option.isSome_iff_exists.mp recorded
  refine ⟨event, found, ?_⟩
  intro announced
  obtain ⟨sending, member, number, plus, unverified, verified⟩ := sent
  obtain ⟨row, stored, answers⟩ := announced.answered sending member number plus
  obtain ⟨request, made, checked⟩ := Option.map_eq_some_iff.mp verified
  have kept := (answers.uses request made).verifySsl
  rw [stored, Option.map_some, kept, checked] at unverified
  exact absurd unverified (by decide)

end Examples
end P3Portal.Alerts
