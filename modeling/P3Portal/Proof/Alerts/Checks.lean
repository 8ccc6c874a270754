import P3Portal.Construction.Alerts.Check

namespace P3Portal.Alerts
open Foundation

section Views
variable {F : Type} (db : AlertDb F) (key : StateKey)

/-- The event was recorded under this key. -/
def isAbout (event : AlertEvent F) : Bool :=
  event.ruleId = some key.ruleId && event.vm = key.vm && event.severity = key.severity

/-- The signals that were recorded under a key, the oldest first. -/
def signals : List Signal := (db.events.filter (isAbout key)).map AlertEvent.state

/-- A row in the state of its severity is a raised alarm. -/
def alarmOf : Alarm := ⟨(getState db key).state = key.severity.target, (getState db key).pendingCount⟩

/-- The row of the key is warning or critical. -/
def Firing : Prop := (getState db key).state = .warning ∨ (getState db key).state = .critical

/-- The row is ok, pending or in the state of its own severity. -/
def RegularAt : Prop :=
  (getState db key).state = .ok ∨ (getState db key).state = .pending ∨ (getState db key).state = key.severity.target

def Regular : Prop := ∀ key, RegularAt db key

/-- The signals of an observation that are recorded: a recovery only when the rule asks for it. -/
def recorded (notifyRecovery : Bool) (signals : List Signal) : List Signal :=
  signals.filter fun signal => notifyRecovery || signal = .firing

end Views

/-- What is recorded of signals in sequence is recorded in sequence. -/
theorem recorded_append (notifyRecovery : Bool) (first second : List Signal) :
    recorded notifyRecovery (first ++ second) = recorded notifyRecovery first ++ recorded notifyRecovery second :=
  List.filter_append first second

section Writes
variable {F : Type} {db : AlertDb F} {check : SeverityCheck F} {key : StateKey}

/-- No severity aims at the state without an alert. -/
@[simp] theorem target_ne_ok (severity : AlertSeverity) : severity.target ≠ .ok := by
  cases severity <;> exact AlertState.noConfusion

/-- No severity aims at the pending state. -/
@[simp] theorem target_ne_pending (severity : AlertSeverity) : severity.target ≠ .pending := by
  cases severity <;> exact AlertState.noConfusion

@[simp] theorem ok_ne_target (severity : AlertSeverity) : .ok ≠ severity.target := (target_ne_ok severity).symm

@[simp] theorem pending_ne_target (severity : AlertSeverity) : .pending ≠ severity.target :=
  (target_ne_pending severity).symm

/-- A state that is written is found at its key. -/
@[simp] theorem getState_upsertState (written : StateKey) (row : StateRow F) :
    getState (upsertState db written row) key = if key = written then row else getState db key := by
  unfold getState upsertState
  rw [OrderedMap.get?_set]
  split <;> rfl

/-- An event changes no state. -/
@[simp] theorem getState_recordEvent (state : AlertEventState) :
    getState (recordEvent db check state) key = getState db key := rfl

/-- A state that is written is no signal. -/
@[simp] theorem signals_upsertState (written : StateKey) (row : StateRow F) :
    signals (upsertState db written row) key = signals db key := rfl

/-- An event is about the key of its check. -/
theorem isAbout_recorded (state : AlertEventState) (value : Option (Reading F)) (name vmName vmType node : String)
    (metric : AlertMetric) (threshold : Option F) :
    isAbout key ⟨some check.key.ruleId, name, check.key.vm, vmName, vmType, node, metric, value, threshold,
      check.key.severity, state⟩ = decide (key = check.key) := by
  unfold isAbout
  by_cases same : key = check.key
  · simp [same]
  · rw [decide_eq_false same]
    apply Bool.eq_false_iff.mpr
    intro about
    simp only [Bool.and_eq_true, decide_eq_true_eq, Option.some.injEq] at about
    apply same
    obtain ⟨ruleId, vm, severity⟩ := key
    simp only at about
    rw [← about.1.1, ← about.1.2, ← about.2]

/-- An event is the last signal of its key. -/
@[simp] theorem signals_recordEvent (state : AlertEventState) :
    signals (recordEvent db check state) key =
      if key = check.key then signals db key ++ [state] else signals db key := by
  unfold signals recordEvent
  rw [List.filter_append, List.filter_cons, isAbout_recorded]
  by_cases same : key = check.key
  · simp [same]
  · simp [same]

/-- The state machine observes the breach with the alarm of its key. -/
theorem alarmOf_processSeverity (regular : RegularAt db check.key) :
    alarmOf (processSeverity db check) check.key =
      ((alarmOf db check.key).observe check.sustained check.breached).1 := by
  unfold processSeverity Alarm.observe alarmOf
  rcases regular with ok | pending | raised
  · cases breached : check.breached with
    | true => by_cases reached : check.sustained ≤ (getState db check.key).pendingCount + 1 <;>
        simp [ok, reached]
    | false => by_cases counted : (getState db check.key).pendingCount = 0 <;>
        simp [ok, counted]
  · cases breached : check.breached with
    | true => by_cases reached : check.sustained ≤ (getState db check.key).pendingCount + 1 <;>
        simp [pending, reached]
    | false => simp [pending]
  · cases breached : check.breached with
    | true => simp [raised]
    | false => cases notify : check.notifyRecovery <;> simp [raised]

/-- The state machine appends what its observation signals. -/
theorem signals_processSeverity (regular : RegularAt db check.key) :
    signals (processSeverity db check) check.key = signals db check.key ++
      recorded check.notifyRecovery ((alarmOf db check.key).observe check.sustained check.breached).2.toList := by
  unfold processSeverity Alarm.observe alarmOf recorded
  rcases regular with ok | pending | raised
  · cases breached : check.breached with
    | true => by_cases reached : check.sustained ≤ (getState db check.key).pendingCount + 1 <;>
        simp [ok, reached]
    | false => by_cases counted : (getState db check.key).pendingCount = 0 <;>
        simp [ok, counted]
  · cases breached : check.breached with
    | true => by_cases reached : check.sustained ≤ (getState db check.key).pendingCount + 1 <;>
        simp [pending, reached]
    | false => simp [pending]
  · cases breached : check.breached with
    | true => simp [raised]
    | false => cases notify : check.notifyRecovery <;> simp [raised]

/-- The state machine touches its own key only. -/
theorem getState_processSeverity_of_ne (different : key ≠ check.key) :
    getState (processSeverity db check) key = getState db key := by
  unfold processSeverity
  dsimp only
  repeat' split
  all_goals simp [different]

/-- A check sends no signals of other keys. -/
theorem signals_processSeverity_of_ne (different : key ≠ check.key) :
    signals (processSeverity db check) key = signals db key := by
  unfold processSeverity
  dsimp only
  repeat' split
  all_goals simp [different]

/-- A check keeps the states regular. -/
theorem regularAt_processSeverity (regular : RegularAt db key) : RegularAt (processSeverity db check) key := by
  by_cases same : key = check.key
  · rw [same] at regular ⊢
    unfold RegularAt at regular ⊢
    unfold processSeverity
    dsimp only
    repeat' split
    all_goals simp [regular]
  · unfold RegularAt
    rw [getState_processSeverity_of_ne same]
    exact regular

/-- A row that no poll has written is regular. -/
theorem regularAt_of_missing (missing : db.states.get? key = none) : RegularAt db key := by
  unfold RegularAt getState
  rw [missing]
  exact .inl rfl

/-- A regular row is warning or critical exactly when it is in the state of its severity. -/
theorem firing_iff_target (regular : RegularAt db key) :
    Firing db key ↔ (getState db key).state = key.severity.target := by
  unfold Firing
  unfold RegularAt at regular
  cases severity : key.severity with
  | warning =>
      rw [severity] at regular
      rcases regular with plain | plain | plain <;> simp [plain, AlertSeverity.target]
  | critical =>
      rw [severity] at regular
      rcases regular with plain | plain | plain <;> simp [plain, AlertSeverity.target]

/-- The tables that the edits change are not touched by the state machine. -/
theorem tables_processSeverity (db : AlertDb F) (check : SeverityCheck F) :
    (processSeverity db check).rules = db.rules ∧ (processSeverity db check).presets = db.presets ∧
      (processSeverity db check).assignments = db.assignments ∧
      (processSeverity db check).overrides = db.overrides := by
  unfold processSeverity upsertState recordEvent
  dsimp only
  repeat' split
  all_goals exact ⟨rfl, rfl, rfl, rfl⟩

end Writes

section Keys
variable {F : Type} {checks : List (SeverityCheck F)} {key : StateKey} {db : AlertDb F}

/-- The breaches that a list of calls reports for one key. -/
def breachesOf (checks : List (SeverityCheck F)) (key : StateKey) : List Bool :=
  (checks.filter fun check => check.key = key).map SeverityCheck.breached

/-- Checks in sequence keep the states regular. -/
theorem foldl_processSeverity_regular (regular : RegularAt db key) :
    RegularAt (checks.foldl processSeverity db) key := by
  induction checks generalizing db with
  | nil => exact regular
  | cons check rest ih => exact ih (regularAt_processSeverity regular)

/-- Calls with the same settings drive the alarm of their key with their breaches in order. -/
theorem foldl_processSeverity {sustained : Int} {notifyRecovery : Bool}
    (settings : ∀ check ∈ checks, check.key = key →
      check.sustained = sustained ∧ check.notifyRecovery = notifyRecovery) (regular : RegularAt db key) :
    alarmOf (checks.foldl processSeverity db) key =
        ((alarmOf db key).observeAll sustained (breachesOf checks key)).1 ∧
      signals (checks.foldl processSeverity db) key = signals db key ++
        recorded notifyRecovery ((alarmOf db key).observeAll sustained (breachesOf checks key)).2 := by
  induction checks generalizing db with
  | nil => exact ⟨rfl, (List.append_nil _).symm⟩
  | cons check rest ih =>
      have next : RegularAt (processSeverity db check) key := regularAt_processSeverity regular
      obtain ⟨alarm, log⟩ := ih (fun other member => settings other (List.mem_cons_of_mem _ member)) next
      rw [List.foldl_cons, alarm, log]
      by_cases same : check.key = key
      · obtain ⟨sustained_, notify⟩ := settings check List.mem_cons_self same
        have reported : breachesOf (check :: rest) key = check.breached :: breachesOf rest key := by
          unfold breachesOf
          rw [List.filter_cons_of_pos (by simp [same])]
          rfl
        rw [reported]
        rw [← same] at regular ⊢
        rw [alarmOf_processSeverity regular, signals_processSeverity regular, sustained_, notify]
        rw [Alarm.observeAll_cons, recorded_append, List.append_assoc]
        exact ⟨rfl, rfl⟩
      · have reported : breachesOf (check :: rest) key = breachesOf rest key := by
          unfold breachesOf
          rw [List.filter_cons_of_neg (by simp [same])]
        have different : key ≠ check.key := fun equal => same equal.symm
        rw [reported]
        unfold alarmOf
        rw [getState_processSeverity_of_ne different, signals_processSeverity_of_ne different]
        exact ⟨rfl, rfl⟩

/-- Calls for other keys leave a key alone. -/
theorem getState_foldl_of_ne (others : ∀ check ∈ checks, check.key ≠ key) :
    getState (checks.foldl processSeverity db) key = getState db key := by
  induction checks generalizing db with
  | nil => rfl
  | cons check rest ih =>
      rw [List.foldl_cons, ih fun other member => others other (List.mem_cons_of_mem _ member)]
      exact getState_processSeverity_of_ne (others check List.mem_cons_self).symm

/-- A key whose row fires after some calls had a breach among them, or it fired before and no call was for it. -/
theorem raised_foldl (regular : RegularAt db key)
    (raised : (getState (checks.foldl processSeverity db) key).state = key.severity.target) :
    (∃ check ∈ checks, check.key = key ∧ check.breached = true) ∨
      (getState db key).state = key.severity.target ∧ ∀ check ∈ checks, check.key ≠ key := by
  induction checks generalizing db with
  | nil => exact .inr ⟨raised, fun _ absent => by cases absent⟩
  | cons check rest ih =>
      rcases ih (regularAt_processSeverity regular) raised with ⟨other, member, breach⟩ | ⟨before, others⟩
      · exact .inl ⟨other, List.mem_cons_of_mem _ member, breach⟩
      · by_cases same : check.key = key
        · rw [← same] at regular before
          have alarm : (alarmOf (processSeverity db check) check.key).raised = _ :=
            congrArg Alarm.raised (alarmOf_processSeverity regular)
          have lit : (alarmOf (processSeverity db check) check.key).raised = true := decide_eq_true before
          rw [lit] at alarm
          cases breached : check.breached with
          | true => exact .inl ⟨check, List.mem_cons_self, same, breached⟩
          | false =>
              rw [breached] at alarm
              cases alarm
        · rw [getState_processSeverity_of_ne fun equal => same equal.symm] at before
          refine .inr ⟨before, ?_⟩
          intro other member
          rcases List.mem_cons.mp member with here | later
          · rw [here]
            exact same
          · exact others other later

/-- Checks change no table but the states and the events. -/
theorem tables_foldl (checks : List (SeverityCheck F)) (db : AlertDb F) :
    (checks.foldl processSeverity db).rules = db.rules ∧ (checks.foldl processSeverity db).presets = db.presets ∧
      (checks.foldl processSeverity db).assignments = db.assignments ∧
      (checks.foldl processSeverity db).overrides = db.overrides := by
  induction checks generalizing db with
  | nil => exact ⟨rfl, rfl, rfl, rfl⟩
  | cons check rest ih =>
      obtain ⟨rules, presets, assignments, overrides⟩ := tables_processSeverity db check
      rw [← rules, ← presets, ← assignments, ← overrides]
      exact ih (processSeverity db check)

end Keys

section Rules
variable {F : Type} [PythonFloat F] {lower : String → String} {rule : EffectiveRule F} {vmData : VmData F}
  {vm : VmKey} {vmName : String} {check : SeverityCheck F}

def thresholdOf (rule : AlertRule F) : AlertSeverity → Option F
  | .warning => rule.warningThreshold
  | .critical => rule.criticalThreshold

/-- The state machine handles a severity with a threshold, and the critical one of every status rule. -/
def handles (rule : AlertRule F) (severity : AlertSeverity) : Bool :=
  (thresholdOf rule severity).isSome || (severity = .critical && rule.metric = .status)

/-- The measurement breaches the threshold of the severity. -/
def breaches (lower : String → String) (rule : AlertRule F) (severity : AlertSeverity) (reading : Reading F) : Bool :=
  if rule.metric = .status then
    severity = .critical && statusTriggered lower (some reading) rule.criticalThreshold
  else
    match reading with
    | .number value => thresholdReached value (thresholdOf rule severity)
    | .text _ => false

/-- The calls for a measurement belong to the rule and the guest. -/
theorem mem_measurementChecks {value : Option (Reading F)}
    (called : check ∈ measurementChecks lower rule vmData vm vmName value) :
    check.key.ruleId = rule.id ∧ check.key.vm = vm ∧ check.sustained = rule.sustainedPolls ∧
      check.notifyRecovery = rule.notifyRecovery ∧
      (check.breached = true → (thresholdOf rule.toAlertRule check.key.severity).isSome = true) := by
  have triggered : statusTriggered lower value rule.criticalThreshold = true → rule.criticalThreshold.isSome = true := by
    intro fires
    unfold statusTriggered at fires
    split at fires
    · rename_i target
      rw [target]
      rfl
    · cases fires
  have reached (number : F) (threshold : Option F) :
      thresholdReached number threshold = true → threshold.isSome = true := by
    intro fires
    cases threshold with
    | none => cases fires
    | some _ => rfl
  unfold measurementChecks at called
  dsimp only at called
  split at called
  · rcases List.mem_append.mp called with warning | critical
    · split at warning
      · rw [List.mem_singleton.mp warning]
        exact ⟨rfl, rfl, rfl, rfl, fun absurd => by cases absurd⟩
      · cases warning
    · split at critical
      · rw [List.mem_singleton.mp critical]
        exact ⟨rfl, rfl, rfl, rfl, triggered⟩
      · cases critical
  · split at called
    · rcases List.mem_append.mp called with warning | critical
      · split at warning
        · rw [List.mem_singleton.mp warning]
          exact ⟨rfl, rfl, rfl, rfl, reached _ _⟩
        · cases warning
      · split at critical
        · rw [List.mem_singleton.mp critical]
          exact ⟨rfl, rfl, rfl, rfl, reached _ _⟩
        · cases critical
    · cases called

/-- The check of a rule makes its calls in turn. -/
theorem checkRule_eq (rule : EffectiveRule F) (vmData : VmData F) (vm : VmKey) (vmName : String) (db : AlertDb F) :
    checkRule lower rule vmData vm vmName db = (ruleChecks lower rule vmData vm vmName).foldl processSeverity db :=
  (List.foldl_flatMap ..).symm

/-- The check of a guest goes through the checks of its rules. -/
theorem checkVm_eq (isPlus : Bool) (nodeId : Int) (db : AlertDb F) (vmData : VmData F) :
    checkVm lower isPlus nodeId db vmData =
      (vmChecks lower isPlus db nodeId vmData).foldl processSeverity db := by
  unfold checkVm vmChecks
  cases vmData.vmid with
  | none => rfl
  | some vmid =>
      dsimp only
      split
      · rfl
      · rw [List.foldl_flatMap]
        congr 1
        funext db rule
        exact checkRule_eq rule vmData _ _ db

/-- A check of a rule has the key and the numbers of the rule. -/
theorem mem_ruleChecks (called : check ∈ ruleChecks lower rule vmData vm vmName) :
    check.key.ruleId = rule.id ∧ check.key.vm = vm ∧ check.sustained = rule.sustainedPolls ∧
      check.notifyRecovery = rule.notifyRecovery ∧
      (check.breached = true → (thresholdOf rule.toAlertRule check.key.severity).isSome = true) := by
  obtain ⟨measurement, _, once⟩ := List.mem_flatMap.mp called
  exact mem_measurementChecks once

/-- The values of the measurements that carry one. -/
def readings (rule : AlertRule F) (vmData : VmData F) : List (Reading F) :=
  (extractMetric vmData rule.metric rule.filesystem).filterMap Prod.snd

/-- Only the status is a text. -/
theorem extractMetric_number {metric : AlertMetric} {filesystem : Option String} (numeric : metric ≠ .status)
    {measurement : Measurement F} (member : measurement ∈ extractMetric vmData metric filesystem) :
    measurement.2 = none ∨ ∃ value, measurement.2 = some (.number value) := by
  have optional (value : Option F) : value.map Reading.number = none ∨ ∃ number, value.map Reading.number = some (.number number) := by
    cases value with
    | none => exact .inl rfl
    | some number => exact .inr ⟨number, rfl⟩
  cases metric with
  | cpuPercent =>
      rw [List.mem_singleton.mp member]
      cases vmData.cpu with
      | none => exact .inl rfl
      | some cpu => exact .inr ⟨_, rfl⟩
  | memPercent =>
      rw [List.mem_singleton.mp member]
      exact optional _
  | diskPercent =>
      unfold extractMetric at member
      dsimp only at member
      split at member
      · split at member
        · rw [List.mem_singleton.mp member]
          exact .inr ⟨_, rfl⟩
        · rw [List.mem_singleton.mp member]
          exact .inl rfl
      · obtain ⟨result, _, rfl⟩ := List.mem_map.mp member
        exact .inr ⟨_, rfl⟩
  | status => exact absurd rfl numeric

omit [PythonFloat F] in
/-- Breaches of checks in sequence are breaches in sequence. -/
theorem breachesOf_append (first second : List (SeverityCheck F)) (key : StateKey) :
    breachesOf (first ++ second) key = breachesOf first key ++ breachesOf second key := by
  unfold breachesOf
  rw [List.filter_append, List.map_append]

/-- A measurement is reported once for each severity that the state machine handles. -/
theorem breachesOf_number (numeric : rule.metric ≠ .status) (value : F) (severity : AlertSeverity) :
    breachesOf (measurementChecks lower rule vmData vm vmName (some (.number value))) ⟨rule.id, vm, severity⟩ =
      if handles rule.toAlertRule severity then [breaches lower rule.toAlertRule severity (.number value)] else [] := by
  unfold measurementChecks handles breaches breachesOf
  simp only [if_neg numeric, decide_eq_false numeric, Bool.and_false, Bool.or_false]
  cases severity with
  | warning => cases warning : rule.warningThreshold <;> cases critical : rule.criticalThreshold <;>
      simp [thresholdOf, warning]
  | critical => cases warning : rule.warningThreshold <;> cases critical : rule.criticalThreshold <;>
      simp [thresholdOf, critical]

/-- A missing measurement breaches nothing. -/
theorem breachesOf_missing (numeric : rule.metric ≠ .status) (key : StateKey) :
    breachesOf (measurementChecks lower rule vmData vm vmName none) key = [] := by
  unfold measurementChecks
  rw [if_neg numeric]
  rfl

/-- A rule about a number reports the breaches of its readings. -/
theorem breachesOf_ruleChecks (numeric : rule.metric ≠ .status) (severity : AlertSeverity) :
    breachesOf (ruleChecks lower rule vmData vm vmName) ⟨rule.id, vm, severity⟩ =
      if handles rule.toAlertRule severity then
        (readings rule.toAlertRule vmData).map (breaches lower rule.toAlertRule severity) else [] := by
  unfold ruleChecks readings
  have numbers : ∀ measurement ∈ extractMetric vmData rule.metric rule.filesystem,
      measurement.2 = none ∨ ∃ value, measurement.2 = some (.number value) := fun _ => extractMetric_number numeric
  revert numbers
  generalize extractMetric vmData rule.metric rule.filesystem = measurements
  intro numbers
  induction measurements with
  | nil => split <;> rfl
  | cons measurement rest ih =>
      rw [List.flatMap_cons, breachesOf_append, ih fun other member => numbers other (List.mem_cons_of_mem _ member)]
      rcases numbers measurement List.mem_cons_self with missing | ⟨value, present⟩
      · rw [missing, breachesOf_missing numeric, List.filterMap_cons_none missing]
        rfl
      · rw [present, breachesOf_number numeric, List.filterMap_cons_some present]
        split <;> rfl

/-- A rule about the status reports whether its target is met. -/
theorem breachesOf_status (status : rule.metric = .status) (severity : AlertSeverity) :
    breachesOf (ruleChecks lower rule vmData vm vmName) ⟨rule.id, vm, severity⟩ =
      if handles rule.toAlertRule severity then
        [(vmData.status.map Reading.text).any (breaches lower rule.toAlertRule severity)] else [] := by
  unfold ruleChecks extractMetric
  simp only [status, List.flatMap_cons, List.flatMap_nil, List.append_nil]
  unfold measurementChecks handles breaches breachesOf
  simp only [status, if_true, decide_true, Bool.and_true, Bool.or_true]
  cases severity with
  | warning => cases warning : rule.warningThreshold <;> cases reported : vmData.status <;> simp [thresholdOf, warning]
  | critical => cases warning : rule.warningThreshold <;> cases reported : vmData.status <;>
      simp [thresholdOf, statusTriggered]

end Rules
end P3Portal.Alerts
