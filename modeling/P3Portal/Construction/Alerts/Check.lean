import P3Portal.Construction.Alerts.RuleService
import P3Portal.Foundation.Run

namespace P3Portal.Alerts
open Foundation

structure Filesystem (F : Type) where
  mountpoint : String := ""
  totalBytes : F
  usedBytes : F
  deriving DecidableEq

/-- A guest as the resources of Proxmox list it. -/
structure VmData (F : Type) where
  vmid : Option String
  name : String := ""
  type : String := "qemu"
  node : String := ""
  template : Bool := false
  status : Option String := none
  cpu : Option F := none
  mem : Option F := none
  maxmem : Option F := none
  disk : Option F := none
  maxdisk : Option F := none
  filesystems : List (Filesystem F) := []
  deriving DecidableEq

section Metrics
variable {F : Type} [PythonFloat F]

/-- A share is known when the whole is positive. -/
def percentOf (part whole : Option F) : Option F := do
  let part ← part
  let whole ← whole
  if PythonFloat.positive whole then return PythonFloat.percent (PythonFloat.ratio part whole) else none

def filesystemPercent (wanted : Option String) (filesystem : Filesystem F) : Option (String × F) :=
  if PythonFloat.positive filesystem.totalBytes && wanted.all (· = filesystem.mountpoint) then
    some (filesystem.mountpoint,
      PythonFloat.percent (PythonFloat.ratio filesystem.usedBytes filesystem.totalBytes))
  else none

/-- A measurement has a label and a value, which is missing when there is no data. -/
abbrev Measurement (F : Type) := Option String × Option (Reading F)

def numberMeasurement (label : Option String) (value : F) : Measurement F := (label, some (.number value))

/-- Every metric has one measurement, but `disk_percent` has one for each filesystem that passes the filter. -/
def extractMetric (vmData : VmData F) (metric : AlertMetric) (filesystem : Option String) : List (Measurement F) :=
  match metric with
  | .cpuPercent => [(none, vmData.cpu.map fun cpu => .number (PythonFloat.percent cpu))]
  | .memPercent => [(none, (percentOf vmData.mem vmData.maxmem).map .number)]
  | .diskPercent =>
      match vmData.filesystems.filterMap (filesystemPercent filesystem) with
      | [] =>
          match percentOf vmData.disk vmData.maxdisk with
          | some value => [numberMeasurement (some (Text.orElse filesystem "/")) value]
          | none => [(none, none)]
      | results => results.map fun result => numberMeasurement (some result.1) result.2
  | .status => [(none, vmData.status.map .text)]

/-- `str()` of a measurement. -/
def Reading.str : Reading F → String
  | .number value => PythonFloat.str value
  | .text status => status

/-- The texts of the status and of the target are compared without regard to case. -/
def statusTriggered (lower : String → String) (currentStatus : Option (Reading F)) (targetStatus : Option F) : Bool :=
  match currentStatus, targetStatus with
  | some current, some target => lower current.str = lower (PythonFloat.str target)
  | _, _ => false

/-- A number breaches a threshold that it reaches. -/
def thresholdReached (value : F) (threshold : Option F) : Bool := threshold.any (PythonFloat.ge value)

end Metrics

section StateMachine
variable {F : Type}

/-- The arguments of one call of the state machine. -/
structure SeverityCheck (F : Type) where
  key : StateKey
  ruleName : String
  vmName : String
  metric : AlertMetric
  rawValue : Option (Reading F)
  threshold : Option F
  breached : Bool
  sustained : Int
  notifyRecovery : Bool
  webhookUrl : Option String := none
  webhookReceiverType : Option String := none
  vmType : String := "qemu"
  proxmoxNode : String := ""

def AlertSeverity.target : AlertSeverity → AlertState
  | .warning => .warning
  | .critical => .critical

def getState (db : AlertDb F) (key : StateKey) : StateRow F := (db.states.get? key).getD {}

def upsertState (db : AlertDb F) (key : StateKey) (row : StateRow F) : AlertDb F :=
  { db with states := db.states.set key row }

def recordEvent (db : AlertDb F) (check : SeverityCheck F) (eventState : AlertEventState) : AlertDb F :=
  { db with events := db.events ++ [{
      ruleId := some check.key.ruleId
      ruleName := check.ruleName
      vm := check.key.vm
      vmName := check.vmName
      vmType := check.vmType
      proxmoxNode := check.proxmoxNode
      metric := check.metric
      value := check.rawValue
      threshold := check.threshold
      severity := check.key.severity
      state := eventState }] }

/-- One transition of the state machine. -/
def processSeverity (db : AlertDb F) (check : SeverityCheck F) : AlertDb F :=
  let row := getState db check.key
  let targetState := check.key.severity.target
  if check.breached then
    if row.state = .ok || row.state = .pending then
      let newCount := row.pendingCount + 1
      if check.sustained ≤ newCount then
        recordEvent (upsertState db check.key ⟨targetState, newCount, check.rawValue⟩) check .firing
      else upsertState db check.key ⟨.pending, newCount, check.rawValue⟩
    else upsertState db check.key ⟨targetState, row.pendingCount, check.rawValue⟩
  else if row.state = targetState || row.state = .pending then
    let recovered := upsertState db check.key ⟨.ok, 0, check.rawValue⟩
    if row.state = targetState && check.notifyRecovery then recordEvent recovered check .resolved else recovered
  else if row.pendingCount ≠ 0 then upsertState db check.key ⟨.ok, 0, check.rawValue⟩
  else db

end StateMachine

section Checks
variable {F : Type} [PythonFloat F] (lower : String → String)

/-- The calls for one measurement: none without a number, else one for each severity that applies. -/
def measurementChecks (rule : EffectiveRule F) (vmData : VmData F) (vm : VmKey) (vmName : String)
    (value : Option (Reading F)) : List (SeverityCheck F) :=
  let check (severity : AlertSeverity) (threshold : Option F) (breached : Bool) : SeverityCheck F :=
    { key := ⟨rule.id, vm, severity⟩
      ruleName := rule.name
      vmName := vmName
      metric := rule.metric
      rawValue := value
      threshold := threshold
      breached := breached
      sustained := rule.sustainedPolls
      notifyRecovery := rule.notifyRecovery
      webhookUrl := rule.webhookUrl
      webhookReceiverType := rule.webhookReceiverType
      vmType := vmData.type
      proxmoxNode := vmData.node }
  let checks (warningBreached criticalBreached : Bool) : List (SeverityCheck F) :=
    (if rule.warningThreshold.isSome then [check .warning rule.warningThreshold warningBreached] else []) ++
      (if rule.criticalThreshold.isSome || rule.metric = .status then
        [check .critical rule.criticalThreshold criticalBreached] else [])
  if rule.metric = .status then checks false (statusTriggered lower value rule.criticalThreshold)
  else
    match value with
    | some (.number value) =>
        checks (thresholdReached value rule.warningThreshold) (thresholdReached value rule.criticalThreshold)
    | _ => []

/-- The state machine runs for every measurement of the rule in turn. -/
def checkRule (rule : EffectiveRule F) (vmData : VmData F) (vm : VmKey) (vmName : String) (db : AlertDb F) : AlertDb F :=
  (extractMetric vmData rule.metric rule.filesystem).foldl (fun db measurement =>
    (measurementChecks lower rule vmData vm vmName measurement.2).foldl processSeverity db) db

/-- A guest without a vmid and a template are skipped. -/
def checkVm (isPlus : Bool) (nodeId : Int) (db : AlertDb F) (vmData : VmData F) : AlertDb F :=
  match vmData.vmid with
  | none => db
  | some vmid =>
      if vmData.template then db
      else ((getEffectiveRules db isPlus ⟨vmid, nodeId⟩).filter fun rule => rule.enabled).foldl
        (fun db rule => checkRule lower rule vmData ⟨vmid, nodeId⟩
          (if vmData.name = "" then vmid else vmData.name) db) db

def checkNode (isPlus : Bool) (nodeId : Int) (vmsData : List (VmData F)) (db : AlertDb F) : AlertDb F :=
  vmsData.foldl (checkVm lower isPlus nodeId) db

end Checks

section Edits
variable {F : Type} [PythonFloat F]

/-- The requests that change rules, presets, assignments and overrides. -/
inductive AlertEdit (F : Type) [PythonFloat F] where
  | createGlobalRule (request : RuleCreateRequest F) (createdBy now : String)
  | updateGlobalRule (ruleId : Int) (updates : GlobalRuleUpdateRequest F) (now : String)
  | deleteGlobalRule (ruleId : Int)
  | createVmRule (vm : VmKey) (request : RuleCreateRequest F) (createdBy now : String)
  | updateVmRule (vm : VmKey) (ruleId : Int) (updates : GlobalRuleUpdateRequest F) (now : String)
  | deleteVmRule (vm : VmKey) (ruleId : Int)
  | createPreset (name : String) (rules : List (RuleCreateRequest F)) (createdBy now : String)
  | updatePreset (presetId : Int) (name : Option String) (rules : Option (List (RuleCreateRequest F)))
      (updatedBy now : String)
  | deletePreset (presetId : Int)
  | assignPreset (presetId : Int) (vm : VmKey)
  | removeAssignment (presetId : Int) (vm : VmKey)
  | updateThresholdOverrides (vm : VmKey) (overrides : List (OverrideRequest F))

variable (isPlus : Bool) (db : AlertDb F)

/-- The router answers 404 for a rule that is not global. -/
def isGlobalRule (ruleId : Int) : Bool :=
  (db.rules.find? fun row => row.id = ruleId).any fun row => row.scope = .global

/-- The router answers 404 or 403 for a rule that does not belong to the guest. -/
def isVmRule (vm : VmKey) (ruleId : Int) : Bool :=
  (db.rules.find? fun row => row.id = ruleId).any fun row =>
    row.scope = .vm && row.vmid = some vm.vmid && row.nodeId = some vm.nodeId

/-- `plus_behavior.filter_alert_notification_fields`, which clears the external channels without Plus. -/
def filterNotificationFields (body : AlertRuleBase F) : AlertRuleBase F :=
  if isPlus then body else { body with webhookUrl := none, webhookToken := none, emailRecipients := none }

/-- The change that the endpoint of the edit makes; a refused request makes none. -/
def accept : AlertEdit F → Option (AlertDb F)
  | .createGlobalRule request createdBy now =>
      some (createRule db .global (filterNotificationFields isPlus request.body) createdBy now)
  | .updateGlobalRule ruleId updates now =>
      if isGlobalRule db ruleId then updateRule db ruleId updates now else none
  | .deleteGlobalRule ruleId => if isGlobalRule db ruleId then some (deleteRule db ruleId) else none
  | .createVmRule vm request createdBy now =>
      some (createRule db (.vm vm) (filterNotificationFields isPlus request.body) createdBy now)
  | .updateVmRule vm ruleId updates now =>
      if isVmRule db vm ruleId then updateRule db ruleId updates now else none
  | .deleteVmRule vm ruleId => if isVmRule db vm ruleId then some (deleteRule db ruleId) else none
  | .createPreset name rules createdBy now =>
      if !isPlus then none
      else
        match nameNotEmpty name with
        | .error _ => none
        | .ok name => createPreset db name (rules.map RuleCreateRequest.body) createdBy now
  | .updatePreset presetId name rules updatedBy now =>
      if !isPlus then none
      else updatePreset db presetId name (rules.map fun rules => rules.map RuleCreateRequest.body) updatedBy now
  | .deletePreset presetId => if !isPlus then none else some (deletePreset db presetId)
  | .assignPreset presetId vm => if !isPlus then none else assignPreset db presetId vm
  | .removeAssignment presetId vm => if !isPlus then none else some (removeAssignment db presetId vm)
  | .updateThresholdOverrides vm overrides =>
      if !isPlus then none else upsertOverrides db vm (overrides.map OverrideRequest.item)

def applyEdit (edit : AlertEdit F) : AlertDb F := (accept isPlus db edit).getD db

end Edits

section Histories
variable {F : Type} [PythonFloat F] (lower : String → String) (isPlus : Bool)

/-- A history alternates edits and whole polls. -/
inductive AlertStep (F : Type) [PythonFloat F] where
  | edit (edit : AlertEdit F)
  | poll (nodeId : Int) (vmsData : List (VmData F))

def alertStep (db : AlertDb F) : AlertStep F → AlertDb F
  | .edit edit => applyEdit isPlus db edit
  | .poll nodeId vmsData => checkNode lower isPlus nodeId vmsData db

/-- The calls that the check of a rule makes, in order. -/
def ruleChecks (rule : EffectiveRule F) (vmData : VmData F) (vm : VmKey) (vmName : String) : List (SeverityCheck F) :=
  (extractMetric vmData rule.metric rule.filesystem).flatMap fun measurement =>
    measurementChecks lower rule vmData vm vmName measurement.2

/-- The calls that the check of a guest makes. The rules are read once, before the first call. -/
def vmChecks (db : AlertDb F) (nodeId : Int) (vmData : VmData F) : List (SeverityCheck F) :=
  match vmData.vmid with
  | none => []
  | some vmid =>
      if vmData.template then []
      else ((getEffectiveRules db isPlus ⟨vmid, nodeId⟩).filter fun rule => rule.enabled).flatMap fun rule =>
        ruleChecks lower rule vmData ⟨vmid, nodeId⟩ (if vmData.name = "" then vmid else vmData.name)

/-- A poll in progress keeps the guests and the calls that are still to come. -/
structure Polling (F : Type) where
  db : AlertDb F
  vms : List (Int × VmData F) := []
  checks : List (SeverityCheck F) := []

/-- Edits happen between any two calls of a poll. -/
inductive PollingStep (F : Type) [PythonFloat F] where
  | edit (edit : AlertEdit F)
  | start (nodeId : Int) (vmsData : List (VmData F))
  | nextVm
  | nextCheck

/-- A poll starts only when the one before is done. -/
def pollingStep (state : Polling F) : PollingStep F → Polling F
  | .edit edit => { state with db := applyEdit isPlus state.db edit }
  | .start nodeId vmsData =>
      if state.vms.isEmpty && state.checks.isEmpty then
        { state with vms := vmsData.map fun vmData => (nodeId, vmData) }
      else state
  | .nextVm =>
      match state.checks, state.vms with
      | [], (nodeId, vmData) :: rest =>
          { state with vms := rest, checks := vmChecks lower isPlus state.db nodeId vmData }
      | _, _ => state
  | .nextCheck =>
      match state.checks with
      | check :: rest => { state with db := processSeverity state.db check, checks := rest }
      | [] => state

end Histories
end P3Portal.Alerts
