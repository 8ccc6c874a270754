import P3Portal.Construction.Alerts.Rules
import P3Portal.Foundation.Alarm

namespace P3Portal.Alerts
open Foundation

structure AlertPreset where
  id : Int
  name : String
  deriving DecidableEq

structure PresetAssignment where
  presetId : Int
  vm : VmKey
  deriving DecidableEq

structure ThresholdOverride (Threshold : Type) where
  id : Int
  ruleId : Int
  vm : VmKey
  warningThreshold : Option Threshold := none
  criticalThreshold : Option Threshold := none
  deriving DecidableEq

/-- A measurement is a number, or a text for the status. -/
inductive Reading (F : Type) where
  | number (value : F)
  | text (status : String)
  deriving DecidableEq

/-- The unique key of `alert_states`. -/
structure StateKey where
  ruleId : Int
  vm : VmKey
  severity : AlertSeverity
  deriving DecidableEq

structure StateRow (F : Type) where
  state : AlertState := .ok
  pendingCount : Nat := 0
  lastValue : Option (Reading F) := none
  deriving DecidableEq

abbrev AlertEventState := Signal

structure AlertEvent (F : Type) where
  ruleId : Option Int
  ruleName : String
  vm : VmKey
  vmName : String
  vmType : String
  proxmoxNode : String
  metric : AlertMetric
  value : Option (Reading F)
  threshold : Option F
  severity : AlertSeverity
  state : AlertEventState
  deriving DecidableEq

/-- The tables of the alerts. The events are only appended. -/
structure AlertDb (F : Type) where
  rules : List (AlertRule String) := []
  presets : List AlertPreset := []
  assignments : List PresetAssignment := []
  overrides : List (ThresholdOverride String) := []
  states : OrderedMap StateKey (StateRow F) := .empty
  events : List (AlertEvent F) := []

variable {F : Type} [PythonFloat F] (db : AlertDb F)

def encodeThreshold (value : Option F) : Option String := value.map PythonFloat.dumps

/-- A text that is no JSON is read as no threshold. -/
def decodeThreshold (raw : Option String) : Option F := raw.bind PythonFloat.loads

def rowToRule (row : AlertRule String) : AlertRule F :=
  { row with
    warningThreshold := decodeThreshold row.warningThreshold
    criticalThreshold := decodeThreshold row.criticalThreshold
    webhookToken := none
    webhookVerifySsl := none }

def orderByCreatedAt (rows : List (AlertRule String)) : List (AlertRule String) :=
  rows.insertionSort fun left right => left.createdAt ≤ right.createdAt

def listGlobalRules : List (AlertRule F) :=
  (orderByCreatedAt (db.rules.filter fun row => row.scope = .global)).map rowToRule

def listPresetRules (presetId : Int) : List (AlertRule F) :=
  (orderByCreatedAt (db.rules.filter fun row => row.scope = .preset && row.presetId = some presetId)).map rowToRule

def listVmRules (vm : VmKey) : List (AlertRule F) :=
  (orderByCreatedAt (db.rules.filter fun row =>
    row.scope = .vm && row.nodeId = some vm.nodeId && row.vmid = some vm.vmid)).map rowToRule

def getRuleById (ruleId : Int) : Option (AlertRule F) :=
  (db.rules.find? fun row => row.id = ruleId).map rowToRule

def nextRuleId : Int := (db.rules.map AlertRule.id).foldl max 0 + 1

/-- A rule is global, belongs to a preset or belongs to a guest. -/
inductive RulePlace where
  | global
  | preset (presetId : Int)
  | vm (vm : VmKey)
  deriving DecidableEq

/-- A request that sends a token has it encrypted; an empty one is no token. -/
def encryptToken (token : Option String) (webhookUrl : Option String) : Option EncryptedToken :=
  (Text.truthy token).map fun plain => ⟨plain, webhookUrl⟩

def newRow (id : Int) (place : RulePlace) (body : AlertRuleBase F) (createdBy now : String) : AlertRule String where
  id := id
  scope := match place with
    | .global => .global
    | .preset _ => .preset
    | .vm _ => .vm
  presetId := match place with
    | .preset presetId => some presetId
    | _ => none
  vmid := match place with
    | .vm vm => some vm.vmid
    | _ => none
  nodeId := match place with
    | .vm vm => some vm.nodeId
    | _ => none
  name := body.name
  metric := body.metric
  warningThreshold := encodeThreshold body.warningThreshold
  criticalThreshold := encodeThreshold body.criticalThreshold
  sustainedPolls := body.sustainedPolls
  enabled := body.enabled
  notifyRecovery := body.notifyRecovery
  filesystem := body.filesystem
  webhookUrl := body.webhookUrl
  webhookToken := encryptToken body.webhookToken body.webhookUrl
  webhookReceiverType := some (Text.orElse body.webhookReceiverType "custom")
  webhookVerifySsl := some body.webhookVerifySsl
  emailRecipients := body.emailRecipients
  createdBy := createdBy
  createdAt := now
  updatedAt := now

def createRule (place : RulePlace) (body : AlertRuleBase F) (createdBy now : String) : AlertDb F :=
  { db with rules := db.rules ++ [newRow (nextRuleId db) place body createdBy now] }

/-- The columns that an update sends replace the stored ones; null fails where the column must not be null. The
time of the update is written even when it sends nothing. -/
def patchRow (updates : GlobalRuleUpdateRequest F) (now : String) (row : AlertRule String) :
    Option (AlertRule String) := do
  let name ← updates.name.required row.name
  let metric ← updates.metric.required row.metric
  let sustainedPolls ← updates.sustainedPolls.required row.sustainedPolls
  return { row with
    name := name
    metric := metric
    sustainedPolls := sustainedPolls
    warningThreshold := (updates.warningThreshold.map encodeThreshold).getD row.warningThreshold
    criticalThreshold := (updates.criticalThreshold.map encodeThreshold).getD row.criticalThreshold
    enabled := (updates.enabled.map (·.getD false)).getD row.enabled
    notifyRecovery := (updates.notifyRecovery.map (·.getD false)).getD row.notifyRecovery
    filesystem := updates.filesystem.getD row.filesystem
    webhookUrl := updates.webhookUrl.getD row.webhookUrl
    webhookToken := (encryptToken updates.webhookToken.join (updates.webhookUrl.getD row.webhookUrl)).or row.webhookToken
    webhookReceiverType := updates.webhookReceiverType.getD row.webhookReceiverType
    webhookVerifySsl := (updates.webhookVerifySsl.map fun sent => some (sent.getD false)).getD row.webhookVerifySsl
    emailRecipients := updates.emailRecipients.getD row.emailRecipients
    updatedAt := now }

def updateRule (ruleId : Int) (updates : GlobalRuleUpdateRequest F) (now : String) : Option (AlertDb F) := do
  let row ← db.rules.find? fun row => row.id = ruleId
  let patched ← patchRow updates now row
  return { db with rules := db.rules.map fun row => if row.id = ruleId then patched else row }

/-- The deletion of rules takes their overrides and states along, and the events lose their reference. -/
def deleteRules (gone : AlertRule String → Bool) : AlertDb F :=
  let ids := (db.rules.filter gone).map AlertRule.id
  { db with
    rules := db.rules.filter fun row => !gone row
    overrides := db.overrides.filter fun row => row.ruleId ∉ ids
    states := db.states.filter fun key _ => key.ruleId ∉ ids
    events := db.events.map fun event => { event with ruleId := event.ruleId.filter (· ∉ ids) } }

def deleteRule (ruleId : Int) : AlertDb F := deleteRules db fun row => row.id = ruleId

def nextPresetId : Int := (db.presets.map AlertPreset.id).foldl max 0 + 1

def createRules (place : RulePlace) (bodies : List (AlertRuleBase F)) (createdBy now : String) : AlertDb F :=
  bodies.foldl (fun db body => createRule db place body createdBy now) db

/-- The name of a preset is unique. -/
def createPreset (name : String) (rules : List (AlertRuleBase F)) (createdBy now : String) : Option (AlertDb F) :=
  if db.presets.any fun preset => preset.name = name then none
  else
    let presetId := nextPresetId db
    some (createRules { db with presets := db.presets ++ [⟨presetId, name⟩] } (.preset presetId) rules createdBy now)

/-- The rule of a preset whose token is kept under a name and a metric; of several the last one counts. -/
def tokenRule (presetId : Int) (name : String) (metric : AlertMetric) : Option (AlertRule String) :=
  (db.rules.reverse.filter fun row => row.scope = .preset && row.presetId = some presetId && row.webhookToken.isSome).find?
    fun row => row.name = name && row.metric = metric

def existingTokens (presetId : Int) (name : String) (metric : AlertMetric) : Option EncryptedToken :=
  (tokenRule db presetId name metric).bind AlertRule.webhookToken

def setToken (ruleId : Int) (token : EncryptedToken) : AlertDb F :=
  { db with rules := db.rules.map fun row => if row.id = ruleId then { row with webhookToken := some token } else row }

/-- A rule without a new token takes over the token that was stored under its name and metric. -/
def recreateRule (tokens : String → AlertMetric → Option EncryptedToken) (presetId : Int) (updatedBy now : String)
    (db : AlertDb F) (body : AlertRuleBase F) : AlertDb F :=
  let created := createRule db (.preset presetId) body updatedBy now
  if (Text.truthy body.webhookToken).isSome then created
  else (tokens body.name body.metric).elim created (setToken created (nextRuleId db))

def recreateRules (tokens : String → AlertMetric → Option EncryptedToken) (presetId : Int)
    (bodies : List (AlertRuleBase F)) (updatedBy now : String) : AlertDb F :=
  bodies.foldl (recreateRule tokens presetId updatedBy now) db

/-- The rules of the preset are replaced as a whole when the request sends rules. -/
def updatePreset (presetId : Int) (name : Option String) (rules : Option (List (AlertRuleBase F)))
    (updatedBy now : String) : Option (AlertDb F) :=
  if !(db.presets.any fun preset => preset.id = presetId) then none
  else if name.any fun name => db.presets.any fun preset => preset.name = name && preset.id ≠ presetId then none
  else
    let named := { db with presets := db.presets.map fun preset =>
      if preset.id = presetId then { preset with name := name.getD preset.name } else preset }
    match rules with
    | none => some named
    | some rules => some (recreateRules
        (deleteRules named fun row => row.scope = .preset && row.presetId = some presetId)
        (existingTokens db presetId) presetId rules updatedBy now)

def deletePreset (presetId : Int) : AlertDb F :=
  { deleteRules db (fun row => row.presetId = some presetId) with
    presets := db.presets.filter fun preset => preset.id ≠ presetId
    assignments := db.assignments.filter fun assignment => assignment.presetId ≠ presetId }

/-- The states of the guest are reset so that they are evaluated again. -/
def resetStates (vm : VmKey) : OrderedMap StateKey (StateRow F) := db.states.filter fun key _ => key.vm ≠ vm

def assignPreset (presetId : Int) (vm : VmKey) : Option (AlertDb F) :=
  if !(db.presets.any fun preset => preset.id = presetId) then none
  else some { db with
    assignments := (db.assignments.filter fun assignment => assignment.vm ≠ vm) ++ [⟨presetId, vm⟩]
    states := resetStates db vm }

/-- The states are reset even when there was nothing to remove. -/
def removeAssignment (presetId : Int) (vm : VmKey) : AlertDb F :=
  { db with
    assignments := db.assignments.filter fun assignment => !(assignment.presetId = presetId && assignment.vm = vm)
    states := resetStates db vm }

/-- The rules of the preset that is assigned to the guest. -/
def getVmPreset (vm : VmKey) : Option (List (AlertRule F)) := do
  let assignment ← db.assignments.find? fun assignment => assignment.vm = vm
  let preset ← db.presets.find? fun preset => preset.id = assignment.presetId
  return listPresetRules db preset.id

def rowToOverride (row : ThresholdOverride String) : ThresholdOverride F :=
  { row with
    warningThreshold := decodeThreshold row.warningThreshold
    criticalThreshold := decodeThreshold row.criticalThreshold }

def listOverrides (vm : VmKey) : List (ThresholdOverride F) :=
  (db.overrides.filter fun row => row.vm = vm).map rowToOverride

def newOverride (vm : VmKey) (id : Int) (item : ThresholdOverrideItem F) : ThresholdOverride String :=
  ⟨id, item.ruleId, vm, encodeThreshold item.warningThreshold, encodeThreshold item.criticalThreshold⟩

def nextOverrideId (rows : List (ThresholdOverride String)) : Int :=
  (rows.map ThresholdOverride.id).foldl max 0 + 1

/-- The inserted rows are numbered in their order. -/
def insertOverrides (vm : VmKey) : Int → List (ThresholdOverrideItem F) → List (ThresholdOverride String)
  | _, [] => []
  | id, item :: rest => newOverride vm id item :: insertOverrides vm (id + 1) rest

/-- All overrides of the guest are replaced by new rows. A rule that does not exist or occurs twice fails. -/
def upsertOverrides (vm : VmKey) (overrides : List (ThresholdOverrideItem F)) : Option (AlertDb F) :=
  let ids := overrides.map ThresholdOverrideItem.ruleId
  if ids.Nodup && ids.all (fun ruleId => db.rules.any fun row => row.id = ruleId) then
    let kept := db.overrides.filter fun row => row.vm ≠ vm
    some { db with overrides := kept ++ insertOverrides vm (nextOverrideId kept) overrides }
  else none

/-- A rule as it applies to a guest. -/
structure EffectiveRule (F : Type) extends AlertRule F where
  source : AlertScope
  overrideApplied : Bool := false
  deriving DecidableEq

/-- An override replaces the thresholds that it sets. -/
def overridden (override : ThresholdOverride F) (rule : AlertRule F) : AlertRule F :=
  { rule with
    warningThreshold := override.warningThreshold.or rule.warningThreshold
    criticalThreshold := override.criticalThreshold.or rule.criticalThreshold }

/-- The last override of a rule wins in the map of the overrides. -/
def withOverrides (overrides : List (ThresholdOverride F)) (rule : AlertRule F) : EffectiveRule F :=
  match overrides.reverse.find? fun override => override.ruleId = rule.id with
  | none => { toAlertRule := rule, source := .preset }
  | some override =>
      { toAlertRule := overridden override rule
        source := .preset
        overrideApplied := override.warningThreshold.isSome || override.criticalThreshold.isSome }

abbrev Effective (F : Type) := OrderedMap AlertMetric (EffectiveRule F)

/-- The first enabled global rule of a metric counts. -/
def layerGlobal (effective : Effective F) (rule : AlertRule F) : Effective F :=
  if !rule.enabled || (effective.get? rule.metric).isSome then effective
  else effective.set rule.metric { toAlertRule := rule, source := .global }

def layerPreset (overrides : List (ThresholdOverride F)) (effective : Effective F) (rule : AlertRule F) : Effective F :=
  if !rule.enabled then effective else effective.set rule.metric (withOverrides overrides rule)

def layerVm (effective : Effective F) (rule : AlertRule F) : Effective F :=
  if !rule.enabled then effective else effective.set rule.metric { toAlertRule := rule, source := .vm }

/-- The layers are written over each other, from the global rules to those of the guest. -/
def mergeLayers (isPlus : Bool) (vm : VmKey) : Effective F :=
  let preset := if isPlus then getVmPreset db vm else none
  let overrides := if isPlus && preset.isSome then listOverrides db vm else []
  let global := (listGlobalRules db).foldl layerGlobal .empty
  let assigned := (preset.getD []).foldl (layerPreset overrides) global
  (listVmRules db vm).foldl layerVm assigned

def getEffectiveRules (isPlus : Bool) (vm : VmKey) : List (EffectiveRule F) :=
  (mergeLayers db isPlus vm).entries.map Prod.snd

end P3Portal.Alerts
