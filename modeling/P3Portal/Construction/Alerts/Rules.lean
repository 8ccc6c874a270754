import Mathlib.Data.List.Sort
import P3Portal.Foundation.OrderedMap
import P3Portal.Foundation.PythonNumber
import P3Portal.Foundation.PythonText

namespace P3Portal.Alerts
open Foundation

inductive AlertMetric where
  | cpuPercent
  | memPercent
  | diskPercent
  | status
  deriving DecidableEq

inductive AlertScope where
  | global
  | preset
  | vm
  deriving DecidableEq

inductive AlertSeverity where
  | warning
  | critical
  deriving DecidableEq

/-- These states pass the check constraint of `alert_states`. -/
inductive AlertState where
  | ok
  | pending
  | warning
  | pendingCritical
  | critical
  deriving DecidableEq

/-- A guest is known to the alerts by its vmid as a text and by the id of its portal node. -/
structure VmKey where
  vmid : String
  nodeId : Int
  deriving DecidableEq

/-- The body of a request that creates a rule. -/
structure AlertRuleBase (F : Type) where
  name : String
  metric : AlertMetric
  warningThreshold : Option F := none
  criticalThreshold : Option F := none
  sustainedPolls : Int := 1
  enabled : Bool := true
  notifyRecovery : Bool := true
  filesystem : Option String := none
  webhookUrl : Option String := none
  webhookToken : Option String := none
  webhookReceiverType : Option String := some "custom"
  webhookVerifySsl : Bool := true
  emailRecipients : Option String := none
  deriving DecidableEq

/-- A token that `config_service.encrypt_secret` has made unreadable outside the portal. The database has no column
for the URL, which records the receiver that the rule had when a request supplied the token. -/
structure EncryptedToken where
  plain : String
  storedFor : Option String
  deriving DecidableEq

/-- A rule. A row of `alert_rules` keeps its thresholds as JSON texts, and the service hands it out with
decoded ones and without the token and the TLS switch, which its queries do not read. -/
structure AlertRule (Threshold : Type) where
  id : Int
  scope : AlertScope
  presetId : Option Int := none
  vmid : Option String := none
  nodeId : Option Int := none
  name : String
  metric : AlertMetric
  warningThreshold : Option Threshold := none
  criticalThreshold : Option Threshold := none
  sustainedPolls : Int := 1
  enabled : Bool := true
  notifyRecovery : Bool := true
  filesystem : Option String := none
  webhookUrl : Option String := none
  webhookToken : Option EncryptedToken := none
  webhookReceiverType : Option String := some "custom"
  webhookVerifySsl : Option Bool := none
  emailRecipients : Option String := none
  createdBy : String := ""
  createdAt : String := ""
  updatedAt : String := ""
  deriving DecidableEq

/-- An update leaves a column out, sends null for it or sends a value. -/
abbrev Sent (Column : Type) := Option (Option Column)

/-- A column that must not be null keeps its value or takes a new one; null fails. -/
def Sent.required {Column : Type} (sent : Sent Column) (stored : Column) : Option Column := sent.getD (some stored)

/-- The body of a request that changes a rule, without any check. -/
structure GlobalRuleUpdateRequest (F : Type) where
  name : Sent String := none
  metric : Sent AlertMetric := none
  warningThreshold : Sent F := none
  criticalThreshold : Sent F := none
  sustainedPolls : Sent Int := none
  enabled : Sent Bool := none
  notifyRecovery : Sent Bool := none
  filesystem : Sent String := none
  webhookUrl : Sent String := none
  webhookToken : Sent String := none
  webhookReceiverType : Sent String := none
  webhookVerifySsl : Sent Bool := none
  emailRecipients : Sent String := none
  deriving DecidableEq

structure ThresholdOverrideItem (F : Type) where
  ruleId : Int
  warningThreshold : Option F := none
  criticalThreshold : Option F := none
  deriving DecidableEq

section Validation
variable {F : Type} [PythonFloat F]

def nameNotEmpty (name : String) : Except String String :=
  if Text.strip name = "" then .error "name must not be empty" else .ok (Text.strip name)

def sustainedPollsPositive (sustainedPolls : Int) : Except String Int :=
  if sustainedPolls < 1 then .error "sustained_polls must be >= 1" else .ok sustainedPolls

/-- The warning threshold is at least the critical one. -/
def warningReaches (warning critical : Option F) : Bool :=
  match warning, critical with
  | some warning, some critical => PythonFloat.ge warning critical
  | _, _ => false

/-- The thresholds are checked in this order for their metric. -/
def checkThresholds (metric : AlertMetric) (warning critical : Option F) : Except String Unit :=
  if warning.isNone && critical.isNone then
    .error "At least one of warning_threshold or critical_threshold must be set"
  else if warningReaches warning critical then .error "warning_threshold must be less than critical_threshold"
  else if metric = .status && warning.isSome then .error "warning_threshold is not supported for metric 'status'"
  else .ok ()

/-- The fields are validated before the model. -/
def validateThresholds (body : AlertRuleBase F) : Except String (AlertRuleBase F) := do
  checkThresholds body.metric body.warningThreshold body.criticalThreshold
  return body

def validate (body : AlertRuleBase F) : Except String (AlertRuleBase F) := do
  let name ← nameNotEmpty body.name
  let sustainedPolls ← sustainedPollsPositive body.sustainedPolls
  validateThresholds { body with name := name, sustainedPolls := sustainedPolls }

/-- Only a body that passed its validation reaches the handler of a creation. -/
structure RuleCreateRequest (F : Type) [PythonFloat F] where
  body : AlertRuleBase F
  accepted : ∃ sent : AlertRuleBase F, validate sent = .ok body

def atLeastOne (item : ThresholdOverrideItem F) : Except String (ThresholdOverrideItem F) :=
  if item.warningThreshold.isNone && item.criticalThreshold.isNone then
    .error "At least one threshold must be provided for an override"
  else .ok item

/-- Only an item that passed its validation reaches the handler of the overrides. -/
structure OverrideRequest (F : Type) where
  item : ThresholdOverrideItem F
  accepted : atLeastOne item = .ok item

end Validation
end P3Portal.Alerts
