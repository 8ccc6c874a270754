import P3Portal.Construction.Access.ClusterViews
import P3Portal.Construction.Access.Resolver
import P3Portal.Construction.Alerts.Check
import P3Portal.Construction.Alerts.RuleService
import P3Portal.Construction.Auth.CurrentUser
import P3Portal.Foundation.Ranking

namespace P3Portal.Alerts
open Schema Foundation Auth Access

/-- The text of a metric in the database and in a query. -/
def AlertMetric.text : AlertMetric → String
  | .cpuPercent => "cpu_percent"
  | .memPercent => "mem_percent"
  | .diskPercent => "disk_percent"
  | .status => "status"

def signalText : AlertEventState → String
  | .firing => "firing"
  | .resolved => "resolved"

/-- The service stamps each event with the current time as a text, which is never empty. -/
abbrev Timestamp := { text : String // text ≠ "" }

/-- A row of `alert_events`. The database keeps the value and the threshold as JSON texts. -/
structure EventRow (Value : Type) where
  id : Int
  ruleId : Option Int
  ruleName : String
  vmid : String
  nodeId : Option Int
  vmName : Option String := none
  metric : AlertMetric
  value : Option Value := none
  threshold : Option Value := none
  severity : AlertSeverity
  state : AlertEventState
  timestamp : Timestamp
  deriving DecidableEq

/-- A row of `alert_states` with its identifier and its times. -/
structure StateEntry (Value : Type) where
  id : Int
  ruleId : Int
  vmid : String
  nodeId : Int
  severity : AlertSeverity
  state : AlertState := .ok
  pendingCount : Nat := 0
  lastValue : Option Value := none
  lastCheckedAt : Option String := none
  lastChangedAt : Option String := none
  deriving DecidableEq

structure Acknowledgement where
  alertEventId : Int
  username : String
  deriving DecidableEq

/-- The tables that the alert views read. -/
structure ViewTables where
  rules : List (AlertRule String) := []
  states : List (StateEntry String) := []
  events : List (EventRow String) := []
  acknowledgements : List Acknowledgement := []

/-- A state joined with its rule and its latest event. -/
structure AlertStateResponse (Value : Type) extends StateEntry Value where
  ruleName : String
  metric : AlertMetric
  lastEventId : Option Int
  deriving DecidableEq

structure AlertEventResponse (Value : Type) where
  event : EventRow Value
  acknowledgedBy : List String
  deriving DecidableEq

/-- The query of the events endpoint; the endpoint rejects other limits. -/
structure EventQuery where
  vmid : Option String := none
  ruleId : Option Int := none
  metric : Option String := none
  state : Option String := none
  since : Option String := none
  untilTime : Option String := none
  limit : Nat := 200
  positive : 1 ≤ limit := by decide
  bounded : limit ≤ 1000 := by decide

section
variable (tables : ViewTables)

/-- The latest event of the rule, the guest and the severity of a state. -/
def lastEventId (entry : StateEntry String) : Option Int :=
  ((tables.events.filter fun event => event.ruleId = some entry.ruleId && event.vmid = entry.vmid &&
    event.nodeId = some entry.nodeId && event.severity = entry.severity).map EventRow.id).max?

def isActive (entry : StateEntry String) : Bool := entry.state = .warning || entry.state = .critical

/-- An empty name acknowledges nothing. -/
def acknowledgedLast (username : Option String) (entry : StateEntry String) : Bool :=
  (Text.truthy username).any fun username => tables.acknowledgements.any fun acknowledgement =>
    acknowledgement.username = username && sqlEq (some acknowledgement.alertEventId) (lastEventId tables entry)

def stateConditions (username : Option String) (activeOnly : Bool) (entry : StateEntry String) : Bool :=
  (!activeOnly || isActive entry) && !acknowledgedLast tables username entry

/-- The latest change is the key of the states; a missing time comes last. -/
def stateKey (entry : StateEntry String) : WithBot String := entry.lastChangedAt

/-- `alert_rule_service.list_alert_states`; the flag of the administrator is not read. -/
def listAlertStates {Value : Type} (loads : String → Option Value) (sorter : Sorter stateKey)
    (username : Option String) (_isAdmin : Bool) (activeOnly : Bool) : List (AlertStateResponse Value) :=
  (sorter.order (tables.states.filter fun entry => stateConditions tables username activeOnly entry &&
    tables.rules.any fun rule => rule.id = entry.ruleId)).flatMap fun entry =>
      (tables.rules.filter fun rule => rule.id = entry.ruleId).map fun rule =>
        { entry with
          lastValue := entry.lastValue.bind loads
          ruleName := rule.name
          metric := rule.metric
          lastEventId := lastEventId tables entry }

/-- A filter that is missing, empty or zero asks for nothing. -/
def EventQuery.admits {Value : Type} (query : EventQuery) (event : EventRow Value) : Bool :=
  (Text.truthy query.vmid).all (event.vmid = ·) &&
    (query.ruleId.filter (· ≠ 0)).all (event.ruleId = some ·) &&
    (Text.truthy query.metric).all (event.metric.text = ·) &&
    (Text.truthy query.state).all (signalText event.state = ·) &&
    (Text.truthy query.since).all (· ≤ event.timestamp.val) &&
    (Text.truthy query.untilTime).all (event.timestamp.val ≤ ·)

def decodeEvent {Value : Type} (loads : String → Option Value) (row : EventRow String) : EventRow Value :=
  { row with
    value := row.value.bind loads
    threshold := row.threshold.bind loads }

def acknowledgedBy (eventId : Int) : List String :=
  (tables.acknowledgements.filter fun acknowledgement => acknowledgement.alertEventId = eventId).map
    Acknowledgement.username

/-- `alert_rule_service.list_alert_events` -/
def listAlertEvents {Value : Type} (loads : String → Option Value)
    (sorter : Sorter (EventRow.timestamp : EventRow String → Timestamp)) (query : EventQuery)
    (allowedVmids : Option (List String)) : List (AlertEventResponse Value) :=
  if allowedVmids.any List.isEmpty then []
  else (sorter.select query.limit (tables.events.filter fun event =>
    allowedVmids.all (·.contains event.vmid) && query.admits event)).map fun row =>
      ⟨decodeEvent loads row, acknowledgedBy tables row.id⟩

/-- The endpoint restricts the events by the numbers of the direct assignments, and by nothing when there are none. -/
def allowedVmids (db : Database) (currentUser : CurrentUser) : Option (List String) :=
  if currentUser.authType ≠ .proxmox && currentUser.role ≠ .admin && currentUser.role ≠ .operator then
    (getUserByUsername db currentUser.username).bind fun user =>
      if hasAnyAssignments db user.id then
        some ((getUserPermissions db user.id).map fun permission => toString permission.resourceId)
      else none
  else none

def alertStatesEndpoint {Value : Type} (loads : String → Option Value) (sorter : Sorter stateKey)
    (currentUser : CurrentUser) : List (AlertStateResponse Value) :=
  listAlertStates tables loads sorter (some currentUser.username) (currentUser.role = .admin) true

def alertEventsEndpoint {Value : Type} (db : Database) (loads : String → Option Value)
    (sorter : Sorter (EventRow.timestamp : EventRow String → Timestamp)) (query : EventQuery)
    (currentUser : CurrentUser) : List (AlertEventResponse Value) :=
  listAlertEvents tables loads sorter query (allowedVmids db currentUser)
end

section
variable {F : Type} [PythonFloat F]

/-- The requests that change the alerting of one guest. -/
inductive VmAlertRequest (F : Type) [PythonFloat F] where
  | createRule (request : RuleCreateRequest F) (now : String)
  | updateRule (ruleId : Int) (updates : GlobalRuleUpdateRequest F) (now : String)
  | deleteRule (ruleId : Int)
  | updateOverrides (overrides : List (OverrideRequest F))

/-- The endpoints ask for a current user, whose name is noted with a new rule, and ask the resolver nothing. -/
def VmAlertRequest.edit (currentUser : CurrentUser) (vm : VmKey) : VmAlertRequest F → AlertEdit F
  | createRule request now => .createVmRule vm request currentUser.username now
  | updateRule ruleId updates now => .updateVmRule vm ruleId updates now
  | deleteRule ruleId => .deleteVmRule vm ruleId
  | updateOverrides overrides => .updateThresholdOverrides vm overrides

/-- The alerts after a request of a user for a guest. -/
def handleVmAlert (isPlus : Bool) (currentUser : CurrentUser) (vm : VmKey) (alerts : AlertDb F)
    (request : VmAlertRequest F) : AlertDb F :=
  applyEdit isPlus alerts (request.edit currentUser vm)

structure VmAlertSummary (F : Type) where
  vm : VmKey
  preset : Option (List (AlertRule F))
  vmRules : List (AlertRule F)
  effectiveRules : List (EffectiveRule F)
  overrides : List (ThresholdOverride F)

/-- The summary is the same for every user. -/
def getVmAlertSummary (isPlus : Bool) (_currentUser : CurrentUser) (alerts : AlertDb F) (vm : VmKey) :
    VmAlertSummary F where
  vm := vm
  preset := if isPlus then getVmPreset alerts vm else none
  vmRules := listVmRules alerts vm
  effectiveRules := getEffectiveRules alerts isPlus vm
  overrides := if isPlus then listOverrides alerts vm else []
end
end P3Portal.Alerts
