import P3Portal.Construction.Alerts.Webhooks
import P3Portal.Foundation.PythonDate

namespace P3Portal.Alerts
open Foundation

/-- A time in UTC. -/
structure UtcTime where
  date : Date
  hour : Nat
  minute : Nat
  second : Nat
  microsecond : Nat
  deriving DecidableEq

/-- `_format_ts` of the text that `isoformat` makes of the time. -/
def formatTs (time : UtcTime) : String :=
  String.ofList (Date.twoDigits time.date.day ++ '.' :: Date.twoDigits time.date.month ++ '.' ::
    Date.fourDigits time.date.year ++ ' ' :: Date.twoDigits time.hour ++ ':' :: Date.twoDigits time.minute)

section Payloads

def AlertMetric.label : AlertMetric → String
  | .cpuPercent => "CPU"
  | .memPercent => "RAM"
  | .diskPercent => "Disk"
  | .status => "Status"

def AlertSeverity.label : AlertSeverity → String
  | .critical => "Kritisch"
  | .warning => "Warnung"

def stateLabel : AlertEventState → String
  | .firing => "Ausgelöst"
  | .resolved => "Behoben"

/-- The payload of P3 itself; the payload of a test is marked. -/
structure AlertPayload (F : Type) where
  test : Bool := false
  alert : String
  vm : String
  metric : AlertMetric
  value : Option (Reading F)
  threshold : Option F
  severity : AlertSeverity
  state : AlertEventState
  timestamp : UtcTime
  eventId : Nat
  deriving DecidableEq

/-- The body of a request in the shape of its receiver. -/
inductive WebhookBody (F : Type) where
  | native (payload : AlertPayload F)
  | gotify (title message : String) (priority : Nat)
  | ntfy (title message : String) (priority : Nat) (tags : List String)
  | slack (color title text footer : String)
  | discord (title description : String) (color : Nat) (footer : String)
  deriving DecidableEq

variable {F : Type} [PythonFloat F] (fixed : F → String) (payload : AlertPayload F)

/-- A number is written with one decimal place. Only the status is a text. -/
def formatValue (metric : AlertMetric) : Option (Reading F) → String
  | none => "N/A"
  | some value =>
      if metric = .status then value.str
      else
        match value with
        | .number number => fixed number ++ "%"
        | .text text => text

def AlertPayload.alertName : String := Text.orElse (some payload.alert) "P3 Portal Alert"

/-- The adapters tell a test, a recovery, a critical alert and any other alert apart. -/
def AlertPayload.graded {A : Type} (test resolved critical other : A) : A :=
  if payload.test then test
  else if payload.state = .resolved then resolved
  else if payload.severity = .critical then critical
  else other

def AlertPayload.title (resolved : String) : String :=
  payload.graded "[P3 Test] " resolved "[P3 Alert] " "[P3 Alert] " ++ payload.alertName

/-- The lines of a message. Slack and Discord set the labels in bold and label the severity and the time too. -/
def AlertPayload.message (bold : Option String) : String :=
  let marked (label : String) : String := bold.getD "" ++ label ++ ":" ++ bold.getD "" ++ " "
  let named (label : String) : String := if bold.isSome then marked label else ""
  let limit := match payload.threshold with
    | some threshold => " (Grenzwert: " ++ formatValue fixed payload.metric (some (.number threshold)) ++ ")"
    | none => ""
  let lines :=
    (if payload.vm ≠ "" && !payload.test then [marked "VM" ++ payload.vm] else []) ++
      [marked payload.metric.label ++ formatValue fixed payload.metric payload.value ++ limit,
        named "Schweregrad" ++ payload.severity.label ++ " · " ++ stateLabel payload.state,
        named "Zeit" ++ formatTs payload.timestamp]
  Text.orElse (some (String.intercalate "\n" lines)) "P3 Portal notification"

/-- An alert of Gotify names its guest in the title. -/
def toGotifyPayload : WebhookBody F :=
  let guest := if payload.vm = "" then "" else " – " ++ payload.vm
  .gotify (payload.title "[P3 Behoben] " ++ payload.graded "" "" guest guest) (payload.message fixed none)
    (payload.graded 2 3 8 5)

def toNtfyPayload : WebhookBody F :=
  .ntfy (payload.title "[P3 Behoben] ") (payload.message fixed none) (payload.graded 2 3 5 4)
    (payload.graded ["white_check_mark"] ["green_circle"] ["rotating_light"] ["warning"])

def toSlackPayload : WebhookBody F :=
  .slack (payload.graded "#808080" "#36a64f" "#dc2626" "#f59e0b") (payload.title "[P3 Behoben] ")
    (payload.message fixed (some "*")) "P3 Portal"

def toDiscordPayload : WebhookBody F :=
  .discord (payload.title "[P3 Resolved] ") (payload.message fixed (some "**"))
    (payload.graded 8421504 3066993 15158332 16753920) "P3 Portal"

/-- The body of `adapt_webhook_request`. A URL that looks like one of Gotify counts before the receiver type. -/
def adaptBody (checkNetloc : List Char → Except String Unit) (url receiverType : String) : WebhookBody F :=
  if receiverType = "gotify" || isGotifyUrl checkNetloc url then toGotifyPayload fixed payload
  else if receiverType = "ntfy" then toNtfyPayload fixed payload
  else if receiverType = "slack" || receiverType = "mattermost" then toSlackPayload fixed payload
  else if receiverType = "discord" then toDiscordPayload fixed payload
  else .native payload

end Payloads

section Requests
variable {F : Type} [PythonFloat F] (checkNetloc : List Char → Except String Unit) (fixed : F → String)

/-- A webhook request with the settings and the payload that it is built from. -/
structure WebhookRequest (F : Type) where
  webhookUrl : String
  bearerToken : Option String
  receiverType : String
  verifySsl : Bool
  payload : AlertPayload F
  deriving DecidableEq

/-- What the client posts. -/
def WebhookRequest.effectiveUrl (request : WebhookRequest F) : String :=
  buildEffectiveUrl request.webhookUrl request.bearerToken request.receiverType

def WebhookRequest.body (request : WebhookRequest F) : WebhookBody F :=
  adaptBody fixed request.payload checkNetloc request.effectiveUrl request.receiverType

def WebhookRequest.authorization (request : WebhookRequest F) : Option String :=
  Alerts.authorization checkNetloc request.effectiveUrl request.bearerToken request.receiverType

/-- The arguments of a call of `dispatch`. -/
structure Dispatch (F : Type) where
  rule : EffectiveRule F
  eventId : Nat
  vmid : String
  vmName : String
  metric : AlertMetric
  value : Option (Reading F)
  threshold : Option F
  severity : AlertSeverity
  eventState : AlertEventState
  isPlus : Bool
  deriving DecidableEq

/-- The token is read from the table and every other setting from the rule, where a missing switch counts as on. -/
def Dispatch.sendWebhook (call : Dispatch F) (token : Option EncryptedToken) (timestamp : UtcTime) :
    Option (WebhookRequest F) :=
  (Text.truthy call.rule.webhookUrl).map fun webhookUrl =>
    { webhookUrl := webhookUrl
      bearerToken := token.map EncryptedToken.plain
      receiverType := Text.orElse call.rule.webhookReceiverType "custom"
      verifySsl := call.rule.webhookVerifySsl.getD true
      payload := {
        alert := call.rule.name
        vm := Text.orElse (some call.vmName) call.vmid
        metric := call.metric
        value := call.value
        threshold := call.threshold
        severity := call.severity
        state := call.eventState
        timestamp := timestamp
        eventId := call.eventId } }

/-- Only Plus has webhooks. -/
def dispatch (db : AlertDb F) (timestamp : UtcTime) (call : Dispatch F) : Option (WebhookRequest F) :=
  if call.isPlus then call.sendWebhook (getRawWebhookToken db call.rule.id) timestamp else none

end Requests

section Tasks
variable {F : Type} [PythonFloat F] (lower : String → String)

/-- A call of the state machine for a rule. The row is the one that the rule was read from; the program has no use
for it. -/
structure Call (F : Type) where
  rule : EffectiveRule F
  check : SeverityCheck F
  stored : Option (AlertRule String)

/-- The calls for a guest, whose rules are read once before the first call. -/
def vmCalls (isPlus : Bool) (db : AlertDb F) (nodeId : Int) (vmData : VmData F) : List (Call F) :=
  match vmData.vmid with
  | none => []
  | some vmid =>
      if vmData.template then []
      else ((getEffectiveRules db isPlus ⟨vmid, nodeId⟩).filter fun rule => rule.enabled).flatMap fun rule =>
        (ruleChecks lower rule vmData ⟨vmid, nodeId⟩ (if vmData.name = "" then vmid else vmData.name)).map
          fun check => ⟨rule, check, db.rules.find? fun row => row.id = rule.id⟩

/-- A call of `dispatch` that waits for its turn, with the row of its rule. -/
structure Task (F : Type) extends Dispatch F where
  stored : Option (AlertRule String)

/-- The events are numbered from one on, and none is ever removed. -/
def Call.task (call : Call F) (isPlus : Bool) (db : AlertDb F) (eventState : AlertEventState) : Task F where
  rule := call.rule
  eventId := db.events.length + 1
  vmid := call.check.key.vm.vmid
  vmName := call.check.vmName
  metric := call.check.metric
  value := call.check.rawValue
  threshold := call.check.threshold
  severity := call.check.key.severity
  eventState := eventState
  isPlus := isPlus
  stored := call.stored

/-- The tasks that one call of the state machine starts. -/
def Call.tasks (call : Call F) (isPlus : Bool) (db : AlertDb F) : List (Task F) :=
  let row := getState db call.check.key
  if call.check.breached then
    if (row.state = .ok || row.state = .pending) && call.check.sustained ≤ row.pendingCount + 1 then
      [call.task isPlus db .firing]
    else []
  else if row.state = call.check.key.severity.target && call.check.notifyRecovery then [call.task isPlus db .resolved]
  else []

/-- A task that has run, with the token that it found. -/
structure Sending (F : Type) where
  task : Task F
  found : Option EncryptedToken
  request : Option (WebhookRequest F)

/-- A poll in progress. -/
structure RulePoll (F : Type) where
  isPlus : Bool
  vms : List (Int × VmData F)
  calls : List (Call F) := []

/-- The portal with its polls, the tasks that wait and those that have run. -/
structure Dispatching (F : Type) where
  db : AlertDb F := {}
  polls : List (RulePoll F) := []
  tasks : List (Task F) := []
  sent : List (Sending F) := []

/-- Edits, polls and tasks take turns in any order, and the edition may change in between. -/
inductive DispatchStep (F : Type) [PythonFloat F] where
  | edit (isPlus : Bool) (edit : AlertEdit F)
  | start (isPlus : Bool) (nodeId : Int) (vmsData : List (VmData F))
  | nextVm (poll : Nat)
  | nextCall (poll : Nat)
  | dispatch (task : Nat) (timestamp : UtcTime)

/-- A row of a deleted rule violates the foreign key, and the exception ends the check of the rule. -/
def dispatchStep (state : Dispatching F) : DispatchStep F → Dispatching F
  | .edit isPlus edit => { state with db := applyEdit isPlus state.db edit }
  | .start isPlus nodeId vmsData =>
      { state with polls := state.polls ++ [{ isPlus := isPlus, vms := vmsData.map fun vmData => (nodeId, vmData) }] }
  | .nextVm index =>
      match state.polls[index]? with
      | some ⟨isPlus, (nodeId, vmData) :: rest, []⟩ =>
          { state with polls := state.polls.set index ⟨isPlus, rest, vmCalls lower isPlus state.db nodeId vmData⟩ }
      | _ => state
  | .nextCall index =>
      match state.polls[index]? with
      | some ⟨isPlus, vms, call :: rest⟩ =>
          if state.db.rules.any fun row => row.id = call.rule.id then
            { state with
              db := processSeverity state.db call.check
              polls := state.polls.set index ⟨isPlus, vms, rest⟩
              tasks := state.tasks ++ call.tasks isPlus state.db }
          else
            let others := rest.dropWhile fun later => later.rule.id = call.rule.id
            { state with polls := state.polls.set index ⟨isPlus, vms, others⟩ }
      | _ => state
  | .dispatch index timestamp =>
      match state.tasks[index]? with
      | some task =>
          { state with
            tasks := state.tasks.eraseIdx index
            sent := state.sent ++ [⟨task, getRawWebhookToken state.db task.rule.id,
              dispatch state.db timestamp task.toDispatch⟩] }
      | none => state

end Tasks
end P3Portal.Alerts
