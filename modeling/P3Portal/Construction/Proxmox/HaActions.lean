import P3Portal.Construction.Vms.Lifecycle
import P3Portal.Foundation.PythonText
import Mathlib.Data.List.Destutter

namespace P3Portal.HaActions
open Schema Foundation Vms

/-- An entry of `/cluster/ha/status/current`. -/
structure StatusEntry where
  type : Option String := none
  sid : Option String := none
  id : Option String := none
  node : Option String := none
  state : Option String := none
  deriving DecidableEq

/-- A status names a service with a marker before its identifier or without it. -/
def bareSid (sid : String) : String :=
  if Text.startsWith "service:" sid then Text.sliceFrom 8 sid else sid

def entrySid (entry : StatusEntry) : String := bareSid (Text.orElse entry.sid (Text.orElse entry.id ""))

/-- `_current_service` takes the first entry of the service. -/
def currentService (entries : List StatusEntry) (sid : String) : Option StatusEntry :=
  entries.find? fun entry => Text.lower (entry.type.getD "") = "service" && entrySid entry = sid

/-- The arguments of `run_ha_action_job`. -/
structure ActionJob where
  jobId : String
  action : String
  sid : String
  targetNode : String
  actorUsername : String
  deriving DecidableEq

/-- A line of the log of a job. -/
inductive LogLine where
  | started (label sid targetNode : String)
  | unknownAction (action : String)
  | queued
  | cancelled
  | missing (sid : String)
  | status (node state : String)
  | arrived (sid targetNode state : String)
  | errorState (sid : String)
  | timeout
  | failure (label : String) (error : LifecycleError)
  | closing (label : String) (ok : Bool)
  deriving DecidableEq

def humanizeProxmoxError (label : String) : LifecycleError → String
  | .statusError statusCode detail =>
      if statusCode = 403 then "[error] " ++ label ++ ": Proxmox lehnte die Aktion ab (403). Dem Admin-Token " ++
        "fehlen vermutlich die HA-Verwaltungsrechte auf /cluster/ha."
      else if statusCode = 400 then
        Text.rstripSpace ("[error] " ++ label ++ ": Proxmox lehnte die Aktion ab (400). " ++ detail)
      else Text.rstripSpace ("[error] " ++ label ++ ": Proxmox API Fehler " ++ toString statusCode ++ ". " ++ detail)
  | .requestError text => "[error] " ++ label ++ ": Proxmox API nicht erreichbar (" ++ text ++ ")."
  | .unexpected text => "[error] " ++ label ++ ": unerwarteter Fehler (" ++ text ++ ")."

def LogLine.text : LogLine → String
  | .started label sid targetNode => "[info] " ++ label ++ " gestartet für " ++ sid ++ " → Node '" ++ targetNode ++ "'."
  | .unknownAction action => "[error] Unbekannte HA-Aktion: " ++ action
  | .queued => "[info] CRM-Kommando eingereiht – warte auf den HA-Manager …"
  | .cancelled => "[abbruch] Job wurde abgebrochen."
  | .missing sid => "[hinweis] HA-Ressource " ++ sid ++ " nicht (mehr) im Status gefunden."
  | .status node state => "[info] Status: Node=" ++ Text.orElse (some node) "?" ++ " Zustand=" ++
      Text.orElse (some state) "?"
  | .arrived sid targetNode state => "[status] Ressource " ++ sid ++ " ist auf Node '" ++ targetNode ++
      "' angekommen (Zustand: " ++ Text.orElse (some state) "n/a" ++ ")."
  | .errorState sid => "[error] HA-Ressource " ++ sid ++ " ist im Fehlerzustand."
  | .timeout => "[error] Zeitüberschreitung beim Warten auf den HA-Manager."
  | .failure label error => humanizeProxmoxError label error
  | .closing label ok => "[status] " ++ label ++ " " ++ (if ok then "erfolgreich abgeschlossen" else "fehlgeschlagen") ++ "."

/-- One round of polling sees whether the job was cancelled, and the status entries unless their reading fails. -/
structure StatusPoll where
  cancelled : Bool := false
  entries : Option (List StatusEntry) := none
  deriving DecidableEq

def maxPolls : Nat := 200

def stableStates : List String := ["started", "stopped", "disabled", "ignored"]

def transientStates : List String := ["migrate", "relocate", "starting", "stopping", "request_start", "request_stop"]

section Polling
variable (sid targetNode : String)

/-- `_poll_until_arrived` keeps the node and the state that it wrote last. -/
def pollUntilArrived (last : Option (String × String)) (log : List LogLine) : List StatusPoll → List LogLine × Bool
  | [] => (log ++ [.timeout], false)
  | poll :: rest =>
      if poll.cancelled then (log ++ [.cancelled], false)
      else match poll.entries with
        | none => pollUntilArrived last log rest
        | some entries =>
            match currentService entries sid with
            | none => pollUntilArrived last (log ++ [.missing sid]) rest
            | some service =>
                let node := service.node.getD ""
                let state := service.state.getD ""
                let log := if last = some (node, state) then log else log ++ [.status node state]
                if node = targetNode ∧ state ∉ transientStates ∧ (state ∈ stableStates ∨ state = "") then
                  (log ++ [.arrived sid targetNode state], true)
                else if state = "error" then (log ++ [.errorState sid], false)
                else pollUntilArrived (some (node, state)) log rest

end Polling

def actionLabel (action : String) : String :=
  if action = "migrate" then "HA-Migration" else if action = "relocate" then "HA-Relocate" else action

def knownAction (action : String) : Prop := action = "migrate" ∨ action = "relocate"

instance (action : String) : Decidable (knownAction action) := inferInstanceAs (Decidable (_ ∨ _))

/-- The command of the cluster manager answers with no task; the rounds of polling follow. -/
structure ActionReplies where
  command : Except LifecycleError Unit
  polls : List StatusPoll := []

/-- What a job leaves behind. -/
structure ActionEnd where
  db : Database
  log : List LogLine
  ok : Bool

def auditDetail (job : ActionJob) (ok : Bool) : String :=
  "sid=" ++ job.sid ++ " target=" ++ job.targetNode ++ " → " ++ (if ok then "ok" else "failed")

/-- The status is stored and the end of the job noted in the audit log. -/
def finishAction (now : String) (db : Database) (log : List LogLine) (job : ActionJob) (ok : Bool) : ActionEnd where
  db := writeAuditLog (setJobStatus db job.jobId (if ok then .success else .failed)) ("ha_" ++ job.action)
    (some job.actorUsername) (some "local") (some (auditDetail job ok)) now
  log := log ++ [.closing (actionLabel job.action) ok]
  ok := ok

def runHaActionJob (now : String) (db : Database) (job : ActionJob) (replies : ActionReplies) : ActionEnd :=
  let db := setJobStatus db job.jobId .running
  let log := [LogLine.started (actionLabel job.action) job.sid job.targetNode]
  if knownAction job.action then
    match replies.command with
    | .error error => finishAction now db (log ++ [.failure (actionLabel job.action) error]) job false
    | .ok _ =>
        let done := pollUntilArrived job.sid job.targetNode none (log ++ [.queued]) (replies.polls.take maxPolls)
        finishAction now db done.1 job done.2
  else ⟨setJobStatus db job.jobId .failed, log ++ [.unknownAction job.action], false⟩

/-- A request is refused with a message or starts a job. -/
inductive Refusal where
  | foreignNode (node : String)
  | alreadyThere (node : String)
  deriving DecidableEq

def Refusal.detail : Refusal → String
  | .foreignNode node => "'" ++ node ++ "' ist keine gültige Node dieser Installation"
  | .alreadyThere node => "Ressource läuft bereits auf Node '" ++ node ++ "'"

/-- The nodes of an installation, as far as they are named. -/
def installationNodes (node : NodeRow) : List String :=
  (if node.proxmoxNode = "" then [] else [node.proxmoxNode]) ++ node.clusterNodes.filter (· ≠ "")

/-- `_run_ha_runtime_action` after its checks of the user: the nodes of the installation may be unknown, and the
status of the cluster may not be readable. -/
def runHaRuntimeAction (valid : List String) (entries : Option (List StatusEntry)) (sid node : String) :
    Option Refusal :=
  if valid ≠ [] ∧ node ∉ valid then some (.foreignNode node)
  else match (entries.bind fun entries => currentService entries sid).bind fun entry => Text.truthy entry.node with
    | some current => if current = node then some (.alreadyThere node) else none
    | none => none

end P3Portal.HaActions
