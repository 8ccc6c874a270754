import P3Portal.Construction.Nodes.Registry
import P3Portal.Construction.Owners.Ownership

namespace P3Portal.Vms
open Schema Foundation Owners

/-- The arguments of `run_vm_lifecycle_job`; the action is a text. -/
structure LifecycleJob where
  jobId : String
  action : String
  pveNode : String
  vmid : Int
  vmType : String
  actorUsername : String
  actorUserId : Option Int := none
  newid : Option Int := none
  name : Option String := none
  targetStorage : Option String := none
  full : Bool := true
  setOwner : Bool := false
  targetNode : Option String := none
  deriving DecidableEq

/-- A call of the client fails with a status, without an answer, or in another way. -/
inductive LifecycleError where
  | statusError (statusCode : Nat) (detail : String)
  | requestError (text : String)
  | unexpected (text : String)
  deriving DecidableEq

/-- One round of polling sees whether the job was cancelled, new log lines, and the state of the task, whose
reading may fail without an effect; the last lines are read once more behind the end of the task. -/
structure TaskPoll where
  cancelled : Bool := false
  lines : Except LifecycleError (List (Option String)) := .ok []
  status : Option (Option String × Option String) := none
  lastLines : Except LifecycleError (List (Option String)) := .ok []

/-- The answers of Proxmox to the call of the action and to the rounds of polling. -/
structure LifecycleReplies where
  upid : Except LifecycleError String
  polls : List TaskPoll := []

def shown (text : Option String) : String := text.getD "None"

/-- An entry without a text is skipped, and a written line ends with one line break. -/
def taskLines (lines : List (Option String)) : List String := lines.reduceOption.map (Text.rstrip '\n')

def maxPolls : Nat := 3600

/-- `_tail_task` polls the task until its end, a cancellation, or the limit of rounds. -/
def tailTask (log : List String) : List TaskPoll → List String × Except LifecycleError Bool
  | [] => (log ++ ["[error] Zeitüberschreitung beim Warten auf den Proxmox-Task."], .ok false)
  | poll :: rest =>
      if poll.cancelled then (log ++ ["[abbruch] Job wurde abgebrochen."], .ok false)
      else match poll.lines with
        | .error error => (log, .error error)
        | .ok lines =>
            let log := log ++ taskLines lines
            match poll.status with
            | some (some "stopped", exitStatus) =>
                match poll.lastLines with
                | .error error => (log, .error error)
                | .ok lines =>
                    let log := log ++ taskLines lines
                    if exitStatus = some "OK" then (log, .ok true)
                    else (log ++ ["[error] Proxmox-Task endete mit: " ++ shown exitStatus], .ok false)
            | _ => tailTask log rest

def lifecycleLabel (action : String) : String :=
  if action = "clone" then "Clone" else if action = "migrate" then "Migrate"
  else if action = "template" then "Convert-to-Template" else action

def humanizeError (label : String) : LifecycleError → String
  | .statusError statusCode detail =>
      if statusCode = 403 then "[error] " ++ label ++ ": Proxmox lehnte die Aktion ab (403). Dem Admin-Token " ++
        "fehlen vermutlich die nötigen Rechte (VM.Clone / VM.Allocate / VM.Config.* / Datastore.AllocateSpace " ++
        "/ VM.Migrate)."
      else Text.rstripSpace ("[error] " ++ label ++ ": Proxmox API Fehler " ++ toString statusCode ++ ". " ++ detail)
  | .requestError text => "[error] " ++ label ++ ": Proxmox API nicht erreichbar (" ++ text ++ ")."
  | .unexpected text => "[error] " ++ label ++ ": unerwarteter Fehler (" ++ text ++ ")."

def guestType (vmType : String) : ResourceType := if vmType = "lxc" then .lxc else .vm

def portalNodeId (db : Database) (pveNode : String) : Option Int :=
  (Nodes.getNodeForProxmoxName db pveNode).map NodeRow.id

section
variable (maxOwnerships : Option Int) (now : String)

/-- The acting user is entered as the owner of the clone, and every failure leaves at most a line in the log. -/
def assignCloneOwner (db : Database) (log : List String) (job : LifecycleJob) (newVmid actorUserId : Int) :
    Database × List String :=
  match portalNodeId db job.pveNode with
  | none => (db, log ++ ["[hinweis] Owner-Eintrag übersprungen: Portal-Node nicht ermittelbar."])
  | some nodeId =>
      match addOwnerNamed maxOwnerships db ⟨guestType job.vmType, nodeId, newVmid⟩ actorUserId actorUserId "clone"
          job.actorUsername now with
      | .ok db => (db, log ++ ["[info] Owner gesetzt: " ++ job.actorUsername ++ " → " ++
          ResourceType.name (guestType job.vmType) ++ " " ++ toString newVmid ++ "."])
      | .error (.limitExceeded _) =>
          (db, log ++ ["[hinweis] Owner-Limit erreicht – der Klon wurde ohne Auto-Owner erstellt."])
      | .error (.duplicateOwner _) => (db, log)
      | .error _ => (db, log ++ ["[hinweis] Owner-Eintrag konnte nicht gesetzt werden."])

/-- A template has no owner; a refused update is only noted in the log of the server. -/
def removeTemplateOwner (db : Database) (job : LifecycleJob) : Database :=
  match portalNodeId db job.pveNode with
  | none => db
  | some nodeId =>
      let guest : Guest := ⟨guestType job.vmType, nodeId, job.vmid⟩
      (softDeleteNamed db (fun owner => ownerGuest owner = guest) "converted_to_template" now).getD db

/-- The call of a known action is announced in the log. -/
def announcement (job : LifecycleJob) : Option String :=
  if job.action = "clone" then
    some ("[info] Ziel-VMID " ++ shown (job.newid.map toString) ++ ", Name '" ++ shown job.name ++ "', Storage '" ++
      Text.orElse job.targetStorage "default" ++ "', " ++ (if job.full then "Full-Clone" else "Linked-Clone") ++ ".")
  else if job.action = "migrate" then
    some ("[info] Offline-Migration nach Node '" ++ shown job.targetNode ++ "', Ziel-Storage '" ++
      Text.orElse job.targetStorage "unverändert" ++ "'.")
  else if job.action = "template" then some "[info] Konvertiere zu Template …"
  else none

/-- `int` refuses an absent number of a clone before the client is called. -/
def startCall (job : LifecycleJob) (replies : LifecycleReplies) : Except LifecycleError String :=
  if job.action = "clone" && job.newid.isNone then .error (.unexpected
    "int() argument must be a string, a bytes-like object or a real number, not 'NoneType'")
  else replies.upid

/-- The action is started and its task followed to the end; a call without a task succeeds at once. -/
def performAction (log : List String) (job : LifecycleJob) (replies : LifecycleReplies) :
    List String × Except LifecycleError Bool :=
  match startCall job replies with
  | .error error => (log, .error error)
  | .ok upid => if upid = "" then (log, .ok true) else tailTask log (replies.polls.take maxPolls)

/-- What a job leaves behind. -/
structure LifecycleEnd where
  db : Database
  log : List String
  ok : Bool

/-- The ownership follows a successful action. -/
def ownerEffects (db : Database) (log : List String) (job : LifecycleJob) : Database × List String :=
  if job.action = "clone" then
    match job.setOwner, job.actorUserId, job.newid with
    | true, some actorUserId, some newid => assignCloneOwner maxOwnerships now db log job newid actorUserId
    | _, _, _ => (db, log)
  else if job.action = "template" then (removeTemplateOwner now db job, log)
  else (db, log)

/-- The status is stored and the end of the job noted in the audit log. -/
def finishLifecycle (db : Database) (log : List String) (job : LifecycleJob) (ok : Bool) : LifecycleEnd where
  db := writeAuditLog (setJobStatus db job.jobId (if ok then .success else .failed)) ("vm_" ++ job.action)
    (some job.actorUsername) (some "local")
    (some (job.vmType ++ " " ++ toString job.vmid ++ " on " ++ job.pveNode ++ " → " ++
      (if ok then "ok" else "failed") ++
      (if job.action = "clone" then " (newid=" ++ (job.newid.map toString).getD "None" ++ ")" else "") ++
      (if job.action = "migrate" then " (target=" ++ shown job.targetNode ++ ")" else ""))) now
  log := log
  ok := ok

def runVmLifecycleJob (db : Database) (job : LifecycleJob) (replies : LifecycleReplies) : LifecycleEnd :=
  let db := setJobStatus db job.jobId .running
  let label := lifecycleLabel job.action
  let log := ["[info] " ++ label ++ " gestartet für " ++ job.vmType ++ " " ++ toString job.vmid ++ " auf Node " ++
    job.pveNode ++ "."]
  match announcement job with
  | none => ⟨setJobStatus db job.jobId .failed, log ++ ["[error] Unbekannte Aktion: " ++ job.action], false⟩
  | some line =>
      let done := performAction (log ++ [line]) job replies
      match done.2 with
      | .ok true =>
          let owned := ownerEffects maxOwnerships now db done.1 job
          finishLifecycle now owned.1 (owned.2 ++ ["[status] " ++ label ++ " erfolgreich abgeschlossen."]) job true
      | .ok false =>
          finishLifecycle now db (done.1 ++ ["[status] " ++ label ++ " fehlgeschlagen."]) job false
      | .error error =>
          finishLifecycle now db (done.1 ++ [humanizeError label error, "[status] " ++ label ++ " fehlgeschlagen."])
            job false
end

/-- What a round of polling meets: the lines of the task when it asks for new ones, the state of the task, and the
lines when it asks for the last ones. -/
structure TaskRound where
  cancelled : Bool := false
  log : List String
  status : Option (Option String × Option String) := none
  lastLog : List String
  deriving DecidableEq

/-- `get_task_log` answers with the lines from the start that exist, each with its text. -/
def getTaskLog (log : List String) (start limit : Nat) : List (Option String) := ((log.drop start).take limit).map some

/-- `_tail_task` over a growing log: `seen` counts the lines that were read. -/
def tailRounds (seen : Nat) (log : List String) : List TaskRound → List String × Bool
  | [] => (log ++ ["[error] Zeitüberschreitung beim Warten auf den Proxmox-Task."], false)
  | round :: rest =>
      if round.cancelled then (log ++ ["[abbruch] Job wurde abgebrochen."], false)
      else
        let lines := getTaskLog round.log seen 500
        let log := log ++ taskLines lines
        let seen := seen + lines.length
        match round.status with
        | some (some "stopped", exitStatus) =>
            let log := log ++ taskLines (getTaskLog round.lastLog seen 500)
            if exitStatus = some "OK" then (log, true)
            else (log ++ ["[error] Proxmox-Task endete mit: " ++ shown exitStatus], false)
        | _ => tailRounds seen log rest

def tailGrowingTask (log : List String) (rounds : List TaskRound) : List String × Bool :=
  tailRounds 0 log (rounds.take maxPolls)
end P3Portal.Vms
