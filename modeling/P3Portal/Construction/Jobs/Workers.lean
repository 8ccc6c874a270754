import P3Portal.Construction.Automation.Launch
import P3Portal.Construction.Database.Schema
import P3Portal.Construction.Jobs.Cancellation
import P3Portal.Foundation.Script

namespace P3Portal.Jobs
open Schema Foundation Script Auth Automation

/-- The workers await or execute these calls. -/
inductive WorkerCall where
  | mkdir
  | markRunning
  | getNodeTokens
  | markFailed
  | writeLog
  | buildExtravars
  | onboardingExtravars
  | buildInventory
  | runInExecutor
  | persistHostKey
  | storeStatus
  | readCallback
  | ownerHook
  | poolHook
  | ansibleHook
  | ipamHook
  | dispatchWebhook
  deriving DecidableEq

/-- The environment decides which calls raise and what the others answer. -/
structure WorkerRun where
  raises : WorkerCall → Bool := fun _ => false
  tokenFound : Bool := false
  inventoryError : Bool := false
  succeeded : Bool := false
  learned : List String := []
  callback : Bool := false

section
variable (run : WorkerRun) (jobId : String)

def WorkerRun.await (name : WorkerCall) : Script Database Unit := call (run.raises name)

/-- Each status is written and committed in a session of its own. -/
def WorkerRun.update (name : WorkerCall) (status : JobStatus) : Script Database Unit :=
  write (run.raises name) fun db => setJobStatus db jobId status

/-- A worker without a login needs a token, and a failed lookup finds none. -/
def WorkerRun.starts (credentials : Option ProxmoxCredentials) : Bool :=
  credentials.isSome || (run.tokenFound && !run.raises .getNodeTokens)

/-- The job fails before its log is written. -/
def failEarly : Script Database Unit := do
  run.update jobId .markFailed .failed
  run.await .writeLog

/-- An exception of the runner is written to the log and counts as a failure. -/
def execute : Script Database Bool :=
  recover (do run.await .runInExecutor; pure run.succeeded) (do run.await .writeLog; pure false)

def webhook : Script Database Unit := if run.callback then run.await .dispatchWebhook else pure ()

/-- The hooks of a successful job are protected one by one. -/
def successHooks (success : Bool) : Script Database Unit :=
  if success then do
    protect (run.await .ownerHook)
    protect (run.await .poolHook)
    protect (run.await .ansibleHook)
  else pure ()

def afterAnsible (success : Bool) : Script Database Unit := do
  successHooks run success
  protect (run.await .ipamHook)
  webhook run

/-- Host keys are stored one by one. -/
def persistHostKeys : List String → Script Database Unit
  | [] => pure ()
  | _ :: rest => do
      protect (run.await .persistHostKey)
      persistHostKeys rest

/-- The last session of a worker writes the status and then reads the row. -/
def storeEnd (success : Bool) : Script Database Unit := do
  run.update jobId .storeStatus (finalStatus success)
  run.await .readCallback

def runAnsibleJob (credentials : Option ProxmoxCredentials) : Script Database Unit := do
  run.await .mkdir
  run.update jobId .markRunning .running
  if run.starts credentials then do
    run.await .buildExtravars
    protect (run.await .onboardingExtravars)
    let success ← execute run
    storeEnd run jobId success
    afterAnsible run success
  else failEarly run jobId

/-- `_finish`. -/
def finish (success : Bool) : Script Database Unit := do
  storeEnd run jobId success
  protect (webhook run)

/-- The runner of guests has no handler of its own. -/
def runGuestAnsibleJob : Script Database Unit := do
  run.await .mkdir
  run.update jobId .markRunning .running
  run.await .buildInventory
  if run.inventoryError then do
    run.await .writeLog
    finish run jobId false
  else do
    run.await .runInExecutor
    persistHostKeys run run.learned
    finish run jobId run.succeeded

def runPackerJob (credentials : Option ProxmoxCredentials) : Script Database Unit := do
  run.await .mkdir
  run.update jobId .markRunning .running
  if run.starts credentials then do
    let success ← execute run
    storeEnd run jobId success
    webhook run
  else failEarly run jobId

def runWorker : Worker → Script Database Unit
  | .ansible jobId _ _ _ credentials => runAnsibleJob run jobId credentials
  | .guest jobId _ _ _ _ _ _ _ => runGuestAnsibleJob run jobId
  | .packer jobId _ _ credentials => runPackerJob run jobId credentials

/-- Both endpoints store a job and start its worker. -/
inductive JobRequest where
  | job (body : JobCreate)
  | build (templateId : String) (params : Params)

def JobRequest.launch (site : LaunchSite) (db : Database) (user : CurrentUser) (jobId : String) :
    JobRequest → Launch
  | .job body => startJob site db user body jobId
  | .build templateId params => startPackerBuild site db user templateId params jobId

/-- The insert of the job is committed before the request goes on. -/
def storeJob (db : Database) (launch : Launch) : Database :=
  match launch.job with
  | none => db
  | some row => { db with jobs := db.jobs ++ [row.job] }
end

/-- What one reading of the task of a download comes to: its status and its exit status, or the text of an error. -/
abbrev IsoPoll := Except String (String × String)

/-- The polling has no limit of rounds, so it may still go on behind the readings that are given. -/
def pollDownload (log : List String) : List IsoPoll → Option (List String × Bool)
  | [] => none
  | .error text :: _ => some (log ++ ["[iso-download error] " ++ text], false)
  | .ok (taskStatus, exitStatus) :: rest =>
      let log := log ++ ["[iso-download] status=" ++ taskStatus ++ " exitstatus=" ++ exitStatus]
      if taskStatus = "stopped" then some (log, exitStatus = "OK") else pollDownload log rest

/-- What the job of a download leaves behind. -/
structure IsoEnd where
  db : Database
  log : List String
  ok : Bool

def runIsoDownloadJob (db : Database) (jobId node upid : String) (polls : List IsoPoll) : Option IsoEnd :=
  let db := setJobStatus db jobId .running
  let log := ["[iso-download] Node: " ++ node, "[iso-download] Proxmox Task: " ++ upid]
  (pollDownload log polls).map fun done => {
    db := setJobStatus db jobId (if done.2 then .success else .failed)
    log := done.1
    ok := done.2 }
end P3Portal.Jobs
