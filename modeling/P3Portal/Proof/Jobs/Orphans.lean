import P3Portal.Construction.Jobs.Workers
import P3Portal.Foundation.KeyedRows

namespace P3Portal.Jobs
open Schema Foundation Script Auth Automation

section Status
variable {db : Database} {jobId : String}

/-- The status in the row of a job. -/
def jobStatus (db : Database) (jobId : String) : Option JobStatus :=
  (db.jobs.find? fun job => job.id = jobId).map Job.status

/-- These statuses are terminal. -/
def Ended (status : Option JobStatus) : Prop := status = some .success ∨ status = some .failed

/-- A job that is stored gets the new status. -/
theorem jobStatus_setJobStatus (db : Database) (jobId : String) (status : JobStatus) :
    jobStatus (setJobStatus db jobId status) jobId = (jobStatus db jobId).map fun _ => status := by
  have named : ∀ job : Job, (if job.id = jobId then { job with status := status } else job).id = job.id := by
    intro job
    split <;> rfl
  show ((db.jobs.map fun job => if job.id = jobId then { job with status := status } else job).find? fun job =>
    job.id = jobId).map Job.status = ((db.jobs.find? fun job => job.id = jobId).map Job.status).map fun _ => status
  rw [find?_map_key named]
  cases found : db.jobs.find? fun job => job.id = jobId with
  | none => rfl
  | some job =>
      have same := List.find?_some found
      rw [decide_eq_true_eq] at same
      simp [same]

/-- A final status is an end. -/
theorem ended_finalStatus (success : Bool) : Ended (some (finalStatus success)) := by
  cases success
  · exact .inr rfl
  · exact .inl rfl

/-- A step that may be blocked ends the row only when it is not blocked. -/
theorem ended_ite_iff {before after : Database} (unended : ¬ Ended (jobStatus before jobId)) (blocked : Bool) :
    Ended (jobStatus (if blocked then before else after) jobId) ↔
      blocked = false ∧ Ended (jobStatus after jobId) := by
  cases blocked with
  | true => simp [unended]
  | false => simp

end Status

section Scripts
variable (run : WorkerRun) (jobId : String)

/-- The webhook leaves the jobs alone. -/
theorem silent_webhook : Silent (webhook run) := by
  unfold webhook
  split
  · exact Silent.call _
  · exact Silent.answer ()

/-- What follows a playbook leaves the jobs alone. -/
theorem silent_afterAnsible (success : Bool) : Silent (afterAnsible run success) := by
  have hooks : Silent (successHooks run success) := by
    unfold successHooks
    split
    · exact (Silent.protect (Silent.call _)).bind fun _ =>
        (Silent.protect (Silent.call _)).bind fun _ => Silent.protect (Silent.call _)
    · exact Silent.answer ()
  exact hooks.bind fun _ => (Silent.protect (Silent.call _)).bind fun _ => silent_webhook run

variable {B : Type}

/-- Storing the host keys neither raises nor changes a job. -/
theorem final_persistHostKeys_bind (learned : List String) (next : Unit → Script Database B) (db : Database) :
    final (persistHostKeys run learned >>= next) db = final (next ()) db := by
  induction learned with
  | nil => rfl
  | cons first rest ih =>
      unfold persistHostKeys WorkerRun.await
      rw [final_bind_bind, final_protect_call_bind]
      exact ih

/-- Only the write of the end changes the row; what follows is silent. -/
theorem final_storeEnd_bind (success : Bool) {rest : Script Database B} (silent : Silent rest) (db : Database) :
    final (storeEnd run jobId success >>= fun _ => rest) db =
      if run.raises .storeStatus then db else setJobStatus db jobId (finalStatus success) := by
  unfold storeEnd
  rw [final_bind_bind]
  unfold WorkerRun.update
  rw [final_write_bind]
  split
  · rfl
  · unfold WorkerRun.await
    rw [final_call_bind]
    split
    · rfl
    · exact silent _

/-- A job that fails early is marked unless the mark raises. -/
theorem final_failEarly (db : Database) : final (failEarly run jobId) db =
    if run.raises .markFailed then db else setJobStatus db jobId .failed := by
  unfold failEarly WorkerRun.update
  rw [final_write_bind]
  rfl

/-- The runner with its handler ends with an answer, or the handler raises. -/
theorem final_execute_bind (next : Bool → Script Database B) (db : Database) :
    final (execute run >>= next) db =
      if run.raises .runInExecutor then (if run.raises .writeLog then db else final (next false) db)
      else final (next run.succeeded) db :=
  final_recover_bind _ _ _ _ next db

/-- The first two calls of each worker. -/
theorem final_start (rest : Script Database B) (db : Database) :
    final (run.await .mkdir >>= fun _ => run.update jobId .markRunning .running >>= fun _ => rest) db =
      if run.raises .mkdir || run.raises .markRunning then db
      else final rest (setJobStatus db jobId .running) := by
  unfold WorkerRun.await WorkerRun.update
  rw [final_call_bind, final_write_bind]
  cases run.raises .mkdir <;> cases run.raises .markRunning <;> rfl

end Scripts

section Workers
variable (run : WorkerRun) (jobId : String) (db : Database)

/-- The end of a worker stores the final status unless the write raises. -/
theorem final_finish (success : Bool) : final (finish run jobId success) db =
    if run.raises .storeStatus then db else setJobStatus db jobId (finalStatus success) :=
  final_storeEnd_bind run jobId success (Silent.protect (silent_webhook run)) db

/-- What a job of either runner with a handler leaves behind, once it is marked as running. -/
theorem final_guarded {rest : Bool → Script Database Unit} (silent : ∀ success, Silent (rest success)) :
    final (execute run >>= fun success => storeEnd run jobId success >>= fun _ => rest success) db =
      if (run.raises .runInExecutor && run.raises .writeLog) || run.raises .storeStatus then db
      else setJobStatus db jobId (finalStatus (run.succeeded && !run.raises .runInExecutor)) := by
  rw [final_execute_bind, final_storeEnd_bind run jobId false (silent false),
    final_storeEnd_bind run jobId run.succeeded (silent run.succeeded)]
  cases run.raises .runInExecutor <;> cases run.raises .writeLog <;> simp

/-- The status that a build leaves behind. -/
theorem final_runPackerJob (credentials : Option ProxmoxCredentials) :
    final (runPackerJob run jobId credentials) db =
      if run.raises .mkdir || run.raises .markRunning then db
      else if run.starts credentials then
        if (run.raises .runInExecutor && run.raises .writeLog) || run.raises .storeStatus then
          setJobStatus db jobId .running
        else setJobStatus (setJobStatus db jobId .running) jobId
          (finalStatus (run.succeeded && !run.raises .runInExecutor))
      else if run.raises .markFailed then setJobStatus db jobId .running
      else setJobStatus (setJobStatus db jobId .running) jobId .failed := by
  unfold runPackerJob
  rw [final_start]
  split
  · rfl
  · split
    · exact final_guarded run jobId _ fun _ => silent_webhook run
    · exact final_failEarly run jobId _

/-- The status that a playbook leaves behind. -/
theorem final_runAnsibleJob (credentials : Option ProxmoxCredentials) :
    final (runAnsibleJob run jobId credentials) db =
      if run.raises .mkdir || run.raises .markRunning then db
      else if run.starts credentials then
        if run.raises .buildExtravars || (run.raises .runInExecutor && run.raises .writeLog) ||
            run.raises .storeStatus then setJobStatus db jobId .running
        else setJobStatus (setJobStatus db jobId .running) jobId
          (finalStatus (run.succeeded && !run.raises .runInExecutor))
      else if run.raises .markFailed then setJobStatus db jobId .running
      else setJobStatus (setJobStatus db jobId .running) jobId .failed := by
  unfold runAnsibleJob
  rw [final_start]
  split
  · rfl
  · split
    · have guarded := final_guarded run jobId (setJobStatus db jobId .running) (silent_afterAnsible run)
      unfold WorkerRun.await
      rw [final_call_bind, final_protect_call_bind]
      cases run.raises .buildExtravars with
      | true => simp
      | false =>
          rw [Bool.false_or]
          exact guarded
    · exact final_failEarly run jobId _

/-- The runner of guests reaches its end only when no call before it raises. -/
theorem final_runGuestAnsibleJob : final (runGuestAnsibleJob run jobId) db =
    if run.raises .mkdir || run.raises .markRunning then db
    else if run.raises .buildInventory ||
        (if run.inventoryError then run.raises .writeLog else run.raises .runInExecutor) ||
        run.raises .storeStatus then setJobStatus db jobId .running
    else setJobStatus (setJobStatus db jobId .running) jobId
      (finalStatus (!run.inventoryError && run.succeeded)) := by
  unfold runGuestAnsibleJob
  rw [final_start]
  split
  · rfl
  · unfold WorkerRun.await
    rw [final_call_bind]
    cases run.raises .buildInventory with
    | true => simp
    | false =>
        cases run.inventoryError with
        | true =>
            rw [if_pos rfl, if_pos rfl, final_call_bind, final_finish]
            cases run.raises .writeLog <;> simp
        | false =>
            rw [if_neg Bool.false_ne_true, if_neg Bool.false_ne_true, final_call_bind, final_persistHostKeys_bind,
              final_finish]
            cases run.raises .runInExecutor <;> simp

end Workers

/-- The calls that raise leave the end of the worker in reach. -/
def Unharmed (run : WorkerRun) : Worker → Prop
  | .ansible _ _ _ _ credentials =>
      run.raises .mkdir = false ∧ run.raises .markRunning = false ∧
        if run.starts credentials then
          run.raises .buildExtravars = false ∧ (run.raises .runInExecutor && run.raises .writeLog) = false ∧
            run.raises .storeStatus = false
        else run.raises .markFailed = false
  | .guest _ _ _ _ _ _ _ _ =>
      run.raises .mkdir = false ∧ run.raises .markRunning = false ∧ run.raises .buildInventory = false ∧
        (if run.inventoryError then run.raises .writeLog = false else run.raises .runInExecutor = false) ∧
        run.raises .storeStatus = false
  | .packer _ _ _ credentials =>
      run.raises .mkdir = false ∧ run.raises .markRunning = false ∧
        if run.starts credentials then
          (run.raises .runInExecutor && run.raises .writeLog) = false ∧ run.raises .storeStatus = false
        else run.raises .markFailed = false

def workerJobId : Worker → String
  | .ansible jobId _ _ _ _ => jobId
  | .guest jobId _ _ _ _ _ _ _ => jobId
  | .packer jobId _ _ _ => jobId

section Ends
variable {db : Database} {jobId : String}

/-- A pending job has not ended. -/
theorem not_ended_pending (pending : jobStatus db jobId = some .pending) : ¬ Ended (jobStatus db jobId) := by
  rw [pending]
  simp [Ended]

/-- A job that is marked as running has not ended. -/
theorem not_ended_running (pending : jobStatus db jobId = some .pending) :
    ¬ Ended (jobStatus (setJobStatus db jobId .running) jobId) := by
  rw [jobStatus_setJobStatus, pending]
  simp [Ended]

/-- A job with its final status has ended. -/
theorem ended_stored (pending : jobStatus db jobId = some .pending) (success : Bool) :
    Ended (jobStatus (setJobStatus (setJobStatus db jobId .running) jobId (finalStatus success)) jobId) := by
  rw [jobStatus_setJobStatus, jobStatus_setJobStatus, pending]
  exact ended_finalStatus success

variable (run : WorkerRun)

/-- A playbook ends its job exactly when nothing harms its worker. -/
theorem ansible_ended_iff (pending : jobStatus db jobId = some .pending) (playbook : String)
    (params : List (String × ParamValue)) (role : Role) (credentials : Option ProxmoxCredentials) :
    Ended (jobStatus (final (runAnsibleJob run jobId credentials) db) jobId) ↔
      Unharmed run (.ansible jobId playbook params role credentials) := by
  have stored := ended_stored pending
  rw [final_runAnsibleJob, ended_ite_iff (not_ended_pending pending), Bool.or_eq_false_iff]
  unfold Unharmed
  dsimp only
  by_cases starts : run.starts credentials = true
  · rw [if_pos starts, if_pos starts, ended_ite_iff (not_ended_running pending), Bool.or_eq_false_iff,
      Bool.or_eq_false_iff, and_iff_left (stored (run.succeeded && !run.raises .runInExecutor))]
    simp only [and_assoc]
  · have failed : Ended (jobStatus (setJobStatus (setJobStatus db jobId .running) jobId .failed) jobId) := stored false
    rw [if_neg starts, if_neg starts, ended_ite_iff (not_ended_running pending), and_iff_left failed, and_assoc]

/-- A playbook for guests ends its job exactly when nothing harms its worker. -/
theorem guest_ended_iff (pending : jobStatus db jobId = some .pending) (playbook : String)
    (params : List (String × ParamValue)) (scope : ScopeKind) (ref : Option Int)
    (targetHosts : Option (List String)) (userId : Int) (become : Bool) :
    Ended (jobStatus (final (runGuestAnsibleJob run jobId) db) jobId) ↔
      Unharmed run (.guest jobId playbook params scope ref targetHosts userId become) := by
  have stored := ended_stored pending
  rw [final_runGuestAnsibleJob, ended_ite_iff (not_ended_pending pending), Bool.or_eq_false_iff,
    ended_ite_iff (not_ended_running pending), Bool.or_eq_false_iff, Bool.or_eq_false_iff,
    and_iff_left (stored (!run.inventoryError && run.succeeded))]
  unfold Unharmed
  cases run.inventoryError <;> simp only [and_assoc, if_true, if_false, Bool.false_eq_true]

/-- A build ends its job exactly when nothing harms its worker. -/
theorem packer_ended_iff (pending : jobStatus db jobId = some .pending) (templateId : String)
    (params : List (String × ParamValue)) (credentials : Option ProxmoxCredentials) :
    Ended (jobStatus (final (runPackerJob run jobId credentials) db) jobId) ↔
      Unharmed run (.packer jobId templateId params credentials) := by
  have stored := ended_stored pending
  rw [final_runPackerJob, ended_ite_iff (not_ended_pending pending), Bool.or_eq_false_iff]
  unfold Unharmed
  dsimp only
  by_cases starts : run.starts credentials = true
  · rw [if_pos starts, if_pos starts, ended_ite_iff (not_ended_running pending), Bool.or_eq_false_iff,
      and_iff_left (stored (run.succeeded && !run.raises .runInExecutor)), and_assoc]
  · have failed : Ended (jobStatus (setJobStatus (setJobStatus db jobId .running) jobId .failed) jobId) := stored false
    rw [if_neg starts, if_neg starts, ended_ite_iff (not_ended_running pending), and_iff_left failed, and_assoc]

/-- The row of a pending job has ended after its worker exactly when the calls that raised are harmless. -/
theorem worker_ended_iff (worker : Worker) (pending : jobStatus db (workerJobId worker) = some .pending) :
    Ended (jobStatus (final (runWorker run worker) db) (workerJobId worker)) ↔ Unharmed run worker := by
  cases worker with
  | ansible jobId playbook params role credentials =>
      exact ansible_ended_iff run pending playbook params role credentials
  | guest jobId playbook params scope ref targetHosts userId become =>
      exact guest_ended_iff run pending playbook params scope ref targetHosts userId become
  | packer jobId templateId params credentials => exact packer_ended_iff run pending templateId params credentials

end Ends

section Launches
variable (site : LaunchSite) (db : Database) (user : CurrentUser) (jobId : String)

/-- An error is any answer but a started job or a pending approval. -/
def isError : LaunchAnswer → Bool
  | .created | .pendingApproval _ _ => false
  | _ => true

/-- The request passes all checks before the insert. -/
def ReachesInsert (body : JobCreate) : Prop :=
  validatePlaybookParams site.playbooks body.playbook body.params = .ok [] ∧
    checkPlaybookPermission site db user body.playbook = .ok () ∧
    (approvalCheck site.plus user.userId (startJobKeywords user body)).2 = none ∧
    ∃ owner, checkDeploy site db user body jobId = .ok owner

def targetsGuest (body : JobCreate) : Bool :=
  (getPlaybook site.playbooks body.playbook).any fun detail => detail.targets = .guest

/-- A run inside guests that comes to its insert is also accepted by the checks behind it. -/
def GuestRunAccepted : JobRequest → Prop
  | .job body => ReachesInsert site db user jobId body → targetsGuest site body = true →
      assertGuestRunAllowed site db user (body.guestScope.getD (.user, none)).1 body.targetHosts = .ok () ∧
        user.userId.isSome = true
  | .build _ _ => True

/-- A request for guests gets a worker exactly when the user may run it there. -/
theorem chooseWorker_ok_iff (body : JobCreate) :
    (∃ worker, chooseWorker site db user body jobId = .ok worker) ↔
      (targetsGuest site body = true →
        assertGuestRunAllowed site db user (body.guestScope.getD (.user, none)).1 body.targetHosts = .ok () ∧
          user.userId.isSome = true) := by
  show (∃ worker, (if targetsGuest site body then _ else _) = Except.ok worker) ↔ _
  by_cases guest : targetsGuest site body = true
  · rw [if_pos guest]
    cases allowed : assertGuestRunAllowed site db user (body.guestScope.getD (.user, none)).1 body.targetHosts with
    | error exception => simp [guest, bind, Except.bind]
    | ok _ => cases user.userId <;> simp [guest, bind, Except.bind]
  · rw [if_neg guest]
    simp [guest]

/-- A worker works on the job for which it was chosen. -/
theorem workerJobId_chooseWorker {body : JobCreate} {worker : Worker}
    (chosen : chooseWorker site db user body jobId = .ok worker) : workerJobId worker = jobId := by
  unfold chooseWorker at chosen
  dsimp only at chosen
  split at chosen
  · cases allowed : assertGuestRunAllowed site db user (body.guestScope.getD (.user, none)).1 body.targetHosts with
    | error exception =>
        rw [allowed] at chosen
        cases chosen
    | ok _ =>
        rw [allowed] at chosen
        cases known : user.userId with
        | none =>
            rw [known] at chosen
            cases chosen
        | some userId =>
            rw [known] at chosen
            cases chosen
            rfl
  · cases chosen
    rfl

/-- A launch stores no job, or it stores a pending one and then starts its worker or refuses the request. -/
inductive LaunchOutcome (launch : Launch) : Prop
  | nothing : launch.job = none → launch.worker = none → LaunchOutcome launch
  | refused (row : JobRow) : launch.job = some row → row.job.id = jobId → row.job.status = .pending →
      launch.worker = none → isError launch.answer = true → LaunchOutcome launch
  | started (row : JobRow) (worker : Worker) : launch.job = some row → row.job.id = jobId →
      row.job.status = .pending → launch.worker = some worker → workerJobId worker = jobId →
      isError launch.answer = false → LaunchOutcome launch

/-- A request for a job stores nothing, or it stores the job and starts its worker or is refused. -/
theorem startJob_outcome (body : JobCreate) : LaunchOutcome jobId (startJob site db user body jobId) := by
  unfold startJob
  split
  · exact .nothing rfl rfl
  · exact .nothing rfl rfl
  · split
    · exact .nothing rfl rfl
    · dsimp only
      split
      · exact .nothing rfl rfl
      · split
        · exact .nothing rfl rfl
        · split
          · exact .refused _ rfl rfl rfl rfl rfl
          · rename_i worker chosen
            exact .started _ worker rfl rfl rfl rfl (workerJobId_chooseWorker site db user jobId chosen) rfl

/-- A request for a build that stores its job starts a worker. -/
theorem startPackerBuild_outcome (templateId : String) (params : Params) :
    LaunchOutcome jobId (startPackerBuild site db user templateId params jobId) ∧
      ((startPackerBuild site db user templateId params jobId).job.isSome = true →
        (startPackerBuild site db user templateId params jobId).worker.isSome = true) := by
  unfold startPackerBuild
  split
  · exact ⟨.nothing rfl rfl, fun stored => stored⟩
  · dsimp only
    split
    · exact ⟨.nothing rfl rfl, fun stored => stored⟩
    · exact ⟨.started _ _ rfl rfl rfl rfl rfl rfl, fun stored => stored⟩

/-- A job is left without a worker exactly when its request comes to the insert and no worker is chosen. -/
theorem startJob_abandons_iff (body : JobCreate) :
    (startJob site db user body jobId).job.isSome = true ∧ (startJob site db user body jobId).worker = none ↔
      ReachesInsert site db user jobId body ∧ ¬ ∃ worker, chooseWorker site db user body jobId = .ok worker := by
  unfold startJob ReachesInsert
  cases validatePlaybookParams site.playbooks body.playbook body.params with
  | error failure => simp
  | ok errors =>
      cases errors with
      | cons first rest => simp
      | nil =>
          cases checkPlaybookPermission site db user body.playbook with
          | error answer => simp
          | ok _ =>
              dsimp only
              cases (approvalCheck site.plus user.userId (startJobKeywords user body)).2 with
              | some decision => simp
              | none =>
                  cases checkDeploy site db user body jobId with
                  | error answer => simp
                  | ok owner => cases chooseWorker site db user body jobId <;> simp

end Launches

section Orphans
variable {site : LaunchSite} {db : Database} {user : CurrentUser} {jobId : String}

/-- A refused request leaves no job behind, and a started job ends. -/
structure NoOrphan (db : Database) (launch : Launch) (jobId : String) (run : WorkerRun) : Prop where
  refused : isError launch.answer = true → storeJob db launch = db
  ended : ∀ worker ∈ launch.worker, Ended (jobStatus (final (runWorker run worker) (storeJob db launch)) jobId)

/-- A new job is pending. -/
theorem storeJob_pending {launch : Launch} {row : JobRow} (fresh : jobId ∉ db.jobs.map Job.id)
    (stored : launch.job = some row) (named : row.job.id = jobId) (pending : row.job.status = .pending) :
    jobStatus (storeJob db launch) jobId = some .pending := by
  have absent : db.jobs.find? (fun job => job.id = jobId) = none := by
    rw [List.find?_eq_none]
    intro job member same
    exact fresh (List.mem_map.mpr ⟨job, member, of_decide_eq_true same⟩)
  have jobs : (storeJob db launch).jobs = db.jobs ++ [row.job] := by
    unfold storeJob
    rw [stored]
  unfold jobStatus
  rw [jobs, List.find?_append, absent]
  simp [named, pending]

/-- A new job changes the database. -/
theorem storeJob_ne {launch : Launch} {row : JobRow} (stored : launch.job = some row) : storeJob db launch ≠ db := by
  intro same
  have lengths := congrArg (fun db => db.jobs.length) same
  unfold storeJob at lengths
  rw [stored] at lengths
  simp at lengths

/-- No job is orphaned exactly when a stored job has a worker, and the worker comes to its end. -/
theorem noOrphan_iff_of_outcome {launch : Launch} (run : WorkerRun) (fresh : jobId ∉ db.jobs.map Job.id)
    (outcome : LaunchOutcome jobId launch) :
    NoOrphan db launch jobId run ↔
      ¬ (launch.job.isSome = true ∧ launch.worker = none) ∧ ∀ worker ∈ launch.worker, Unharmed run worker := by
  cases outcome with
  | nothing unstored unstarted =>
      constructor
      · intro _
        simp [unstored, unstarted]
      · intro _
        refine ⟨fun _ => ?_, ?_⟩
        · unfold storeJob
          rw [unstored]
        · simp [unstarted]
  | refused row stored named pending unstarted failed =>
      constructor
      · intro orphanless
        exact absurd (orphanless.refused failed) (storeJob_ne stored)
      · intro kept
        simp [stored, unstarted] at kept
  | started row worker stored named pending started same answered =>
      have waiting : jobStatus (storeJob db launch) (workerJobId worker) = some .pending := by
        rw [same]
        exact storeJob_pending fresh stored named pending
      have ends := worker_ended_iff run worker waiting
      rw [same] at ends
      constructor
      · intro orphanless
        have unharmed := ends.mp (orphanless.ended worker started)
        simp [started, unharmed]
      · intro kept
        refine ⟨fun failed => ?_, ?_⟩
        · rw [answered] at failed
          cases failed
        · intro other chosen
          rw [Option.mem_def, started] at chosen
          rw [← Option.some.inj chosen]
          exact ends.mpr (kept.2 worker started)

end Orphans

/-- A portal with one playbook that runs inside guests. -/
def guestSite : LaunchSite := { playbooks := [("patch", { targets := .guest })], templates := [], plus := {} }

/-- Anna owns no guest. -/
def anna : CurrentUser := { username := "anna", authType := .localUser, role := .operator, userId := some 1 }

def annaAlone : Database := { localUsers := [{ id := 1, username := "anna" }] }

/-- The guest runner is started without chosen hosts. -/
theorem quiet_run_worker :
    ((JobRequest.job { playbook := "patch" }).launch guestSite annaAlone anna "job").worker =
      some (.guest "job" "patch" [] .user none none 1 false) := by
  decide +kernel

end P3Portal.Jobs
