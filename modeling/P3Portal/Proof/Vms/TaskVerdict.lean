import P3Portal.Construction.Jobs.Workers
import P3Portal.Proof.Jobs.Orphans
import P3Portal.Proof.Vms.Lifecycle

namespace P3Portal.Vms
open Schema Foundation Owners Jobs

section Tail
variable {exitStatus : Option String} {poll : TaskPoll} {rest polls : List TaskPoll} {log : List String}

/-- A round reads the end of the task. -/
def seesEnd (poll : TaskPoll) : Bool := poll.status.any fun status => status.1 = some "stopped"

def Answered (lines : Except LifecycleError (List (Option String))) : Prop := lines.toOption.isSome = true

/-- The log is read in every round up to the one that reads the end of the task, and there once more. -/
def LogRead (polls : List TaskPoll) : Prop :=
  (∀ poll ∈ polls.takeWhile fun poll => !seesEnd poll, Answered poll.lines) ∧
  ∀ poll ∈ polls.find? seesEnd, Answered poll.lines ∧ Answered poll.lastLines

theorem seesEnd_iff : seesEnd poll = true ↔ ∃ exitStatus, poll.status = some (some "stopped", exitStatus) := by
  unfold seesEnd
  rw [Option.any_eq_true]
  constructor
  · rintro ⟨⟨status, exitStatus⟩, read, stopped⟩
    exact ⟨exitStatus, (of_decide_eq_true stopped : status = _) ▸ read⟩
  · rintro ⟨exitStatus, read⟩
    exact ⟨_, read, decide_eq_true rfl⟩

theorem answered_iff {lines : Except LifecycleError (List (Option String))} :
    Answered lines ↔ ∃ texts, lines = .ok texts := by
  cases lines with
  | error error =>
      apply iff_of_false Bool.false_ne_true
      intro read
      obtain ⟨texts, same⟩ := read
      cases same
  | ok texts => exact iff_of_true rfl ⟨texts, rfl⟩

theorem logRead_end (stopped : seesEnd poll = true) :
    LogRead (poll :: rest) ↔ Answered poll.lines ∧ Answered poll.lastLines := by
  unfold LogRead
  rw [List.takeWhile_cons_of_neg (by rw [stopped]; decide), List.find?_cons_of_pos stopped]
  constructor
  · exact fun both => both.2 poll rfl
  · intro both
    refine ⟨fun _ absent => absurd absent List.not_mem_nil, ?_⟩
    rintro _ ⟨⟩
    exact both

theorem logRead_running (running : seesEnd poll = false) :
    LogRead (poll :: rest) ↔ Answered poll.lines ∧ LogRead rest := by
  unfold LogRead
  rw [List.takeWhile_cons_of_pos (by rw [running]; rfl), List.find?_cons_of_neg (Bool.eq_false_iff.mp running),
    List.forall_mem_cons, and_assoc]

theorem tailTask_unread (active : poll.cancelled = false) (unread : ¬ Answered poll.lines) :
    (tailTask log (poll :: rest)).2 ≠ .ok true := by
  rw [tailTask, if_neg (by rw [active]; decide)]
  cases lines : poll.lines with
  | error error =>
      intro same
      cases same
  | ok texts => exact absurd (answered_iff.mpr ⟨texts, lines⟩) unread

theorem tailTask_running (active : poll.cancelled = false) {texts : List (Option String)} (read : poll.lines = .ok texts)
    (running : seesEnd poll = false) : tailTask log (poll :: rest) = tailTask (log ++ taskLines texts) rest := by
  rw [tailTask, if_neg (by rw [active]; decide), read]
  dsimp only
  split
  · rename_i exitStatus stopped
    exact absurd (seesEnd_iff.mpr ⟨exitStatus, stopped⟩) (Bool.eq_false_iff.mp running)
  · rfl

theorem tailTask_end (active : poll.cancelled = false) {texts : List (Option String)} (read : poll.lines = .ok texts)
    (stopped : poll.status = some (some "stopped", exitStatus)) :
    (tailTask log (poll :: rest)).2 = .ok true ↔ exitStatus = some "OK" ∧ Answered poll.lastLines := by
  rw [tailTask, if_neg (by rw [active]; decide), read, stopped]
  dsimp only
  split
  · rename_i other same
    cases same
    cases last : poll.lastLines with
    | error error =>
        refine iff_of_false ?_ fun both => Bool.false_ne_true both.2
        intro same
        cases same
    | ok lines =>
        by_cases success : exitStatus = some "OK"
        · simp only [if_pos success]
          exact iff_of_true trivial ⟨success, rfl⟩
        · simp only [if_neg success]
          refine iff_of_false ?_ fun both => success both.1
          intro same
          cases same
  · rename_i other
    exact absurd rfl (other exitStatus)

/-- An uncancelled loop whose task ends reports success exactly when the task ended with OK and no reading of the log
failed before. -/
theorem tailTask_ok_iff (uncancelled : ∀ poll ∈ polls, poll.cancelled = false)
    (told : ∀ poll ∈ polls, ∀ other, poll.status = some (some "stopped", other) → other = exitStatus)
    (ended : ∃ poll ∈ polls, seesEnd poll = true) :
    (tailTask log polls).2 = .ok true ↔ exitStatus = some "OK" ∧ LogRead polls := by
  induction polls generalizing log with
  | nil =>
      obtain ⟨poll, absent, -⟩ := ended
      exact absurd absent List.not_mem_nil
  | cons poll rest ih =>
      have active := uncancelled poll List.mem_cons_self
      by_cases read : Answered poll.lines
      · obtain ⟨texts, lines⟩ := answered_iff.mp read
        cases sees : seesEnd poll with
        | true =>
            obtain ⟨other, stopped⟩ := seesEnd_iff.mp sees
            rw [tailTask_end active lines stopped, logRead_end sees, told poll List.mem_cons_self other stopped,
              and_iff_right read]
        | false =>
            have later : ∃ poll ∈ rest, seesEnd poll = true := by
              obtain ⟨last, member, stopped⟩ := ended
              rcases List.mem_cons.mp member with rfl | inside
              · exact absurd stopped (Bool.eq_false_iff.mp sees)
              · exact ⟨last, inside, stopped⟩
            rw [tailTask_running active lines sees, logRead_running sees, and_iff_right read]
            exact ih (fun poll member => uncancelled poll (List.mem_cons_of_mem _ member))
              (fun poll member => told poll (List.mem_cons_of_mem _ member)) later
      · refine iff_of_false (tailTask_unread active read) fun both => read ?_
        cases sees : seesEnd poll with
        | true => exact ((logRead_end sees).mp both.2).1
        | false => exact ((logRead_running sees).mp both.2).1

end Tail

section Download
variable {exitStatus : String} {polls : List IsoPoll} {log : List String}

/-- A reading finds the download at its end. -/
def downloadEnded (poll : IsoPoll) : Bool := poll.toOption.any fun read => read.1 = "stopped"

/-- Every reading before the one that finds the end succeeds. -/
def StatusRead (polls : List IsoPoll) : Prop :=
  ∀ poll ∈ polls.takeWhile fun poll => !downloadEnded poll, poll.toOption.isSome = true

theorem statusRead_running {poll : IsoPoll} {rest : List IsoPoll} (running : downloadEnded poll = false) :
    StatusRead (poll :: rest) ↔ poll.toOption.isSome = true ∧ StatusRead rest := by
  unfold StatusRead
  rw [List.takeWhile_cons_of_pos (by rw [running]; rfl), List.forall_mem_cons]

/-- The polling of a download that ends reports success exactly when it ended with OK and no reading failed before. -/
theorem pollDownload_ok_iff (told : ∀ other, .ok ("stopped", other) ∈ polls → other = exitStatus)
    (ended : ∃ poll ∈ polls, downloadEnded poll = true) :
    ∃ done, pollDownload log polls = some done ∧ (done.2 = true ↔ exitStatus = "OK" ∧ StatusRead polls) := by
  induction polls generalizing log with
  | nil =>
      obtain ⟨poll, absent, -⟩ := ended
      exact absurd absent List.not_mem_nil
  | cons poll rest ih =>
      cases poll with
      | error text =>
          have running : downloadEnded (.error text) = false := rfl
          refine ⟨_, rfl, iff_of_false Bool.false_ne_true fun both => ?_⟩
          exact Bool.false_ne_true ((statusRead_running running).mp both.2).1
      | ok read =>
          obtain ⟨taskStatus, other⟩ := read
          by_cases stopped : taskStatus = "stopped"
          · cases stopped
            have same := told other List.mem_cons_self
            have sees : downloadEnded (.ok ("stopped", other)) = true := rfl
            have nothing : StatusRead (.ok ("stopped", other) :: rest) := by
              unfold StatusRead
              rw [List.takeWhile_cons_of_neg (by rw [sees]; decide)]
              exact fun _ absent => absurd absent List.not_mem_nil
            refine ⟨_, rfl, ?_⟩
            rw [and_iff_left nothing, same]
            exact decide_eq_true_iff
          · have running : downloadEnded (.ok (taskStatus, other)) = false := decide_eq_false stopped
            have later : ∃ poll ∈ rest, downloadEnded poll = true := by
              obtain ⟨last, member, sees⟩ := ended
              rcases List.mem_cons.mp member with rfl | inside
              · exact absurd sees (Bool.eq_false_iff.mp running)
              · exact ⟨last, inside, sees⟩
            rw [pollDownload, if_neg stopped, statusRead_running running]
            obtain ⟨done, polled, verdict⟩ := ih (fun other member => told other (List.mem_cons_of_mem _ member)) later
            exact ⟨done, polled, verdict.trans (and_congr_right fun _ => (and_iff_right rfl).symm)⟩

end Download

/-- A lifecycle job whose task was started, is not cancelled, and is read at its end within the limit of rounds. -/
structure LifecycleTask (db : Database) where
  job : LifecycleJob
  replies : LifecycleReplies
  upid : String
  exitStatus : Option String
  stored : (jobStatus db job.jobId).isSome = true
  known : (announcement job).isSome = true
  started : startCall job replies = .ok upid
  asynchronous : upid ≠ ""
  uncancelled : ∀ poll ∈ replies.polls, poll.cancelled = false
  told : ∀ poll ∈ replies.polls, ∀ other, poll.status = some (some "stopped", other) → other = exitStatus
  ended : ∃ poll ∈ replies.polls.take maxPolls, seesEnd poll = true

/-- A download whose end is read. -/
structure DownloadTask (db : Database) where
  jobId : String
  node : String
  upid : String
  polls : List IsoPoll
  exitStatus : String
  stored : (jobStatus db jobId).isSome = true
  told : ∀ other, .ok ("stopped", other) ∈ polls → other = exitStatus
  ended : ∃ poll ∈ polls, downloadEnded poll = true

section Verdict
variable (maxOwnerships : Option Int) (now : String) {db : Database}

/-- The job is stored as a success exactly when its task ended with OK, and the ownership follows in that case only. -/
structure FollowsTask (task : LifecycleTask db) : Prop where
  status : jobStatus (runVmLifecycleJob maxOwnerships now db task.job task.replies).db task.job.jobId = some .success ↔
    task.exitStatus = some "OK"
  effects : task.exitStatus = some "OK" → OwnershipRight maxOwnerships db task.job
    (runVmLifecycleJob maxOwnerships now db task.job task.replies).db
  nothing : task.exitStatus ≠ some "OK" →
    (runVmLifecycleJob maxOwnerships now db task.job task.replies).db.vmOwners = db.vmOwners

/-- The polling of a download ends, and its job is stored as a success exactly when its task ended with OK. -/
def FollowsDownload (task : DownloadTask db) : Prop :=
  ∃ run, runIsoDownloadJob db task.jobId task.node task.upid task.polls = some run ∧
    (jobStatus run.db task.jobId = some .success ↔ task.exitStatus = "OK")

/-- No owner is due that is not there before, and no template has one. -/
def OwnersSettled (db : Database) (job : LifecycleJob) : Prop :=
  (∀ userId guest, CloneDue maxOwnerships db job userId guest → isOwner db userId guest = true) ∧
  ∀ guest, TemplateDue db job guest → countActiveOwners db guest = 0

theorem stored_status {jobId : String} (stored : (jobStatus db jobId).isSome = true) (ok : Bool) :
    jobStatus (setJobStatus (setJobStatus db jobId .running) jobId (if ok then .success else .failed)) jobId =
      some .success ↔ ok = true := by
  obtain ⟨status, found⟩ := Option.isSome_iff_exists.mp stored
  rw [jobStatus_setJobStatus, jobStatus_setJobStatus, found]
  cases ok
  · exact iff_of_false (fun same => nomatch same) Bool.false_ne_true
  · exact iff_of_true rfl rfl

/-- The status of a job is the verdict of its loop. -/
theorem lifecycle_status (task : LifecycleTask db) :
    jobStatus (runVmLifecycleJob maxOwnerships now db task.job task.replies).db task.job.jobId = some .success ↔
      task.exitStatus = some "OK" ∧ LogRead (task.replies.polls.take maxPolls) := by
  obtain ⟨line, announced⟩ := Option.isSome_iff_exists.mp task.known
  have verdict : ∀ log, (performAction log task.job task.replies).2 = .ok true ↔
      task.exitStatus = some "OK" ∧ LogRead (task.replies.polls.take maxPolls) := by
    intro log
    unfold performAction
    rw [task.started]
    dsimp only
    rw [if_neg task.asynchronous]
    exact tailTask_ok_iff (fun poll member => task.uncancelled poll (List.mem_of_mem_take member))
      (fun poll member => task.told poll (List.mem_of_mem_take member)) task.ended
  rw [← verdict (["[info] " ++ lifecycleLabel task.job.action ++ " gestartet für " ++ task.job.vmType ++ " " ++
    toString task.job.vmid ++ " auf Node " ++ task.job.pveNode ++ "."] ++ [line])]
  unfold runVmLifecycleJob
  simp only [announced]
  split
  · rename_i success
    simp only [finishLifecycle, ownerEffects_db]
    exact (stored_status task.stored true).trans (iff_of_true rfl success)
  · rename_i failure
    rw [failure]
    refine (stored_status task.stored false).trans (iff_of_false Bool.false_ne_true ?_)
    intro same
    cases same
  · rename_i error failure
    rw [failure]
    refine (stored_status task.stored false).trans (iff_of_false Bool.false_ne_true ?_)
    intro same
    cases same

theorem follows_task_iff (task : LifecycleTask db) : FollowsTask maxOwnerships now task ↔
    (task.exitStatus = some "OK" →
      LogRead (task.replies.polls.take maxPolls) ∧ OwnersSettled maxOwnerships db task.job) := by
  have rows := @runVmLifecycleJob_vmOwners maxOwnerships now db task.job task.replies
  constructor
  · intro follows success
    exact ⟨((lifecycle_status maxOwnerships now task).mp (follows.status.mpr success)).2,
      (ownershipRight_iff maxOwnerships db task.job rows).mp (follows.effects success)⟩
  · intro enough
    constructor
    · rw [lifecycle_status]
      exact ⟨And.left, fun success => ⟨success, (enough success).1⟩⟩
    · intro success
      exact (ownershipRight_iff maxOwnerships db task.job rows).mpr (enough success).2
    · exact fun _ => rows

theorem follows_download_iff (task : DownloadTask db) : FollowsDownload task ↔
    (task.exitStatus = "OK" → StatusRead task.polls) := by
  obtain ⟨done, polled, verdict⟩ := @pollDownload_ok_iff _ _
    ["[iso-download] Node: " ++ task.node, "[iso-download] Proxmox Task: " ++ task.upid] task.told task.ended
  unfold FollowsDownload runIsoDownloadJob
  dsimp only
  rw [polled]
  simp only [Option.map_some, Option.some.injEq, exists_eq_left', stored_status task.stored, verdict]
  exact ⟨fun same success => (same.mpr success).2, fun read => ⟨And.left, fun success => ⟨success, read success⟩⟩⟩

end Verdict

section Interrupted

/-- Anna migrates a guest, and the first reading of the log fails once. -/
def interrupted : LifecycleTask { annaDb with jobs := [{ id := "j1", playbook := "migrate", username := "anna" }] } where
  job := { jobId := "j1", action := "migrate", pveNode := "pve", vmid := 100, vmType := "qemu",
           actorUsername := "anna", targetNode := some "pve2" }
  replies := ⟨.ok "UPID:pve:1", [{ lines := .error (.requestError "timeout"), status := some (some "running", none) },
    { status := some (some "stopped", some "OK") }]⟩
  upid := "UPID:pve:1"
  exitStatus := some "OK"
  stored := by decide
  known := by decide
  started := rfl
  asynchronous := by decide
  uncancelled := by decide
  told := by
    intro poll member other stopped
    simp only [List.mem_cons, List.not_mem_nil, or_false] at member
    rcases member with rfl | rfl
    · have names : some "running" = some "stopped" := congrArg Prod.fst (Option.some.inj stopped)
      exact absurd names (by decide)
    · cases stopped
      rfl
  ended := ⟨_, List.mem_cons_of_mem _ List.mem_cons_self, rfl⟩

/-- The first status of a download is not read. -/
def interruptedDownload : DownloadTask { jobs := [{ id := "j2", playbook := "iso", username := "anna" }] } where
  jobId := "j2"
  node := "pve"
  upid := "UPID:pve:2"
  polls := [.error "timeout", .ok ("stopped", "OK")]
  exitStatus := "OK"
  stored := by decide
  told := by
    intro other member
    simp only [List.mem_cons, List.not_mem_nil, or_false, reduceCtorEq, false_or] at member
    cases member
    rfl
  ended := ⟨_, List.mem_cons_of_mem _ List.mem_cons_self, rfl⟩

end Interrupted
end P3Portal.Vms
