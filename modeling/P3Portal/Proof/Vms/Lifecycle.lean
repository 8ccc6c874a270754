import P3Portal.Construction.Vms.Lifecycle
import P3Portal.Foundation.PagedReader
import P3Portal.Proof.Owners.Rows

namespace P3Portal.Vms
open Schema Foundation Owners PagedReader

section Columns
variable {db : Database} {guest : Guest} {userId : Int}

/-- The stored names of the origins are the ones that the constraint accepts. -/
theorem OwnerSource.ofName_name (source : OwnerSource) : OwnerSource.ofName (OwnerSource.name source) = some source := by
  cases source <;> rfl

/-- With a valid origin the insert is the typed one. -/
theorem addOwnerNamed_name (maxOwnerships : Option Int) (db : Database) (guest : Guest) (userId actorUserId : Int)
    (source : OwnerSource) (actorUsername now : String) :
    addOwnerNamed maxOwnerships db guest userId actorUserId (OwnerSource.name source) actorUsername now =
      addOwner maxOwnerships db guest userId actorUserId source actorUsername now := by
  unfold addOwnerNamed addOwner insertOwnerNamed
  rw [OwnerSource.ofName_name, Option.bind_some]

/-- An origin that the constraint refuses never adds an owner. -/
theorem addOwnerNamed_refused {maxOwnerships : Option Int} {actorUserId : Int} {source actorUsername now : String}
    (unknown : OwnerSource.ofName source = none) {after : Database} :
    addOwnerNamed maxOwnerships db guest userId actorUserId source actorUsername now ≠ .ok after := by
  have inserted : insertOwnerNamed db guest userId (some actorUserId) source = none := by
    unfold insertOwnerNamed
    rw [unknown]
    rfl
  unfold addOwnerNamed
  rw [inserted]
  intro added
  split at added
  · cases added
  · split at added
    · cases added
    · split at added <;> cases added

/-- A reason that the constraint refuses changes no row. -/
theorem softDeleteNamed_refused {selected : VmOwner → Bool} {reason now : String}
    (unknown : DeletedReason.ofName reason = none) : (softDeleteNamed db selected reason now).getD db = db := by
  unfold softDeleteNamed
  rw [unknown]
  simp only
  split <;> rfl

end Columns

section Effects
variable {maxOwnerships : Option Int} {now : String} {db : Database}

theorem assignCloneOwner_db (log : List String) (job : LifecycleJob) (newVmid actorUserId : Int) :
    (assignCloneOwner maxOwnerships now db log job newVmid actorUserId).1 = db := by
  unfold assignCloneOwner
  split
  · rfl
  · rename_i nodeId found
    cases added : addOwnerNamed maxOwnerships db ⟨guestType job.vmType, nodeId, newVmid⟩ actorUserId actorUserId
        "clone" job.actorUsername now with
    | ok after => exact absurd added (addOwnerNamed_refused (by decide))
    | error error => cases error <;> rfl

theorem removeTemplateOwner_db (job : LifecycleJob) : removeTemplateOwner now db job = db := by
  unfold removeTemplateOwner
  split
  · rfl
  · exact softDeleteNamed_refused (by decide)

theorem ownerEffects_db (log : List String) (job : LifecycleJob) :
    (ownerEffects maxOwnerships now db log job).1 = db := by
  unfold ownerEffects
  split
  · split
    · exact assignCloneOwner_db log job _ _
    · rfl
  · split
    · exact removeTemplateOwner_db job
    · rfl

/-- A job changes no ownership. -/
theorem runVmLifecycleJob_vmOwners (job : LifecycleJob) (replies : LifecycleReplies) :
    (runVmLifecycleJob maxOwnerships now db job replies).db.vmOwners = db.vmOwners := by
  unfold runVmLifecycleJob
  simp only
  split
  · rfl
  · split
    · simp only [finishLifecycle, ownerEffects_db]
      rfl
    · rfl
    · rfl

end Effects

section Ownership
variable (maxOwnerships : Option Int) (now : String) (db : Database) (job : LifecycleJob)

/-- The clone shall get the acting user, who is below the limit, as an owner. -/
structure CloneDue (userId : Int) (guest : Guest) : Prop where
  action : job.action = "clone"
  setOwner : job.setOwner = true
  actor : job.actorUserId = some userId
  node : portalNodeId db job.pveNode = some guest.nodeId
  newid : job.newid = some guest.vmid
  kind : guest.resourceType = guestType job.vmType
  room : limitReached maxOwnerships db userId = none

/-- The converted guest shall lose its owners. -/
structure TemplateDue (guest : Guest) : Prop where
  action : job.action = "template"
  node : portalNodeId db job.pveNode = some guest.nodeId
  vmid : guest.vmid = job.vmid
  kind : guest.resourceType = guestType job.vmType

/-- After the job the clone has its owner and the template has none. -/
structure OwnershipRight (after : Database) : Prop where
  clone : ∀ userId guest, CloneDue maxOwnerships db job userId guest → isOwner after userId guest = true
  template : ∀ guest, TemplateDue db job guest → countActiveOwners after guest = 0

/-- A database with the same ownerships is right exactly when the acting user was an owner of the new guest before,
and when the converted guest had no owner before. -/
theorem ownershipRight_iff {after : Database} (rows : after.vmOwners = db.vmOwners) :
    OwnershipRight maxOwnerships db job after ↔
      (∀ userId guest, CloneDue maxOwnerships db job userId guest → isOwner db userId guest = true) ∧
        ∀ guest, TemplateDue db job guest → countActiveOwners db guest = 0 := by
  have owner : ∀ userId guest, isOwner after userId guest = isOwner db userId guest := by
    intro userId guest
    unfold isOwner
    rw [rows]
  have count : ∀ guest, countActiveOwners after guest = countActiveOwners db guest := by
    intro guest
    unfold countActiveOwners
    rw [rows]
  constructor
  · intro right
    constructor
    · intro userId guest due
      rw [← owner]
      exact right.clone userId guest due
    · intro guest due
      rw [← count]
      exact right.template guest due
  · intro before
    constructor
    · intro userId guest due
      rw [owner]
      exact before.1 userId guest due
    · intro guest due
      rw [count]
      exact before.2 guest due

/-- The ownership is right after a job exactly when the acting user was an owner of the new guest before,
and when the converted guest had no owner before. -/
theorem lifecycle_ownership_iff (replies : LifecycleReplies) :
    OwnershipRight maxOwnerships db job (runVmLifecycleJob maxOwnerships now db job replies).db ↔
      (∀ userId guest, CloneDue maxOwnerships db job userId guest → isOwner db userId guest = true) ∧
        ∀ guest, TemplateDue db job guest → countActiveOwners db guest = 0 :=
  ownershipRight_iff maxOwnerships db job (runVmLifecycleJob_vmOwners job replies)

end Ownership

section Anna
/-- Anna owns one guest on the only node. -/
def annaDb : Database where
  localUsers := [{ id := 1, username := "anna" }]
  nodes := [{ id := 1, name := "lab", url := "https://pve:8006", proxmoxNode := "pve" }]
  vmOwners := [{ id := 1, resourceType := .vm, nodeId := 1, vmid := 100, userId := 1 }]

/-- Proxmox reports the end of the task in the first round of polling. -/
def quickTask : LifecycleReplies where
  upid := .ok "UPID:pve:1"
  polls := [{ status := some (some "stopped", some "OK") }]

def annaClones : LifecycleJob where
  jobId := "j1"
  action := "clone"
  pveNode := "pve"
  vmid := 100
  vmType := "qemu"
  actorUsername := "anna"
  actorUserId := some 1
  newid := some 200
  setOwner := true

/-- Anna does not own her clone, and she still owns the guest that became a template. -/
theorem clone_unowned_template_owned :
    ¬ (∀ (db : Database) (job : LifecycleJob) (replies : LifecycleReplies),
      (runVmLifecycleJob (some 10) "t1" db job replies).ok = true →
        OwnershipRight (some 10) db job (runVmLifecycleJob (some 10) "t1" db job replies).db) ∧
    (runVmLifecycleJob (some 10) "t1" annaDb annaClones quickTask).ok = true ∧
    isOwner (runVmLifecycleJob (some 10) "t1" annaDb annaClones quickTask).db 1 ⟨.vm, 1, 200⟩ = false ∧
    (runVmLifecycleJob (some 10) "t1" annaDb { annaClones with action := "template" } quickTask).ok = true ∧
    countActiveOwners (runVmLifecycleJob (some 10) "t1" annaDb { annaClones with action := "template" } quickTask).db
      ⟨.vm, 1, 100⟩ = 1 := by
  refine ⟨?_, by decide, by decide, by decide, by decide⟩
  intro claim
  have owner := (claim annaDb annaClones quickTask (by decide)).clone 1 ⟨.vm, 1, 200⟩
    ⟨rfl, rfl, rfl, rfl, rfl, rfl, by decide⟩
  revert owner
  decide

end Anna

/-- A round sees the task at work. -/
structure TaskRound.Running (round : TaskRound) : Prop where
  active : round.cancelled = false
  working : ∀ exitStatus, round.status ≠ some (some "stopped", exitStatus)

/-- The line about a task that ended without success. -/
def exitLines (exitStatus : Option String) : List String :=
  if exitStatus = some "OK" then [] else ["[error] Proxmox-Task endete mit: " ++ shown exitStatus]

section Rounds
variable {seen : Nat} {log : List String} {round : TaskRound} {rest : List TaskRound} {exitStatus : Option String}

theorem tailRounds_running (running : round.Running) :
    tailRounds seen log (round :: rest) =
      tailRounds (seen + (getTaskLog round.log seen 500).length) (log ++ taskLines (getTaskLog round.log seen 500)) rest := by
  rw [tailRounds, if_neg (by rw [running.active]; decide)]
  dsimp only
  split
  · rename_i status stopped
    exact absurd stopped (running.working status)
  · rfl

theorem tailRounds_stopped (active : round.cancelled = false) (stopped : round.status = some (some "stopped", exitStatus)) :
    tailRounds seen log (round :: rest) =
      (log ++ taskLines (getTaskLog round.log seen 500) ++
        taskLines (getTaskLog round.lastLog (seen + (getTaskLog round.log seen 500).length) 500) ++ exitLines exitStatus,
        decide (exitStatus = some "OK")) := by
  rw [tailRounds, if_neg (by rw [active]; decide), stopped]
  dsimp only
  split
  · rename_i same
    cases same
    unfold exitLines
    split
    · rename_i success
      rw [List.append_nil, decide_eq_true success]
    · rename_i failure
      rw [decide_eq_false failure]
  · rename_i other
    exact absurd rfl (other exitStatus)

end Rounds

/-- The answers that the rounds of polling get from the growing log. -/
def pollsOf (seen : Nat) : List TaskRound → List TaskPoll
  | [] => []
  | round :: rest =>
      let lines := getTaskLog round.log seen 500
      let behind := seen + lines.length
      ⟨round.cancelled, .ok lines, round.status, .ok (getTaskLog round.lastLog behind 500)⟩ :: pollsOf behind rest

/-- The loop with its counter is the loop over these answers. -/
theorem tailTask_pollsOf (seen : Nat) (log : List String) (rounds : List TaskRound) :
    tailTask log (pollsOf seen rounds) = ((tailRounds seen log rounds).1, .ok (tailRounds seen log rounds).2) := by
  induction rounds generalizing seen log with
  | nil => rfl
  | cons round rest ih =>
      rw [pollsOf, tailTask]
      dsimp only
      cases active : round.cancelled with
      | true =>
          rw [tailRounds, active]
          rfl
      | false =>
          rw [if_neg (by decide)]
          split
          · rename_i exitStatus stopped
            rw [tailRounds_stopped active stopped]
            unfold exitLines
            split
            · rename_i success
              rw [List.append_nil, decide_eq_true success]
            · rename_i failure
              rw [decide_eq_false failure]
          · rename_i working
            rw [tailRounds_running ⟨active, working⟩]
            exact ih _ _

/-- A run of the loop that sees the end of its task, with the lines that the task writes in all. -/
structure StoppedRun where
  before : List TaskRound
  stop : TaskRound
  exitStatus : Option String
  lines : List String
  running : ∀ round ∈ before, round.Running
  active : stop.cancelled = false
  stopped : stop.status = some (some "stopped", exitStatus)
  in_time : before.length < maxPolls
  grows : Grows (before.map TaskRound.log ++ [stop.log, stop.lastLog]) lines

namespace StoppedRun
variable (run : StoppedRun)

/-- Every line of the task is in the log of the job, once and in its place, and then the end of the task. -/
def Complete (log : List String) (rest : List TaskRound) : Prop :=
  tailGrowingTask log (run.before ++ run.stop :: rest) =
    (log ++ run.lines.map (Text.rstrip '\n') ++ exitLines run.exitStatus, decide (run.exitStatus = some "OK"))

/-- The whole log exists at the last reading, and from no round on the task writes more than the remaining pages. -/
structure KeepsUp : Prop where
  finished : run.stop.lastLog = run.lines
  pages : run.lines.length ≤ 500 * (run.before.length + 2)
  rounds : ∀ earlier round later, run.before ++ [run.stop] = earlier ++ round :: later →
    run.lines.length ≤ round.log.length + 500 * (later.length + 1)

end StoppedRun

section Reading

theorem taskLines_getTaskLog (snapshot : List String) (seen : Nat) :
    taskLines (getTaskLog snapshot seen 500) = (page 500 seen snapshot).map (Text.rstrip '\n') := by
  have kept : ∀ lines : List String, (lines.map some).reduceOption = lines := by
    intro lines
    show (lines.map some).filterMap id = lines
    simp
  unfold taskLines getTaskLog page
  rw [kept]

theorem getTaskLog_length (snapshot : List String) (seen : Nat) :
    (getTaskLog snapshot seen 500).length = (page 500 seen snapshot).length := List.length_map _

/-- The rounds at work read their pages. -/
theorem tailRounds_before {before : List TaskRound} (running : ∀ round ∈ before, round.Running) (seen : Nat)
    (log : List String) (rest : List TaskRound) :
    tailRounds seen log (before ++ rest) =
      tailRounds (advance 500 seen (before.map TaskRound.log))
        (log ++ (collected 500 seen (before.map TaskRound.log)).map (Text.rstrip '\n')) rest := by
  induction before generalizing seen log with
  | nil => simp [advance, collected]
  | cons round before ih =>
      rw [List.cons_append, tailRounds_running (running round List.mem_cons_self),
        ih fun later member => running later (List.mem_cons_of_mem round member)]
      rw [taskLines_getTaskLog, getTaskLog_length, List.map_cons, advance, collected, List.map_append, List.append_assoc]

/-- The log of a job holds what the pages of all rounds collect. -/
theorem tailGrowingTask_eq (run : StoppedRun) (log : List String) (rest : List TaskRound) :
    tailGrowingTask log (run.before ++ run.stop :: rest) =
      (log ++ (run.lines.take (advance 500 0 (run.before.map TaskRound.log ++ [run.stop.log, run.stop.lastLog]))).map
        (Text.rstrip '\n') ++ exitLines run.exitStatus, decide (run.exitStatus = some "OK")) := by
  have room : maxPolls - run.before.length = (maxPolls - run.before.length - 1) + 1 := by
    have in_time := run.in_time
    omega
  have limited : (run.before ++ run.stop :: rest).take maxPolls =
      run.before ++ run.stop :: rest.take (maxPolls - run.before.length - 1) := by
    rw [List.take_append, List.take_of_length_le (Nat.le_of_lt run.in_time), room, List.take_succ_cons]
    rfl
  have read := @take_collected String 500 0 _ _ run.grows fun _ _ => Nat.zero_le _
  rw [List.take_zero, List.nil_append] at read
  unfold tailGrowingTask
  rw [limited, tailRounds_before run.running, tailRounds_stopped run.active run.stopped, ← read, collected_append]
  simp only [taskLines_getTaskLog, getTaskLog_length, collected, List.append_nil, List.map_append, List.append_assoc]

end Reading

/-- The log of a job is complete exactly when its pages keep up with the task. -/
theorem complete_iff (run : StoppedRun) (log : List String) (rest : List TaskRound) :
    run.Complete log rest ↔ run.KeepsUp := by
  have reads : run.Complete log rest ↔
      run.lines.length ≤ advance 500 0 (run.before.map TaskRound.log ++ [run.stop.log, run.stop.lastLog]) := by
    unfold StoppedRun.Complete
    rw [tailGrowingTask_eq, Prod.mk.injEq, and_iff_left rfl, List.append_cancel_right_eq, List.append_cancel_left_eq]
    constructor
    · intro same
      have sizes := congrArg List.length same
      simp only [List.length_map, List.length_take] at sizes
      omega
    · intro enough
      rw [List.take_of_length_le enough]
  have snapshots : run.before.map TaskRound.log ++ [run.stop.log, run.stop.lastLog] =
      (run.before ++ [run.stop]).map TaskRound.log ++ [run.stop.lastLog] := by simp
  have whole : run.stop.lastLog <+: run.lines := by
    have grows := run.grows
    unfold Grows at grows
    rw [snapshots, List.append_assoc] at grows
    exact (List.pairwise_cons.mp (List.pairwise_append.mp grows).2.1).1 run.lines List.mem_cons_self
  rw [reads, le_advance_iff run.grows fun _ _ => Nat.zero_le _]
  have count : (run.before.map TaskRound.log ++ [run.stop.log, run.stop.lastLog]).length = run.before.length + 2 := by simp
  rw [count, Nat.zero_add]
  constructor
  · rintro ⟨pages, all⟩
    constructor
    · have last := all _ run.stop.lastLog [] snapshots
      exact whole.eq_of_length_le (by simpa using last)
    · exact pages
    · intro earlier round later split
      have bound := all (earlier.map TaskRound.log) round.log (later.map TaskRound.log ++ [run.stop.lastLog]) (by
        rw [snapshots, split]
        simp)
      simpa using bound
  · rintro ⟨finished, pages, rounds⟩
    refine ⟨pages, fun earlier snapshot later split => ?_⟩
    rw [snapshots] at split
    rcases List.eq_nil_or_concat later with rfl | ⟨between, last, rfl⟩
    · have same := (List.append_inj' split rfl).2
      rw [← List.singleton_inj.mp same, finished]
      exact Nat.le_add_right _ _
    · have split : (run.before ++ [run.stop]).map TaskRound.log ++ [run.stop.lastLog] =
          (earlier ++ snapshot :: between) ++ [last] := by
        rw [split]
        simp
      obtain ⟨front, back, parts, rfl, behind⟩ := List.map_eq_append_iff.mp (List.append_inj' split rfl).1
      obtain ⟨round, rest, rfl, rfl, rfl⟩ := List.map_eq_cons_iff.mp behind
      have bound := rounds front round rest parts
      simpa using bound

/-- A task that writes one line more than two pages hold before it is first read. -/
def burst : StoppedRun where
  before := []
  stop := ⟨false, List.replicate 1001 "transferred", some (some "stopped", some "OK"), List.replicate 1001 "transferred"⟩
  exitStatus := some "OK"
  lines := List.replicate 1001 "transferred"
  running := by
    intro round absent
    cases absent
  active := rfl
  stopped := rfl
  in_time := by decide
  grows := by
    show (List.replicate 3 (List.replicate 1001 "transferred")).Pairwise (· <+: ·)
    exact List.pairwise_replicate.mpr (.inr (List.prefix_refl _))

/-- The last line of the burst is missing although the job reports success. -/
theorem burst_incomplete : ¬ burst.Complete [] [] := by
  intro complete
  unfold StoppedRun.Complete at complete
  rw [tailGrowingTask_eq] at complete
  have sizes := congrArg (fun result => result.1.length) complete
  have seen : advance 500 0 (burst.before.map TaskRound.log ++ [burst.stop.log, burst.stop.lastLog]) = 1000 := by
    decide +kernel
  have written : burst.lines.length = 1001 := List.length_replicate
  rw [seen] at sizes
  simp only [List.length_append, List.length_map, List.length_take, written] at sizes
  omega
end P3Portal.Vms
