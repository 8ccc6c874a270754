import P3Portal.Construction.Automation.Launch
import P3Portal.Foundation.KeyedRows
import P3Portal.Foundation.Run

namespace P3Portal.Automation
open Schema Foundation Http Auth

section Jobs
variable {db : Database} {templateId jobId : String}

theorem setJobStatus_ids (db : Database) (jobId : String) (status : JobStatus) :
    (setJobStatus db jobId status).jobs.map Job.id = db.jobs.map Job.id :=
  map_column_selected (fun job : Job => job.id = jobId) fun _ => rfl

/-- A build that starts to run or ends adds no unfinished build. -/
theorem countP_setJobStatus_le (templateId : String) (status : JobStatus)
    (open_ : ∀ job ∈ db.jobs, job.id = jobId → job.status = .pending ∨ job.status = .running) :
    (setJobStatus db jobId status).jobs.countP (unfinishedBuild templateId) ≤
      db.jobs.countP (unfinishedBuild templateId) := by
  show (db.jobs.map _).countP (unfinishedBuild templateId) ≤ _
  rw [List.countP_map]
  apply List.countP_mono_left
  intro job stored unfinished
  rw [Function.comp_apply] at unfinished
  by_cases here : job.id = jobId
  · rw [if_pos here] at unfinished
    simp only [unfinishedBuild, Bool.and_eq_true, decide_eq_true_eq, Bool.or_eq_true] at unfinished ⊢
    exact ⟨unfinished.1, open_ job stored here⟩
  · rw [if_neg here] at unfinished
    exact unfinished

/-- No build of the template is pending or running. -/
def NoBuild (db : Database) (templateId : String) : Prop :=
  ∀ job ∈ db.jobs, unfinishedBuild templateId job = false

instance (db : Database) (templateId : String) : Decidable (NoBuild db templateId) :=
  inferInstanceAs (Decidable (∀ job ∈ db.jobs, _))

theorem noBuild_iff_countP : NoBuild db templateId ↔ db.jobs.countP (unfinishedBuild templateId) = 0 := by
  rw [List.countP_eq_zero]
  apply forall_congr'
  intro job
  apply imp_congr_right
  intro _
  rw [Bool.not_eq_true]

theorem noBuild_iff_noted :
    (db.jobs.filter (unfinishedBuild templateId)).map Job.id = [] ↔ NoBuild db templateId := by
  rw [List.map_eq_nil_iff, List.filter_eq_nil_iff]
  apply forall_congr'
  intro job
  apply imp_congr_right
  intro _
  rw [Bool.not_eq_true]

end Jobs

section Alone
variable (site : LaunchSite) (db : Database)

/-- The endpoint looks for running builds after its other checks. -/
theorem checkBuild_eq (user : CurrentUser) (templateId : String) (params : Params) :
    checkBuild site db user templateId params = do
      let credentials ← admitBuild site db user templateId params
      if buildRunning db templateId then
        throw (.refused ⟨409, "Ein Build für dieses Template läuft bereits"⟩)
      return credentials := by
  unfold checkBuild admitBuild
  cases absent : (getPackerTemplate site.templates templateId).isNone with
  | true => rfl
  | false =>
      cases packerCredentials site db user params with
      | error answer => rfl
      | ok credentials =>
          cases validatePackerParams site.templates templateId params with
          | error failure => rfl
          | ok errors => cases errors <;> rfl

/-- The turns of a build until its job is stored or an answer is given. -/
def buildAlone (inputs : PackerInputs) (portal : PackerPortal) (request : BuildRequest) :
    PackerPortal × BuildPhase :=
  let first := buildTurn site inputs portal request .arrived
  let second := buildTurn site inputs first.1 request first.2
  buildTurn site inputs second.1 request second.2

/-- Without an interruption the turns carry out the endpoint. -/
theorem buildAlone_eq (inputs : PackerInputs) (portal : PackerPortal) (request : BuildRequest)
    (same : site.templates = portal.templates) (fresh : inputs.jobId ∉ portal.db.jobs.map Job.id) :
    let launch := startPackerBuild site portal.db request.user request.templateId request.params inputs.jobId
    buildAlone site inputs portal request =
      match launch.job with
      | some row => ({ portal with db := { portal.db with jobs := portal.db.jobs ++ [row.job] } },
          .queued inputs.jobId)
      | none => (portal, .answered launch.answer) := by
  have templates : { site with templates := portal.templates } = site := by
    rw [← same]
  intro launch
  show buildAlone site inputs portal request = _
  simp only [launch, startPackerBuild, checkBuild_eq]
  cases admitted : admitBuild site portal.db request.user request.templateId request.params with
  | error answer => simp [buildAlone, buildTurn, templates, admitted, bind, Except.bind]
  | ok credentials =>
      by_cases running : buildRunning portal.db request.templateId = true
      · simp [buildAlone, buildTurn, templates, admitted, running, bind, Except.bind, throw, throwThe,
          MonadExceptOf.throw]
      · cases decided : (approvalCheck site.plus request.user.userId
            (startPackerBuildKeywords request.user request.params)).2 with
        | some decision =>
            simp [buildAlone, buildTurn, storeBuild, templates, admitted, running, decided, bind, Except.bind,
              pure, Except.pure]
        | none =>
            simp [buildAlone, buildTurn, storeBuild, templates, admitted, running, decided, fresh, same, bind,
              Except.bind, pure, Except.pure]

end Alone

section Turns

/-- The job that a process still works on. -/
def PackerProcess.job : PackerProcess → Option String
  | .build _ (.queued jobId) => some jobId
  | .build _ (.running jobId) => some jobId
  | _ => none

/-- The turn of a checked build stores its job. -/
def Stores (site : LaunchSite) (inputs : PackerInputs) (portal : PackerPortal) (request : BuildRequest) : Prop :=
  (approvalCheck site.plus request.user.userId (startPackerBuildKeywords request.user request.params)).2 = none ∧
    inputs.jobId ∉ portal.db.jobs.map Job.id

/-- No build of the template is unfinished when a job is stored or a directory is removed. -/
def BuildClear (site : LaunchSite) (inputs : PackerInputs) (portal : PackerPortal) : PackerProcess → Prop
  | .build request (.checked _) => Stores site inputs portal request → NoBuild portal.db request.templateId
  | .delete templateId .checked => templateId ∈ portal.templates.map Prod.fst → NoBuild portal.db templateId
  | _ => True

instance (site : LaunchSite) (inputs : PackerInputs) (portal : PackerPortal) (request : BuildRequest) :
    Decidable (Stores site inputs portal request) := inferInstanceAs (Decidable (_ ∧ _))

instance (site : LaunchSite) (inputs : PackerInputs) (portal : PackerPortal) :
    DecidablePred (BuildClear site inputs portal)
  | .build request (.checked _) =>
      inferInstanceAs (Decidable (Stores site inputs portal request → NoBuild portal.db request.templateId))
  | .delete templateId .checked =>
      inferInstanceAs (Decidable (templateId ∈ portal.templates.map Prod.fst → NoBuild portal.db templateId))
  | .build _ .arrived | .build _ (.admitted _) | .build _ (.queued _) | .build _ (.running _) | .build _ .done
  | .build _ (.answered _) | .delete _ .arrived | .delete _ .found | .delete _ (.finished _) =>
      inferInstanceAs (Decidable True)

/-- A turn of a process does one of these things. -/
inductive TurnEffect (site : LaunchSite) (inputs : PackerInputs) (portal : PackerPortal) (process : PackerProcess) :
    PackerPortal → PackerProcess → Prop
  | quiet (after : PackerProcess) : process.job = none → after.job = none → BuildClear site inputs portal process →
      TurnEffect site inputs portal process portal after
  | store (request : BuildRequest) (credentials : Option ProxmoxCredentials) (row : Job) :
      process = .build request (.checked credentials) → Stores site inputs portal request →
      row.id = inputs.jobId → row.type = .packer → row.playbook = request.templateId → row.status = .pending →
      TurnEffect site inputs portal process
        { portal with db := { portal.db with jobs := portal.db.jobs ++ [row] } } (.build request (.queued row.id))
  | start (request : BuildRequest) (jobId : String) : process = .build request (.queued jobId) →
      TurnEffect site inputs portal process { portal with db := setJobStatus portal.db jobId .running }
        (.build request (.running jobId))
  | finish (request : BuildRequest) (jobId : String) (status : JobStatus) :
      process = .build request (.running jobId) →
      TurnEffect site inputs portal process { portal with db := setJobStatus portal.db jobId status }
        (.build request .done)
  | remove (templateId : String) (templates : PackerTemplates) : process = .delete templateId .checked →
      templateId ∈ portal.templates.map Prod.fst →
      TurnEffect site inputs portal process
        { portal with
            templates := templates
            removals := portal.removals ++
              [(templateId, (portal.db.jobs.filter (unfinishedBuild templateId)).map Job.id)] }
        (.delete templateId (.finished (.ok ())))

theorem advance_effect (site : LaunchSite) (inputs : PackerInputs) (portal : PackerPortal)
    (process : PackerProcess) :
    TurnEffect site inputs portal process (process.advance site inputs portal).1
      (process.advance site inputs portal).2 := by
  cases process with
  | build request phase =>
      cases phase with
      | arrived =>
          simp only [PackerProcess.advance, buildTurn]
          split <;> exact .quiet _ rfl rfl trivial
      | admitted credentials =>
          simp only [PackerProcess.advance, buildTurn]
          split <;> exact .quiet _ rfl rfl trivial
      | checked credentials =>
          simp only [PackerProcess.advance, buildTurn, storeBuild]
          split
          · rename_i decision decided
            apply TurnEffect.quiet _ rfl rfl
            intro stores
            rw [stores.1] at decided
            cases decided
          · rename_i undecided
            split
            · rename_i used
              apply TurnEffect.quiet _ rfl rfl
              intro stores
              exact absurd used stores.2
            · rename_i fresh
              exact .store request credentials _ rfl ⟨undecided, fresh⟩ rfl rfl rfl rfl
      | queued jobId => exact .start request jobId rfl
      | running jobId => exact .finish request jobId _ rfl
      | done => exact .quiet _ rfl rfl trivial
      | answered answer => exact .quiet _ rfl rfl trivial
  | delete templateId phase =>
      cases phase with
      | arrived =>
          simp only [PackerProcess.advance, deleteTurn]
          split <;> exact .quiet _ rfl rfl trivial
      | found =>
          simp only [PackerProcess.advance, deleteTurn]
          split <;> exact .quiet _ rfl rfl trivial
      | checked =>
          simp only [PackerProcess.advance, deleteTurn]
          split
          · rename_i present
            exact .remove templateId _ rfl present
          · rename_i absent
            exact .quiet _ rfl rfl fun present => absurd present absent
      | finished answer => exact .quiet _ rfl rfl trivial

end Turns

section OpenJobs
variable {jobs : List Job} {ids : List String} {jobId : String}

/-- The jobs in work are pairwise different, stored, and neither of them has ended. -/
structure OpenJobs (jobs : List Job) (ids : List String) : Prop where
  apart : ids.Nodup
  stored : ∀ id ∈ ids, id ∈ jobs.map Job.id
  unended : ∀ job ∈ jobs, job.id ∈ ids → job.status = .pending ∨ job.status = .running

theorem OpenJobs.perm {others : List String} (open_ : OpenJobs jobs ids) (same : others.Perm ids) :
    OpenJobs jobs others :=
  ⟨same.nodup_iff.mpr open_.apart, fun id member => open_.stored id (same.mem_iff.mp member),
    fun job stored member => open_.unended job stored (same.mem_iff.mp member)⟩

theorem OpenJobs.store {row : Job} (open_ : OpenJobs jobs ids) (fresh : row.id ∉ jobs.map Job.id)
    (pending : row.status = .pending) : OpenJobs (jobs ++ [row]) (row.id :: ids) := by
  constructor
  · exact List.nodup_cons.mpr ⟨fun member => fresh (open_.stored row.id member), open_.apart⟩
  · intro id member
    rw [List.map_append]
    rcases List.mem_cons.mp member with new | old
    · rw [new]
      exact List.mem_append_right _ (List.mem_singleton.mpr rfl)
    · exact List.mem_append_left _ (open_.stored id old)
  · intro job stored member
    rcases List.mem_append.mp stored with old | new
    · rcases List.mem_cons.mp member with same | other
      · rw [← same] at fresh
        exact absurd (List.mem_map_of_mem old) fresh
      · exact open_.unended job old other
    · rw [List.mem_singleton.mp new]
      exact .inl pending

theorem OpenJobs.start {db : Database} (open_ : OpenJobs db.jobs ids) (jobId : String) :
    OpenJobs (setJobStatus db jobId .running).jobs ids := by
  constructor
  · exact open_.apart
  · rw [setJobStatus_ids]
    exact open_.stored
  · intro job stored member
    obtain ⟨old, oldStored, same⟩ := List.mem_map.mp stored
    rw [← same] at member ⊢
    by_cases here : old.id = jobId
    · rw [if_pos here]
      exact .inr rfl
    · rw [if_neg here] at member ⊢
      exact open_.unended old oldStored member

theorem OpenJobs.finish {db : Database} (open_ : OpenJobs db.jobs (jobId :: ids)) (status : JobStatus) :
    OpenJobs (setJobStatus db jobId status).jobs ids := by
  obtain ⟨elsewhere, apart⟩ := List.nodup_cons.mp open_.apart
  constructor
  · exact apart
  · rw [setJobStatus_ids]
    exact fun id member => open_.stored id (List.mem_cons_of_mem _ member)
  · intro job stored member
    obtain ⟨old, oldStored, same⟩ := List.mem_map.mp stored
    rw [← same] at member ⊢
    by_cases here : old.id = jobId
    · rw [if_pos here] at member
      exact absurd (here ▸ member) elsewhere
    · rw [if_neg here] at member ⊢
      exact open_.unended old oldStored (List.mem_cons_of_mem _ member)

end OpenJobs

section History
variable {site : LaunchSite} {state : PackerState}

/-- Every worker has its own job, which is stored and has not ended. -/
def WorkersKnown (state : PackerState) : Prop :=
  OpenJobs state.shared.db.jobs (state.processes.filterMap PackerProcess.job)

/-- A template has at most one unfinished build, and no directory was removed during a build. -/
structure OneBuild (state : PackerState) : Prop where
  single : ∀ templateId, state.shared.db.jobs.countP (unfinishedBuild templateId) ≤ 1
  spared : ∀ removal ∈ state.shared.removals, removal.2 = []

theorem act_workersKnown (known : WorkersKnown state) {index : Nat} {inputs : PackerInputs} {process : PackerProcess}
    (present : state.processes[index]? = some process) :
    WorkersKnown (state.act (PackerProcess.advance site inputs) index) := by
  have before : OpenJobs state.shared.db.jobs
      (process.job.toList ++ (state.others index).filterMap PackerProcess.job) :=
    known.perm (Interleaved.filterMap_perm PackerProcess.job present).symm
  have shown : ((state.act (PackerProcess.advance site inputs) index).processes.filterMap PackerProcess.job).Perm
      ((process.advance site inputs state.shared).2.job.toList ++
        (state.others index).filterMap PackerProcess.job) :=
    Interleaved.act_filterMap_perm PackerProcess.job present
  unfold WorkersKnown
  apply OpenJobs.perm _ shown
  rw [Interleaved.act_shared present]
  have effect := advance_effect site inputs state.shared process
  revert effect
  generalize (process.advance site inputs state.shared).1 = after
  generalize (process.advance site inputs state.shared).2 = advanced
  intro effect
  cases effect with
  | quiet _ idle still _ =>
      rw [idle] at before
      rw [still]
      exact before
  | store request credentials row same stores named _ _ pending =>
      rw [same] at before
      have fresh := stores.2
      rw [← named] at fresh
      exact before.store fresh pending
  | start request jobId same =>
      rw [same] at before
      exact before.start jobId
  | finish request jobId status same =>
      rw [same] at before
      exact before.finish status
  | remove templateId templates same _ =>
      rw [same] at before
      exact before

/-- A turn keeps one build for each template exactly when it stores and removes nothing during a build. -/
theorem act_oneBuild_iff (known : WorkersKnown state) (before : OneBuild state) {index : Nat}
    {inputs : PackerInputs} {process : PackerProcess} (present : state.processes[index]? = some process) :
    OneBuild (state.act (PackerProcess.advance site inputs) index) ↔
      BuildClear site inputs state.shared process := by
  have fields : OneBuild (state.act (PackerProcess.advance site inputs) index) ↔
      (∀ templateId, (process.advance site inputs state.shared).1.db.jobs.countP (unfinishedBuild templateId) ≤ 1) ∧
        ∀ removal ∈ (process.advance site inputs state.shared).1.removals, removal.2 = [] := by
    rw [← Interleaved.act_shared present]
    exact ⟨fun one => ⟨one.single, one.spared⟩, fun one => ⟨one.1, one.2⟩⟩
  have working : ∀ jobId, process.job = some jobId →
      ∀ job ∈ state.shared.db.jobs, job.id = jobId → job.status = .pending ∨ job.status = .running := by
    intro jobId named job stored same
    apply known.unended job stored
    rw [same]
    exact List.mem_filterMap.mpr ⟨process, Interleaved.mem_processes present, named⟩
  rw [fields]
  have effect := advance_effect site inputs state.shared process
  revert effect
  generalize (process.advance site inputs state.shared).1 = after
  generalize (process.advance site inputs state.shared).2 = advanced
  intro effect
  cases effect with
  | quiet _ _ _ clear =>
      apply iff_of_true _ clear
      exact ⟨before.single, before.spared⟩
  | store request credentials row same stores _ packer playbook pending =>
      have counted : ∀ templateId, (state.shared.db.jobs ++ [row]).countP (unfinishedBuild templateId) =
          state.shared.db.jobs.countP (unfinishedBuild templateId) +
            if request.templateId = templateId then 1 else 0 := by
        intro templateId
        rw [List.countP_append, List.countP_singleton]
        simp [unfinishedBuild, packer, playbook, pending]
      rw [same]
      show _ ↔ (Stores site inputs state.shared request → NoBuild state.shared.db request.templateId)
      simp only [counted, noBuild_iff_countP]
      constructor
      · intro one _
        have here := one.1 request.templateId
        rw [if_pos rfl] at here
        omega
      · intro clear
        refine ⟨?_, before.spared⟩
        intro templateId
        have empty := clear stores
        have old := before.single templateId
        by_cases here : request.templateId = templateId
        · rw [here] at empty
          rw [if_pos here]
          omega
        · rw [if_neg here]
          omega
  | start request jobId same =>
      have fewer := fun templateId => countP_setJobStatus_le templateId .running (working jobId (by rw [same]; rfl))
      rw [same]
      apply iff_of_true _ trivial
      exact ⟨fun templateId => le_trans (fewer templateId) (before.single templateId), before.spared⟩
  | finish request jobId status same =>
      have fewer := fun templateId => countP_setJobStatus_le templateId status (working jobId (by rw [same]; rfl))
      rw [same]
      apply iff_of_true _ trivial
      exact ⟨fun templateId => le_trans (fewer templateId) (before.single templateId), before.spared⟩
  | remove templateId templates same there =>
      rw [same]
      show _ ↔ (templateId ∈ state.shared.templates.map Prod.fst → NoBuild state.shared.db templateId)
      constructor
      · intro one _
        exact noBuild_iff_noted.mp (one.2 _ (List.mem_append_right _ (List.mem_singleton.mpr rfl)))
      · intro clear
        refine ⟨before.single, ?_⟩
        intro removal member
        rcases List.mem_append.mp member with old | new
        · exact before.spared removal old
        · rw [List.mem_singleton.mp new]
          exact noBuild_iff_noted.mpr (clear there)

/-- The turns of a history store and remove nothing while a build of the template is unfinished. -/
def Clear (site : LaunchSite) (state : PackerState) : PackerEvent → Prop
  | .advance index inputs =>
      ∀ process, state.processes[index]? = some process → BuildClear site inputs state.shared process
  | _ => True

instance (site : LaunchSite) (state : PackerState) : DecidablePred (Clear site state)
  | .build _ | .delete _ => inferInstanceAs (Decidable True)
  | .advance index inputs => inferInstanceAs
      (Decidable (∀ process ∈ state.processes[index]?, BuildClear site inputs state.shared process))

theorem packerStep_workersKnown (event : PackerEvent) (known : WorkersKnown state) :
    WorkersKnown (packerStep site state event) := by
  have spawned : ∀ process : PackerProcess, process.job = none → WorkersKnown (state.spawn process) := by
    intro process idle
    show OpenJobs state.shared.db.jobs ((state.processes ++ [process]).filterMap PackerProcess.job)
    rw [List.filterMap_append, filterMap_cons_toList, idle, List.filterMap_nil, Option.toList_none,
      List.append_nil, List.append_nil]
    exact known
  cases event with
  | build request => exact spawned _ rfl
  | delete templateId => exact spawned _ rfl
  | advance index inputs =>
      show WorkersKnown (state.act (PackerProcess.advance site inputs) index)
      cases present : state.processes[index]? with
      | none =>
          rw [Interleaved.act_absent present]
          exact known
      | some process => exact act_workersKnown known present

theorem packerStep_oneBuild_iff (event : PackerEvent) (known : WorkersKnown state) (before : OneBuild state) :
    OneBuild (packerStep site state event) ↔ Clear site state event := by
  cases event with
  | build request => exact iff_of_true ⟨before.single, before.spared⟩ trivial
  | delete templateId => exact iff_of_true ⟨before.single, before.spared⟩ trivial
  | advance index inputs =>
      show OneBuild (state.act (PackerProcess.advance site inputs) index) ↔
        ∀ process, state.processes[index]? = some process → BuildClear site inputs state.shared process
      cases present : state.processes[index]? with
      | none =>
          rw [Interleaved.act_absent present]
          apply iff_of_true before
          intro process absent
          cases absent
      | some process =>
          rw [act_oneBuild_iff known before present]
          simp only [Option.some.injEq, forall_eq']

/-- The portal before its first request. -/
def packerStart (db : Database) (templates : PackerTemplates) : PackerState := ⟨⟨db, templates, []⟩, []⟩

/-- In all states of a history each template has at most one unfinished build and no directory was removed
during a build exactly when no job is stored and no directory is removed while a build is unfinished. -/
theorem one_build_iff (site : LaunchSite) (db : Database) (templates : PackerTemplates) (events : List PackerEvent)
    (single : ∀ templateId, db.jobs.countP (unfinishedBuild templateId) ≤ 1) :
    (∀ after ∈ reached (packerStep site) (packerStart db templates) events, OneBuild after) ↔
      ∀ visit ∈ visits (packerStep site) (packerStart db templates) events, Clear site visit.1 visit.2 := by
  have keep : ∀ (state : PackerState) (event : PackerEvent), WorkersKnown state → True → Clear site state event →
      WorkersKnown (packerStep site state event) :=
    fun state event known _ _ => packerStep_workersKnown event known
  have once : ∀ (state : PackerState) (event : PackerEvent), WorkersKnown state → True → OneBuild state →
      (OneBuild (packerStep site state event) ↔ Clear site state event) :=
    fun state event known _ before => packerStep_oneBuild_iff event known before
  have started : WorkersKnown (packerStart db templates) := by
    constructor
    · exact List.nodup_nil
    · intro id absent
      cases absent
    · intro job _ absent
      cases absent
  have fine : OneBuild (packerStart db templates) := by
    constructor
    · exact single
    · intro removal absent
      cases absent
  exact reached_iff_allowed _ keep once events started fine fun _ _ => trivial

end History

section TwoBuilds
/-- One template, and no approvals. -/
def debianSite : LaunchSite where
  playbooks := []
  templates := []
  plus := {}
  getCredentials := fun _ => some ⟨"root", "pam", "password"⟩

def debianTemplates : PackerTemplates := [("debian", {})]

def buildDebian : BuildRequest where
  templateId := "debian"
  params := OrderedMap.empty
  user := { username := "root@pam", authType := .proxmox, role := .operator, jti := some "jti" }

/-- A second build is refused while the first one runs, and the directory is removed after its end. -/
theorem one_build_in_sequence : (∀ templateId, (Database.jobs {}).countP (unfinishedBuild templateId) ≤ 1) ∧
    ∀ after ∈ reached (packerStep debianSite) (packerStart {} debianTemplates)
      [.build buildDebian, .advance 0 {}, .advance 0 {}, .advance 0 { jobId := "j1" }, .advance 0 {},
        .build buildDebian, .advance 1 {}, .advance 1 {}, .advance 0 {}, .delete "debian", .advance 2 {},
        .advance 2 {}, .advance 2 {}], OneBuild after := by
  have single : ∀ templateId, (Database.jobs {}).countP (unfinishedBuild templateId) ≤ 1 := by
    intro templateId
    exact Nat.zero_le 1
  refine ⟨single, ?_⟩
  apply (one_build_iff debianSite {} debianTemplates _ single).mpr
  decide

/-- The first build is still pending when the second one looks for running builds. -/
theorem pending_build_not_seen : ¬ ∀ (site : LaunchSite) (db : Database) (templates : PackerTemplates)
    (events : List PackerEvent), (∀ templateId, db.jobs.countP (unfinishedBuild templateId) ≤ 1) →
      ∀ after ∈ reached (packerStep site) (packerStart db templates) events, OneBuild after := by
  intro claim
  have last := claim debianSite {} debianTemplates
    [.build buildDebian, .advance 0 {}, .advance 0 {}, .advance 0 { jobId := "j1" },
      .build buildDebian, .advance 1 {}, .advance 1 {}, .advance 1 { jobId := "j2" }]
    (fun templateId => Nat.zero_le 1) _ (run_mem_reached _ _ _)
  have single := last.single "debian"
  revert single
  decide

/-- A directory is removed while its build is still pending. -/
example :
    (run (packerStep debianSite) (packerStart {} debianTemplates)
      [.build buildDebian, .advance 0 {}, .advance 0 {}, .advance 0 { jobId := "j1" },
        .delete "debian", .advance 1 {}, .advance 1 {}, .advance 1 {}]).shared.removals = [("debian", ["j1"])] := by
  decide

end TwoBuilds
end P3Portal.Automation
