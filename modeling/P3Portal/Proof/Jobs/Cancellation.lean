import P3Portal.Construction.Jobs.Cancellation
import P3Portal.Foundation.KeyedRows
import P3Portal.Foundation.Run

namespace P3Portal.Jobs
open Schema Foundation Http Auth

section Writes

/-- The job has ended. -/
def JobRecord.Ended (row : JobRecord) : Prop := row.status = .success ∨ row.status = .failed

instance : DecidablePred JobRecord.Ended := fun _ => inferInstanceAs (Decidable (_ ∨ _))

def JobProcess.jobId : JobProcess → String
  | .worker _ jobId _ => jobId
  | .cancel jobId _ _ => jobId

/-- The status and the end that the next turn of a process writes. -/
def JobProcess.write (input : TurnInput) : JobProcess → Option (JobStatus × Option String)
  | .worker _ _ .created => some (.running, none)
  | .worker kind _ .prepared =>
      if kind ≠ .isoDownload ∧ input.answer = .bad then some (.failed, some input.now) else none
  | .worker _ _ (.closing success) => some (finalStatus success, some input.now)
  | .cancel _ _ .popped => some (.failed, some input.now)
  | _ => none

/-- The next turn of a process starts its subprocess or its task. -/
def JobProcess.starts (input : TurnInput) : JobProcess → Bool
  | .worker _ _ .ready => input.answer ≠ .bad
  | _ => false

/-- The next turn of a process answers a cancellation. -/
def JobProcess.answers : JobProcess → Bool
  | .cancel _ _ .written => true
  | _ => false

/-- The rows after a write. -/
def written (rows : List JobRecord) (jobId : String) : Option (JobStatus × Option String) → List JobRecord
  | none => rows
  | some (status, finishedAt) => rows.map fun row => if row.id = jobId then row.withStatus status finishedAt else row

variable {board : JobBoard} {process : JobProcess} {input : TurnInput}

/-- A turn writes the rows, starts work and answers a cancellation as announced. -/
theorem advance_board (input : TurnInput) (board : JobBoard) (process : JobProcess) :
    (process.advance input board).1.rows = written board.rows process.jobId (process.write input) ∧
      (process.advance input board).1.started =
        board.started ++ (if process.starts input then [process.jobId] else []) ∧
      (process.advance input board).1.cancelled =
        board.cancelled ++ if process.answers then [process.jobId] else [] := by
  have quiet : ∀ items : List String, items = items ++ [] := fun items => (List.append_nil items).symm
  cases process with
  | worker kind jobId phase =>
      cases phase with
      | created => exact ⟨rfl, quiet _, quiet _⟩
      | prepared =>
          simp only [JobProcess.advance, workerTurn, JobProcess.write]
          by_cases download : kind = .isoDownload
          · rw [if_pos download, if_neg fun both => both.1 download]
            exact ⟨rfl, quiet _, quiet _⟩
          · rw [if_neg download]
            by_cases failed : input.answer = .bad
            · rw [if_pos failed, if_pos ⟨download, failed⟩]
              exact ⟨rfl, quiet _, quiet _⟩
            · rw [if_neg failed, if_neg fun both => failed both.2]
              exact ⟨rfl, quiet _, quiet _⟩
      | ready =>
          obtain ⟨now, answer⟩ := input
          cases answer with
          | bad => exact ⟨rfl, quiet _, quiet _⟩
          | good => exact ⟨rfl, rfl, quiet _⟩
          | again => exact ⟨rfl, rfl, quiet _⟩
          | done => exact ⟨rfl, rfl, quiet _⟩
      | spawned => exact ⟨rfl, quiet _, quiet _⟩
      | working =>
          simp only [JobProcess.advance, workerTurn, workingTurn]
          split
          · exact ⟨rfl, quiet _, quiet _⟩
          · by_cases packer : kind = .packer
            · rw [if_pos packer]
              cases input.answer <;> exact ⟨rfl, quiet _, quiet _⟩
            · rw [if_neg packer]
              cases input.answer <;> exact ⟨rfl, quiet _, quiet _⟩
      | closing success => exact ⟨rfl, quiet _, quiet _⟩
      | ended => exact ⟨rfl, quiet _, quiet _⟩
  | cancel jobId user phase =>
      cases phase with
      | arrived =>
          simp only [JobProcess.advance, cancelTurn]
          split
          · exact ⟨rfl, quiet _, quiet _⟩
          · split
            · exact ⟨rfl, quiet _, quiet _⟩
            · split <;> exact ⟨rfl, quiet _, quiet _⟩
      | confirmed => exact ⟨rfl, quiet _, quiet _⟩
      | popped => exact ⟨rfl, quiet _, quiet _⟩
      | written => exact ⟨rfl, quiet _, rfl⟩
      | finished answer => exact ⟨rfl, quiet _, quiet _⟩

theorem written_ids (rows : List JobRecord) (jobId : String) (write : Option (JobStatus × Option String)) :
    (written rows jobId write).map JobRecord.id = rows.map JobRecord.id := by
  cases write with
  | none => rfl
  | some values => exact map_column_selected (fun row : JobRecord => row.id = jobId) fun _ => rfl

end Writes

section Finality

/-- Later, every ended job is stored as it was, and no work is started for a job whose cancellation was
answered before its start. -/
structure Final (earlier later : JobBoard) : Prop where
  kept : ∀ row ∈ earlier.rows, row.Ended → row ∈ later.rows
  unstarted : ∀ jobId ∈ earlier.cancelled, jobId ∈ later.started → jobId ∈ earlier.started

instance (earlier later : JobBoard) : Decidable (Final earlier later) :=
  decidable_of_iff ((∀ row ∈ earlier.rows, row.Ended → row ∈ later.rows) ∧
      ∀ jobId ∈ earlier.cancelled, jobId ∈ later.started → jobId ∈ earlier.started)
    ⟨fun both => ⟨both.1, both.2⟩, fun final => ⟨final.kept, final.unstarted⟩⟩

theorem Final.refl (board : JobBoard) : Final board board :=
  ⟨fun _ stored _ => stored, fun _ _ started => started⟩

/-- Cancellations stay answered. -/
theorem Final.compose {first second third : JobBoard} (answered : first.cancelled ⊆ second.cancelled)
    (before : Final first second) (after : Final second third) : Final first third := by
  constructor
  · intro row stored ended
    exact after.kept row (before.kept row stored ended) ended
  · intro jobId cancelled started
    exact before.unstarted jobId cancelled (after.unstarted jobId (answered cancelled) started)

/-- A turn writes only rows that have not ended or hold the same values already, and it starts no work after an
answered cancellation. -/
structure TurnPermitted (board : JobBoard) (process : JobProcess) (input : TurnInput) : Prop where
  write : ∀ row ∈ board.rows, row.id = process.jobId → row.Ended → ∀ values, process.write input = some values →
    row.withStatus values.1 values.2 = row
  start : process.starts input = true → process.jobId ∈ board.cancelled → process.jobId ∈ board.started

variable {board : JobBoard} {process : JobProcess} {input : TurnInput}

theorem turn_final_iff (unique : (board.rows.map JobRecord.id).Nodup) :
    Final board (process.advance input board).1 ↔ TurnPermitted board process input := by
  obtain ⟨rows, started, -⟩ := advance_board input board process
  have kept : (∀ row ∈ board.rows, row.Ended → row ∈ (process.advance input board).1.rows) ↔
      ∀ row ∈ board.rows, row.id = process.jobId → row.Ended → ∀ values, process.write input = some values →
        row.withStatus values.1 values.2 = row := by
    rw [rows]
    apply forall_congr'
    intro row
    apply imp_congr_right
    intro stored
    cases writes : process.write input with
    | none =>
        apply iff_of_true fun _ => stored
        intro _ _ values absent
        cases absent
    | some values =>
        have unchanged : row ∈ written board.rows process.jobId (some values) ↔
            (if row.id = process.jobId then row.withStatus values.1 values.2 else row) = row := by
          refine mem_map_iff_unchanged unique ?_ stored
          intro other
          split <;> rfl
        rw [unchanged]
        by_cases named : row.id = process.jobId
        · simp only [named, if_true, true_imp_iff, Option.some.injEq, forall_eq']
        · simp only [named, if_false, implies_true, false_imp_iff]
  have unstarted : (∀ jobId ∈ board.cancelled, jobId ∈ (process.advance input board).1.started →
      jobId ∈ board.started) ↔
      (process.starts input = true → process.jobId ∈ board.cancelled → process.jobId ∈ board.started) := by
    rw [started]
    constructor
    · intro before starts cancelled
      apply before _ cancelled
      rw [if_pos starts]
      exact List.mem_append_right _ (List.mem_singleton.mpr rfl)
    · intro before jobId cancelled later
      rcases List.mem_append.mp later with old | new
      · exact old
      · by_cases starts : process.starts input = true
        · rw [if_pos starts] at new
          rw [List.mem_singleton.mp new] at cancelled ⊢
          exact before starts cancelled
        · rw [if_neg starts] at new
          cases new
  constructor
  · intro final
    exact ⟨kept.mp final.kept, unstarted.mp final.unstarted⟩
  · intro permitted
    exact ⟨kept.mpr permitted.write, unstarted.mpr permitted.start⟩

end Finality

section History
variable {state : JobsState}

/-- A cancellation that has found its job. -/
def JobProcess.cancelling : JobProcess → Bool
  | .cancel _ _ .confirmed => true
  | .cancel _ _ .popped => true
  | .cancel _ _ .written => true
  | _ => false

theorem advance_jobId (input : TurnInput) (board : JobBoard) (process : JobProcess) :
    (process.advance input board).2.jobId = process.jobId := by
  cases process <;> rfl

/-- A cancellation goes on only after it has found its job. -/
theorem advance_cancelling {input : TurnInput} {board : JobBoard} {process : JobProcess}
    (after : (process.advance input board).2.cancelling = true) :
    process.cancelling = true ∨ process.jobId ∈ board.rows.map JobRecord.id := by
  cases process with
  | worker kind jobId phase => cases after
  | cancel jobId user phase =>
      cases phase with
      | arrived =>
          simp only [JobProcess.advance, cancelTurn] at after
          split at after
          · cases after
          · rename_i row found
            obtain ⟨stored, named⟩ := find?_key_spec found
            right
            show jobId ∈ board.rows.map JobRecord.id
            rw [← named]
            exact List.mem_map_of_mem stored
      | confirmed => exact .inl rfl
      | popped => exact .inl rfl
      | written => exact .inl rfl
      | finished answer => cases after

/-- The ids of the jobs are unique, and only stored jobs are cancelled. -/
structure BoardKept (state : JobsState) : Prop where
  unique : (state.shared.rows.map JobRecord.id).Nodup
  stored : ∀ jobId ∈ state.shared.cancelled, jobId ∈ state.shared.rows.map JobRecord.id
  found : ∀ process ∈ state.processes, process.cancelling = true →
    process.jobId ∈ state.shared.rows.map JobRecord.id

theorem act_boardKept (kept : BoardKept state) {index : Nat} {process : JobProcess} {input : TurnInput}
    (present : state.processes[index]? = some process) :
    BoardKept (state.act (JobProcess.advance input) index) := by
  obtain ⟨rows, -, cancelled⟩ := advance_board input state.shared process
  have ids : (state.act (JobProcess.advance input) index).shared.rows.map JobRecord.id =
      state.shared.rows.map JobRecord.id := by
    rw [Interleaved.act_shared present, rows, written_ids]
  constructor
  · rw [ids]
    exact kept.unique
  · rw [ids, Interleaved.act_shared present, cancelled]
    intro jobId member
    rcases List.mem_append.mp member with old | new
    · exact kept.stored jobId old
    · by_cases answers : process.answers = true
      · rw [if_pos answers] at new
        rw [List.mem_singleton.mp new]
        apply kept.found process (Interleaved.mem_processes present)
        cases process with
        | worker kind jobId phase => cases answers
        | cancel jobId user phase =>
            cases phase with
            | written => rfl
            | arrived => cases answers
            | confirmed => cases answers
            | popped => cases answers
            | finished answer => cases answers
      · rw [if_neg answers] at new
        cases new
  · rw [ids]
    refine Interleaved.forall_act present kept.found ?_ fun other _ fine => fine
    intro before after
    rw [advance_jobId]
    rcases advance_cancelling after with earlier | here
    · exact before earlier
    · exact here

/-- Every turn of a history is permitted on the board that it meets. -/
def Permitted (state : JobsState) : JobEvent → Prop
  | .advance index input =>
      ∀ process, state.processes[index]? = some process → TurnPermitted state.shared process input
  | _ => True

theorem launchJob_fresh (kind : WorkerKind) {jobId : String} (username : String)
    (fresh : jobId ∉ state.shared.rows.map JobRecord.id) :
    (launchJob state kind jobId username).shared.rows =
        state.shared.rows ++ [{ id := jobId, kind := kind, username := username }] ∧
      (launchJob state kind jobId username).shared.cancelled = state.shared.cancelled ∧
      (∀ other ∈ (launchJob state kind jobId username).shared.started,
        other ∈ state.shared.started ∨ other = jobId) ∧
      (launchJob state kind jobId username).processes = state.processes ++ [.worker kind jobId .created] := by
  unfold launchJob
  rw [if_neg fresh]
  by_cases download : kind = .isoDownload
  · rw [if_pos download]
    refine ⟨rfl, rfl, ?_, rfl⟩
    intro other member
    rcases List.mem_append.mp member with old | new
    · exact .inl old
    · exact .inr (List.mem_singleton.mp new)
  · rw [if_neg download]
    exact ⟨rfl, rfl, fun other member => .inl member, rfl⟩

theorem launchJob_used (kind : WorkerKind) {jobId : String} (username : String)
    (used : jobId ∈ state.shared.rows.map JobRecord.id) : launchJob state kind jobId username = state :=
  if_pos used

theorem jobStep_boardKept (event : JobEvent) (kept : BoardKept state) : BoardKept (jobStep state event) := by
  cases event with
  | launch kind jobId username =>
      show BoardKept (launchJob state kind jobId username)
      by_cases used : jobId ∈ state.shared.rows.map JobRecord.id
      · rw [launchJob_used kind username used]
        exact kept
      · obtain ⟨rows, cancelled, -, processes⟩ := launchJob_fresh kind username used
        constructor
        · rw [rows]
          exact nodup_append_key kept.unique used
        · rw [rows, cancelled, List.map_append]
          exact fun other member => List.mem_append_left _ (kept.stored other member)
        · rw [rows, processes, List.map_append]
          intro process member cancelling
          rcases List.mem_append.mp member with old | new
          · exact List.mem_append_left _ (kept.found process old cancelling)
          · rw [List.mem_singleton.mp new] at cancelling
            cases cancelling
  | cancel jobId user =>
      constructor
      · exact kept.unique
      · exact kept.stored
      · intro process member cancelling
        rcases List.mem_append.mp member with old | new
        · exact kept.found process old cancelling
        · rw [List.mem_singleton.mp new] at cancelling
          cases cancelling
  | advance index input =>
      show BoardKept (state.act (JobProcess.advance input) index)
      cases present : state.processes[index]? with
      | none =>
          rw [Interleaved.act_absent present]
          exact kept
      | some process => exact act_boardKept kept present

theorem jobStep_cancelled (event : JobEvent) : state.shared.cancelled ⊆ (jobStep state event).shared.cancelled := by
  cases event with
  | launch kind jobId username =>
      show state.shared.cancelled ⊆ (launchJob state kind jobId username).shared.cancelled
      by_cases used : jobId ∈ state.shared.rows.map JobRecord.id
      · rw [launchJob_used kind username used]
        exact List.Subset.refl _
      · rw [(launchJob_fresh kind username used).2.1]
        exact List.Subset.refl _
  | cancel jobId user => exact List.Subset.refl _
  | advance index input =>
      show state.shared.cancelled ⊆ (state.act (JobProcess.advance input) index).shared.cancelled
      cases present : state.processes[index]? with
      | none =>
          rw [Interleaved.act_absent present]
          exact List.Subset.refl _
      | some process =>
          rw [Interleaved.act_shared present, (advance_board input state.shared process).2.2]
          exact List.subset_append_left _ _

theorem jobStep_final_iff (event : JobEvent) (kept : BoardKept state) :
    Final state.shared (jobStep state event).shared ↔ Permitted state event := by
  cases event with
  | launch kind jobId username =>
      apply iff_of_true _ trivial
      show Final state.shared (launchJob state kind jobId username).shared
      by_cases used : jobId ∈ state.shared.rows.map JobRecord.id
      · rw [launchJob_used kind username used]
        exact Final.refl _
      · obtain ⟨rows, -, started, -⟩ := launchJob_fresh kind username used
        constructor
        · rw [rows]
          exact fun row stored _ => List.mem_append_left _ stored
        · intro other cancelled later
          rcases started other later with old | new
          · exact old
          · rw [new] at cancelled
            exact absurd (kept.stored jobId cancelled) used
  | cancel jobId user => exact iff_of_true (Final.refl _) trivial
  | advance index input =>
      show Final state.shared (state.act (JobProcess.advance input) index).shared ↔
        ∀ process, state.processes[index]? = some process → TurnPermitted state.shared process input
      cases present : state.processes[index]? with
      | none =>
          rw [Interleaved.act_absent present]
          apply iff_of_true (Final.refl _)
          intro process absent
          cases absent
      | some process =>
          rw [Interleaved.act_shared present, turn_final_iff kept.unique]
          simp only [Option.some.injEq, forall_eq']

/-- The portal before its first request. -/
def jobsStart (rows : List JobRecord) : JobsState := ⟨{ rows := rows }, []⟩

/-- In a history every end is final and no work is started after an answered cancellation exactly when every
turn is permitted on the board that it meets. -/
theorem end_final_iff (rows : List JobRecord) (events : List JobEvent)
    (unique : (rows.map JobRecord.id).Nodup) :
    (reached jobStep (jobsStart rows) events).Pairwise (fun earlier later => Final earlier.shared later.shared) ↔
      ∀ visit ∈ visits jobStep (jobsStart rows) events, Permitted visit.1 visit.2 := by
  have started : BoardKept (jobsStart rows) := by
    constructor
    · exact unique
    · intro jobId absent
      cases absent
    · intro process absent
      cases absent
  have compose : ∀ first second third : JobsState, first.shared.cancelled ⊆ second.shared.cancelled →
      Final first.shared second.shared → Final second.shared third.shared → Final first.shared third.shared :=
    fun _ _ _ answered before after => before.compose answered after
  exact reached_pairwise_iff jobStep (fun state => Final.refl state.shared) compose
    (fun _ event => jobStep_cancelled event) (fun _ event kept => jobStep_boardKept event kept)
    (fun _ event kept => jobStep_final_iff event kept) events started

end History

section Cancelled
def operator : CurrentUser where
  username := "anna"
  authType := .localUser
  role := .operator

/-- A build runs to its end, and the later cancellation is refused. -/
def lateCancellation : List JobEvent :=
  [.launch .packer "j1" "anna", .advance 0 {}, .advance 0 {}, .advance 0 {}, .advance 0 {}, .advance 0 {},
    .advance 0 { now := "t1" }, .cancel "j1" operator, .advance 1 {}]

instance (board : JobBoard) (process : JobProcess) (input : TurnInput) :
    Decidable (TurnPermitted board process input) :=
  decidable_of_iff ((∀ row ∈ board.rows, row.id = process.jobId → row.Ended → ∀ values ∈ process.write input,
        row.withStatus values.1 values.2 = row) ∧
      (process.starts input = true → process.jobId ∈ board.cancelled → process.jobId ∈ board.started))
    ⟨fun both => ⟨both.1, both.2⟩, fun permitted => ⟨permitted.write, permitted.start⟩⟩

instance (state : JobsState) : DecidablePred (Permitted state)
  | .launch _ _ _ | .cancel _ _ => inferInstanceAs (Decidable True)
  | .advance index input =>
      inferInstanceAs (Decidable (∀ process ∈ state.processes[index]?, TurnPermitted state.shared process input))

theorem end_final_of_late_cancellation : (([] : List JobRecord).map JobRecord.id).Nodup ∧
    (reached jobStep (jobsStart []) lateCancellation).Pairwise
      fun earlier later => Final earlier.shared later.shared := by
  refine ⟨List.nodup_nil, ?_⟩
  apply (end_final_iff [] lateCancellation List.nodup_nil).mpr
  decide

/-- The cancellation is answered while the build is pending, and then its worker starts. -/
def earlyCancellation : List JobEvent :=
  [.launch .packer "j1" "anna", .cancel "j1" operator, .advance 1 {}, .advance 1 {}, .advance 1 { now := "t1" },
    .advance 1 {}, .advance 0 {}, .advance 0 {}, .advance 0 {}]

/-- The row of the cancelled build is set to running, and its subprocess is started. -/
theorem cancelled_build_runs : ¬ ∀ (rows : List JobRecord) (events : List JobEvent),
    (rows.map JobRecord.id).Nodup →
      (reached jobStep (jobsStart rows) events).Pairwise fun earlier later => Final earlier.shared later.shared := by
  intro claim
  have ordered := claim [] earlyCancellation List.nodup_nil
  revert ordered
  decide

end Cancelled
end P3Portal.Jobs
