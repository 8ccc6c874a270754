import P3Portal.Construction.Auth.CurrentUser
import P3Portal.Construction.Http.Failure
import P3Portal.Foundation.Interleaving

namespace P3Portal.Jobs
open Schema Foundation Http Auth

/-- Each kind of job has its own worker. -/
inductive WorkerKind where
  | ansible
  | guestAnsible
  | packer
  | isoDownload
  | vmLifecycle
  | ha
  deriving DecidableEq

/-- A row of `jobs` with the columns that end it. -/
structure JobRecord where
  id : String
  kind : WorkerKind
  username : String
  status : JobStatus := .pending
  finishedAt : Option String := none
  deriving DecidableEq

/-- An update of the status that leaves out `finished_at` keeps it. -/
def JobRecord.withStatus (row : JobRecord) (status : JobStatus) (finishedAt : Option String) : JobRecord :=
  { row with status := status, finishedAt := finishedAt.or row.finishedAt }

/-- The registry `_running` holds the jobs whose Packer process can be terminated. The last two lists note for
which jobs a subprocess or a task of Proxmox was started and for which a cancellation was answered. -/
structure JobBoard where
  rows : List JobRecord := []
  registry : List String := []
  started : List String := []
  cancelled : List String := []
  deriving DecidableEq

/-- Every update of a status selects the job by its id only. -/
def JobBoard.setStatus (board : JobBoard) (jobId : String) (status : JobStatus) (finishedAt : Option String) :
    JobBoard :=
  { board with rows := board.rows.map fun row =>
      if row.id = jobId then row.withStatus status finishedAt else row }

def JobBoard.start (board : JobBoard) (jobId : String) : JobBoard :=
  { board with started := board.started ++ [jobId] }

/-- What a worker awaits succeeds or fails, is still going on, or ends the work at once. -/
inductive WorkerAnswer where
  | good
  | bad
  | again
  | done
  deriving DecidableEq

structure TurnInput where
  now : String := ""
  answer : WorkerAnswer := .good
  deriving DecidableEq

/-- A worker runs from one await to the next. -/
inductive WorkerPhase where
  | created
  | prepared
  | ready
  | spawned
  | working
  | closing (success : Bool)
  | ended
  deriving DecidableEq

def finalStatus (success : Bool) : JobStatus := if success then .success else .failed

/-- `_job_cancelled` asks for a missing or failed row. -/
def jobCancelled (board : JobBoard) (jobId : String) : Bool :=
  (board.rows.find? fun row => row.id = jobId).all fun row => row.status = .failed

/-- The two workers that poll Proxmox ask before each round whether the job was cancelled. -/
def workingTurn (kind : WorkerKind) (jobId : String) (input : TurnInput) (board : JobBoard) :
    JobBoard × WorkerPhase :=
  if (kind = .vmLifecycle || kind = .ha) && jobCancelled board jobId then (board, .closing false)
  else
    let left := if kind = .packer then
      { board with registry := board.registry.filter (· ≠ jobId) } else board
    match input.answer with
    | .again => (board, .working)
    | .bad => (left, .closing false)
    | .good | .done => (left, .closing true)

/-- One turn of the worker of a job. The task of a download was started by its request. -/
def workerTurn (kind : WorkerKind) (jobId : String) (input : TurnInput) (board : JobBoard) :
    WorkerPhase → JobBoard × WorkerPhase
  | .created => (board.setStatus jobId .running none, .prepared)
  | .prepared =>
      if kind = .isoDownload then (board, .working)
      else if input.answer = .bad then (board.setStatus jobId .failed (some input.now), .ended)
      else (board, .ready)
  | .ready =>
      match input.answer with
      | .good => (board.start jobId, if kind = .packer then .spawned else .working)
      | .bad => (board, .closing false)
      | .again => (board.start jobId, .closing false)
      | .done => (board.start jobId, .closing true)
  | .spawned => ({ board with registry := board.registry ++ [jobId] }, .working)
  | .working => workingTurn kind jobId input board
  | .closing success => (board.setStatus jobId (finalStatus success) (some input.now), .ended)
  | .ended => (board, .ended)

inductive CancelPhase where
  | arrived
  | confirmed
  | popped
  | written
  | finished (answer : Except HttpException Unit)
  deriving DecidableEq

/-- One turn of `cancel_job`: the row is read, the process taken from the registry, the row written, and the
request answered. -/
def cancelTurn (jobId : String) (user : CurrentUser) (input : TurnInput) (board : JobBoard) :
    CancelPhase → JobBoard × CancelPhase
  | .arrived =>
      match board.rows.find? fun row => row.id = jobId with
      | none => (board, .finished (.error ⟨404, "Job not found"⟩))
      | some row =>
          if user.role ≠ .admin && row.username ≠ user.username then
            (board, .finished (.error ⟨404, "Job not found"⟩))
          else if row.status = .pending || row.status = .running then (board, .confirmed)
          else (board, .finished (.error ⟨409, "Job is not running"⟩))
  | .confirmed => ({ board with registry := board.registry.filter (· ≠ jobId) }, .popped)
  | .popped => (board.setStatus jobId .failed (some input.now), .written)
  | .written => ({ board with cancelled := board.cancelled ++ [jobId] }, .finished (.ok ()))
  | .finished answer => (board, .finished answer)

inductive JobProcess where
  | worker (kind : WorkerKind) (jobId : String) (phase : WorkerPhase)
  | cancel (jobId : String) (user : CurrentUser) (phase : CancelPhase)
  deriving DecidableEq

def JobProcess.advance (input : TurnInput) (board : JobBoard) : JobProcess → JobBoard × JobProcess
  | .worker kind jobId phase =>
      let turned := workerTurn kind jobId input board phase
      (turned.1, .worker kind jobId turned.2)
  | .cancel jobId user phase =>
      let turned := cancelTurn jobId user input board phase
      (turned.1, .cancel jobId user turned.2)

abbrev JobsState := Interleaved JobBoard JobProcess

inductive JobEvent where
  | launch (kind : WorkerKind) (jobId username : String)
  | cancel (jobId : String) (user : CurrentUser)
  | advance (index : Nat) (input : TurnInput)

/-- A new job is stored as pending, and a used id is refused. -/
def launchJob (state : JobsState) (kind : WorkerKind) (jobId username : String) : JobsState :=
  if jobId ∈ state.shared.rows.map JobRecord.id then state
  else
    let board := if kind = .isoDownload then state.shared.start jobId else state.shared
    { shared := { board with rows := board.rows ++ [{ id := jobId, kind := kind, username := username }] }
      processes := state.processes ++ [.worker kind jobId .created] }

def jobStep (state : JobsState) : JobEvent → JobsState
  | .launch kind jobId username => launchJob state kind jobId username
  | .cancel jobId user => state.spawn (.cancel jobId user .arrived)
  | .advance index input => state.act (JobProcess.advance input) index

end P3Portal.Jobs
