import P3Portal.Construction.Auth.CurrentUser
import P3Portal.Foundation.TextSplit
import P3Portal.Foundation.TextStream

namespace P3Portal.Jobs
open Schema Foundation Auth

/-- The socket is closed, answers with one line, or streams the log of the job. -/
inductive LogSocket where
  | closed (code : Nat)
  | text (line : String)
  | log (jobId : String)
  deriving DecidableEq

/-- The socket reads the user and the role from the token on its own. -/
def socketUser : Bearer → Option (String × Role)
  | .signed claims => (Text.truthy claims.sub).map fun sub => (sub, claims.role.getD .operator)
  | _ => none

def jobLogsWs (db : Database) (token : Bearer) (jobId : String) : LogSocket :=
  match socketUser token with
  | none => .closed 4001
  | some (sub, wsRole) =>
      match db.jobs.find? fun job => job.id = jobId with
      | none => .text "[error] Job not found"
      | some job =>
          if wsRole ≠ .admin && job.username ≠ sub then .text "[error] Access denied"
          else .log job.id

/-- A poll meets the status of the job, if it still has a row, and then the bytes of the log file, if there is one. -/
structure LogPoll where
  status : Option String
  file : Option (List UInt8)
  deriving DecidableEq

def LogPoll.currentStatus (poll : LogPoll) : String := poll.status.getD "failed"

def LogPoll.terminal (poll : LogPoll) : Bool := decide (poll.currentStatus ∈ ["success", "failed"])

/-- Text mode decodes the bytes from the position on and translates their line breaks. A missing file is not read. -/
def LogPoll.chunk (poll : LogPoll) (position : Nat) : Option (List Char) :=
  match poll.file with
  | none => some []
  | some bytes => (Utf8.decode (bytes.drop position)).map Text.universalNewlines

/-- The socket waits for the next poll, has sent the last status, or fails on bytes that are no text. -/
inductive SocketEnd where
  | waiting
  | finished (status : String)
  | unicodeDecodeError
  deriving DecidableEq

/-- The lines that the socket sends and how it ends. The position moves by the bytes of the translated chunk, and an
empty chunk has neither bytes nor lines. -/
def followLog (position : Nat) : List LogPoll → List (List Char) × SocketEnd
  | [] => ([], .waiting)
  | poll :: rest => match poll.chunk position with
    | none => ([], .unicodeDecodeError)
    | some chunk =>
        let sent := Text.linesOf chunk
        if poll.terminal then (sent, .finished poll.currentStatus)
        else
          let later := followLog (position + (Utf8.encode chunk).length) rest
          (sent ++ later.1, later.2)

end P3Portal.Jobs
