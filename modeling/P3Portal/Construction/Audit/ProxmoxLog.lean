import P3Portal.Foundation.TextSplit

namespace P3Portal.Audit
open Foundation Text

/-- A time of UTC as `strftime` takes it apart. -/
structure Moment where
  year : Nat
  month : Nat
  day : Nat
  hour : Nat
  minute : Nat
  second : Nat

def padded (width number : Nat) : List Char :=
  List.replicate (width - (Nat.toDigits 10 number).length) '0' ++ Nat.toDigits 10 number

/-- `strftime` with the format of the audit log. -/
def Moment.text (moment : Moment) : List Char :=
  padded 4 moment.year ++ '-' :: padded 2 moment.month ++ '-' :: padded 2 moment.day ++ 'T' :: padded 2 moment.hour ++
    ':' :: padded 2 moment.minute ++ ':' :: padded 2 moment.second ++ ['Z']

/-- A call of `write_audit_line`; its status is the printed status code of the response. -/
structure AuditCall where
  time : Moment
  token : List Char
  method : List Char
  path : List Char
  user : List Char
  body : List Char
  status : Nat

def separator : List Char := " | ".toList

def userMark : List Char := "user=".toList

def bodyMark : List Char := "body=".toList

def AuditCall.target (call : AuditCall) : List Char := call.method ++ ' ' :: call.path

def AuditCall.parts (call : AuditCall) : List (List Char) :=
  [call.time.text, call.token] ++ (if call.user = [] then [] else [userMark ++ call.user]) ++ [call.target] ++
    (if call.body = [] then [] else [bodyMark ++ call.body]) ++ [Nat.toDigits 10 call.status]

def auditLine (call : AuditCall) : List Char := join separator call.parts

/-- The handler appends the line and a newline. -/
def writeAuditLine (file : List Char) (call : AuditCall) : List Char := file ++ auditLine call ++ ['\n']

def auditFile (calls : List AuditCall) : List Char := calls.foldl writeAuditLine []

structure AuditEntry where
  timestamp : List Char
  token : List Char
  user : List Char
  method : List Char
  endpoint : List Char
  status : List Char
  body : Option (List Char)

/-- `str.strip` for a list of characters. -/
def stripped (text : List Char) : List Char := (text.dropWhile isSpace).rdropWhile isSpace

/-- A part between the token and the status is the user, the body, or a method and a URL. -/
def readPart (entry : AuditEntry) (part : List Char) : AuditEntry :=
  if userMark.isPrefixOf part then { entry with user := part.drop userMark.length }
  else if bodyMark.isPrefixOf part then { entry with body := some (part.drop bodyMark.length) }
  else match part.dropWhile (· ≠ ' ') with
    | [] => entry
    | _ :: endpoint =>
        if part.takeWhile (· ≠ ' ') = [] then entry
        else { entry with method := part.takeWhile (· ≠ ' '), endpoint := endpoint }

/-- `_parse_audit_line`: fewer than three parts are no entry. -/
def parseAuditLine (line : List Char) : Option AuditEntry :=
  match (split separator line).map stripped with
  | timestamp :: token :: third :: rest =>
      some ((third :: rest).dropLast.foldl readPart
        ⟨timestamp, token, [], [], [], (third :: rest).getLast (List.cons_ne_nil third rest), none⟩)
  | _ => none

/-- A slice from the negative of a number on; zero takes the whole list. -/
def lastLines (n : Nat) (lines : List (List Char)) : List (List Char) :=
  if n = 0 then lines else lines.drop (lines.length - n)

def readAuditLines (n : Nat) (file : List Char) : List AuditEntry :=
  (lastLines n ((linesOf (universalNewlines file)).filter (stripped · ≠ []))).reverse.filterMap parseAuditLine

end P3Portal.Audit
