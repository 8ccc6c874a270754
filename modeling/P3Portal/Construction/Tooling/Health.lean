import P3Portal.Construction.Audit.SecretMasking
import P3Portal.Foundation.Interleaving
import P3Portal.Foundation.OrderedMap
import P3Portal.Foundation.PythonText
import P3Portal.Foundation.Run

namespace P3Portal.Tooling
open Foundation

/-- Moments count microseconds. -/
def second : Int := 1000000

def cacheTtl : Int := 720 * second

def rateLimitSeconds : Int := 30

def maxOutputBytes : Nat := 10 * 1024

inductive ToolState where
  | ready
  | degraded
  | down
  | unknown
  deriving DecidableEq

structure CheckResult where
  status : ToolState
  version : Option String
  stdout : String
  stderr : String
  checkedAt : Int
  deriving DecidableEq

structure ToolStatus where
  tool : String
  version : Option String := none
  status : ToolState := .unknown
  lastCheck : Option Int := none
  stdout : Option String := none
  stderr : Option String := none
  deriving DecidableEq

/-- The characters whose bytes fit; a character that the limit cuts is decoded to a replacement character. -/
def keptCharacters : Nat → List Char → List Char
  | _, [] => []
  | room, character :: rest =>
      if character.utf8Size ≤ room then character :: keptCharacters (room - character.utf8Size) rest
      else if room = 0 then [] else ['\ufffd']

def cap (text : String) : String :=
  if text.utf8ByteSize ≤ maxOutputBytes then text
  else String.ofList (keptCharacters maxOutputBytes text.toList) ++ "\n… (truncated)"

/-- How a subprocess ends; the texts are its decoded output. -/
inductive Ending where
  | completed (returncode : Int) (stdout stderr : String)
  | timedOut
  | notFound
  | unexpected (message : String)
  deriving DecidableEq

structure CommandResult where
  returncode : Int
  stdout : String
  stderr : String
  deriving DecidableEq

def runCmd (cmd : List String) : Ending → CommandResult
  | .completed returncode stdout stderr => ⟨returncode, cap stdout, cap stderr⟩
  | .timedOut => ⟨-1, "", "timeout after 10s"⟩
  | .notFound => ⟨-2, "", cmd.headD "" ++ ": command not found"⟩
  | .unexpected message => ⟨-3, "", "unexpected error: " ++ message⟩

section Version

/-- `\s+` takes at least one character of white space and all that follow. -/
def behindSpaces : List Char → Option (List Char)
  | [] => none
  | character :: rest => if Text.isSpace character then some (rest.dropWhile Text.isSpace) else none

/-- The pattern takes a word at the start of the text. -/
def behindWord (word text : List Char) : Option (List Char) :=
  if word.isPrefixOf text then some (text.drop word.length) else none

variable (decimal : Char → Bool)

/-- `[\d.]+` with the digits of Unicode, and the text behind it. -/
def versionNumber (text : List Char) : Option (String × List Char) :=
  match text.span fun character => decimal character || character = '.' with
  | ([], _) => none
  | (number, rest) => some (String.ofList number, rest)

def ansibleVersionAt (text : List Char) : Option String := do
  let text ← behindWord "ansible".toList text
  let text ← behindSpaces text
  let text ← behindWord "[core".toList text
  let text ← behindSpaces text
  let (number, text) ← versionNumber decimal text
  if text.head? = some ']' then some number else none

def packerVersionAt (text : List Char) : Option String := do
  let text ← Audit.behindKeyword "packer".toList text
  let text ← behindSpaces text
  let text := match text with
    | character :: rest => if Audit.caseless 'v' character then rest else text
    | [] => text
  let (number, _) ← versionNumber decimal text
  some number

/-- `re.search` tries the pattern at each position in turn. -/
def parseAnsibleVersion (stdout : String) : Option String := stdout.toList.tails.findSome? (ansibleVersionAt decimal)

def parsePackerVersion (stdout : String) : Option String := stdout.toList.tails.findSome? (packerVersionAt decimal)

end Version

/-- The two runners differ in their commands, in the titles of their output and in the version pattern. -/
structure Runner where
  versionCmd : List String
  probeCmd : List String
  versionTitle : String
  probeTitle : String
  parseVersion : (Char → Bool) → String → Option String

def runAnsibleCheck : Runner where
  versionCmd := ["ansible", "--version"]
  probeCmd := ["ansible", "all", "-i", "localhost,", "-m", "ping", "-c", "local", "--connection=local"]
  versionTitle := "ansible --version"
  probeTitle := "ansible ping probe"
  parseVersion := parseAnsibleVersion

def runPackerCheck : Runner where
  versionCmd := ["packer", "version"]
  probeCmd := ["packer", "plugins", "installed"]
  versionTitle := "packer version"
  probeTitle := "packer plugins installed"
  parseVersion := parsePackerVersion

namespace Runner

def sections (runner : Runner) (version probe : String) : String :=
  cap ("=== " ++ runner.versionTitle ++ " ===\n" ++ version ++ "\n=== " ++ runner.probeTitle ++ " ===\n" ++ probe)

/-- Without a version the probe is not run. -/
def afterVersion (now : Int) (version : CommandResult) : Option CheckResult :=
  if version.returncode < 0 then some ⟨.down, none, "", version.stderr, now⟩ else none

def afterProbe (runner : Runner) (decimal : Char → Bool) (now : Int) (version probe : CommandResult) : CheckResult where
  status := if probe.returncode = 0 then .ready else if probe.returncode < 0 then .down else .degraded
  version := runner.parseVersion decimal version.stdout
  stdout := runner.sections version.stdout probe.stdout
  stderr := runner.sections version.stderr probe.stderr
  checkedAt := now

end Runner

inductive CoreTool where
  | ansible
  | packer
  deriving DecidableEq

def CoreTool.runner : CoreTool → Runner
  | .ansible => runAnsibleCheck
  | .packer => runPackerCheck

def coreTools : List String := ["ansible", "packer"]

def runners (tool : String) : Option CoreTool :=
  if tool = "ansible" then some .ansible else if tool = "packer" then some .packer else none

def stderrExcerptMax : Nat := 500

/-- A long text is cut behind its last word when that leaves more than half of the limit. -/
def truncate (text : String) : Option String :=
  if text = "" then none
  else
    let text := Text.strip text
    if text.length ≤ stderrExcerptMax then some text
    else
      let truncated := text.toList.take stderrExcerptMax
      let words := ((truncated.reverse.dropWhile (· ≠ ' ')).drop 1).reverse
      some (String.ofList (if stderrExcerptMax / 2 < words.length then words else truncated) ++ "…")

/-- The detail of an audit row about the status of a tool. -/
structure Transition where
  tool : String
  fromStatus : ToolState
  toStatus : ToolState
  version : Option String
  stderrExcerpt : Option String
  deriving DecidableEq

/-- The first status of a tool and a repeated one are not audited. -/
def emitStatusTransition (tool : String) (fromStatus : ToolState) (result : CheckResult) : Option Transition :=
  if fromStatus = .unknown then none
  else if fromStatus = result.status then none
  else some ⟨tool, fromStatus, result.status, result.version, truncate result.stderr⟩

/-- What the hook of the extension offers for one tool. -/
structure ToolConfig where
  toolId : Option String
  hasRunner : Bool
  deriving DecidableEq

/-- The hook may fail. -/
abbrev Hook := Option (List ToolConfig)

structure HealthService where
  cache : OrderedMap String ToolStatus := (OrderedMap.empty.set "ansible" ⟨"ansible", none, .unknown, none, none, none⟩).set
    "packer" ⟨"packer", none, .unknown, none, none, none⟩
  locked : Bool := false
  rateLimits : OrderedMap (Option Int × String) Int := .empty
  knownTools : List String := coreTools
  extraRunners : List String := []
  audit : List Transition := []
  now : Int := 0

/-- A check begins as a new task, waits for the lock, awaits its commands or the runner of the extension since a
moment, or awaits the audit row of its result. -/
inductive Phase where
  | created
  | waiting
  | version (core : CoreTool) (started : Int)
  | probe (core : CoreTool) (started : Int) (version : CommandResult)
  | extra
  | reporting (transition : Transition)
  | done
  deriving DecidableEq

structure Check where
  tool : String
  bypassCache : Bool
  phase : Phase
  deriving DecidableEq

namespace HealthService

/-- A tool of the core wins against one of the extension. -/
def registerTool (service : HealthService) (cfg : ToolConfig) : HealthService :=
  match Text.truthy cfg.toolId with
  | none => service
  | some tool =>
      if tool ∈ coreTools then service
      else
        let service := if cfg.hasRunner then { service with extraRunners := service.extraRunners.insert tool } else service
        if tool ∈ service.knownTools then service
        else { service with
          knownTools := service.knownTools ++ [tool]
          cache := service.cache.set tool { tool := tool } }

def initTools (service : HealthService) (hook : Hook) : HealthService := (hook.getD []).foldl registerTool service

def checkRateLimit (service : HealthService) (userId : Option Int) (tool : String) : Option Int :=
  match service.rateLimits.get? (userId, tool) with
  | none => none
  | some last =>
      if service.now - last < rateLimitSeconds * second then
        some ((rateLimitSeconds * second - (service.now - last)) / second + 1)
      else none

/-- The first known tool that is limited tells when to try again. -/
def rateLimited (service : HealthService) (userId : Option Int) : Option Int :=
  service.knownTools.findSome? (service.checkRateLimit userId)

def markRateLimit (userId : Option Int) (service : HealthService) (tool : String) : HealthService :=
  { service with rateLimits := service.rateLimits.set (userId, tool) service.now }

/-- A check that bypasses the cache for a user counts against the limits of all tools. -/
def forceRecheck (service : HealthService) (userId : Option Int) (hook : Hook) : HealthService × Option Int :=
  let service := service.initTools hook
  match userId with
  | none => (service, none)
  | some _ =>
      match service.rateLimited userId with
      | some retryAfter => (service, some retryAfter)
      | none => (service.knownTools.foldl (markRateLimit userId) service, none)

/-- The endpoint looks at the limits itself before it forces the check. -/
def recheckTooling (service : HealthService) (userId : Option Int) (first second : Hook) :
    HealthService × Option Int :=
  let service := service.initTools first
  match service.rateLimited userId with
  | some retryAfter => (service, some retryAfter)
  | none => service.forceRecheck userId second

def isFresh (service : HealthService) (tool : String) : Bool :=
  match (service.cache.get? tool).bind ToolStatus.lastCheck with
  | none => false
  | some lastCheck => service.now - lastCheck < cacheTtl

/-- `_run_tool` up to its first command. -/
def runTool (service : HealthService) (tool : String) : Option Phase :=
  match runners tool with
  | some core => some (.version core service.now)
  | none => if tool ∈ service.extraRunners then some .extra else none

/-- A task looks at the cache, then waits for the lock, and with the lock it looks again and starts its runner. -/
def checkOne (service : HealthService) (check : Check) : HealthService × Check :=
  match check.phase with
  | .created =>
      if !check.bypassCache && service.isFresh check.tool then (service, { check with phase := .done })
      else (service, { check with phase := .waiting })
  | .waiting =>
      if service.locked then (service, check)
      else if !check.bypassCache && service.isFresh check.tool then (service, { check with phase := .done })
      else match service.runTool check.tool with
        | none => (service, { check with phase := .done })
        | some phase => ({ service with locked := true }, { check with phase })
  | _ => (service, check)

/-- The cache gets the result at once; the lock is kept until the audit row is written. -/
def applyStatus (service : HealthService) (check : Check) (result : CheckResult) : HealthService × Check :=
  let previous := ((service.cache.get? check.tool).map ToolStatus.status).getD .unknown
  let cache := service.cache.set check.tool ⟨check.tool, result.version, result.status, some result.checkedAt,
    some result.stdout, some result.stderr⟩
  match emitStatusTransition check.tool previous result with
  | none => ({ service with cache, locked := false }, { check with phase := .done })
  | some transition => ({ service with cache }, { check with phase := .reporting transition })

end HealthService

/-- A command of the core ends, or the runner of the extension returns or raises. -/
inductive Answer where
  | command (ending : Ending)
  | result (result : CheckResult)
  | raised
  deriving DecidableEq

/-- What an answer leads to: the next command, a result, or no result. -/
inductive Progress where
  | next (phase : Phase)
  | checked (result : CheckResult)
  | failed
  | unasked
  deriving DecidableEq

variable (decimal : Char → Bool)

/-- The runners as far as the answer takes them. -/
def Check.progress (check : Check) (answer : Answer) : Progress :=
  match check.phase, answer with
  | .version core started, .command ending =>
      let version := runCmd core.runner.versionCmd ending
      match Runner.afterVersion started version with
      | some result => .checked result
      | none => .next (.probe core started version)
  | .probe core started version, .command ending =>
      .checked (core.runner.afterProbe decimal started version (runCmd core.runner.probeCmd ending))
  | .extra, .result result => .checked result
  | .extra, .raised => .failed
  | _, _ => .unasked

namespace HealthService

def receive (answer : Answer) (service : HealthService) (check : Check) : HealthService × Check :=
  match check.progress decimal answer with
  | .next phase => (service, { check with phase })
  | .checked result => service.applyStatus check result
  | .failed => ({ service with locked := false }, { check with phase := .done })
  | .unasked => (service, check)

/-- A failed write of the audit row goes unnoticed. -/
def written (stored : Bool) (service : HealthService) (check : Check) : HealthService × Check :=
  match check.phase with
  | .reporting transition =>
      ({ service with
          locked := false
          audit := if stored then service.audit ++ [transition] else service.audit },
        { check with phase := .done })
  | _ => (service, check)

end HealthService

/-- The event loop serves a request, resumes a task, or hands it the answer that it awaits; time passes. A lock
serves its waiters in order; here any waiter may be resumed. -/
inductive ToolingEvent where
  | status (hook : Hook)
  | checkAll (hook : Hook)
  | recheck (userId : Option Int) (first second : Hook)
  | resume (index : Nat)
  | deliver (index : Nat) (answer : Answer)
  | written (index : Nat) (stored : Bool)
  | elapse (microseconds : Nat)
  deriving DecidableEq

abbrev ToolingState := Interleaved HealthService Check

/-- One new task for each known tool. -/
def gather (service : HealthService) (bypassCache : Bool) (checks : List Check) : ToolingState :=
  ⟨service, checks ++ service.knownTools.map fun tool => ⟨tool, bypassCache, .created⟩⟩

def toolingStep (state : ToolingState) : ToolingEvent → ToolingState
  | .status hook => { state with shared := state.shared.initTools hook }
  | .checkAll hook => gather (state.shared.initTools hook) false state.processes
  | .recheck userId first second =>
      match state.shared.recheckTooling userId first second with
      | (service, some _) => { state with shared := service }
      | (service, none) => gather service true state.processes
  | .resume index => state.act HealthService.checkOne index
  | .deliver index answer => state.act (HealthService.receive decimal answer) index
  | .written index stored => state.act (HealthService.written stored) index
  | .elapse microseconds => { state with shared := { state.shared with now := state.shared.now + microseconds } }

/-- The service starts with unknown tools and without tasks. -/
def ToolingState.initial : ToolingState := ⟨{}, []⟩

end P3Portal.Tooling
