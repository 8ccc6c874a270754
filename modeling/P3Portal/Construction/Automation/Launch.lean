import P3Portal.Construction.Access.Resolver
import P3Portal.Construction.Automation.Inventory
import P3Portal.Construction.Automation.Parameters
import P3Portal.Foundation.Interleaving
import P3Portal.Foundation.Keywords

namespace P3Portal.Automation
open Foundation Schema Http Auth Access

/-- The answer of the hook for an action that needs a second admin. -/
structure ApprovalDecision where
  approvalId : String
  actionType : String
  actionTarget : String
  expiresAt : String
  pollUrl : String
  deriving DecidableEq

/-- A value that a caller passes under a keyword. -/
inductive Argument where
  | text (value : String)
  | number (value : Int)
  | params (entries : List (String × ParamValue))
  | missing
  deriving DecidableEq

/-- The keywords of one call of the hook after binding. -/
structure ApprovalCall where
  actionType : Argument
  payload : Argument
  userId : Argument
  username : Argument
  metaFields : Argument := .missing
  deriving DecidableEq

/-- A hook that runs returns no decision, returns one, or raises. -/
inductive HookResult where
  | returned (decision : Option ApprovalDecision)
  | raised
  deriving DecidableEq

/-- `PlusProtocol` declares the hook with these keywords. -/
def requiresApprovalSignature : Signature where
  required := ["action_type", "payload", "user_id", "username"]
  optional := ["meta_fields"]

/-- A call with other keywords raises a type error and does not run the hook. -/
def bindApprovalCall (keywords : List (String × Argument)) : Option ApprovalCall :=
  if requiresApprovalSignature.Binds (keywords.map Prod.fst) then
    let value := fun name => (keywords.lookup name).getD .missing
    some ⟨value "action_type", value "payload", value "user_id", value "username", value "meta_fields"⟩
  else none

/-- Plus registers an implementation, which counts while the edition is Plus. The edition is read from the
license at every call, and this reading may raise. -/
structure PlusBehavior where
  active : Option (ApprovalCall → HookResult) := none
  isPlusEdition : Option Bool := some false

/-- Core always runs at once. -/
def coreRequiresApproval (_ : ApprovalCall) : HookResult := .returned none

/-- The edition is asked only when an implementation is registered; without an answer no hook is found. -/
def PlusBehavior.resolveGate (plus : PlusBehavior) : Option (ApprovalCall → HookResult) :=
  match plus.active with
  | some hook => plus.isPlusEdition.map fun valid => if valid then hook else coreRequiresApproval
  | none => some coreRequiresApproval

/-- The executed calls of a request stand beside what the caller sees. -/
def PlusBehavior.requiresApproval (plus : PlusBehavior) (keywords : List (String × Argument)) :
    List ApprovalCall × HookResult :=
  match plus.resolveGate with
  | none => ([], .raised)
  | some hook =>
      match bindApprovalCall keywords with
      | none => ([], .raised)
      | some call => ([call], hook call)

/-- Both endpoints ask only for users with an id, and go on after any exception. -/
def approvalCheck (plus : PlusBehavior) (userId : Option Int) (keywords : Int → List (String × Argument)) :
    List ApprovalCall × Option ApprovalDecision :=
  match userId with
  | none => ([], none)
  | some userId =>
      match plus.requiresApproval (keywords userId) with
      | (calls, .returned decision) => (calls, decision)
      | (calls, .raised) => (calls, none)

/-- The new row of `jobs` without its times. -/
structure JobRow where
  job : Job
  params : List (String × ParamValue)
  autoOwnerUserId : Option Int := none
  deployCategory : Option String := none
  poolId : Option Int := none
  deriving DecidableEq

/-- The background task that a request starts. -/
inductive Worker where
  | ansible (jobId playbook : String) (params : List (String × ParamValue)) (role : Role)
      (credentials : Option ProxmoxCredentials)
  | guest (jobId playbook : String) (params : List (String × ParamValue)) (scope : ScopeKind)
      (ref : Option Int) (targetHosts : Option (List String)) (userId : Int) (become : Bool)
  | packer (jobId templateId : String) (params : List (String × ParamValue))
      (credentials : Option ProxmoxCredentials)
  deriving DecidableEq

/-- Refusals carry their detail; validation answers with all its errors. -/
inductive LaunchAnswer where
  | created
  | pendingApproval (approvalId pollUrl : String)
  | invalid (errors : List String)
  | quotaExceeded (poolId : Int)
  | refused (exception : HttpException)
  | crashed
  deriving DecidableEq

/-- What a request leaves behind: its answer, the stored job, the worker, and the executed hook calls. -/
structure Launch where
  answer : LaunchAnswer
  job : Option JobRow := none
  worker : Option Worker := none
  approvals : List ApprovalCall := []
  deriving DecidableEq

inductive PlaybookPermission where
  | allow
  | deny
  | fallback
  deriving DecidableEq

/-- The other hooks, the configuration and the sessions belong to the running portal; a hook that
raises answers nothing. -/
structure LaunchSite where
  playbooks : Playbooks
  templates : PackerTemplates
  plus : PlusBehavior
  playbookPermission : Int → String → Option PlaybookPermission := fun _ _ => some .fallback
  maxOwnerships : Option Int := none
  ownerAutoAssignEnabled : Option String := none
  ownerAutoAssignCategories : Option (Option (List String)) := none
  checkPoolQuota : Option Int → Int → Params → Option Bool := fun _ _ _ => some true
  ipamReservation : String → String → Params → String → Except LaunchAnswer Unit := fun _ _ _ _ => .ok ()
  canUseAnsibleInventory : Bool := false
  getCredentials : String → Option ProxmoxCredentials := fun _ => none
  proxmoxNode : String := ""
  databaseText : ParamValue → Option String := fun _ => none

structure JobCreate where
  playbook : String
  params : Params := OrderedMap.empty
  autoAssignOwner : Bool := true
  poolId : Option Int := none
  guestScope : Option (ScopeKind × Option Int) := none
  targetHosts : Option (List String) := none

section
variable (site : LaunchSite) (db : Database) (user : CurrentUser)

/-- The levels of the roles in `required_role`; a restricted user is below all of them. -/
def roleLevel : Role → Int
  | .viewer => 0
  | .operator => 1
  | .admin => 2
  | .restricted => -1

def requiredLevel (required : String) : Int :=
  if required.toLower = "operator" then 1 else if required.toLower = "admin" then 2 else 0

/-- Admins may run everything, then Plus decides, and without a decision the role in the meta does. -/
def canUserExecutePlaybook (userId : Int) (playbook : String) : Option Bool :=
  if isAdmin db userId then some true
  else match site.playbookPermission userId playbook with
    | none => none
    | some .allow => some true
    | some .deny => some false
    | some .fallback =>
        match getPlaybook site.playbooks playbook, getUserById db userId with
        | some detail, some row => some (requiredLevel (detail.requiredRole.getD "") ≤ roleLevel row.role)
        | _, _ => some false

/-- An error of the resolver does not block the job. -/
def checkPlaybookPermission (playbook : String) : Except LaunchAnswer Unit :=
  match user.userId with
  | none => .ok ()
  | some userId =>
      if canUserExecutePlaybook site db userId playbook = some false then
        .error (.refused ⟨403, "playbook_not_authorized"⟩)
      else .ok ()

def countActiveOwnerships (userId : Int) : Nat :=
  (db.vmOwners.filter fun owner => owner.userId = userId && owner.deletedAt = none).length

/-- Unreadable categories are the default ones. -/
def allowedCategories : List String :=
  match site.ownerAutoAssignCategories with
  | some (some categories) => categories
  | _ => ["vm_deployment", "lxc_deployment"]

/-- A deploy makes its user the owner unless the limit of ownerships is reached. -/
def checkOwnerLimit (body : JobCreate) : Except LaunchAnswer (Option (Int × String)) :=
  let category := (getPlaybook site.playbooks body.playbook).bind fun detail => Text.truthy detail.category
  let enabled := site.ownerAutoAssignEnabled.all fun raw => raw.toLower ≠ "false"
  match category.filter fun category => body.autoAssignOwner && enabled && category ∈ allowedCategories site with
  | none => .ok none
  | some category =>
      match getUserByUsername db user.username with
      | none => .ok none
      | some actor =>
          let count := countActiveOwnerships db actor.id
          match site.maxOwnerships.filter (· ≤ (count : Int)) with
          | some most => .error (.refused ⟨412, "Owner-Limit erreicht (" ++ toString count ++ "/" ++
              toString most ++ "). Bestehende Eigentümerschaft aufgeben oder auf Plus upgraden, dann " ++
              "erneut deployen."⟩)
          | none => .ok (some (actor.id, category))

def checkPoolQuota (body : JobCreate) : Except LaunchAnswer Unit :=
  match body.poolId with
  | none => .ok ()
  | some poolId =>
      let actorId := ((getUserByUsername db user.username).map LocalUser.id).or user.userId
      match site.checkPoolQuota actorId poolId body.params with
      | some true => .ok ()
      | some false => .error (.quotaExceeded poolId)
      | none => .error (.refused
          ⟨503, "Pool-Quota-Check temporär nicht verfügbar – bitte erneut versuchen"⟩)

def hasManageInventory : Bool :=
  user.role = .admin || user.portalPermissions.contains "manage_ansible_inventory"

/-- A run in the user scope stays inside the own guests; the other scopes need Plus. -/
def assertGuestRunAllowed (scope : ScopeKind) (targetHosts : Option (List String)) :
    Except HttpException Unit :=
  match scope with
  | .user =>
      match user.userId with
      | none => .error ⟨403, "guest_run_requires_local_user"⟩
      | some userId =>
          let allowed := (userScopeCandidates db userId).map Candidate.hostRef
          if (targetHosts.getD []).all (· ∈ allowed) then .ok () else .error ⟨403, "host_outside_scope"⟩
  | .global =>
      if !site.canUseAnsibleInventory then .error ⟨404, "not_found"⟩
      else if hasManageInventory user then .ok ()
      else .error ⟨403, "global_scope_requires_manage_inventory"⟩
  | .pool => if !site.canUseAnsibleInventory then .error ⟨404, "not_found"⟩ else .ok ()

def startJobKeywords (body : JobCreate) (userId : Int) : List (String × Argument) :=
  [("action_type", .text "playbook_run"), ("action_target", .text body.playbook),
    ("payload", .params body.params.entries), ("user_id", .number userId), ("username", .text user.username)]

/-- The worker is chosen after the job is stored, so a refused guest run leaves its job behind. -/
def chooseWorker (body : JobCreate) (jobId : String) : Except HttpException Worker :=
  let detail := getPlaybook site.playbooks body.playbook
  if detail.any fun detail => detail.targets = .guest then do
    let scope := body.guestScope.getD (.user, none)
    assertGuestRunAllowed site db user scope.1 body.targetHosts
    match user.userId with
    | none => .error ⟨403, "guest_run_requires_local_user"⟩
    | some userId =>
        .ok (.guest jobId body.playbook body.params.entries scope.1 scope.2 body.targetHosts userId
          (detail.any PlaybookMeta.become))
  else .ok (.ansible jobId body.playbook body.params.entries user.role (if user.authType = .proxmox
    then (Text.truthy user.jti).bind site.getCredentials else none))

/-- The sensitive params are not stored. -/
def newJob (type : JobType) (name jobId : String) (params : Params) (sensitive : List String)
    (owner : Option (Int × String)) (poolId : Option Int) : JobRow where
  job := { id := jobId, type := type, playbook := name, username := user.username }
  params := params.entries.filter fun entry => entry.1 ∉ sensitive
  autoOwnerUserId := owner.map Prod.fst
  deployCategory := owner.map Prod.snd
  poolId := poolId

/-- The checks between the approval and the insert. -/
def checkDeploy (body : JobCreate) (jobId : String) : Except LaunchAnswer (Option (Int × String)) := do
  let owner ← checkOwnerLimit site db user body
  checkPoolQuota site db user body
  site.ipamReservation jobId body.playbook body.params user.username
  return owner

/-- `POST /api/jobs`. -/
def startJob (body : JobCreate) (jobId : String) : Launch :=
  match validatePlaybookParams site.playbooks body.playbook body.params with
  | .error _ => { answer := .crashed }
  | .ok (first :: rest) => { answer := .invalid (first :: rest) }
  | .ok [] =>
      match checkPlaybookPermission site db user body.playbook with
      | .error answer => { answer := answer }
      | .ok () =>
          let approval := approvalCheck site.plus user.userId (startJobKeywords user body)
          match approval.2 with
          | some decision =>
              { answer := .pendingApproval decision.approvalId decision.pollUrl, approvals := approval.1 }
          | none =>
              match checkDeploy site db user body jobId with
              | .error answer => { answer := answer, approvals := approval.1 }
              | .ok owner =>
                  let job := newJob user .ansible body.playbook jobId body.params
                    (getSensitiveParamIds site.playbooks body.playbook) owner body.poolId
                  match chooseWorker site db user body jobId with
                  | .error exception =>
                      { answer := .refused exception, job := some job, approvals := approval.1 }
                  | .ok worker =>
                      { answer := .created, job := some job, worker := some worker, approvals := approval.1 }

/-- The text of a param counts as a node name unless it is empty or false. -/
def ParamValue.truthy : ParamValue → Bool
  | .null => false
  | .bool value => value
  | .int value => value ≠ 0
  | .float shown _ => shown ≠ "0.0" && shown ≠ "-0.0"
  | .text value => value ≠ ""
  | .compound shown => shown ≠ "[]" && shown ≠ "{}"

/-- `_extract_token` for the role `packer`. -/
def extractPackerToken (node : NodeRow) : Option (String × String) :=
  if node.packerTokenId = "" || node.packerTokenSecret = "" then none
  else some (node.packerTokenId, node.packerTokenSecret)

/-- The only installation also answers for node names that it does not know. -/
def packerTokenForNode (name : String) : Option (String × String) :=
  match Nodes.getNodeForProxmoxName db name with
  | some node => extractPackerToken node
  | none =>
      if Nodes.countNodes db = 1 then (Nodes.getDefaultNode db).bind extractPackerToken else none

/-- The params name the node of the build, or it is the configured one. -/
def packerTargetNode (params : Params) : Option String :=
  let named := ((params.get? "proxmox_node").filter ParamValue.truthy).or
    ((params.get? "node").filter ParamValue.truthy)
  match named with
  | some (.text name) => some name
  | some value => site.databaseText value
  | none => Text.truthy (some site.proxmoxNode)

/-- A Proxmox user builds with the own login; a local user needs the token of the node. -/
def packerCredentials (params : Params) : Except LaunchAnswer (Option ProxmoxCredentials) :=
  match user.authType with
  | .proxmox =>
      match (Text.truthy user.jti).bind site.getCredentials with
      | none => .error (.refused ⟨503, "Proxmox-Session abgelaufen – bitte erneut einloggen"⟩)
      | some login => .ok (some login)
  | .localUser =>
      match (packerTargetNode site params).bind (packerTokenForNode db) with
      | none => .error (.refused
          ⟨422, "Packer-Credentials nicht konfiguriert (PACKER_TOKEN_ID / PACKER_TOKEN_SECRET fehlen)"⟩)
      | some _ => .ok none

def buildRunning (templateId : String) : Bool :=
  db.jobs.any fun job => job.type = .packer && job.playbook = templateId && job.status = .running

/-- The checks before the approval, in the order of the endpoint. -/
def checkBuild (templateId : String) (params : Params) : Except LaunchAnswer (Option ProxmoxCredentials) := do
  if (getPackerTemplate site.templates templateId).isNone then
    throw (.refused ⟨404, "Template not found"⟩)
  let credentials ← packerCredentials site db user params
  match validatePackerParams site.templates templateId params with
  | .error _ => throw .crashed
  | .ok (first :: rest) => throw (.invalid (first :: rest))
  | .ok [] =>
      if buildRunning db templateId then
        throw (.refused ⟨409, "Ein Build für dieses Template läuft bereits"⟩)
      return credentials

def startPackerBuildKeywords (params : Params) (userId : Int) : List (String × Argument) :=
  [("action_type", .text "packer_build"), ("payload", .params params.entries), ("user_id", .number userId),
    ("username", .text user.username)]

/-- `POST /api/packer/{template_id}/build`. -/
def startPackerBuild (templateId : String) (params : Params) (jobId : String) : Launch :=
  match checkBuild site db user templateId params with
  | .error answer => { answer := answer }
  | .ok credentials =>
      let approval := approvalCheck site.plus user.userId (startPackerBuildKeywords user params)
      match approval.2 with
      | some decision =>
          { answer := .pendingApproval decision.approvalId decision.pollUrl, approvals := approval.1 }
      | none =>
          { answer := .created
            job := some (newJob user .packer templateId jobId params
              (getSensitivePackerParamIds site.templates templateId) none none)
            worker := some (.packer jobId templateId params.entries credentials)
            approvals := approval.1 }
end

/-- The template directories stand beside the database. Each removed directory is noted with the jobs of its
template that were pending or running at that moment. -/
structure PackerPortal where
  db : Database
  templates : PackerTemplates
  removals : List (String × List String) := []

structure BuildRequest where
  templateId : String
  params : Params
  user : CurrentUser

/-- A build runs from one database session to the next; once its job is stored it goes on as the worker. -/
inductive BuildPhase where
  | arrived
  | admitted (credentials : Option ProxmoxCredentials)
  | checked (credentials : Option ProxmoxCredentials)
  | queued (jobId : String)
  | running (jobId : String)
  | done
  | answered (answer : LaunchAnswer)
  deriving DecidableEq

inductive DeletePhase where
  | arrived
  | found
  | checked
  | finished (answer : Except HttpException Unit)
  deriving DecidableEq

inductive PackerProcess where
  | build (request : BuildRequest) (phase : BuildPhase)
  | delete (templateId : String) (phase : DeletePhase)

/-- A build of the template has been stored and not yet ended. -/
def unfinishedBuild (templateId : String) (job : Job) : Bool :=
  job.type = .packer && job.playbook = templateId && (job.status = .pending || job.status = .running)

/-- The checks before the running builds are looked up. -/
def admitBuild (site : LaunchSite) (db : Database) (user : CurrentUser) (templateId : String) (params : Params) :
    Except LaunchAnswer (Option ProxmoxCredentials) := do
  if (getPackerTemplate site.templates templateId).isNone then
    throw (.refused ⟨404, "Template not found"⟩)
  let credentials ← packerCredentials site db user params
  match validatePackerParams site.templates templateId params with
  | .error _ => throw .crashed
  | .ok (first :: rest) => throw (.invalid (first :: rest))
  | .ok [] => return credentials

/-- The identifier of a new job and the end of a build come from outside; a missing token fails the build. -/
structure PackerInputs where
  jobId : String := ""
  success : Bool := true

section
variable (site : LaunchSite) (inputs : PackerInputs)

/-- The job is stored unless the approval decides otherwise. -/
def storeBuild (portal : PackerPortal) (request : BuildRequest) (_credentials : Option ProxmoxCredentials) :
    PackerPortal × BuildPhase :=
  match (approvalCheck site.plus request.user.userId
      (startPackerBuildKeywords request.user request.params)).2 with
  | some decision => (portal, .answered (.pendingApproval decision.approvalId decision.pollUrl))
  | none =>
      if inputs.jobId ∈ portal.db.jobs.map Job.id then (portal, .answered .crashed)
      else
        let row := newJob request.user .packer request.templateId inputs.jobId request.params
          (getSensitivePackerParamIds portal.templates request.templateId) none none
        ({ portal with db := { portal.db with jobs := portal.db.jobs ++ [row.job] } }, .queued inputs.jobId)

/-- One turn of `start_packer_build` and, behind it, of `run_packer_job`. -/
def buildTurn (portal : PackerPortal) (request : BuildRequest) : BuildPhase → PackerPortal × BuildPhase
  | .arrived =>
      match admitBuild { site with templates := portal.templates } portal.db request.user request.templateId
          request.params with
      | .ok credentials => (portal, .admitted credentials)
      | .error answer => (portal, .answered answer)
  | .admitted credentials =>
      if buildRunning portal.db request.templateId then
        (portal, .answered (.refused ⟨409, "Ein Build für dieses Template läuft bereits"⟩))
      else (portal, .checked credentials)
  | .checked credentials => storeBuild site inputs portal request credentials
  | .queued jobId => ({ portal with db := setJobStatus portal.db jobId .running }, .running jobId)
  | .running jobId =>
      let status := if inputs.success then .success else .failed
      ({ portal with db := setJobStatus portal.db jobId status }, .done)
  | .done => (portal, .done)
  | .answered answer => (portal, .answered answer)

/-- One turn of `delete_packer_template_endpoint`. -/
def deleteTurn (portal : PackerPortal) (templateId : String) : DeletePhase → PackerPortal × DeletePhase
  | .arrived =>
      if (getPackerTemplate portal.templates templateId).isNone then
        (portal, .finished (.error ⟨404, "Template not found"⟩))
      else (portal, .found)
  | .found =>
      if buildRunning portal.db templateId then
        (portal, .finished (.error ⟨409, "Template kann nicht gelöscht werden, da ein Build läuft"⟩))
      else (portal, .checked)
  | .checked =>
      if templateId ∈ portal.templates.map Prod.fst then
        let noted := (portal.db.jobs.filter (unfinishedBuild templateId)).map Job.id
        ({ portal with
            templates := portal.templates.filter (fun entry => entry.1 ≠ templateId)
            removals := portal.removals ++ [(templateId, noted)] }, .finished (.ok ()))
      else (portal, .finished (.ok ()))
  | .finished answer => (portal, .finished answer)

def PackerProcess.advance (portal : PackerPortal) : PackerProcess → PackerPortal × PackerProcess
  | .build request phase =>
      let turned := buildTurn site inputs portal request phase
      (turned.1, .build request turned.2)
  | .delete templateId phase =>
      let turned := deleteTurn portal templateId phase
      (turned.1, .delete templateId turned.2)

abbrev PackerState := Interleaved PackerPortal PackerProcess

inductive PackerEvent where
  | build (request : BuildRequest)
  | delete (templateId : String)
  | advance (index : Nat) (inputs : PackerInputs)

def packerStep (state : PackerState) : PackerEvent → PackerState
  | .build request => state.spawn (.build request .arrived)
  | .delete templateId => state.spawn (.delete templateId .arrived)
  | .advance index inputs => state.act (PackerProcess.advance site inputs) index
end
end P3Portal.Automation
