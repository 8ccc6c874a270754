import P3Portal.Construction.Automation.Launch
import P3Portal.Construction.License.Dispatcher

namespace P3Portal.Automation
open Schema Foundation Http Auth

section Check
variable {plus : PlusBehavior} {user : CurrentUser}

/-- The keywords of the builds are those of the declared hook. -/
theorem startPackerBuildKeywords_bind (user : CurrentUser) (params : Params) (userId : Int) :
    bindApprovalCall (startPackerBuildKeywords user params userId) =
      some ⟨.text "packer_build", .params params.entries, .number userId, .text user.username, .missing⟩ := by
  have binds : requiresApprovalSignature.Binds ((startPackerBuildKeywords user params userId).map Prod.fst) := by
    change requiresApprovalSignature.Binds ["action_type", "payload", "user_id", "username"]
    decide
  unfold bindApprovalCall
  rw [if_pos binds]
  rfl

/-- The keywords of the jobs name a target, which the declared hook does not know. -/
theorem startJobKeywords_unbound (user : CurrentUser) (body : JobCreate) (userId : Int) :
    bindApprovalCall (startJobKeywords user body userId) = none := by
  unfold bindApprovalCall
  rw [if_neg]
  have given : "action_target" ∈ (startJobKeywords user body userId).map Prod.fst := by
    change "action_target" ∈ ["action_type", "action_target", "payload", "user_id", "username"]
    decide
  exact Signature.not_binds_of_undeclared given (by decide)

/-- The hook answers a call when the edition is known where it matters and the chosen hook does not raise. -/
def Answers (plus : PlusBehavior) (call : ApprovalCall) : Prop :=
  ∀ hook, plus.active = some hook →
    plus.isPlusEdition = some false ∨ plus.isPlusEdition = some true ∧ hook call ≠ .raised

/-- The hook ran once for the request of a user with an id, and returned no decision. -/
def Approved (plus : PlusBehavior) (user : CurrentUser) (request : Int → ApprovalCall)
    (calls : List ApprovalCall) : Prop :=
  ∃ userId hook, user.userId = some userId ∧ plus.resolveGate = some hook ∧ calls = [request userId] ∧
    hook (request userId) = .returned none

/-- The dispatcher reaches a hook that does not raise exactly when the hook answers. -/
theorem answers_iff (call : ApprovalCall) :
    Answers plus call ↔ ∃ hook, plus.resolveGate = some hook ∧ hook call ≠ .raised := by
  unfold Answers PlusBehavior.resolveGate
  cases plus.active with
  | none => simp [coreRequiresApproval]
  | some hook =>
      cases plus.isPlusEdition with
      | none => simp
      | some valid => cases valid <;> simp [coreRequiresApproval]

/-- A check with bound keywords gives a decision, is approved, or does not reach an answer. -/
theorem approvalCheck_approved {keywords : Int → List (String × Argument)} {request : Int → ApprovalCall}
    (bound : ∀ userId, bindApprovalCall (keywords userId) = some (request userId)) :
    ((approvalCheck plus user.userId keywords).2 = none →
        Approved plus user request (approvalCheck plus user.userId keywords).1) ↔
      ∃ userId, user.userId = some userId ∧ Answers plus (request userId) := by
  cases known : user.userId with
  | none => simp [approvalCheck, Approved, known]
  | some userId =>
      simp only [approvalCheck, Approved, known, PlusBehavior.requiresApproval, bound, Option.some.injEq,
        exists_eq_left', answers_iff]
      cases resolved : plus.resolveGate with
      | none => simp
      | some hook =>
          cases answer : hook (request userId) with
          | raised => simp [answer]
          | returned decision => simp [answer]

end Check

section License
variable (primitives : License.Primitives) (readable : Bool)
  (process : License.Process (ApprovalCall → HookResult))

/-- The edition that a call sees is the one that the license gives at this moment. -/
def PlusBehavior.ofProcess : PlusBehavior where
  active := process.active
  isPlusEdition := (License.isPlusEdition primitives readable process.portal).2

/-- The hook of the implementation that answers a call. -/
def serverHook : License.Server (ApprovalCall → HookResult) → ApprovalCall → HookResult
  | .core => coreRequiresApproval
  | .plus hook => hook

/-- The dispatcher of a process resolves the hook that an approval asks, and raises where the license does. -/
theorem resolveGate_ofProcess :
    (PlusBehavior.ofProcess primitives readable process).resolveGate =
      (License.resolveGate primitives readable process.active process.portal).2.map serverHook := by
  unfold PlusBehavior.resolveGate PlusBehavior.ofProcess License.resolveGate
  cases process.active with
  | none => rfl
  | some hook =>
      simp only
      obtain ⟨portal, edition⟩ := License.isPlusEdition primitives readable process.portal
      cases edition with
      | none => rfl
      | some valid => cases valid <;> rfl

end License

variable (site : LaunchSite) (db : Database) (user : CurrentUser)

/-- The call of the hook that belongs to a build request. -/
def buildApprovalCall (params : Params) (userId : Int) : ApprovalCall where
  actionType := .text "packer_build"
  payload := .params params.entries
  userId := .number userId
  username := .text user.username

/-- The call of the hook that belongs to a job request. -/
def jobApprovalCall (body : JobCreate) (userId : Int) : ApprovalCall where
  actionType := .text "playbook_run"
  payload := .params body.params.entries
  userId := .number userId
  username := .text user.username

/-- A launch that stores a job or starts a worker does so after the hook allowed this very request. -/
def LaunchApproved (request : Int → ApprovalCall) (launch : Launch) : Prop :=
  launch.job.isSome ∨ launch.worker.isSome → Approved site.plus user request launch.approvals

/-- The checks of a job request beside the approval let it through to the insert. -/
def JobAccepted (body : JobCreate) (jobId : String) : Prop :=
  validatePlaybookParams site.playbooks body.playbook body.params = .ok [] ∧
    checkPlaybookPermission site db user body.playbook = .ok () ∧
    ∃ owner, checkDeploy site db user body jobId = .ok owner

/-- The checks of a build request before the approval let it through. -/
def BuildAccepted (templateId : String) (params : Params) : Prop :=
  ∃ credentials, checkBuild site db user templateId params = .ok credentials

/-- No hook of the declared signature ever runs for a job request, and none gives it a decision. -/
theorem approvalCheck_startJob (body : JobCreate) :
    approvalCheck site.plus user.userId (startJobKeywords user body) = ([], none) := by
  unfold approvalCheck PlusBehavior.requiresApproval
  cases user.userId with
  | none => rfl
  | some userId =>
      simp only [startJobKeywords_unbound]
      cases site.plus.resolveGate with
      | none => rfl
      | some hook => rfl

/-- A job request reaches the insert exactly when its other checks accept it, and no hook has run. -/
theorem startJob_stores (body : JobCreate) (jobId : String) :
    (((startJob site db user body jobId).job.isSome ∨ (startJob site db user body jobId).worker.isSome) ↔
        JobAccepted site db user body jobId) ∧
      (startJob site db user body jobId).approvals = [] := by
  unfold startJob JobAccepted
  rw [approvalCheck_startJob]
  cases validatePlaybookParams site.playbooks body.playbook body.params with
  | error failure => simp
  | ok errors =>
      cases errors with
      | cons first rest => simp
      | nil =>
          cases checkPlaybookPermission site db user body.playbook with
          | error answer => simp
          | ok permitted =>
              cases checkDeploy site db user body jobId with
              | error answer => simp
              | ok owner => cases chooseWorker site db user body jobId <;> simp

/-- A build is stored exactly when its checks accept it and the approval gives no decision. -/
theorem startPackerBuild_stores (templateId : String) (params : Params) (jobId : String) :
    ((startPackerBuild site db user templateId params jobId).job.isSome ∨
        (startPackerBuild site db user templateId params jobId).worker.isSome) ↔
      BuildAccepted site db user templateId params ∧
        (approvalCheck site.plus user.userId (startPackerBuildKeywords user params)).2 = none := by
  unfold startPackerBuild BuildAccepted
  cases checkBuild site db user templateId params with
  | error answer => simp
  | ok credentials =>
      obtain ⟨calls, decision⟩ := approvalCheck site.plus user.userId (startPackerBuildKeywords user params)
      cases decision <;> simp

/-- An accepted build keeps the executed calls of its check. -/
theorem startPackerBuild_approvals {templateId : String} {params : Params}
    (accepted : BuildAccepted site db user templateId params) (jobId : String) :
    (startPackerBuild site db user templateId params jobId).approvals =
      (approvalCheck site.plus user.userId (startPackerBuildKeywords user params)).1 := by
  obtain ⟨credentials, checked⟩ := accepted
  unfold startPackerBuild
  rw [checked]
  obtain ⟨calls, decision⟩ := approvalCheck site.plus user.userId (startPackerBuildKeywords user params)
  cases decision <;> rfl

/-- A portal with one node, one playbook and one template, where a hook answers every call with the same
result. -/
def exampleLaunch (result : HookResult) : LaunchSite where
  playbooks := [("deploy", {})]
  templates := [("debian", {})]
  plus := { active := some fun _ => result, isPlusEdition := some true }
  playbookPermission := fun _ _ => some .allow
  proxmoxNode := "pve"

def exampleLocalUser : CurrentUser where
  username := "erika"
  authType := .localUser
  role := .operator
  userId := some 7

def exampleAccounts : Database where
  localUsers := [{ id := 7, username := "erika" }]
  nodes := [{ id := 1, name := "pve", url := "https://pve:8006", proxmoxNode := "pve", packerTokenId := "id",
              packerTokenSecret := "secret" }]

def exampleDecision : ApprovalDecision where
  approvalId := "appr_1"
  actionType := "playbook_run"
  actionTarget := "deploy"
  expiresAt := "2030-01-01T00:00:00Z"
  pollUrl := "/api/approvals/appr_1"

end P3Portal.Automation
