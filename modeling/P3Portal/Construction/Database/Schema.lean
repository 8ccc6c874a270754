import Mathlib.Data.List.Basic

namespace P3Portal.Schema

/-- These roles pass the check constraint of `local_users`. -/
inductive Role where
  | admin
  | operator
  | viewer
  | restricted
  deriving DecidableEq

/-- The column stores the role under this name. -/
def Role.name : Role → String
  | .admin => "admin"
  | .operator => "operator"
  | .viewer => "viewer"
  | .restricted => "restricted"

/-- These kinds pass the check constraints of `resource_assignments` and `vm_owners`. -/
inductive ResourceType where
  | vm
  | lxc
  deriving DecidableEq

/-- A node assignment names a user or a group. -/
inductive SubjectType where
  | user
  | group
  deriving DecidableEq

/-- These origins pass the check constraint of `vm_owners`. -/
inductive OwnerSource where
  | deploy
  | adopt
  | coownerAdd
  | transfer
  deriving DecidableEq

/-- These reasons pass the check constraint of `vm_owners`. -/
inductive DeletedReason where
  | userDeleted
  | resourceDeleted
  | transferred
  | selfRemoved
  | adminRemoved
  | lastOwnerOrphaned
  | nodeDeleted
  deriving DecidableEq

structure LocalUser where
  id : Int
  username : String
  passwordHash : String := ""
  role : Role := .operator
  active : Bool := true
  mustChangePassword : Bool := false
  portalPermissions : List String := []
  totpEnabled : Bool := false
  totpSecret : Option String := none
  totpPendingSecret : Option String := none
  totpRecoveryCodes : Option (List String) := none
  apiKeysEnabled : Bool := false
  apiKeysAllowedScopes : Option (List String) := none
  apiKeysMaxCount : Option Int := none
  deriving DecidableEq

/-- A row is one issued session token that can be revoked. -/
structure UserSession where
  id : String
  username : String
  jti : String
  revoked : Bool := false
  deriving DecidableEq

/-- These kinds of work are stored as jobs. -/
inductive JobType where
  | ansible
  | packer
  deriving DecidableEq

inductive JobStatus where
  | pending
  | running
  | success
  | failed
  deriving DecidableEq

structure Job where
  id : String
  type : JobType := .ansible
  playbook : String
  status : JobStatus := .pending
  username : String
  deriving DecidableEq

/-- A group survives the deletion of its owner. -/
structure Group where
  id : Int
  name : String
  ownerUserId : Option Int := none
  deriving DecidableEq

structure GroupMember where
  groupId : Int
  userId : Int
  deriving DecidableEq

/-- The two JSON columns hold the action names that the preset grants. -/
structure RolePreset where
  id : Int
  permissions : List String := []
  nodeActions : List String := []
  deriving DecidableEq

/-- An absent portal node marks a legacy row that applies to all nodes. -/
structure ResourceAssignment where
  id : Int
  userId : Int
  resourceType : ResourceType
  resourceId : Int
  portalNodeId : Option Int
  presetId : Int
  deriving DecidableEq

structure NodeAssignment where
  id : Int
  nodeId : Int
  subjectType : SubjectType
  subjectId : Int
  rolePresetId : Int
  deriving DecidableEq

/-- A row with a deletion time is soft-deleted and still holds its foreign keys. -/
structure VmOwner where
  id : Int
  resourceType : ResourceType
  nodeId : Int
  vmid : Int
  userId : Int
  source : OwnerSource := .deploy
  deletedAt : Option String := none
  deletedReason : Option DeletedReason := none
  deriving DecidableEq

/-- A user pins a route to the sidebar. -/
structure SidebarPin where
  userId : Int
  route : String
  deriving DecidableEq

/-- Only the hash of a personal key is stored; its expiry counts microseconds. -/
structure UserApiKey where
  id : Int
  userId : Int
  name : String
  keyHash : String
  keyPrefix : String := ""
  scopes : List String := []
  expiresAt : Option Int := none
  isActive : Bool := true
  deriving DecidableEq

/-- One row is one Proxmox installation with its per-role tokens. -/
structure NodeRow where
  id : Int
  name : String
  url : String
  proxmoxNode : String
  verifySsl : Bool := true
  tokenId : String := ""
  tokenSecret : String := ""
  viewerTokenId : String := ""
  viewerTokenSecret : String := ""
  operatorTokenId : String := ""
  operatorTokenSecret : String := ""
  adminTokenId : String := ""
  adminTokenSecret : String := ""
  packerTokenId : String := ""
  packerTokenSecret : String := ""
  tofuTokenId : String := ""
  tofuTokenSecret : String := ""
  isDefault : Bool := false
  clusterNodes : List String := []
  position : Int := 0
  deriving DecidableEq

/-- A row remembers how a guest on an installation is reached over SSH. -/
structure ManagedHost where
  portalNodeId : Int
  vmid : Int
  kind : String
  sshManaged : Bool := false
  ansibleUser : String := "p3-ansible"
  hostKey : Option String := none
  deriving DecidableEq

structure AuditLog where
  eventType : String
  username : Option String
  authType : Option String
  detail : Option String
  createdAt : String
  deriving DecidableEq

/-- The lists hold the rows of each table in the order that the database scans them. -/
structure Database where
  localUsers : List LocalUser := []
  userSessions : List UserSession := []
  jobs : List Job := []
  groups : List Group := []
  groupMembers : List GroupMember := []
  rolePresets : List RolePreset := []
  resourceAssignments : List ResourceAssignment := []
  nodeAssignments : List NodeAssignment := []
  vmOwners : List VmOwner := []
  userSidebarPins : List SidebarPin := []
  userApiKeys : List UserApiKey := []
  nodes : List NodeRow := []
  ansibleManagedHosts : List ManagedHost := []
  auditLogs : List AuditLog := []
  deriving DecidableEq

/-- `write_audit_log` appends one row. -/
def writeAuditLog (db : Database) (eventType : String) (username authType detail : Option String)
    (now : String) : Database :=
  { db with auditLogs := db.auditLogs ++ [⟨eventType, username, authType, detail, now⟩] }

/-- An update of the status of one job asks for no earlier status. -/
def setJobStatus (db : Database) (jobId : String) (status : JobStatus) : Database :=
  { db with jobs := db.jobs.map fun job => if job.id = jobId then { job with status := status } else job }

/-- A comparison in a WHERE clause is never true of NULL. -/
def sqlEq {A : Type} [DecidableEq A] (left right : Option A) : Bool :=
  match left, right with
  | some first, some second => first = second
  | _, _ => false

@[simp] theorem sqlEq_iff {A : Type} [DecidableEq A] (left right : Option A) :
    sqlEq left right = true ↔ ∃ value, left = some value ∧ right = some value := by
  cases left <;> cases right <;> simp [sqlEq, eq_comm]

end P3Portal.Schema
