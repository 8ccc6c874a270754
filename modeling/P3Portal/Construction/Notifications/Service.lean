import Mathlib.Data.Prod.Lex
import Mathlib.Data.String.Basic
import Mathlib.Order.BooleanAlgebra.Basic
import P3Portal.Construction.Alerts.Rules
import P3Portal.Construction.Vms.VmAccess
import P3Portal.Foundation.Ranking

namespace P3Portal.Notifications
open Schema Foundation Http Auth Proxmox Alerts

/-- An item has one of these severities, and so has an announcement by its check constraint. -/
inductive Severity where
  | critical
  | warn
  | info
  | success
  deriving DecidableEq

def Severity.rank : Severity → Nat
  | .critical => 4
  | .warn => 3
  | .info => 2
  | .success => 1

/-- The highest severity of a list; success does not count for the bell. -/
def maxSeverity (severities : List Severity) : Option Severity :=
  (severities.filter (· ≠ .success)).argmax Severity.rank

inductive Source where
  | alert
  | announcement
  | event
  deriving DecidableEq

/-- An event comes from one of three adapters. -/
inductive SubSource where
  | job
  | audit
  | clusterTask
  deriving DecidableEq

structure NotificationItem where
  source : Source
  sourceId : String
  severity : Severity
  createdAt : Int
  read : Bool
  subSource : Option SubSource := none
  deriving DecidableEq

structure StoredAlertEvent where
  id : Int
  severity : AlertSeverity
  timestamp : String
  deriving DecidableEq

structure Announcement where
  id : Int
  severity : Severity := .info
  active : Bool := true
  expiresAt : Option String := none
  createdAt : String
  deriving DecidableEq

structure StoredJob extends Job where
  createdAt : String
  deriving DecidableEq

structure StoredAuditLog extends AuditLog where
  id : Int
  deriving DecidableEq

/-- The user, the source and the identifier are the primary key of a mark. -/
structure ReadMark where
  userId : Int
  source : Source
  sourceId : String
  readAt : String
  deriving DecidableEq

/-- The hub reads the four sources and the marks; the accounts, nodes and grants are in the database. -/
structure Hub where
  db : Database := {}
  alertEvents : List StoredAlertEvent := []
  announcements : List Announcement := []
  jobs : List StoredJob := []
  auditLogs : List StoredAuditLog := []
  notificationReads : List ReadMark := []
  deriving DecidableEq

/-- The clock as the text that is compared with stored times and as an instant. -/
structure Moment where
  text : String
  instant : Int

/-- The portal reads these fields of a task of Proxmox; a missing text is empty. -/
structure ClusterTask where
  upid : String
  starttime : Option Int
  status : String
  deriving DecidableEq

/-- Python reads times, and Proxmox answers with the tasks of a node. -/
structure NotificationSite where
  fromIsoformat : String → Option Int
  fromTimestamp : Int → Option Int
  getNodeTasks : ProxmoxClient → ProxmoxAuth → String → Nat → Except ProxmoxError (List ClusterTask)

section
variable (site : NotificationSite) (hub : Hub) (user : CurrentUser) (now : Moment) (limit : Nat)

/-- The joined mark of the user; the primary key leaves at most one. -/
def isRead (source : Source) (sourceId : String) : Bool :=
  hub.notificationReads.any fun mark =>
    sqlEq user.userId (some mark.userId) && mark.source = source && mark.sourceId = sourceId

def seesAlerts : Bool := user.role = .admin || user.role = .operator

def hasViewLogs : Bool := user.role = .admin || "view_logs" ∈ user.portalPermissions

/-- A stored text that is no time counts as the present. -/
def createdAt (text : String) : Int := (site.fromIsoformat text).getD now.instant

/-- The identifiers that items and marks share. -/
def StoredAlertEvent.sourceId (row : StoredAlertEvent) : String := toString row.id

def Announcement.sourceId (row : Announcement) : String := toString row.id

def StoredJob.sourceId (row : StoredJob) : String := "job:" ++ row.id

def StoredAuditLog.sourceId (row : StoredAuditLog) : String := "audit:" ++ toString row.id

def ClusterTask.sourceId (task : ClusterTask) : String := "cluster_task:" ++ task.upid

/-- The adapter translates the severity of an alert. -/
def alertSeverity : AlertSeverity → Severity
  | .warning => .warn
  | .critical => .critical

/-- The statements order alerts by this rank. -/
def alertRank : AlertSeverity → Nat
  | .critical => 2
  | .warning => 1

/-- Only a failed job is a warning. -/
def jobSeverity : JobStatus → Severity
  | .failed => .warn
  | _ => .info

/-- The static table of the audit events. -/
def auditSeverity (eventType : String) : Severity :=
  if eventType = "login_failed" ∨ eventType = "token_revoked" then .warn else .info

def mapStatusToSeverity (status : String) : Severity :=
  if Text.lower status ∈ ["ok", "stopped"] then .info
  else if Text.lower status ∈ ["error", "warning"] then .warn
  else .info

def alertItem (row : StoredAlertEvent) : NotificationItem where
  source := .alert
  sourceId := row.sourceId
  severity := alertSeverity row.severity
  createdAt := createdAt site now row.timestamp
  read := isRead hub user .alert row.sourceId

def announcementItem (row : Announcement) : NotificationItem where
  source := .announcement
  sourceId := row.sourceId
  severity := row.severity
  createdAt := createdAt site now row.createdAt
  read := isRead hub user .announcement row.sourceId

def jobItem (row : StoredJob) : NotificationItem where
  source := .event
  sourceId := row.sourceId
  severity := jobSeverity row.status
  createdAt := createdAt site now row.createdAt
  read := isRead hub user .event row.sourceId
  subSource := some .job

def auditItem (row : StoredAuditLog) : NotificationItem where
  source := .event
  sourceId := row.sourceId
  severity := auditSeverity row.eventType
  createdAt := createdAt site now row.createdAt
  read := isRead hub user .event row.sourceId
  subSource := some .audit

/-- A missing or zero start counts as the present. -/
def taskItem (task : ClusterTask) : NotificationItem where
  source := .event
  sourceId := task.sourceId
  severity := mapStatusToSeverity task.status
  createdAt := ((task.starttime.filter (· ≠ 0)).bind site.fromTimestamp).getD now.instant
  read := isRead hub user .event task.sourceId
  subSource := some .clusterTask

/-- Unread alerts come first, then the critical ones, then the latest. -/
def fetchAlerts : List NotificationItem :=
  if seesAlerts user then
    (topBy (fun row : StoredAlertEvent => toLex (!isRead hub user .alert row.sourceId,
      toLex (alertRank row.severity, row.timestamp))) limit hub.alertEvents).map (alertItem site hub user now)
  else []

/-- A stored end is compared with the present as a text. -/
def Announcement.current (now : Moment) (row : Announcement) : Bool :=
  row.active && row.expiresAt.all fun expiresAt => now.text < expiresAt

/-- Every user sees the current announcements. -/
def fetchAnnouncements : List NotificationItem :=
  (topBy (fun row : Announcement => toLex (!isRead hub user .announcement row.sourceId,
    toLex (row.severity.rank, row.createdAt))) limit (hub.announcements.filter (Announcement.current now))).map
    (announcementItem site hub user now)

/-- Foreign jobs need the permission to view logs. -/
def visibleJobs : List StoredJob :=
  if hasViewLogs user then hub.jobs else hub.jobs.filter fun row => row.username = user.username

def fetchJobs : List NotificationItem :=
  (topBy (fun row : StoredJob => toLex (!isRead hub user .event row.sourceId, row.createdAt)) limit
    (visibleJobs hub user)).map (jobItem site hub user now)

/-- The audit log needs the permission to view logs. -/
def visibleAuditLogs : List StoredAuditLog := if hasViewLogs user then hub.auditLogs else []

def fetchAuditLogs : List NotificationItem :=
  (topBy (fun row : StoredAuditLog => toLex (!isRead hub user .event row.sourceId, row.createdAt)) limit
    (visibleAuditLogs hub user)).map (auditItem site hub user now)

/-- The list shows unread items first, then the higher severity, then the later time. -/
def itemKey (item : NotificationItem) : Bool ×ₗ Nat ×ₗ Int :=
  toLex (!item.read, toLex (item.severity.rank, item.createdAt))

/-- A viewer sees the tasks of the nodes that grant it; an unknown account sees none. -/
def seesTasksOf (row : NodeRow) : Bool :=
  seesAlerts user || user.userId.any fun userId => Access.resolveNodeAction hub.db userId row.id "node:view_tasks"

/-- The token and the secret each fall back to the operator's; an unreachable node has no tasks. -/
def fetchTasksForNode (row : NodeRow) : List NotificationItem :=
  let tokenId := Text.orElse (some row.adminTokenId) row.operatorTokenId
  let secret := Text.orElse (some row.adminTokenSecret) row.operatorTokenSecret
  if !seesTasksOf hub user row || tokenId = "" || secret = "" then []
  else
    match site.getNodeTasks (clientForNode row) (.token tokenId secret) row.proxmoxNode limit with
    | .error _ => []
    | .ok tasks => (tasks.filter fun task => task.upid ≠ "").map (taskItem site hub user now)

/-- Each node is asked for at most 50 tasks, the default node first. -/
def fetchClusterTasks : List NotificationItem :=
  topBy itemKey limit
    ((hub.db.nodes.insertionSort fun left right =>
      right.isDefault < left.isDefault ∨ right.isDefault = left.isDefault ∧ left.id ≤ right.id).flatMap
      (fetchTasksForNode site hub user now (min limit 50)))
end

/-- The list of the hub has one tab for each source. -/
inductive Tab where
  | alerts
  | announcements
  | events
  deriving DecidableEq

def Tab.source : Tab → Source
  | .alerts => .alert
  | .announcements => .announcement
  | .events => .event

structure NotificationSummary where
  alerts : Nat
  announcements : Nat
  events : Nat
  total : Nat
  maxSeverity : Option Severity
  deriving DecidableEq

section Reading
variable (site : NotificationSite) (hub : Hub) (user : CurrentUser) (now : Moment) (limit : Nat)

/-- The items of the adapters of a tab. -/
def tabItems : Tab → List NotificationItem
  | .alerts => fetchAlerts site hub user now limit
  | .announcements => fetchAnnouncements site hub user now limit
  | .events => fetchJobs site hub user now limit ++ fetchAuditLogs site hub user now limit ++
      fetchClusterTasks site hub user now limit

def fetchTab (tab : Tab) : List NotificationItem := topBy itemKey limit (tabItems site hub user now limit tab)

/-- The statements of the summary ask for the rows without a mark of the user. -/
def unreadRows {Row : Type} (source : Source) (sourceId : Row → String) (rows : List Row) : List Row :=
  rows.filter fun row => !isRead hub user source (sourceId row)

def unreadAlerts : List StoredAlertEvent := unreadRows hub user .alert StoredAlertEvent.sourceId hub.alertEvents

def unreadAnnouncements : List Announcement :=
  unreadRows hub user .announcement Announcement.sourceId (hub.announcements.filter (Announcement.current now))

def countUnreadAlerts : Nat := if seesAlerts user then (unreadAlerts hub user).length else 0

def countUnreadAnnouncements : Nat := (unreadAnnouncements hub user now).length

/-- Cluster tasks are left out because Proxmox answers slowly. -/
def countUnreadEvents : Nat :=
  min ((unreadRows hub user .event StoredJob.sourceId (visibleJobs hub user)).length +
    (unreadRows hub user .event StoredAuditLog.sourceId (visibleAuditLogs hub user)).length) 100

/-- The first row in the order of the ranks decides. -/
def getMaxAlertSeverity : Severity :=
  match (unreadAlerts hub user).argmax fun row => alertRank row.severity with
  | none => .info
  | some row => if row.severity = .critical then .critical else .warn

def getMaxAnnouncementSeverity : Severity :=
  match (unreadAnnouncements hub user now).argmax fun row => row.severity.rank with
  | none => .info
  | some row => row.severity

/-- A source with unread rows contributes its highest severity, and the events contribute `info`. -/
def severityList (alerts announcements events : Nat) : List Severity :=
  (if alerts > 0 then [getMaxAlertSeverity hub user] else []) ++
    (if announcements > 0 then [getMaxAnnouncementSeverity hub user now] else []) ++
    if events > 0 then [.info] else []

def getUnreadSummary : NotificationSummary :=
  let alerts := min (countUnreadAlerts hub user) 100
  let announcements := min (countUnreadAnnouncements hub user now) 100
  let events := min (countUnreadEvents hub user) 100
  { alerts := alerts
    announcements := announcements
    events := events
    total := min (alerts + announcements + events) 100
    maxSeverity := maxSeverity (severityList hub user now alerts announcements events) }

end Reading

/-- A mark needs a stored account, and a second mark changes nothing. -/
def insertRead (user : CurrentUser) (source : Source) (now : Moment) (hub : Hub) (sourceId : String) :
    Option Hub :=
  match user.userId with
  | none => none
  | some userId =>
      if hub.db.localUsers.any fun account => account.id = userId then
        if isRead hub user source sourceId then some hub
        else some { hub with notificationReads := hub.notificationReads ++ [⟨userId, source, sourceId, now.text⟩] }
      else none

/-- Each identifier is marked on its own, and a failed insert is skipped. -/
def bulkMarkRead (hub : Hub) (user : CurrentUser) (source : Source) (sourceIds : List String) (now : Moment) :
    Hub × Nat :=
  sourceIds.foldl (fun state sourceId =>
    match insertRead user source now state.1 sourceId with
    | none => state
    | some hub => (hub, state.2 + 1)) (hub, 0)

/-- The user marks everything that the three tabs show. -/
def markShown (site : NotificationSite) (hub : Hub) (user : CurrentUser) (now : Moment) (limit : Nat) : Hub :=
  [Tab.alerts, .announcements, .events].foldl (fun marked tab =>
    (bulkMarkRead marked user tab.source ((fetchTab site hub user now limit tab).map NotificationItem.sourceId)
      now).1) hub
end P3Portal.Notifications
