import P3Portal.Construction.Notifications.Service

namespace P3Portal.Notifications
open Schema Foundation Auth Alerts

section Shown
variable (site : NotificationSite) (hub : Hub) (user : CurrentUser) (now : Moment) (limit : Nat)

/-- The unread items that a tab shows, without the cluster tasks. -/
def unreadShown (tab : Tab) : List NotificationItem :=
  (fetchTab site hub user now limit tab).filter fun item => !item.read && item.subSource ≠ some .clusterTask

/-- The limit is large enough for everything that is stored and for the tasks that the nodes answer. -/
structure Unlimited : Prop where
  alerts : hub.alertEvents.length ≤ limit
  announcements : hub.announcements.length ≤ limit
  events : hub.jobs.length + hub.auditLogs.length + (fetchClusterTasks site hub user now limit).length ≤ limit

/-- The unread items of the stored rows, in no particular order. -/
def unreadItems : Tab → List NotificationItem
  | .alerts => if seesAlerts user then (unreadAlerts hub user).map (alertItem site hub user now) else []
  | .announcements => (unreadAnnouncements hub user now).map (announcementItem site hub user now)
  | .events =>
      (unreadRows hub user .event StoredJob.sourceId (visibleJobs hub user)).map (jobItem site hub user now) ++
        (unreadRows hub user .event StoredAuditLog.sourceId (visibleAuditLogs hub user)).map
          (auditItem site hub user now)

variable {site hub user now limit}

/-- A large enough limit exists, because the nodes are asked for at most 50 tasks. -/
theorem exists_unlimited (site : NotificationSite) (hub : Hub) (user : CurrentUser) (now : Moment) :
    ∃ size, ∀ limit, size ≤ limit → Unlimited site hub user now limit := by
  let tasks := (hub.db.nodes.insertionSort fun left right =>
    right.isDefault < left.isDefault ∨ right.isDefault = left.isDefault ∧ left.id ≤ right.id).flatMap
      (fetchTasksForNode site hub user now 50)
  refine ⟨50 + hub.alertEvents.length + hub.announcements.length + hub.jobs.length + hub.auditLogs.length +
    tasks.length, fun limit large => ⟨by omega, by omega, ?_⟩⟩
  have asked : min limit 50 = 50 := by omega
  have listed : (fetchClusterTasks site hub user now limit).length ≤ tasks.length := by
    unfold fetchClusterTasks topBy
    rw [asked, List.length_take, List.length_insertionSort]
    exact min_le_right _ _
  omega

/-- The tasks of the cluster are listed as such. -/
theorem fetchClusterTasks_subSource {item : NotificationItem}
    (member : item ∈ fetchClusterTasks site hub user now limit) : item.subSource = some .clusterTask := by
  obtain ⟨row, stored, fetched⟩ := List.mem_flatMap.mp (mem_topBy member)
  unfold fetchTasksForNode at fetched
  dsimp only at fetched
  split at fetched
  · cases fetched
  · split at fetched
    · cases fetched
    · obtain ⟨task, listed, rfl⟩ := List.mem_map.mp fetched
      rfl

/-- A user sees no more jobs than there are. -/
theorem visibleJobs_length (hub : Hub) (user : CurrentUser) : (visibleJobs hub user).length ≤ hub.jobs.length := by
  unfold visibleJobs
  split
  · exact le_refl _
  · exact List.length_filter_le _ _

/-- A user sees no more audit entries than there are. -/
theorem visibleAuditLogs_length (hub : Hub) (user : CurrentUser) :
    (visibleAuditLogs hub user).length ≤ hub.auditLogs.length := by
  unfold visibleAuditLogs
  split
  · exact le_refl _
  · exact Nat.zero_le _

/-- Items that carry the mark of their rows are unread exactly when their rows are. -/
theorem filter_unread_map {Row : Type} {source : Source} {sourceId : Row → String} (item : Row → NotificationItem)
    (marked : ∀ row, (item row).read = isRead hub user source (sourceId row))
    (stored : ∀ row, (item row).subSource ≠ some .clusterTask) (rows : List Row) :
    (rows.map item).filter (fun item => !item.read && item.subSource ≠ some .clusterTask) =
      (unreadRows hub user source sourceId rows).map item := by
  rw [List.filter_map, unreadRows]
  congr 2
  funext row
  simp [marked row, stored row]

/-- Without a limit each adapter shows all unread rows. -/
theorem tabItems_perm (unlimited : Unlimited site hub user now limit) (tab : Tab) :
    ((tabItems site hub user now limit tab).filter fun item =>
      !item.read && item.subSource ≠ some .clusterTask).Perm (unreadItems site hub user now tab) := by
  cases tab with
  | alerts =>
      dsimp only [tabItems, fetchAlerts, unreadItems]
      split
      · rw [unreadAlerts, ← filter_unread_map (alertItem site hub user now) (fun _ => rfl) (fun _ => nofun)]
        exact ((topBy_perm unlimited.alerts).map _).filter _
      · exact List.Perm.refl _
  | announcements =>
      dsimp only [tabItems, fetchAnnouncements, unreadItems]
      rw [unreadAnnouncements,
        ← filter_unread_map (announcementItem site hub user now) (fun _ => rfl) (fun _ => nofun)]
      have fits := (List.length_filter_le (Announcement.current now) hub.announcements).trans unlimited.announcements
      exact ((topBy_perm fits).map _).filter _
  | events =>
      have events := unlimited.events
      have jobs := visibleJobs_length hub user
      have audits := visibleAuditLogs_length hub user
      have tasks : (fetchClusterTasks site hub user now limit).filter (fun item =>
          !item.read && item.subSource ≠ some .clusterTask) = [] := by
        rw [List.filter_eq_nil_iff]
        intro item member
        simp [fetchClusterTasks_subSource member]
      dsimp only [tabItems, fetchJobs, fetchAuditLogs, unreadItems]
      rw [List.filter_append, List.filter_append, tasks, List.append_nil,
        ← filter_unread_map (jobItem site hub user now) (fun _ => rfl) (fun _ => nofun),
        ← filter_unread_map (auditItem site hub user now) (fun _ => rfl) (fun _ => nofun)]
      exact (((topBy_perm (by omega)).map _).filter _).append (((topBy_perm (by omega)).map _).filter _)

/-- A tab shows no more items than its limit. -/
theorem tabItems_length (unlimited : Unlimited site hub user now limit) (tab : Tab) :
    (tabItems site hub user now limit tab).length ≤ limit := by
  cases tab with
  | alerts =>
      dsimp only [tabItems, fetchAlerts]
      split
      · rw [List.length_map, (topBy_perm unlimited.alerts).length_eq]
        exact unlimited.alerts
      · exact Nat.zero_le _
  | announcements =>
      have fits := (List.length_filter_le (Announcement.current now) hub.announcements).trans unlimited.announcements
      dsimp only [tabItems, fetchAnnouncements]
      rw [List.length_map, (topBy_perm fits).length_eq]
      exact fits
  | events =>
      have events := unlimited.events
      have jobs := visibleJobs_length hub user
      have audits := visibleAuditLogs_length hub user
      dsimp only [tabItems, fetchJobs, fetchAuditLogs]
      rw [List.length_append, List.length_append, List.length_map, List.length_map,
        (topBy_perm (by omega)).length_eq, (topBy_perm (by omega)).length_eq]
      omega

/-- A tab shows all unread rows of its sources. -/
theorem unreadShown_perm (unlimited : Unlimited site hub user now limit) (tab : Tab) :
    (unreadShown site hub user now limit tab).Perm (unreadItems site hub user now tab) :=
  ((topBy_perm (tabItems_length unlimited tab)).filter _).trans (tabItems_perm unlimited tab)

end Shown

section Counts
variable (site : NotificationSite) (hub : Hub) (user : CurrentUser) (now : Moment)

/-- The unread alerts are counted one by one. -/
theorem unreadItems_alerts_length :
    (unreadItems site hub user now .alerts).length = countUnreadAlerts hub user := by
  dsimp only [unreadItems]
  unfold countUnreadAlerts
  split
  · exact List.length_map _
  · rfl

/-- The unread announcements are counted one by one. -/
theorem unreadItems_announcements_length :
    (unreadItems site hub user now .announcements).length = countUnreadAnnouncements hub user now :=
  List.length_map _

/-- The unread events are counted up to a hundred. -/
theorem unreadItems_events_length :
    min (unreadItems site hub user now .events).length 100 = countUnreadEvents hub user := by
  rw [unreadItems, List.length_append, List.length_map, List.length_map, countUnreadEvents]

end Counts

section Severities
variable (site : NotificationSite) (hub : Hub) (user : CurrentUser) (now : Moment)

/-- Different severities have different ranks. -/
theorem Severity.rank_injective : Function.Injective Severity.rank := by
  intro first second same
  cases first <;> cases second <;> first | rfl | cases same

/-- Every severity but success counts in the badge. -/
theorem Severity.rank_gt_one {severity : Severity} : 1 < severity.rank ↔ severity ≠ .success := by
  cases severity <;> decide

/-- Dominated lists stay dominated without the items that the bell ignores. -/
theorem maxSeverity_eq_of_dominated {severities others : List Severity}
    (upper : Dominated Severity.rank severities others) (lower : Dominated Severity.rank others severities) :
    maxSeverity severities = maxSeverity others := by
  have kept {first second : List Severity} (dominated : Dominated Severity.rank first second) :
      Dominated Severity.rank (first.filter (· ≠ .success)) (second.filter (· ≠ .success)) := by
    intro severity member
    obtain ⟨listed, counts⟩ := List.mem_filter.mp member
    obtain ⟨other, otherListed, above⟩ := dominated severity listed
    have high := Severity.rank_gt_one.mpr (of_decide_eq_true counts)
    have counted := Severity.rank_gt_one.mp (high.trans_le above)
    exact ⟨other, List.mem_filter.mpr ⟨otherListed, decide_eq_true counted⟩, above⟩
  exact argmax_eq_of_dominated Severity.rank_injective (kept upper) (kept lower)

/-- The severities of the unread items of all tabs. -/
def unreadSeverities (unread : Tab → List NotificationItem) : List Severity :=
  (unread .alerts ++ unread .announcements ++ unread .events).map NotificationItem.severity

/-- The severity that the summary reads for the alerts is the highest of the unread ones. -/
theorem getMaxAlertSeverity_spec {row : StoredAlertEvent} (unread : row ∈ unreadAlerts hub user) :
    (∃ other ∈ unreadAlerts hub user, getMaxAlertSeverity hub user = alertSeverity other.severity) ∧
      (alertSeverity row.severity).rank ≤ (getMaxAlertSeverity hub user).rank := by
  obtain ⟨highest, member, found, above⟩ :=
    exists_argmax (fun row : StoredAlertEvent => alertRank row.severity) unread
  have read : getMaxAlertSeverity hub user = alertSeverity highest.severity := by
    unfold getMaxAlertSeverity
    rw [found]
    cases kind : highest.severity <;> simp [kind, alertSeverity]
  refine ⟨⟨highest, member, read⟩, ?_⟩
  rw [read]
  cases first : row.severity <;> cases second : highest.severity <;>
    simp_all [alertSeverity, alertRank, Severity.rank]

/-- The highest severity is that of an unread announcement, and none is above it. -/
theorem getMaxAnnouncementSeverity_spec {row : Announcement} (unread : row ∈ unreadAnnouncements hub user now) :
    (∃ other ∈ unreadAnnouncements hub user now, getMaxAnnouncementSeverity hub user now = other.severity) ∧
      row.severity.rank ≤ (getMaxAnnouncementSeverity hub user now).rank := by
  obtain ⟨highest, member, found, above⟩ :=
    exists_argmax (fun row : Announcement => row.severity.rank) unread
  have read : getMaxAnnouncementSeverity hub user now = highest.severity := by
    unfold getMaxAnnouncementSeverity
    rw [found]
  refine ⟨⟨highest, member, read⟩, ?_⟩
  rw [read]
  exact above

/-- The list of severities that the summary compares. -/
abbrev summaryList : List Severity :=
  severityList hub user now (min (countUnreadAlerts hub user) 100) (min (countUnreadAnnouncements hub user now) 100)
    (min (countUnreadEvents hub user) 100)

/-- A severity is listed for a source with unread items. -/
theorem mem_severityList {alerts announcements events : Nat} {severity : Severity} :
    severity ∈ severityList hub user now alerts announcements events ↔
      (0 < alerts ∧ severity = getMaxAlertSeverity hub user) ∨
        (0 < announcements ∧ severity = getMaxAnnouncementSeverity hub user now) ∨
        (0 < events ∧ severity = .info) := by
  unfold severityList
  rw [List.mem_append, List.mem_append, or_assoc]
  have one (count : Nat) (value : Severity) :
      severity ∈ (if count > 0 then [value] else []) ↔ 0 < count ∧ severity = value := by
    split
    · rename_i positive
      simp [positive]
    · rename_i zero
      simp [zero]
  rw [one, one, one]

/-- A job or an audit entry is a warning or an information. -/
theorem unreadItems_events_severity {item : NotificationItem} (unread : item ∈ unreadItems site hub user now .events) :
    item.severity = .warn ∨ item.severity = .info := by
  rcases List.mem_append.mp unread with job | audit
  · obtain ⟨row, stored, rfl⟩ := List.mem_map.mp job
    dsimp only [jobItem]
    cases row.status <;> decide
  · obtain ⟨row, stored, rfl⟩ := List.mem_map.mp audit
    dsimp only [auditItem, auditSeverity]
    split
    · exact .inl rfl
    · exact .inr rfl

variable {site hub user now} {item : NotificationItem}

/-- An unread alert is at most as severe as a severity of the summary. -/
theorem summaryList_alert (unread : item ∈ unreadItems site hub user now .alerts) :
    ∃ severity ∈ summaryList hub user now, item.severity.rank ≤ severity.rank := by
  have counted := List.length_pos_of_mem unread
  rw [unreadItems_alerts_length] at counted
  dsimp only [unreadItems] at unread
  split at unread
  · obtain ⟨row, stored, rfl⟩ := List.mem_map.mp unread
    refine ⟨_, (mem_severityList hub user now).mpr (.inl ⟨by omega, rfl⟩), ?_⟩
    exact (getMaxAlertSeverity_spec hub user stored).2
  · cases unread

/-- An unread announcement has a severity in the list. -/
theorem summaryList_announcement (unread : item ∈ unreadItems site hub user now .announcements) :
    ∃ severity ∈ summaryList hub user now, item.severity.rank ≤ severity.rank := by
  have counted := List.length_pos_of_mem unread
  rw [unreadItems_announcements_length] at counted
  obtain ⟨row, stored, rfl⟩ := List.mem_map.mp unread
  refine ⟨_, (mem_severityList hub user now).mpr (.inr (.inl ⟨by omega, rfl⟩)), ?_⟩
  exact (getMaxAnnouncementSeverity_spec hub user now stored).2

/-- An unread event brings the severity of events. -/
theorem summaryList_event (unread : item ∈ unreadItems site hub user now .events) :
    Severity.info ∈ summaryList hub user now := by
  have counted := List.length_pos_of_mem unread
  have events := unreadItems_events_length site hub user now
  exact (mem_severityList hub user now).mpr (.inr (.inr ⟨by omega, rfl⟩))

/-- A severity of the summary is the one of an unread alert or announcement, or stands for an unread event. -/
theorem summaryList_source (site : NotificationSite) {severity : Severity} (listed : severity ∈ summaryList hub user now) :
    (∃ item ∈ unreadItems site hub user now .alerts ++ unreadItems site hub user now .announcements,
        item.severity = severity) ∨
      severity = .info ∧ ∃ item, item ∈ unreadItems site hub user now .events := by
  rcases (mem_severityList hub user now).mp listed with ⟨counted, rfl⟩ | ⟨counted, rfl⟩ | ⟨counted, rfl⟩
  · have positive : 0 < countUnreadAlerts hub user := by omega
    rw [← unreadItems_alerts_length site hub user now] at positive
    obtain ⟨item, unread⟩ := List.exists_mem_of_length_pos positive
    have sees : seesAlerts user = true := by
      by_contra blind
      dsimp only [unreadItems] at unread
      rw [if_neg blind] at unread
      cases unread
    have rows : unreadItems site hub user now .alerts = (unreadAlerts hub user).map (alertItem site hub user now) :=
      if_pos sees
    rw [rows] at unread ⊢
    obtain ⟨row, stored, rfl⟩ := List.mem_map.mp unread
    obtain ⟨other, otherStored, same⟩ := (getMaxAlertSeverity_spec hub user stored).1
    exact .inl ⟨_, List.mem_append_left _ (List.mem_map_of_mem otherStored), same.symm⟩
  · have positive : 0 < countUnreadAnnouncements hub user now := by omega
    obtain ⟨row, stored⟩ := List.exists_mem_of_length_pos positive
    obtain ⟨other, otherStored, same⟩ := (getMaxAnnouncementSeverity_spec hub user now stored).1
    exact .inl ⟨_, List.mem_append_right _ (List.mem_map_of_mem otherStored), same.symm⟩
  · have events := unreadItems_events_length site hub user now
    exact .inr ⟨rfl, List.exists_mem_of_length_pos (by omega)⟩

/-- Every unread event that is a warning comes with an unread alert or announcement of at least that severity. -/
def WarningsCovered (unread : Tab → List NotificationItem) : Prop :=
  ∀ event ∈ unread .events, event.severity = .warn →
    ∃ item ∈ unread .alerts ++ unread .announcements, Severity.warn.rank ≤ item.severity.rank

/-- The summary has the highest severity that colours the bell exactly when its warnings are covered. -/
theorem maxSeverity_summaryList_iff :
    maxSeverity (summaryList hub user now) = maxSeverity (unreadSeverities (unreadItems site hub user now)) ↔
      WarningsCovered (unreadItems site hub user now) := by
  constructor
  · intro same event unread warning
    have listed : Severity.warn ∈ (unreadSeverities (unreadItems site hub user now)).filter (· ≠ .success) := by
      refine List.mem_filter.mpr ⟨?_, rfl⟩
      rw [← warning]
      exact List.mem_map_of_mem (List.mem_append_right _ unread)
    obtain ⟨highest, -, found, above⟩ := exists_argmax Severity.rank listed
    have read : highest ∈ maxSeverity (summaryList hub user now) := by
      rw [same]
      exact found
    rcases summaryList_source site (List.mem_filter.mp (List.argmax_mem read)).1 with
      ⟨item, member, severe⟩ | ⟨info, -⟩
    · exact ⟨item, member, by rw [severe]; exact above⟩
    · rw [info] at above
      exact absurd above (by decide)
  · intro covered
    apply maxSeverity_eq_of_dominated
    · intro severity listed
      rcases summaryList_source site listed with ⟨item, member, rfl⟩ | ⟨rfl, item, member⟩
      · exact ⟨item.severity, List.mem_map_of_mem (List.mem_append_left _ member), le_refl _⟩
      · refine ⟨item.severity, List.mem_map_of_mem (List.mem_append_right _ member), ?_⟩
        rcases unreadItems_events_severity site hub user now member with warn | info
        · rw [warn]
          decide
        · rw [info]
    · intro severity member
      obtain ⟨item, unread, rfl⟩ := List.mem_map.mp member
      have seen : ∀ item ∈ unreadItems site hub user now .alerts ++ unreadItems site hub user now .announcements,
          ∃ severity ∈ summaryList hub user now, item.severity.rank ≤ severity.rank := by
        intro item either
        rcases List.mem_append.mp either with alert | announcement
        · exact summaryList_alert alert
        · exact summaryList_announcement announcement
      rcases List.mem_append.mp unread with early | event
      · exact seen item early
      · rcases unreadItems_events_severity site hub user now event with warn | info
        · obtain ⟨other, otherUnread, high⟩ := covered item event warn
          obtain ⟨severity, listed, above⟩ := seen other otherUnread
          exact ⟨severity, listed, by rw [warn]; exact high.trans above⟩
        · exact ⟨.info, summaryList_event event, by rw [info]⟩

end Severities

section Marks
variable {hub : Hub} {user : CurrentUser} {now : Moment}

/-- The user of the request is an account of the portal. -/
def HasAccount (hub : Hub) (user : CurrentUser) : Prop :=
  ∃ account ∈ hub.db.localUsers, user.userId = some account.id

/-- Marking adds exactly the identifiers of a source to what the user has read, and touches no other table. -/
structure Marked (hub after : Hub) (user : CurrentUser) (source : Source) (sourceIds : List String) : Prop where
  others : after = { hub with notificationReads := after.notificationReads }
  read : ∀ other sourceId, isRead after user other sourceId =
    (isRead hub user other sourceId || (other = source && sourceId ∈ sourceIds))

/-- An item that is marked as read becomes read and nothing else changes. -/
theorem insertRead_spec (account : HasAccount hub user) (source : Source) (sourceId : String) (now : Moment) :
    ∃ after, insertRead user source now hub sourceId = some after ∧ Marked hub after user source [sourceId] := by
  obtain ⟨row, stored, own⟩ := account
  have known : hub.db.localUsers.any (fun account => account.id = row.id) = true :=
    List.any_eq_true.mpr ⟨row, stored, decide_eq_true rfl⟩
  unfold insertRead
  rw [own]
  dsimp only
  rw [if_pos known]
  split
  · rename_i already
    refine ⟨hub, rfl, rfl, ?_⟩
    intro other wanted
    by_cases same : other = source ∧ wanted = sourceId
    · rw [same.1, same.2, already]
      rfl
    · simp [same]
  · refine ⟨_, rfl, rfl, ?_⟩
    intro other wanted
    simp only [isRead, List.any_append, List.any_cons, List.any_nil, Bool.or_false, own]
    congr 1
    simp [sqlEq, eq_comm]

/-- All items that are marked at once become read. -/
theorem bulkMarkRead_spec (account : HasAccount hub user) (source : Source) (sourceIds : List String) (now : Moment) :
    Marked hub (bulkMarkRead hub user source sourceIds now).1 user source sourceIds := by
  unfold bulkMarkRead
  generalize 0 = marked
  induction sourceIds generalizing hub marked with
  | nil => exact ⟨rfl, fun other wanted => by simp⟩
  | cons sourceId rest ih =>
      obtain ⟨after, inserted, first⟩ := insertRead_spec account source sourceId now
      have still : HasAccount after user := by
        rw [first.others]
        exact account
      have later := ih still (marked + 1)
      rw [List.foldl_cons, inserted]
      constructor
      · rw [later.others, first.others]
      · intro other wanted
        rw [later.read, first.read]
        simp [Bool.or_assoc, ← Bool.and_or_distrib_left]

/-- Everything that a tab shows is read after it is marked, old marks stay, and the tables keep their rows. -/
theorem markShown_spec (site : NotificationSite) (account : HasAccount hub user) (now : Moment) (limit : Nat) :
    let after := markShown site hub user now limit
    after = { hub with notificationReads := after.notificationReads } ∧
      (∀ source sourceId, isRead hub user source sourceId = true → isRead after user source sourceId = true) ∧
      ∀ tab : Tab, ∀ item ∈ fetchTab site hub user now limit tab, isRead after user tab.source item.sourceId = true := by
  intro after
  let ids (tab : Tab) := (fetchTab site hub user now limit tab).map NotificationItem.sourceId
  have first := bulkMarkRead_spec account .alert (ids .alerts) now
  have firstAccount : HasAccount (bulkMarkRead hub user .alert (ids .alerts) now).1 user := by
    rw [first.others]
    exact account
  have second := bulkMarkRead_spec firstAccount .announcement (ids .announcements) now
  have secondAccount : HasAccount (bulkMarkRead (bulkMarkRead hub user .alert (ids .alerts) now).1 user
      .announcement (ids .announcements) now).1 user := by
    rw [second.others]
    exact firstAccount
  have third : Marked _ after user .event (ids .events) := bulkMarkRead_spec secondAccount .event (ids .events) now
  refine ⟨by rw [third.others, second.others, first.others], ?_, ?_⟩
  · intro source sourceId read
    rw [third.read, second.read, first.read, read]
    rfl
  · intro tab item shown
    have listed : item.sourceId ∈ ids tab := List.mem_map_of_mem shown
    rw [third.read, second.read, first.read]
    cases tab <;> simp [Tab.source, listed]

variable {site : NotificationSite} {limit : Nat}

/-- No row is unread after everything shown is marked when the unread rows have items in the tab. -/
theorem markShown_unreadRows (unlimited : Unlimited site hub user now limit) (account : HasAccount hub user)
    (tab : Tab) {Row : Type} {sourceId : Row → String} (item : Row → NotificationItem) {rows : List Row}
    (named : ∀ row, (item row).sourceId = sourceId row)
    (shown : ∀ row ∈ rows, row ∈ unreadRows hub user tab.source sourceId rows →
      item row ∈ unreadItems site hub user now tab) :
    unreadRows (markShown site hub user now limit) user tab.source sourceId rows = [] := by
  obtain ⟨-, old, marked⟩ := markShown_spec site account now limit
  apply List.filter_eq_nil_iff.mpr
  intro row member
  suffices read : isRead (markShown site hub user now limit) user tab.source (sourceId row) = true by simp [read]
  cases before : isRead hub user tab.source (sourceId row) with
  | true => exact old _ _ before
  | false =>
      have unread := shown row member (List.mem_filter.mpr ⟨member, by simp [before]⟩)
      rw [← named row]
      exact marked tab _ (List.mem_filter.mp ((unreadShown_perm unlimited tab).mem_iff.mpr unread)).1

end Marks

section Agreement
variable (site : NotificationSite) (hub : Hub) (user : CurrentUser) (now : Moment) (limit : Nat)

/-- The counts of a summary are the numbers of these items, up to 100. -/
def BadgeCounts (summary : NotificationSummary) (unread : Tab → List NotificationItem) : Prop :=
  summary.alerts = min (unread .alerts).length 100 ∧
    summary.announcements = min (unread .announcements).length 100 ∧
      summary.events = min (unread .events).length 100

/-- The severity of the summary is the highest of the unread items. -/
def SeverityAgrees (highest : List Severity → Option Severity) : Prop :=
  (getUnreadSummary hub user now).maxSeverity = highest (unreadSeverities (unreadShown site hub user now limit))

/-- After everything shown is marked, nothing is left to count from then on. -/
def BadgeCleared : Prop :=
  ∀ later : Moment, now.text ≤ later.text →
    BadgeCounts (getUnreadSummary (markShown site hub user now limit) user later) fun _ => []

variable {site hub user now limit}

/-- The badge counts the unread items. -/
theorem badgeCounts (unlimited : Unlimited site hub user now limit) :
    BadgeCounts (getUnreadSummary hub user now) (unreadShown site hub user now limit) := by
  have alerts := unreadItems_alerts_length site hub user now
  have announcements := unreadItems_announcements_length site hub user now
  have events := unreadItems_events_length site hub user now
  refine ⟨?_, ?_, ?_⟩
  · rw [(unreadShown_perm unlimited .alerts).length_eq, alerts]
    rfl
  · rw [(unreadShown_perm unlimited .announcements).length_eq, announcements]
    rfl
  · rw [(unreadShown_perm unlimited .events).length_eq, events]
    show min (countUnreadEvents hub user) 100 = countUnreadEvents hub user
    omega

/-- The order in which the items are shown does not matter for their severities. -/
theorem maxSeverity_shown (unlimited : Unlimited site hub user now limit) :
    maxSeverity (unreadSeverities (unreadShown site hub user now limit)) =
      maxSeverity (unreadSeverities (unreadItems site hub user now)) := by
  have same : (unreadSeverities (unreadShown site hub user now limit)).Perm
      (unreadSeverities (unreadItems site hub user now)) :=
    (((unreadShown_perm unlimited .alerts).append (unreadShown_perm unlimited .announcements)).append
      (unreadShown_perm unlimited .events)).map _
  exact maxSeverity_eq_of_dominated (.of_subset same.subset) (.of_subset same.symm.subset)

/-- The shown items are covered exactly when all are. -/
theorem warningsCovered_shown (unlimited : Unlimited site hub user now limit) :
    WarningsCovered (unreadShown site hub user now limit) ↔ WarningsCovered (unreadItems site hub user now) := by
  simp only [WarningsCovered, List.mem_append, (unreadShown_perm unlimited _).mem_iff]

/-- The severity of the summary is the highest that colours the bell exactly when its warnings are covered. -/
theorem severityAgrees_iff (unlimited : Unlimited site hub user now limit) :
    SeverityAgrees site hub user now limit maxSeverity ↔
      WarningsCovered (unreadShown site hub user now limit) := by
  rw [warningsCovered_shown unlimited, ← maxSeverity_summaryList_iff, SeverityAgrees, maxSeverity_shown unlimited]
  rfl

/-- An announcement that is current later is current now. -/
theorem Announcement.current_earlier {later : Moment} (passes : now.text ≤ later.text) {row : Announcement}
    (current : row.current later = true) : row.current now = true := by
  unfold Announcement.current at current ⊢
  rw [Bool.and_eq_true] at current ⊢
  refine ⟨current.1, ?_⟩
  cases ends : row.expiresAt with
  | none => rfl
  | some expiresAt =>
      rw [ends] at current
      exact decide_eq_true (passes.trans_lt (of_decide_eq_true current.2))

/-- The badge is cleared by reading everything. -/
theorem badgeCleared (unlimited : Unlimited site hub user now limit) (account : HasAccount hub user) :
    BadgeCleared site hub user now limit := by
  intro later passes
  have kept := (markShown_spec site account now limit).1
  have alerts : countUnreadAlerts (markShown site hub user now limit) user = 0 := by
    unfold countUnreadAlerts
    split
    · rename_i sees
      rw [unreadAlerts, kept]
      apply List.length_eq_zero_iff.mpr
      apply markShown_unreadRows unlimited account .alerts (alertItem site hub user now) fun _ => rfl
      intro row stored unread
      dsimp only [unreadItems]
      rw [if_pos sees]
      exact List.mem_map_of_mem unread
    · rfl
  have announcements : countUnreadAnnouncements (markShown site hub user now limit) user later = 0 := by
    rw [countUnreadAnnouncements, unreadAnnouncements, kept]
    apply List.length_eq_zero_iff.mpr
    apply markShown_unreadRows unlimited account .announcements (announcementItem site hub user now) fun _ => rfl
    intro row stored unread
    obtain ⟨present, current⟩ := List.mem_filter.mp stored
    have earlier := List.mem_filter.mpr ⟨present, Announcement.current_earlier passes current⟩
    exact List.mem_map_of_mem (List.mem_filter.mpr ⟨earlier, (List.mem_filter.mp unread).2⟩)
  have jobs : unreadRows (markShown site hub user now limit) user .event StoredJob.sourceId
      (visibleJobs hub user) = [] := by
    apply markShown_unreadRows unlimited account .events (jobItem site hub user now) fun _ => rfl
    intro row stored unread
    exact List.mem_append_left _ (List.mem_map_of_mem unread)
  have audits : unreadRows (markShown site hub user now limit) user .event StoredAuditLog.sourceId
      (visibleAuditLogs hub user) = [] := by
    apply markShown_unreadRows unlimited account .events (auditItem site hub user now) fun _ => rfl
    intro row stored unread
    exact List.mem_append_right _ (List.mem_map_of_mem unread)
  have events : countUnreadEvents (markShown site hub user now limit) user = 0 := by
    have sameJobs : visibleJobs (markShown site hub user now limit) user = visibleJobs hub user := by rw [kept]; rfl
    have sameAudits : visibleAuditLogs (markShown site hub user now limit) user = visibleAuditLogs hub user := by
      rw [kept]
      rfl
    rw [countUnreadEvents, sameJobs, sameAudits, jobs, audits]
    rfl
  refine ⟨?_, ?_, ?_⟩
  · show min (countUnreadAlerts (markShown site hub user now limit) user) 100 = 0
    rw [alerts]
    rfl
  · show min (countUnreadAnnouncements (markShown site hub user now limit) user later) 100 = 0
    rw [announcements]
    rfl
  · show min (countUnreadEvents (markShown site hub user now limit) user) 100 = 0
    rw [events]
    rfl

/-- The counts agree with the lists and reach zero after marking, and covered warnings give the severity. -/
theorem notification_badge_agrees (site : NotificationSite) (hub : Hub) (user : CurrentUser) (now : Moment)
    (limit : Nat) (unlimited : Unlimited site hub user now limit) (account : HasAccount hub user) :
    BadgeCounts (getUnreadSummary hub user now) (unreadShown site hub user now limit) ∧
      (WarningsCovered (unreadShown site hub user now limit) →
        SeverityAgrees site hub user now limit maxSeverity) ∧
      BadgeCleared site hub user now limit :=
  ⟨badgeCounts unlimited, (severityAgrees_iff unlimited).mpr, badgeCleared unlimited account⟩

end Agreement

/-- No task is listed, and every stored time counts as the present. -/
def quietSite : NotificationSite where
  fromIsoformat := fun _ => none
  fromTimestamp := fun _ => none
  getNodeTasks := fun _ _ _ _ => .ok []

def exampleNow : Moment := ⟨"2026-01-02T00:00:00+00:00", 0⟩

/-- One account sees one announcement of success and, as an administrator, the failed job of another user. -/
def exampleHub : Hub where
  db := { localUsers := [{ id := 7, username := "anna" }] }
  announcements := [{ id := 1, severity := .success, createdAt := "2026-01-01T00:00:00+00:00" }]
  jobs := [{ id := "j1", playbook := "docker", status := .failed, username := "bert",
             createdAt := "2026-01-01T00:00:00+00:00" }]

def exampleUser (role : Role) : CurrentUser where
  username := "anna"
  authType := .localUser
  role := role
  userId := some 7

/-- A critical alert covers the failed job of the administrator's list. -/
theorem notification_badge_agrees_critical :
    let hub := { exampleHub with alertEvents := [⟨1, .critical, "2026-01-01T00:00:00+00:00"⟩] }
    BadgeCounts (getUnreadSummary hub (exampleUser .admin) exampleNow)
        (unreadShown quietSite hub (exampleUser .admin) exampleNow 2) ∧
      SeverityAgrees quietSite hub (exampleUser .admin) exampleNow 2 maxSeverity ∧
      BadgeCleared quietSite hub (exampleUser .admin) exampleNow 2 ∧
      getUnreadSummary hub (exampleUser .admin) exampleNow = ⟨1, 1, 1, 3, some .critical⟩ := by
  intro hub
  have agrees := notification_badge_agrees quietSite hub (exampleUser .admin) exampleNow 2
    ⟨by decide, by decide, by decide +kernel⟩ ⟨_, List.mem_cons_self, rfl⟩
  refine ⟨agrees.1, agrees.2.1 ?_, agrees.2.2, by decide +kernel⟩
  unfold WarningsCovered
  decide +kernel

/-- Success is the highest unread severity of the viewer, and a failed job of the administrator is a warning;
the summary says neither. -/
theorem notification_severity_differs :
    (∀ role, Unlimited quietSite exampleHub (exampleUser role) exampleNow 2 ∧
        HasAccount exampleHub (exampleUser role)) ∧
      ¬ SeverityAgrees quietSite exampleHub (exampleUser .viewer) exampleNow 2 (List.argmax Severity.rank) ∧
      ¬ SeverityAgrees quietSite exampleHub (exampleUser .admin) exampleNow 2 (List.argmax Severity.rank) := by
  constructor
  · intro role
    exact ⟨⟨by decide, by decide, by cases role <;> decide +kernel⟩, _, List.mem_cons_self, rfl⟩
  · unfold SeverityAgrees
    decide +kernel
end P3Portal.Notifications
