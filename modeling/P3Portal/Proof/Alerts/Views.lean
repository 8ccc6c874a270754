import P3Portal.Construction.Alerts.Views
import P3Portal.Proof.Access.ClusterViews

namespace P3Portal.Alerts
open Schema Foundation Auth Access

/-- The filter of the guest lists would show a guest with this number on this portal node. -/
def ShownGuest (db : Database) (getPoolPermissions : Int → List PoolGrant) (currentUser : CurrentUser)
    (nodeId : Option Int) (vmid : String) : Prop :=
  ∃ vm : VmInfo, vm.portalNodeId = nodeId ∧ toString vm.vmid = vmid ∧
    applyVmRbacFilter db getPoolPermissions currentUser [vm] ≠ []

/-- A grant path reaches the guest with this number. -/
def SeesNumber (db : Database) (pools : List PoolGrant) (userId : Int) (nodeId : Option Int) (vmid : String) : Prop :=
  ∃ number : Int, toString number = vmid ∧ SeesGuest db pools userId nodeId number

/-- The user has no direct assignment at all, or one with a stored preset carries this number. -/
def AssignedNumber (db : Database) (userId : Int) (vmid : String) : Prop :=
  (∀ assignment ∈ db.resourceAssignments, assignment.userId ≠ userId) ∨
    ∃ assignment ∈ db.resourceAssignments, assignment.userId = userId ∧ PresetStored db assignment.presetId ∧
      toString assignment.resourceId = vmid

/-- The states that the view of a user lists. -/
def Pending (tables : ViewTables) (username : String) (entry : StateEntry String) : Prop :=
  isActive entry = true ∧ acknowledgedLast tables (some username) entry = false ∧
    ∃ rule ∈ tables.rules, rule.id = entry.ruleId

/-- Both views keep to the guests that the user is shown, and the events of these guests are complete. -/
structure ViewsRespect {Value : Type} (db : Database) (getPoolPermissions : Int → List PoolGrant) (tables : ViewTables)
    (loads : String → Option Value) (currentUser : CurrentUser) : Prop where
  events : ∀ sorter query, ∀ response ∈ alertEventsEndpoint tables db loads sorter query currentUser,
    ShownGuest db getPoolPermissions currentUser response.event.nodeId response.event.vmid
  states : ∀ sorter, ∀ response ∈ alertStatesEndpoint tables loads sorter currentUser,
    ShownGuest db getPoolPermissions currentUser (some response.nodeId) response.vmid
  complete : ∀ sorter query, ∀ event ∈ tables.events,
    ShownGuest db getPoolPermissions currentUser event.nodeId event.vmid → query.admits event = true →
      (∃ response ∈ alertEventsEndpoint tables db loads sorter query currentUser,
          response.event = decodeEvent loads event) ∨
        ((alertEventsEndpoint tables db loads sorter query currentUser).length = query.limit ∧
          ∀ response ∈ alertEventsEndpoint tables db loads sorter query currentUser,
            event.timestamp ≤ response.event.timestamp)

/-- The number test and the grant paths agree on every event, and every pending state is of a seen guest. -/
structure ViewsAgree (db : Database) (pools : List PoolGrant) (tables : ViewTables) (user : LocalUser)
    (username : String) : Prop where
  events : ∀ event ∈ tables.events,
    AssignedNumber db user.id event.vmid ↔ SeesNumber db pools user.id event.nodeId event.vmid
  states : ∀ entry ∈ tables.states, Pending tables username entry →
    SeesNumber db pools user.id (some entry.nodeId) entry.vmid

theorem toString_int_ne_empty (number : Int) : toString number ≠ "" := by
  cases number with
  | ofNat number => exact Nat.repr_ne_empty
  | negSucc number => exact String.isEmpty_eq_false_iff.mp rfl

theorem SeesNumber.ne_empty {db : Database} {pools : List PoolGrant} {userId : Int} {nodeId : Option Int}
    {vmid : String} (sees : SeesNumber db pools userId nodeId vmid) : vmid ≠ "" := by
  obtain ⟨number, rfl, -⟩ := sees
  exact toString_int_ne_empty number

section Views
variable {Value : Type} {db : Database} {getPoolPermissions : Int → List PoolGrant} {tables : ViewTables}
  {loads : String → Option Value} {currentUser : CurrentUser} {user : LocalUser}

/-- A filtered user would be shown exactly the guests that a grant path reaches. -/
theorem shownGuest_iff (filtered : Filtered db getPoolPermissions currentUser user) {nodeId : Option Int}
    {vmid : String} : ShownGuest db getPoolPermissions currentUser nodeId vmid ↔
      SeesNumber db (getPoolPermissions user.id) user.id nodeId vmid := by
  constructor
  · rintro ⟨vm, rfl, rfl, kept⟩
    obtain ⟨shown, member⟩ := List.exists_mem_of_ne_nil _ kept
    have sees := filtered.sees member
    rw [filtered.applyVmRbacFilter] at member
    obtain ⟨listed, inside, -, rfl⟩ := mem_keepViewed.mp member
    rw [List.mem_singleton] at inside
    subst inside
    exact ⟨_, rfl, sees⟩
  · rintro ⟨number, rfl, sees⟩
    obtain ⟨vm, node, same, -, shown, member, -⟩ := filtered.shown sees ""
    exact ⟨vm, node, by rw [same], List.ne_nil_of_mem member⟩

/-- The set of the endpoint passes exactly the numbers that the direct assignments carry. -/
theorem allowedVmids_all (filtered : Filtered db getPoolPermissions currentUser user) (vmid : String) :
    (allowedVmids db currentUser).all (·.contains vmid) = true ↔ AssignedNumber db user.id vmid := by
  have restricted : allowedVmids db currentUser = if hasAnyAssignments db user.id then
      some ((getUserPermissions db user.id).map fun permission => toString permission.resourceId) else none := by
    simp [allowedVmids, filtered.isLocal, filtered.notAdmin, filtered.notOperator, filtered.account]
  rw [restricted]
  unfold AssignedNumber
  by_cases any : hasAnyAssignments db user.id = true
  · have some : ¬ ∀ assignment ∈ db.resourceAssignments, assignment.userId ≠ user.id := by
      intro none
      obtain ⟨assignment, stored, own⟩ := List.any_eq_true.mp any
      exact none assignment stored (of_decide_eq_true own)
    simp only [any, if_true, Option.all_some, List.contains_iff_mem, List.mem_map, mem_getUserPermissions, some,
      false_or, presetStored_iff]
    constructor
    · rintro ⟨permission, ⟨assignment, stored, own, row, joined, rfl⟩, number⟩
      exact ⟨assignment, stored, own, ⟨row, joined⟩, number⟩
    · rintro ⟨assignment, stored, own, ⟨row, joined⟩, number⟩
      exact ⟨_, ⟨assignment, stored, own, row, joined, rfl⟩, number⟩
  · simp only [any, if_false, Option.all_none, true_iff, Bool.false_eq_true]
    left
    intro assignment stored own
    exact any (List.any_eq_true.mpr ⟨assignment, stored, by simpa using own⟩)

/-- The early return of the service changes nothing. -/
theorem listAlertEvents_eq (sorter : Sorter EventRow.timestamp) (query : EventQuery)
    (allowed : Option (List String)) :
    listAlertEvents tables loads sorter query allowed =
      (sorter.select query.limit (tables.events.filter fun event =>
        allowed.all (·.contains event.vmid) && query.admits event)).map fun row =>
          ⟨decodeEvent loads row, acknowledgedBy tables row.id⟩ := by
  unfold listAlertEvents
  split
  · rename_i nobody
    obtain ⟨vmids, rfl, empty⟩ := (Option.any_eq_true _ _).mp nobody
    rw [List.isEmpty_iff] at empty
    subst empty
    have none : sorter.order ([] : List (EventRow String)) = [] := (sorter.perm []).eq_nil
    simp [Sorter.select, none]
  · rfl

/-- The view of the events lists some of the admitted events with an assigned number, decoded. -/
theorem mem_alertEventsEndpoint (filtered : Filtered db getPoolPermissions currentUser user)
    {sorter : Sorter EventRow.timestamp} {query : EventQuery} {response : AlertEventResponse Value}
    (member : response ∈ alertEventsEndpoint tables db loads sorter query currentUser) :
    ∃ row ∈ tables.events, AssignedNumber db user.id row.vmid ∧ query.admits row = true ∧
      response.event = decodeEvent loads row := by
  rw [alertEventsEndpoint, listAlertEvents_eq, List.mem_map] at member
  obtain ⟨row, selected, rfl⟩ := member
  obtain ⟨stored, kept⟩ := List.mem_filter.mp (sorter.mem_of_select selected)
  rw [Bool.and_eq_true, allowedVmids_all filtered] at kept
  exact ⟨row, stored, kept.1, kept.2, rfl⟩

/-- The view of the states lists the pending ones, each with its rule. -/
theorem mem_alertStatesEndpoint {sorter : Sorter stateKey} {response : AlertStateResponse Value} :
    response ∈ alertStatesEndpoint tables loads sorter currentUser ↔
      ∃ entry ∈ tables.states, isActive entry = true ∧
        acknowledgedLast tables (some currentUser.username) entry = false ∧
        ∃ rule ∈ tables.rules, rule.id = entry.ruleId ∧ response =
          { entry with
            lastValue := entry.lastValue.bind loads
            ruleName := rule.name
            metric := rule.metric
            lastEventId := lastEventId tables entry } := by
  simp only [alertStatesEndpoint, listAlertStates, stateConditions, List.mem_flatMap, sorter.mem_order,
    List.mem_filter, List.mem_map, Bool.and_eq_true, Bool.not_true, Bool.false_or, Bool.not_eq_true',
    List.any_eq_true, decide_eq_true_eq]
  constructor
  · rintro ⟨entry, ⟨stored, ⟨active, unseen⟩, -⟩, rule, ⟨known, same⟩, rfl⟩
    exact ⟨entry, stored, active, unseen, rule, known, same, rfl⟩
  · rintro ⟨entry, stored, active, unseen, rule, known, same, rfl⟩
    exact ⟨entry, ⟨stored, ⟨active, unseen⟩, rule, known, same⟩, rule, ⟨known, same⟩, rfl⟩

/-- A query for the very time of an event can bring up that event when the set of the endpoint passes it. -/
theorem exists_query (event : EventRow String) (stored : event ∈ tables.events)
    (passes : (allowedVmids db currentUser).all (·.contains event.vmid) = true) :
    ∃ sorter query, ∃ response ∈ alertEventsEndpoint tables db loads sorter query currentUser,
      response.event = decodeEvent loads event := by
  obtain ⟨sorter, first⟩ := Sorter.exists_first EventRow.timestamp event
  let query : EventQuery := { since := some event.timestamp.val, untilTime := some event.timestamp.val }
  have time : Text.truthy (some event.timestamp.val) = some event.timestamp.val := by
    rw [Text.truthy_eq_some]
    exact ⟨rfl, event.timestamp.property⟩
  have none : Text.truthy none = none := rfl
  have admits (other : EventRow String) : query.admits other = true ↔ other.timestamp = event.timestamp := by
    simp only [EventQuery.admits, query, time, none, Option.filter_none, Option.all_none, Option.all_some,
      Bool.true_and, Bool.and_eq_true, decide_eq_true_eq, Subtype.ext_iff]
    exact ⟨fun between => le_antisymm between.2 between.1, fun same => ⟨same.ge, same.le⟩⟩
  refine ⟨sorter, query, ⟨decodeEvent loads event, acknowledgedBy tables event.id⟩, ?_, rfl⟩
  rw [alertEventsEndpoint, listAlertEvents_eq]
  apply List.mem_map_of_mem (f := fun row => (⟨decodeEvent loads row, acknowledgedBy tables row.id⟩ :
    AlertEventResponse Value))
  apply first
  · exact List.mem_filter.mpr ⟨stored, Bool.and_eq_true_iff.mpr ⟨passes, (admits event).mpr rfl⟩⟩
  · intro other member
    obtain ⟨-, kept⟩ := List.mem_filter.mp member
    exact (admits other).mp (Bool.and_eq_true_iff.mp kept).2
  · exact query.positive

/-- A query that names a number admits the events with it. -/
theorem admits_vmid {vmid : String} (named : vmid ≠ "") (event : EventRow String) :
    ({ vmid := some vmid } : EventQuery).admits event = true ↔ event.vmid = vmid := by
  have given : Text.truthy (some vmid) = some vmid := (Text.truthy_eq_some _ _).mpr ⟨rfl, named⟩
  have none : Text.truthy none = none := rfl
  simp [EventQuery.admits, given, none]

/-- A query for a number that no direct assignment carries brings up nothing. -/
theorem alertEventsEndpoint_unassigned (filtered : Filtered db getPoolPermissions currentUser user) {vmid : String}
    (unassigned : ¬ AssignedNumber db user.id vmid) (named : vmid ≠ "") (sorter : Sorter EventRow.timestamp) :
    alertEventsEndpoint tables db loads sorter { vmid := some vmid } currentUser = [] := by
  rw [List.eq_nil_iff_forall_not_mem]
  intro response listed
  obtain ⟨row, -, assigned, admitted, -⟩ := mem_alertEventsEndpoint filtered listed
  rw [admits_vmid named] at admitted
  exact unassigned (admitted ▸ assigned)

/-- The views of a filtered user respect what guests the user is shown exactly when the number test and the
grant paths agree on every stored event and every pending state is of a guest that a grant path reaches. -/
theorem alertViews_respect_iff (filtered : Filtered db getPoolPermissions currentUser user) :
    ViewsRespect db getPoolPermissions tables loads currentUser ↔
      ViewsAgree db (getPoolPermissions user.id) tables user currentUser.username := by
  constructor
  · intro respect
    refine ⟨?_, ?_⟩
    · intro event stored
      constructor
      · intro assigned
        obtain ⟨sorter, query, response, listed, same⟩ := exists_query event stored
          ((allowedVmids_all filtered event.vmid).mpr assigned)
        have shown := respect.events sorter query response listed
        rw [same] at shown
        exact (shownGuest_iff filtered).mp shown
      · intro sees
        by_contra unassigned
        have hidden : alertEventsEndpoint tables db loads (.stable _) { vmid := some event.vmid } currentUser = [] :=
          alertEventsEndpoint_unassigned filtered unassigned sees.ne_empty _
        rcases respect.complete (.stable _) { vmid := some event.vmid } event stored
          ((shownGuest_iff filtered).mpr sees) ((admits_vmid sees.ne_empty event).mpr rfl) with
          ⟨response, listed, -⟩ | ⟨full, -⟩
        · rw [hidden] at listed
          cases listed
        · rw [hidden] at full
          cases full
    · intro entry stored pending
      obtain ⟨active, unseen, rule, known, same⟩ := pending
      exact (shownGuest_iff filtered).mp (respect.states (.stable stateKey) _
        (mem_alertStatesEndpoint.mpr ⟨entry, stored, active, unseen, rule, known, same, rfl⟩))
  · intro agree
    refine ⟨?_, ?_, ?_⟩
    · intro sorter query response listed
      obtain ⟨row, stored, assigned, -, same⟩ := mem_alertEventsEndpoint filtered listed
      rw [same]
      exact (shownGuest_iff filtered).mpr ((agree.events row stored).mp assigned)
    · intro sorter response listed
      obtain ⟨entry, stored, active, unseen, rule, known, same, rfl⟩ := mem_alertStatesEndpoint.mp listed
      exact (shownGuest_iff filtered).mpr (agree.states entry stored ⟨active, unseen, rule, known, same⟩)
    · intro sorter query event stored shown admitted
      have assigned := (agree.events event stored).mpr ((shownGuest_iff filtered).mp shown)
      have kept : event ∈ tables.events.filter fun event =>
          (allowedVmids db currentUser).all (·.contains event.vmid) && query.admits event :=
        List.mem_filter.mpr ⟨stored, Bool.and_eq_true_iff.mpr ⟨(allowedVmids_all filtered _).mpr assigned, admitted⟩⟩
      rw [alertEventsEndpoint, listAlertEvents_eq]
      have cut : event ∈ sorter.select query.limit _ ∨ _ := sorter.select_or_full kept
      rcases cut with selected | ⟨full, later⟩
      · exact .inl ⟨_, List.mem_map_of_mem selected, rfl⟩
      · right
        refine ⟨by rw [List.length_map, full], ?_⟩
        intro response listed
        obtain ⟨row, selected, rfl⟩ := List.mem_map.mp listed
        exact later row selected

end Views

/-- Guest 100 of node 3 fired an alert, and the assignment of the viewer to guest 100 is for node 1. -/
def sharedNumber : EventRow String where
  id := 1
  ruleId := some 1
  ruleName := "cpu"
  vmid := "100"
  nodeId := some 3
  metric := .cpuPercent
  severity := .warning
  state := .firing
  timestamp := ⟨"2026-01-01T00:00:00+00:00", by decide⟩

/-- No grant path of the viewer reaches node 3. -/
theorem twoNodes_hidden (vmid : String) : ¬ SeesNumber twoNodes [] 7 (some 3) vmid := by
  rintro ⟨number, -, kind, granted⟩
  cases granted with
  | direct grant =>
      obtain ⟨assignment, stored, -, -, -, applies, -⟩ := grant
      obtain rfl := List.mem_singleton.mp stored
      simp [AppliesTo] at applies
  | pool grant =>
      obtain ⟨grant, stored, -⟩ := grant
      cases stored
  | node grant =>
      obtain ⟨assignment, stored, -⟩ := grant
      cases stored
  | owner owns member =>
      obtain ⟨owner, stored, -, -, here, -⟩ := owns
      obtain rfl := List.mem_singleton.mp stored
      simp at here

/-- Guest 100 of node 1 fired an alert, and its state is a warning. -/
def ownAlert : ViewTables where
  rules := [{ id := 1, scope := .global, name := "cpu", metric := .cpuPercent }]
  states := [{ id := 1, ruleId := 1, vmid := "100", nodeId := 1, severity := .warning, state := .warning }]
  events := [{ sharedNumber with nodeId := some 1 }]

/-- The direct assignment of the viewer reaches guest 100 of node 1. -/
theorem ownAlert_agree : ViewsAgree twoNodes [] ownAlert { id := 7, username := "viewer", role := .viewer } "viewer" := by
  have stored : (⟨1, 7, .vm, 100, some 1, 1⟩ : ResourceAssignment) ∈ twoNodes.resourceAssignments :=
    List.mem_singleton.mpr rfl
  have sees : SeesNumber twoNodes [] 7 (some 1) "100" :=
    ⟨100, rfl, .vm, .direct ⟨_, stored, rfl, rfl, rfl, .inr ⟨1, rfl, rfl⟩,
      ⟨1, ["view"], []⟩, List.mem_singleton.mpr rfl, rfl, List.mem_singleton.mpr rfl⟩⟩
  have assigned : AssignedNumber twoNodes 7 "100" :=
    .inr ⟨_, stored, rfl, ⟨⟨1, ["view"], []⟩, List.mem_singleton.mpr rfl, rfl⟩, rfl⟩
  refine ⟨?_, ?_⟩
  · intro event listed
    rw [List.mem_singleton.mp listed]
    exact iff_of_true assigned sees
  · intro entry listed _
    rw [List.mem_singleton.mp listed]
    exact sees

/-- The alert of the own guest is listed in both views, and they respect what the viewer is shown. -/
theorem alertViews_respect_twoNodes :
    ViewsRespect twoNodes (fun _ => []) ownAlert (some : String → Option String)
        { username := "viewer", authType := .localUser, role := .viewer, userId := some 7 } ∧
      (alertEventsEndpoint ownAlert twoNodes (some : String → Option String) (.stable _) {}
        { username := "viewer", authType := .localUser, role := .viewer, userId := some 7 }).length = 1 ∧
      (alertStatesEndpoint ownAlert (some : String → Option String) (.stable _)
        { username := "viewer", authType := .localUser, role := .viewer, userId := some 7 }).length = 1 :=
  ⟨(alertViews_respect_iff twoNodes_filtered).mpr ownAlert_agree, by decide +kernel, by decide +kernel⟩

/-- The viewer is listed the alert of a guest on a node where the viewer holds nothing. -/
theorem alertEvents_of_hidden_guest :
    ¬ ∀ (db : Database) (getPoolPermissions : Int → List PoolGrant) (tables : ViewTables)
      (loads : String → Option String) (currentUser : CurrentUser) (user : LocalUser),
      Filtered db getPoolPermissions currentUser user →
        ViewsRespect db getPoolPermissions tables loads currentUser := by
  intro respects
  have respect := respects twoNodes _ { events := [sharedNumber] } some _ _ twoNodes_filtered
  have listed : ⟨decodeEvent some sharedNumber, []⟩ ∈ alertEventsEndpoint { events := [sharedNumber] } twoNodes
      (some : String → Option String) (.stable _) {}
      { username := "viewer", authType := .localUser, role := .viewer, userId := some 7 } := by
    decide +kernel
  exact twoNodes_hidden _ ((shownGuest_iff twoNodes_filtered).mp (respect.events _ _ _ listed))

end P3Portal.Alerts
