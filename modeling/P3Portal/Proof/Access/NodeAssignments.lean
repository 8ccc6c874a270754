import P3Portal.Construction.Access.NodeAssignments
import P3Portal.Foundation.KeyedRows

namespace P3Portal.NodeAssignments
open Schema Foundation

/-- The subject with this identifier and birth is stored. -/
def Alive (tables : Tables) (subjectType : SubjectType) (subjectId : Int) (born : Nat) : Prop :=
  ∃ subject ∈ tables.subjects subjectType, subject.id = subjectId ∧ subject.born = born

/-- Every assignment refers to a stored subject, and this is the subject that it was given to. -/
def Rooted (tables : Tables) : Prop :=
  ∀ grant ∈ tables.assignments, Alive tables grant.row.subjectType grant.row.subjectId grant.givenTo

/-- No assignment names the subject. -/
def Unnamed (tables : Tables) (subjectType : SubjectType) (subjectId : Int) : Prop :=
  ∀ grant ∈ tables.assignments, Tables.names subjectType subjectId grant = false

theorem names_iff {subjectType : SubjectType} {subjectId : Int} {grant : Grant} :
    Tables.names subjectType subjectId grant = true ↔
      grant.row.subjectType = subjectType ∧ grant.row.subjectId = subjectId := by
  rw [Tables.names, Bool.and_eq_true, decide_eq_true_eq, decide_eq_true_eq]

section Tables
variable {tables : Tables}

/-- Assignments that stay are rooted when their subjects stay. -/
theorem Rooted.mono {after : Tables} (rooted : Rooted tables)
    (fewer : ∀ grant ∈ after.assignments, grant ∈ tables.assignments)
    (stay : ∀ subjectType, ∀ subject ∈ tables.subjects subjectType, subject ∈ after.subjects subjectType) :
    Rooted after := by
  intro grant member
  obtain ⟨subject, stored, same⟩ := rooted grant (fewer grant member)
  exact ⟨subject, stay _ subject stored, same⟩

theorem rooted_createSubject (rooted : Rooted tables) (subjectType : SubjectType) (name : String) :
    Rooted (tables.createSubject subjectType name) := by
  apply rooted.mono
  · intro grant member
    cases subjectType with
    | user => exact member
    | group => exact member
  · intro other subject stored
    cases subjectType with
    | user => cases other with
      | user => exact List.mem_append_left _ stored
      | group => exact stored
    | group => cases other with
      | user => exact stored
      | group => exact List.mem_append_left _ stored

/-- A new subject takes an identifier that no assignment names. -/
theorem unnamed_nextSubjectId (rooted : Rooted tables) (subjectType : SubjectType) :
    Unnamed tables subjectType (tables.nextSubjectId subjectType) := by
  intro grant member
  apply Bool.eq_false_iff.mpr
  intro named
  obtain ⟨kind, key⟩ := names_iff.mp named
  obtain ⟨subject, stored, same, -⟩ := rooted grant member
  rw [kind] at stored
  apply next_key_unused ((tables.subjects subjectType).map Subject.id)
  rw [← Tables.nextSubjectId, ← key, ← same]
  exact List.mem_map_of_mem stored

theorem subjects_deleteSubject (tables : Tables) (subjectType other : SubjectType) (subjectId : Int) :
    (tables.deleteSubject subjectType subjectId).subjects other =
      if other = subjectType then (tables.subjects other).filter fun subject => subject.id ≠ subjectId
      else tables.subjects other := by
  cases subjectType <;> cases other <;> rfl

theorem assignments_deleteSubject (tables : Tables) (subjectType : SubjectType) (subjectId : Int) :
    (tables.deleteSubject subjectType subjectId).assignments = tables.assignments := by
  cases subjectType <;> rfl

/-- The deletion of a subject leaves every assignment rooted exactly when none names the subject. -/
theorem rooted_deleteSubject_iff (rooted : Rooted tables) (subjectType : SubjectType) (subjectId : Int) :
    Rooted (tables.deleteSubject subjectType subjectId) ↔ Unnamed tables subjectType subjectId := by
  constructor
  · intro after grant member
    apply Bool.eq_false_iff.mpr
    intro named
    obtain ⟨kind, key⟩ := names_iff.mp named
    obtain ⟨subject, stored, same, -⟩ := after grant (by rwa [assignments_deleteSubject])
    rw [subjects_deleteSubject, if_pos kind] at stored
    exact of_decide_eq_true (List.mem_filter.mp stored).2 (same.trans key)
  · intro unnamed grant member
    rw [assignments_deleteSubject] at member
    obtain ⟨subject, stored, same, birth⟩ := rooted grant member
    refine ⟨subject, ?_, same, birth⟩
    rw [subjects_deleteSubject]
    by_cases kind : grant.row.subjectType = subjectType
    · rw [if_pos kind]
      have other : subject.id ≠ subjectId := by
        intro key
        have named := names_iff.mpr ⟨kind, same.symm.trans key⟩
        rw [unnamed grant member] at named
        cases named
      exact List.mem_filter.mpr ⟨stored, decide_eq_true other⟩
    · rw [if_neg kind]
      exact stored

theorem removeListed_spec (nodeIds : List Int) (tables : Tables) (subjectType : SubjectType) (subjectId : Int) :
    (∀ kind, (removeListed tables nodeIds subjectType subjectId).subjects kind = tables.subjects kind) ∧
      ∀ grant, grant ∈ (removeListed tables nodeIds subjectType subjectId).assignments ↔
        grant ∈ tables.assignments ∧
          ¬(grant.row.nodeId ∈ nodeIds ∧ Tables.names subjectType subjectId grant = true) := by
  induction nodeIds generalizing tables with
  | nil =>
      refine ⟨fun _ => rfl, ?_⟩
      intro grant
      simp [removeListed]
  | cons first rest ih =>
      obtain ⟨subjects, members⟩ := ih (removeAssignment tables first subjectType subjectId)
      refine ⟨fun kind => (subjects kind).trans (by cases kind <;> rfl), ?_⟩
      intro grant
      rw [removeListed, List.foldl_cons, ← removeListed, members, removeAssignment, List.mem_filter]
      simp only [Bool.not_eq_true', Bool.and_eq_false_iff, decide_eq_false_iff_not, List.mem_cons]
      constructor
      · intro kept
        obtain ⟨⟨stored, other⟩, later⟩ := kept
        refine ⟨stored, ?_⟩
        intro listed
        obtain ⟨here | there, named⟩ := listed
        · rcases other with different | unnamed
          · exact different here
          · rw [unnamed] at named
            cases named
        · exact later ⟨there, named⟩
      · intro kept
        obtain ⟨stored, other⟩ := kept
        refine ⟨⟨stored, ?_⟩, fun listed => other ⟨.inr listed.1, listed.2⟩⟩
        by_cases here : grant.row.nodeId = first
        · right
          exact Bool.eq_false_iff.mpr fun named => other ⟨.inl here, named⟩
        · exact .inl here

/-- The insert leaves every assignment rooted exactly when it is refused or its subject is still stored. -/
theorem rooted_insert_iff (rooted : Rooted tables) (request : AddRequest) (subject : Subject) :
    Rooted (resume tables (.adding request subject)).1 ↔
      (insertable tables request = true → Alive tables request.subjectType request.subjectId subject.born) := by
  unfold resume insertAssignment
  dsimp only
  by_cases accepted : insertable tables request = true
  · rw [if_pos accepted]
    constructor
    · intro after _
      exact after _ (List.mem_append_right _ (List.mem_singleton_self _))
    · intro alive grant member
      rcases List.mem_append.mp member with old | new
      · exact rooted grant old
      · rw [List.mem_singleton.mp new]
        exact alive accepted
  · rw [if_neg accepted]
    exact iff_of_true rooted fun claimed => absurd claimed accepted

end Tables

/-- A step that may leave an assignment without its subject does not do so: no group or user is deleted while an
assignment names it, and no row is inserted for a subject that is gone. -/
def Faultless (portal : Portal) : Event → Prop
  | .deleteGroup groupId => Unnamed portal.shared .group groupId
  | .resume index => match portal.processes[index]? with
    | some (.adding request subject) =>
        insertable portal.shared request = true →
          Alive portal.shared request.subjectType request.subjectId subject.born
    | some (.deletingUser userId) => Unnamed portal.shared .user userId
    | _ => True
  | _ => True

/-- A new subject starts without assignments. -/
def StartsBare (portal : Portal) : Event → Prop
  | .createSubject subjectType _ => Unnamed portal.shared subjectType (portal.shared.nextSubjectId subjectType)
  | _ => True

section Steps
variable {portal : Portal}

/-- A group deletion deletes the row of a stored group and nothing else. -/
theorem rooted_deleteGroup_iff (rooted : Rooted portal.shared) (groupId : Int) :
    Rooted (step portal (.deleteGroup groupId)).shared ↔ Unnamed portal.shared .group groupId := by
  rw [step]
  split
  · exact rooted_deleteSubject_iff rooted .group groupId
  · rename_i unknown
    apply iff_of_true rooted
    intro grant member
    apply Bool.eq_false_iff.mpr
    intro named
    obtain ⟨kind, key⟩ := names_iff.mp named
    obtain ⟨subject, stored, same, -⟩ := rooted grant member
    rw [kind] at stored
    apply unknown
    rw [Tables.getSubject, List.find?_isSome]
    exact ⟨subject, stored, decide_eq_true (same.trans key)⟩

/-- Every event keeps all assignments rooted exactly when it is faultless. -/
theorem rooted_step_iff (event : Event) (rooted : Rooted portal.shared) :
    Rooted (step portal event).shared ↔ Faultless portal event := by
  cases event with
  | createSubject subjectType name => exact iff_of_true (rooted_createSubject rooted subjectType name) trivial
  | addAssignment maxAssignments request =>
      apply iff_of_true _ trivial
      rw [step]
      split
      · exact rooted
      · exact rooted
  | removeAssignment nodeId subjectType subjectId =>
      exact iff_of_true (rooted.mono (fun _ member => (List.mem_filter.mp member).1)
        fun kind _ stored => by cases kind <;> exact stored) trivial
  | deleteUser userId =>
      apply iff_of_true _ trivial
      rw [step]
      split
      · exact rooted
      · exact rooted
  | deleteGroup groupId => exact rooted_deleteGroup_iff rooted groupId
  | resume index =>
      unfold Faultless
      dsimp only
      cases present : portal.processes[index]? with
      | none =>
          rw [step, Interleaved.act_absent present]
          exact iff_of_true rooted trivial
      | some task =>
          rw [step, Interleaved.act_shared present]
          cases task with
          | adding request subject => exact rooted_insert_iff rooted request subject
          | listing subjectType subjectId => exact iff_of_true rooted trivial
          | removing subjectType subjectId nodeIds =>
              obtain ⟨subjects, members⟩ := removeListed_spec nodeIds portal.shared subjectType subjectId
              refine iff_of_true (rooted.mono (fun grant member => ((members grant).mp member).1) ?_) trivial
              intro kind subject stored
              exact (subjects kind).symm ▸ stored
          | deletingUser userId => exact rooted_deleteSubject_iff rooted .user userId
          | done => exact iff_of_true rooted trivial
  | failCleanup index =>
      apply iff_of_true _ trivial
      cases present : portal.processes[index]? with
      | none =>
          rw [step, Interleaved.act_absent present]
          exact rooted
      | some task =>
          rw [step, Interleaved.act_shared present]
          cases task <;> exact rooted
  | abandon index =>
      apply iff_of_true _ trivial
      cases present : portal.processes[index]? with
      | none =>
          rw [step, Interleaved.act_absent present]
          exact rooted
      | some task =>
          rw [step, Interleaved.act_shared present]
          exact rooted
  | replaceCatalogue nodes rolePresets =>
      exact iff_of_true (rooted.mono (fun _ member => (List.mem_filter.mp member).1)
        fun kind _ stored => by cases kind <;> exact stored) trivial

end Steps

/-- Without subjects there are no assignments. -/
theorem rooted_initial : Rooted Portal.initial.shared := fun _ absent => absurd absent List.not_mem_nil

/-- In every history all assignments refer to the stored subjects that they were given to, and new subjects start
without assignments, exactly when no group or user is deleted while an assignment names it and no assignment is
inserted for a subject that is gone. -/
theorem assignments_rooted_iff (events : List Event) :
    ((∀ portal ∈ reached step Portal.initial events, Rooted portal.shared) ∧
      ∀ visit ∈ visits step Portal.initial events, StartsBare visit.1 visit.2) ↔
      ∀ visit ∈ visits step Portal.initial events, Faultless visit.1 visit.2 := by
  have all : (∀ portal ∈ reached step Portal.initial events, Rooted portal.shared) ↔
      ∀ visit ∈ visits step Portal.initial events, Faultless visit.1 visit.2 :=
    reached_iff_allowed step (fun _ _ (_ : True) (_ : True) _ => trivial) (fun _ event _ _ => rooted_step_iff event)
      events trivial rooted_initial fun _ _ => trivial
  constructor
  · intro property
    exact all.mp property.1
  · intro faultless
    refine ⟨all.mpr faultless, ?_⟩
    intro visit member
    have kept : ∀ portal event, Rooted portal.shared → Faultless portal event → Rooted (step portal event).shared :=
      fun _ event rooted => (rooted_step_iff event rooted).mpr
    have rooted := visits_invariant step kept events rooted_initial faultless visit member
    unfold StartsBare
    split
    · exact unnamed_nextSubjectId rooted _
    · trivial

/-- The cleanup of the deleted user fails. -/
def failedCleanup : List Event :=
  [.replaceCatalogue [1] [1], .createSubject .user "alice", .addAssignment none ⟨1, .user, 1, 1⟩, .resume 0,
    .deleteUser 1, .failCleanup 1, .resume 1]

/-- The user is deleted between the check and the insert of an assignment. -/
def lateInsert : List Event :=
  [.replaceCatalogue [1] [1], .createSubject .user "alice", .addAssignment none ⟨1, .user, 1, 1⟩, .deleteUser 1,
    .resume 1, .resume 1, .resume 1, .resume 0]

/-- No user is stored and an assignment names user one, and the next user gets this identifier and the assignment. -/
def Inherits (events : List Event) : Prop :=
  (run step Portal.initial events).shared.users = [] ∧
    (run step Portal.initial (events ++ [.createSubject .user "bob"])).shared.users = [⟨1, "bob", 1⟩] ∧
    (run step Portal.initial (events ++ [.createSubject .user "bob"])).shared.assignments =
      [⟨⟨1, 1, .user, 1, 1⟩, 0⟩]

/-- After each of the two histories an assignment is left for the next user. -/
theorem assignment_outlives_user : Inherits failedCleanup ∧ Inherits lateInsert := by
  unfold Inherits
  decide +kernel

/-- A deletion past its list has all assignments of its subject on the list, or none is left. -/
def Covered (tables : Tables) : Task → Prop
  | .removing subjectType subjectId nodeIds => ∀ grant ∈ tables.assignments,
      Tables.names subjectType subjectId grant = true → grant.row.nodeId ∈ nodeIds
  | .deletingUser userId => Unnamed tables .user userId
  | _ => True

/-- A deletion of the subject has read its list. -/
def Awaits (subjectType : SubjectType) (subjectId : Int) : Task → Prop
  | .removing kind key _ => kind = subjectType ∧ key = subjectId
  | .deletingUser userId => .user = subjectType ∧ userId = subjectId
  | _ => False

/-- No cleanup of a user fails, and nothing is inserted for a subject whose deletion has read its list. -/
def Careful (portal : Portal) : Event → Prop
  | .failCleanup index => match portal.processes[index]? with
    | some (.listing .user _) | some (.removing .user _ _) => False
    | _ => True
  | .resume index => match portal.processes[index]? with
    | some (.adding request _) => ∀ task ∈ portal.processes, ¬Awaits request.subjectType request.subjectId task
    | _ => True
  | _ => True

section Cleanup
variable {tables after : Tables} {portal : Portal}

theorem Covered.mono {task : Task} (covered : Covered tables task)
    (fewer : ∀ grant ∈ after.assignments, grant ∈ tables.assignments) : Covered after task := by
  cases task with
  | removing subjectType subjectId nodeIds => exact fun grant member => covered grant (fewer grant member)
  | deletingUser userId => exact fun grant member => covered grant (fewer grant member)
  | _ => trivial

/-- An insert matters to the deletions of its own subject only. -/
theorem Covered.insert {task other : Task} {request : AddRequest} {subject : Subject}
    (covered : Covered tables other) (elsewhere : ¬Awaits request.subjectType request.subjectId other)
    (same : task = .adding request subject) : Covered (resume tables task).1 other := by
  rw [same]
  unfold resume insertAssignment
  dsimp only
  split
  · rename_i inserted
    split at inserted
    · rw [← Except.ok.inj inserted]
      cases other with
      | removing kind key nodeIds =>
          intro grant member named
          rcases List.mem_append.mp member with old | new
          · exact covered grant old named
          · rw [List.mem_singleton.mp new] at named
            obtain ⟨one, two⟩ := names_iff.mp named
            exact absurd ⟨one.symm, two.symm⟩ elsewhere
      | deletingUser userId =>
          intro grant member
          rcases List.mem_append.mp member with old | new
          · exact covered grant old
          · apply Bool.eq_false_iff.mpr
            intro named
            rw [List.mem_singleton.mp new] at named
            obtain ⟨one, two⟩ := names_iff.mp named
            exact elsewhere ⟨one.symm, two.symm⟩
      | _ => trivial
    · cases inserted
  · exact covered

/-- A cleanup reads its list, and the removal of the listed rows leaves none. -/
theorem Covered.resume {task : Task} (covered : Covered tables task) :
    Covered (resume tables task).1 (resume tables task).2 := by
  cases task with
  | adding request subject =>
      unfold NodeAssignments.resume
      dsimp only
      split <;> trivial
  | listing subjectType subjectId =>
      intro grant member named
      exact List.mem_map_of_mem (List.mem_filter.mpr ⟨member, named⟩)
  | removing subjectType subjectId nodeIds =>
      cases subjectType with
      | group => trivial
      | user =>
          intro grant member
          obtain ⟨stored, unlisted⟩ := ((removeListed_spec nodeIds tables .user subjectId).2 grant).mp member
          apply Bool.eq_false_iff.mpr
          intro named
          exact unlisted ⟨covered grant stored named, named⟩
  | _ => trivial

/-- Only an insert adds an assignment. -/
theorem mem_resume {task : Task} (other : ∀ request subject, task ≠ .adding request subject) {grant : Grant}
    (member : grant ∈ (resume tables task).1.assignments) : grant ∈ tables.assignments := by
  cases task with
  | adding request subject => exact absurd rfl (other request subject)
  | removing subjectType subjectId nodeIds =>
      exact (((removeListed_spec nodeIds tables subjectType subjectId).2 grant).mp member).1
  | _ => exact member

theorem covered_resume (index : Nat) (covered : ∀ task ∈ portal.processes, Covered portal.shared task)
    (careful : Careful portal (.resume index)) :
    ∀ task ∈ (step portal (.resume index)).processes, Covered (step portal (.resume index)).shared task := by
  cases present : portal.processes[index]? with
  | none =>
      rw [step, Interleaved.act_absent present]
      exact covered
  | some task =>
      rw [step, Interleaved.act_shared present]
      apply Interleaved.forall_act present covered Covered.resume
      intro other member fine
      by_cases late : ∃ request subject, task = .adding request subject
      · obtain ⟨request, subject, same⟩ := late
        rw [Careful, present, same] at careful
        exact fine.insert (careful other ((Interleaved.processes_perm present).mem_iff.mpr
          (List.mem_cons_of_mem _ member))) same
      · exact fine.mono fun grant member =>
          mem_resume (fun request subject same => late ⟨request, subject, same⟩) member

/-- The cleanup of a group may fail; nothing waits for it. -/
theorem covered_failCleanup (index : Nat) (covered : ∀ task ∈ portal.processes, Covered portal.shared task)
    (careful : Careful portal (.failCleanup index)) :
    ∀ task ∈ (step portal (.failCleanup index)).processes,
      Covered (step portal (.failCleanup index)).shared task := by
  cases present : portal.processes[index]? with
  | none =>
      rw [step, Interleaved.act_absent present]
      exact covered
  | some task =>
      rw [Careful, present] at careful
      rw [step, Interleaved.act_shared present]
      have same : (failCleanup portal.shared task).1 = portal.shared := by cases task <;> rfl
      rw [same]
      apply Interleaved.forall_act present covered _ fun _ _ fine => fine
      intro fine
      cases task with
      | listing subjectType subjectId =>
          cases subjectType with
          | user => exact absurd careful id
          | group => trivial
      | removing subjectType subjectId nodeIds =>
          cases subjectType with
          | user => exact absurd careful id
          | group => trivial
      | _ => exact fine

theorem covered_spawn {task : Task} (covered : ∀ task ∈ portal.processes, Covered portal.shared task)
    (fine : Covered portal.shared task) :
    ∀ other ∈ (portal.spawn task).processes, Covered (portal.spawn task).shared other := by
  intro other member
  rcases List.mem_append.mp member with old | new
  · exact covered other old
  · rw [List.mem_singleton.mp new]
    exact fine

/-- A careful event keeps every deletion covered. -/
theorem covered_step (event : Event) (covered : ∀ task ∈ portal.processes, Covered portal.shared task)
    (careful : Careful portal event) :
    ∀ task ∈ (step portal event).processes, Covered (step portal event).shared task := by
  cases event with
  | createSubject subjectType name =>
      intro task member
      exact (covered task member).mono fun grant member => by cases subjectType <;> exact member
  | addAssignment maxAssignments request =>
      rw [step]
      split
      · exact covered_spawn covered trivial
      · exact covered
  | removeAssignment nodeId subjectType subjectId =>
      intro task member
      exact (covered task member).mono fun _ member => (List.mem_filter.mp member).1
  | deleteUser userId =>
      rw [step]
      split
      · exact covered_spawn covered trivial
      · exact covered
  | deleteGroup groupId =>
      rw [step]
      split
      · exact covered_spawn (fun task member => (covered task member).mono fun _ member => member) trivial
      · exact covered
  | resume index => exact covered_resume index covered careful
  | failCleanup index => exact covered_failCleanup index covered careful
  | abandon index =>
      cases present : portal.processes[index]? with
      | none =>
          rw [step, Interleaved.act_absent present]
          exact covered
      | some task =>
          rw [step, Interleaved.act_shared present]
          exact Interleaved.forall_act present covered (fun _ => trivial) fun _ _ fine => fine
  | replaceCatalogue nodes rolePresets =>
      intro task member
      exact (covered task member).mono fun _ member => (List.mem_filter.mp member).1

/-- When no cleanup of a user fails and nothing is inserted behind a cleanup, no user is deleted while an assignment
names it. -/
theorem cleaned_user_unnamed {events : List Event}
    (careful : ∀ visit ∈ visits step Portal.initial events, Careful visit.1 visit.2) {visit : Portal × Event}
    (member : visit ∈ visits step Portal.initial events) {userId : Int}
    (waiting : .deletingUser userId ∈ visit.1.processes) : Unnamed visit.1.shared .user userId := by
  have kept : ∀ portal event, (∀ task ∈ portal.processes, Covered portal.shared task) → Careful portal event →
      ∀ task ∈ (step portal event).processes, Covered (step portal event).shared task :=
    fun _ event => covered_step event
  exact visits_invariant step kept events (fun _ absent => absurd absent List.not_mem_nil) careful visit member _
    waiting

end Cleanup

end P3Portal.NodeAssignments
