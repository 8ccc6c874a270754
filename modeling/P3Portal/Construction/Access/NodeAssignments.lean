import P3Portal.Construction.Database.Schema
import P3Portal.Foundation.Interleaving
import P3Portal.Foundation.Run

namespace P3Portal.NodeAssignments
open Schema Foundation

/-- A row of `local_users` or `groups`. The birth is not stored; it tells rows apart that have the same identifier
one after the other. -/
structure Subject where
  id : Int
  name : String
  born : Nat
  deriving DecidableEq

/-- A row of `node_assignments`, which has no foreign key to its subject. The birth of the subject that the request
named is not stored. -/
structure Grant where
  row : NodeAssignment
  givenTo : Nat
  deriving DecidableEq

/-- The tables of the subjects and of the assignments, and the identifiers of the nodes and the presets. -/
structure Tables where
  users : List Subject := []
  groups : List Subject := []
  nodes : List Int := []
  rolePresets : List Int := []
  assignments : List Grant := []
  births : Nat := 0
  deriving DecidableEq

namespace Tables

def subjects (tables : Tables) : SubjectType → List Subject
  | .user => tables.users
  | .group => tables.groups

/-- `_get_subject_display` finds the row under which a later insert is decided. -/
def getSubject (tables : Tables) (subjectType : SubjectType) (subjectId : Int) : Option Subject :=
  (tables.subjects subjectType).find? fun subject => subject.id = subjectId

/-- The greatest identifier decides the next one, so that the last one is used again after its deletion. -/
def nextSubjectId (tables : Tables) (subjectType : SubjectType) : Int :=
  ((tables.subjects subjectType).map Subject.id).foldl max 0 + 1

def createSubject (tables : Tables) (subjectType : SubjectType) (name : String) : Tables :=
  let subject : Subject := ⟨tables.nextSubjectId subjectType, name, tables.births⟩
  match subjectType with
  | .user => { tables with users := tables.users ++ [subject], births := tables.births + 1 }
  | .group => { tables with groups := tables.groups ++ [subject], births := tables.births + 1 }

/-- `DELETE FROM local_users` or `DELETE FROM groups` leaves the assignments alone. -/
def deleteSubject (tables : Tables) (subjectType : SubjectType) (subjectId : Int) : Tables :=
  match subjectType with
  | .user => { tables with users := tables.users.filter fun subject => subject.id ≠ subjectId }
  | .group => { tables with groups := tables.groups.filter fun subject => subject.id ≠ subjectId }

/-- An assignment names a subject by its kind and identifier. -/
def names (subjectType : SubjectType) (subjectId : Int) (grant : Grant) : Bool :=
  grant.row.subjectType = subjectType && grant.row.subjectId = subjectId

/-- The deletion of a node or a preset cascades into the assignments. -/
def replaceCatalogue (tables : Tables) (nodes rolePresets : List Int) : Tables :=
  { tables with
    nodes := nodes
    rolePresets := rolePresets
    assignments := tables.assignments.filter fun grant =>
      grant.row.nodeId ∈ nodes && grant.row.rolePresetId ∈ rolePresets }

end Tables

/-- A request fails with the text of its exception. -/
inductive AssignmentError where
  | keyError (text : String)
  | valueError (text : String)
  | permissionError (text : String)
  deriving DecidableEq

structure AddRequest where
  nodeId : Int
  subjectType : SubjectType
  subjectId : Int
  rolePresetId : Int
  deriving DecidableEq

/-- The message names the kind of the subject. -/
def kindName : SubjectType → String
  | .user => "Nutzer"
  | .group => "Gruppe"

/-- `add_assignment` up to its insert: the node, the preset, the subject and the license limit are checked. -/
def checkAssignment (maxAssignments : Option Int) (tables : Tables) (request : AddRequest) :
    Except AssignmentError Subject :=
  if request.nodeId ∉ tables.nodes then
    .error (.keyError ("Node " ++ toString request.nodeId ++ " nicht gefunden"))
  else if request.rolePresetId ∉ tables.rolePresets then
    .error (.valueError ("Rollenpreset " ++ toString request.rolePresetId ++ " nicht gefunden"))
  else match tables.getSubject request.subjectType request.subjectId with
    | none => .error (.valueError
        (kindName request.subjectType ++ " mit ID " ++ toString request.subjectId ++ " nicht gefunden"))
    | some subject => match maxAssignments with
      | none => .ok subject
      | some limit =>
          if limit ≤ tables.assignments.length then
            .error (.permissionError "license_limit_node_assignments_reached")
          else .ok subject

/-- The foreign keys of the node and the preset and the unique constraint are checked again by the database. -/
def insertable (tables : Tables) (request : AddRequest) : Bool :=
  request.nodeId ∈ tables.nodes && request.rolePresetId ∈ tables.rolePresets &&
    !tables.assignments.any fun grant =>
      Tables.names request.subjectType request.subjectId grant && grant.row.nodeId = request.nodeId

def nextAssignmentId (tables : Tables) : Int :=
  (tables.assignments.map fun grant => grant.row.id).foldl max 0 + 1

/-- The insert of the row for the subject that was found before. -/
def insertAssignment (tables : Tables) (request : AddRequest) (subject : Subject) : Except AssignmentError Tables :=
  if insertable tables request then
    .ok { tables with assignments := tables.assignments ++
      [⟨⟨nextAssignmentId tables, request.nodeId, request.subjectType, request.subjectId, request.rolePresetId⟩,
        subject.born⟩] }
  else .error (.valueError "Dieses Subjekt hat bereits eine Zuweisung auf diesem Node.")

def removeAssignment (tables : Tables) (nodeId : Int) (subjectType : SubjectType) (subjectId : Int) : Tables :=
  { tables with assignments := tables.assignments.filter fun grant =>
      !(grant.row.nodeId = nodeId && Tables.names subjectType subjectId grant) }

/-- `cleanup_assignments_for_user` and `cleanup_assignments_for_group` first read the nodes of the rows. -/
def assignedNodes (tables : Tables) (subjectType : SubjectType) (subjectId : Int) : List Int :=
  (tables.assignments.filter (Tables.names subjectType subjectId)).map fun grant => grant.row.nodeId

/-- Then the row of each of these nodes is deleted, in one transaction. -/
def removeListed (tables : Tables) (nodeIds : List Int) (subjectType : SubjectType) (subjectId : Int) : Tables :=
  nodeIds.foldl (fun tables nodeId => removeAssignment tables nodeId subjectType subjectId) tables

/-- A request that waits for its next statement. A user is deleted after the cleanup, a group before it. -/
inductive Task where
  | adding (request : AddRequest) (subject : Subject)
  | listing (subjectType : SubjectType) (subjectId : Int)
  | removing (subjectType : SubjectType) (subjectId : Int) (nodeIds : List Int)
  | deletingUser (userId : Int)
  | done
  deriving DecidableEq

/-- After its cleanup, successful or not, a user deletion goes on to the row and a group deletion is done. -/
def afterCleanup : SubjectType → Int → Task
  | .user, userId => .deletingUser userId
  | .group, _ => .done

/-- The next statements of a request. -/
def resume (tables : Tables) : Task → Tables × Task
  | .adding request subject => match insertAssignment tables request subject with
    | .ok tables => (tables, .done)
    | .error _ => (tables, .done)
  | .listing subjectType subjectId =>
      (tables, .removing subjectType subjectId (assignedNodes tables subjectType subjectId))
  | .removing subjectType subjectId nodeIds =>
      (removeListed tables nodeIds subjectType subjectId, afterCleanup subjectType subjectId)
  | .deletingUser userId => (tables.deleteSubject .user userId, .done)
  | .done => (tables, .done)

/-- A cleanup that raises has deleted nothing, and its exception is ignored. -/
def failCleanup (tables : Tables) : Task → Tables × Task
  | .listing subjectType subjectId => (tables, afterCleanup subjectType subjectId)
  | .removing subjectType subjectId _ => (tables, afterCleanup subjectType subjectId)
  | task => (tables, task)

/-- A refusal after the cleanup, a database error or a cancellation ends a request. -/
def abandon (tables : Tables) (_ : Task) : Tables × Task := (tables, .done)

/-- Requests arrive, and each waiting one takes its next statements, fails in its cleanup or ends. -/
inductive Event where
  | createSubject (subjectType : SubjectType) (name : String)
  | addAssignment (maxAssignments : Option Int) (request : AddRequest)
  | removeAssignment (nodeId : Int) (subjectType : SubjectType) (subjectId : Int)
  | deleteUser (userId : Int)
  | deleteGroup (groupId : Int)
  | resume (index : Nat)
  | failCleanup (index : Nat)
  | abandon (index : Nat)
  | replaceCatalogue (nodes rolePresets : List Int)
  deriving DecidableEq

abbrev Portal := Interleaved Tables Task

/-- The tables change within one statement or transaction at a time. -/
def step (portal : Portal) : Event → Portal
  | .createSubject subjectType name => { portal with shared := portal.shared.createSubject subjectType name }
  | .addAssignment maxAssignments request => match checkAssignment maxAssignments portal.shared request with
    | .ok subject => portal.spawn (.adding request subject)
    | .error _ => portal
  | .removeAssignment nodeId subjectType subjectId =>
      { portal with shared := NodeAssignments.removeAssignment portal.shared nodeId subjectType subjectId }
  | .deleteUser userId =>
      if (portal.shared.getSubject .user userId).isSome then portal.spawn (.listing .user userId) else portal
  | .deleteGroup groupId =>
      if (portal.shared.getSubject .group groupId).isSome then
        ({ portal with shared := portal.shared.deleteSubject .group groupId } : Portal).spawn (.listing .group groupId)
      else portal
  | .resume index => portal.act NodeAssignments.resume index
  | .failCleanup index => portal.act NodeAssignments.failCleanup index
  | .abandon index => portal.act NodeAssignments.abandon index
  | .replaceCatalogue nodes rolePresets => { portal with shared := portal.shared.replaceCatalogue nodes rolePresets }

/-- The portal starts without subjects and assignments. -/
def Portal.initial : Portal := ⟨{}, []⟩

end P3Portal.NodeAssignments
