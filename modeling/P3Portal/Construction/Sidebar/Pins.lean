import P3Portal.Foundation.JsonReader
import P3Portal.Foundation.PythonNumber
import P3Portal.Foundation.Renumber
import Mathlib.Data.List.Sort

namespace P3Portal.Sidebar
open Foundation

/-- The kinds that the request and the check constraint of the table allow. -/
inductive PinKind where
  | systemSettingsTab
  | systemSettingsSubTab
  | vm
  | lxc
  | node
  | nodeTab
  | pool
  | group
  | other
  deriving DecidableEq

/-- A row of `user_sidebar_pins`. -/
structure Pin where
  id : Int
  userId : Int
  route : String
  label : Option String
  position : Int
  pinKind : PinKind
  resourceRef : Option String
  createdAt : String
  deriving DecidableEq

/-- Core has a hard limit, Plus a warning and a cap. -/
def coreMaxSidebarPins : Int := 5
def plusSoftWarnPins : Int := 10
def plusHardMaxPins : Int := 25

/-- A request fails with the text of its exception. -/
inductive PinError where
  | permissionError (text : String)
  | valueError (text : String)
  deriving DecidableEq

/-- A position is written to the row with the identifier. -/
def positioned : Positioned Pin where
  key := Pin.id
  position := Pin.position
  place pin index := { pin with position := index }
  key_place _ _ := rfl
  position_place _ _ := rfl
  place_place _ _ _ := rfl

def ownedBy (userId : Int) (pin : Pin) : Bool := pin.userId = userId

/-- `SELECT * … WHERE user_id = :uid ORDER BY position ASC` -/
def pinsOf (userId : Int) (pins : List Pin) : List Pin :=
  (pins.filter (ownedBy userId)).insertionSort fun left right => left.position ≤ right.position

/-- The identifiers are read in the order of the positions, and each row gets its place in it. -/
def compactifyPositions (userId : Int) (pins : List Pin) : List Pin :=
  positioned.renumber (fun _ => true) ((pinsOf userId pins).map Pin.id) pins

/-- The permission that a settings tab needs besides the login. -/
def permForTab (route : String) : Option String :=
  if route = "/system-settings?sub=groups&tab=users" then some "manage_groups"
  else if route = "/system-settings?tab=pools" then some "manage_pools"
  else none

/-- The caller of a list request, and what the other tables hold then. The pool lookup belongs to Plus. -/
structure StaleContext where
  userPermissions : List String
  isAdmin : Bool
  isPlus : Bool
  nodeIds : List Int
  groupIds : List Int
  nodeNames : List String
  existingPoolIds : List Int → List Int

def isTabStale (context : StaleContext) (route : String) : Bool :=
  match permForTab route with
  | none => false
  | some required =>
      if required = "manage_pools" && !context.isPlus then true
      else required ∉ context.userPermissions && !context.isAdmin

/-- A reference that is no number or names no row is stale. -/
def missing (ids : List Int) (ref : String) : Option String :=
  match Number.intOfText ref with
  | some id => if id ∈ ids then none else some "not_found"
  | none => some "not_found"

/-- The part of a reference before its first colon. -/
def beforeColon (ref : String) : String := String.ofList (ref.toList.takeWhile (· ≠ ':'))

/-- The reason for which a pin is stale. -/
def isPinStale (context : StaleContext) (poolIds : List Int) (pin : Pin) : Option String :=
  match pin.pinKind with
  | .systemSettingsTab | .systemSettingsSubTab =>
      if isTabStale context pin.route then some "permission_lost" else none
  | .node => pin.resourceRef.bind (missing context.nodeIds)
  | .pool => if !context.isPlus then some "plus_lost" else pin.resourceRef.bind (missing poolIds)
  | .group => pin.resourceRef.bind (missing context.groupIds)
  | .nodeTab => pin.resourceRef.bind fun ref => if ref ∈ context.nodeNames then none else some "not_found"
  | .vm | .lxc => pin.resourceRef.bind fun ref => missing context.nodeIds (beforeColon ref)
  | .other => none

/-- The pool references of the listed pins, for the lookup of Plus. -/
def candidatePoolIds (pins : List Pin) : List Int :=
  pins.filterMap fun pin =>
    if pin.pinKind = .pool then pin.resourceRef.bind Number.intOfText else none

/-- `_run_stale_cleanup` deletes the stale pins of the caller and closes the gaps. -/
def runStaleCleanup (context : StaleContext) (userId : Int) (pins : List Pin) : List Pin × List Pin :=
  let listed := pinsOf userId pins
  let poolIds := context.existingPoolIds (candidatePoolIds listed)
  let staleIds := (listed.filter fun pin => (isPinStale context poolIds pin).isSome).map Pin.id
  if staleIds = [] then (pins, listed)
  else
    let pins := compactifyPositions userId (pins.filter fun pin => pin.id ∉ staleIds)
    (pins, pinsOf userId pins)

/-- The request of a new pin, the edition at that time and the soft limit of the Plus behaviour. -/
structure AddPin where
  userId : Int
  isPlus : Bool
  softMax : Int
  route : String
  label : Option String
  pinKind : PinKind
  resourceRef : Option String
  now : String

/-- The limit that a new pin meets. -/
def AddPin.limit (request : AddPin) : Int := if request.isPlus then plusHardMaxPins else request.softMax

def limitReached (detail edition : String) (current limit : Int) : PinError :=
  .permissionError (Json.object
    [("detail", Json.quoted detail), ("current", toString current), ("max", toString limit),
      ("edition", Json.quoted edition)])

/-- `COALESCE(MAX(position), -1) + 1` over the pins of the user -/
def nextPosition (userId : Int) (pins : List Pin) : Int :=
  (((pins.filter (ownedBy userId)).map Pin.position).max?).getD (-1) + 1

/-- A new row takes the next free identifier. -/
def nextPinId (pins : List Pin) : Int := (pins.map Pin.id).foldl max 0 + 1

/-- A limit is checked before the row is inserted, and a second row for the route is refused. -/
def addPin (request : AddPin) (pins : List Pin) : Except PinError (List Pin × Pin × Option String) :=
  let currentCount : Int := (pins.filter (ownedBy request.userId)).length
  if request.limit ≤ currentCount then
    .error (if request.isPlus then limitReached "pin_hard_limit_reached" "plus" currentCount plusHardMaxPins
      else limitReached "pin_limit_reached" "core" currentCount request.softMax)
  else if pins.any fun pin => pin.userId = request.userId && pin.route = request.route then
    .error (.valueError ("Route '" ++ request.route ++ "' ist bereits gepinnt."))
  else
    let pin : Pin :=
      { id := nextPinId pins
        userId := request.userId
        route := request.route
        label := request.label
        position := nextPosition request.userId pins
        pinKind := request.pinKind
        resourceRef := request.resourceRef
        createdAt := request.now }
    .ok (pins ++ [pin], pin,
      if request.isPlus && plusSoftWarnPins < currentCount + 1 then some "pin_soft_limit" else none)

/-- A pin of another user is as unknown as a missing one. -/
def findPin (pinId userId : Int) (pins : List Pin) : Option Pin :=
  pins.find? fun pin => pin.id = pinId && ownedBy userId pin

def updatePinLabel (pinId userId : Int) (label : Option String) (pins : List Pin) : List Pin × Option Pin :=
  match findPin pinId userId pins with
  | none => (pins, none)
  | some _ =>
      let pins := pins.map fun pin => if pin.id = pinId then { pin with label := label } else pin
      (pins, pins.find? fun pin => pin.id = pinId)

def deletePin (pinId userId : Int) (pins : List Pin) : List Pin × Bool :=
  match findPin pinId userId pins with
  | none => (pins, false)
  | some _ => (compactifyPositions userId (pins.filter fun pin => pin.id ≠ pinId), true)

def renderIds (ids : List Int) : String := "[" ++ ", ".intercalate (ids.map toString) ++ "]"

/-- The request has to name the pins of the user and no others. The rows are updated one identifier after the
other. -/
def reorderPins (userId : Int) (pinIds : List Int) (pins : List Pin) : Except PinError (List Pin × List Pin) :=
  let existing := (pins.filter (ownedBy userId)).map Pin.id
  if sameKeys pinIds existing then
    let pins := positioned.renumber (ownedBy userId) pinIds pins
    .ok (pins, pinsOf userId pins)
  else
    .error (.valueError (Json.object
      [("detail", Json.quoted "reorder_mismatch"), ("expected_count", toString existing.length),
        ("got_count", toString pinIds.length),
        ("current_ids", renderIds (existing.insertionSort (· ≤ ·)))]))

/-- The pins that refer to a deleted pool, group or node go, and the gaps of their users are closed. -/
def cleanupPinsForResource (resourceKind : PinKind) (resourceRef : String) (pins : List Pin) : List Pin :=
  let rows := pins.filter fun pin => pin.pinKind = resourceKind && pin.resourceRef = some resourceRef
  let staleIds := rows.map Pin.id
  let affectedUsers := (rows.map Pin.userId).dedup
  if rows = [] then pins
  else affectedUsers.foldl (fun pins userId => compactifyPositions userId pins)
    (pins.filter fun pin => pin.id ∉ staleIds)

/-- The requests of users, and the hook of a deleted resource. -/
inductive PinEvent where
  | add (request : AddPin)
  | updateLabel (pinId userId : Int) (label : Option String)
  | delete (pinId userId : Int)
  | reorder (userId : Int) (pinIds : List Int)
  | list (context : StaleContext) (userId : Int)
  | cleanupResource (resourceKind : PinKind) (resourceRef : String)

/-- A refused request changes nothing. -/
def pinStep (pins : List Pin) : PinEvent → List Pin
  | .add request => match addPin request pins with
    | .ok result => result.1
    | .error _ => pins
  | .updateLabel pinId userId label => (updatePinLabel pinId userId label pins).1
  | .delete pinId userId => (deletePin pinId userId pins).1
  | .reorder userId pinIds => match reorderPins userId pinIds pins with
    | .ok result => result.1
    | .error _ => pins
  | .list context userId => (runStaleCleanup context userId pins).1
  | .cleanupResource resourceKind resourceRef => cleanupPinsForResource resourceKind resourceRef pins

end P3Portal.Sidebar
