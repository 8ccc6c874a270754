import Mathlib.Data.Finset.Basic
import Mathlib.Data.List.Sort
import P3Portal.Construction.Database.Schema
import P3Portal.Construction.Http.Failure
import P3Portal.Foundation.PythonText

namespace P3Portal.Nodes
open Schema Foundation Http

/-- The parsed member list drops blank names. -/
def parseClusterNodes (raw : List String) : List String := raw.filter (· ≠ "")

/-- `ORDER BY is_default DESC` keeps the scan order of equal rows. -/
def defaultFirst (rows : List NodeRow) : List NodeRow :=
  rows.insertionSort fun left right => right.isDefault → left.isDefault

/-- `ORDER BY position ASC, is_default DESC, id ASC` compares the three columns in turn. -/
def precedes (left right : NodeRow) : Bool :=
  left.position < right.position || (left.position = right.position &&
    ((left.isDefault && !right.isDefault) ||
      (left.isDefault = right.isDefault && left.id ≤ right.id)))

def listNodes (db : Database) : List NodeRow :=
  db.nodes.insertionSort fun left right => precedes left right = true

def getNode (db : Database) (nodeId : Int) : Option NodeRow :=
  db.nodes.find? fun row => row.id = nodeId

/-- The default node is the first flagged row, or the row with the least id. -/
def getDefaultNode (db : Database) : Option NodeRow :=
  match db.nodes.find? fun row => row.isDefault with
  | some row => some row
  | none => (db.nodes.insertionSort fun left right => left.id ≤ right.id).head?

/-- A primary name wins over a member name, and a default node wins among equal matches. -/
def getNodeForProxmoxName (db : Database) (proxmoxNode : String) : Option NodeRow :=
  match (defaultFirst (db.nodes.filter fun row => row.proxmoxNode = proxmoxNode)).head? with
  | some row => some row
  | none => (defaultFirst db.nodes).find? fun row =>
      (parseClusterNodes row.clusterNodes).contains proxmoxNode

def countNodes (db : Database) : Nat := db.nodes.length

/-- A new row takes the next free identifier. -/
def nextNodeId (db : Database) : Int := (db.nodes.map NodeRow.id).foldl max 0 + 1

/-- The first node becomes the default. -/
def createNode (db : Database) (row : NodeRow) : Database :=
  { db with nodes := db.nodes ++
      [{ row with
          id := nextNodeId db
          url := Text.rstrip '/' row.url
          isDefault := countNodes db = 0 }] }

/-- An absent field keeps the stored column. -/
structure NodeUpdate where
  name : Option String := none
  url : Option String := none
  proxmoxNode : Option String := none
  verifySsl : Option Bool := none
  tokenId : Option String := none
  tokenSecret : Option String := none
  viewerTokenId : Option String := none
  viewerTokenSecret : Option String := none
  operatorTokenId : Option String := none
  operatorTokenSecret : Option String := none
  adminTokenId : Option String := none
  adminTokenSecret : Option String := none
  packerTokenId : Option String := none
  packerTokenSecret : Option String := none
  tofuTokenId : Option String := none
  tofuTokenSecret : Option String := none
  clusterNodes : Option (List String) := none
  deriving DecidableEq

/-- An empty name, URL or Proxmox name also keeps the column; an empty token clears it. -/
def NodeUpdate.apply (update : NodeUpdate) (row : NodeRow) : NodeRow :=
  { row with
    name := Text.orElse update.name row.name
    url := Text.orElse ((Text.truthy update.url).map (Text.rstrip '/')) row.url
    proxmoxNode := Text.orElse update.proxmoxNode row.proxmoxNode
    verifySsl := update.verifySsl.getD row.verifySsl
    tokenId := update.tokenId.getD row.tokenId
    tokenSecret := update.tokenSecret.getD row.tokenSecret
    viewerTokenId := update.viewerTokenId.getD row.viewerTokenId
    viewerTokenSecret := update.viewerTokenSecret.getD row.viewerTokenSecret
    operatorTokenId := update.operatorTokenId.getD row.operatorTokenId
    operatorTokenSecret := update.operatorTokenSecret.getD row.operatorTokenSecret
    adminTokenId := update.adminTokenId.getD row.adminTokenId
    adminTokenSecret := update.adminTokenSecret.getD row.adminTokenSecret
    packerTokenId := update.packerTokenId.getD row.packerTokenId
    packerTokenSecret := update.packerTokenSecret.getD row.packerTokenSecret
    tofuTokenId := update.tofuTokenId.getD row.tofuTokenId
    tofuTokenSecret := update.tofuTokenSecret.getD row.tofuTokenSecret
    clusterNodes := update.clusterNodes.getD (parseClusterNodes row.clusterNodes) }

def updateNode (db : Database) (nodeId : Int) (update : NodeUpdate) : Database :=
  { db with nodes := db.nodes.map fun row => if row.id = nodeId then update.apply row else row }

/-- The members of a portal node whose updates are read. -/
def allMembers (node : NodeRow) : List String :=
  (parseClusterNodes node.clusterNodes).foldl
    (fun members member => if member ≠ "" ∧ member ∉ members then members ++ [member] else members)
    (if node.proxmoxNode ≠ "" then [node.proxmoxNode] else [])

/-- The nodes of an installation among which an action of the HA manager moves a guest. -/
def installationNodes (nodeRow : NodeRow) : Finset String :=
  (if nodeRow.proxmoxNode ≠ "" then {nodeRow.proxmoxNode} else ∅) ∪
    ((parseClusterNodes nodeRow.clusterNodes).filter (· ≠ "")).toFinset

/-- The targets that the page of a guest on a node offers. -/
def getMigrationTargets (db : Database) (pveNode : String) : List String :=
  let targets :=
    match getNodeForProxmoxName db pveNode with
    | some nodeRow => (parseClusterNodes nodeRow.clusterNodes).filter fun name => name ≠ "" && name ≠ pveNode
    | none => []
  targets.insertionSort (· ≤ ·)

/-- The characters of a node name in a request. -/
def isNodeName (name : String) : Bool :=
  name ≠ "" && name.toList.all fun character => character.isAlphanum || ['.', '_', '-'].contains character

def validTarget (targetNode : String) : Except String String :=
  if targetNode = "" then .error "String should have at least 1 character"
  else if isNodeName (Text.strip targetNode) then .ok (Text.strip targetNode)
  else .error "target_node contains invalid characters"

/-- The check of `migrate_vm` that the target is another node of the cluster. -/
def checkTarget (db : Database) (pveNode targetNode : String) : Except HttpException Unit :=
  let validTargets :=
    match getNodeForProxmoxName db pveNode with
    | some nodeRow => (parseClusterNodes nodeRow.clusterNodes).toFinset
    | none => ∅
  if targetNode ∈ validTargets.erase pveNode then .ok ()
  else .error ⟨422, "'" ++ targetNode ++ "' ist keine gültige Ziel-Node dieses Clusters"⟩
end P3Portal.Nodes
