import P3Portal.Construction.Auth.CurrentUser
import P3Portal.Construction.Nodes.Registry
import P3Portal.Foundation.Interleaving
import P3Portal.Foundation.OrderedMap
import P3Portal.Foundation.PythonText
import P3Portal.Foundation.Run
import P3Portal.Foundation.UriPath

namespace P3Portal.Setup
open Schema Foundation Http Auth

/-- The gate is open until setup is complete and then decodes the token on its own. -/
def requireSetupAccess (setupComplete : Bool) (credentials : Option Bearer) :
    Except HttpException (Option String) :=
  if !setupComplete then .ok none
  else match credentials with
    | none => .error ⟨401, "Setup already complete – admin authentication required"⟩
    | some (.signed claims) =>
        if claims.role ≠ some .admin then .error ⟨403, "Admin required"⟩ else .ok claims.sub
    | some _ => .error ⟨401, "Invalid token"⟩

/-- The schema accepts a filled name and a password of at least twelve characters. -/
structure SetupAdminRequest where
  username : String
  password : String
  confirmPassword : String
  filled : username ≠ ""
  long : 12 ≤ password.length
  deriving DecidableEq

/-- A new row takes the next free identifier. -/
def nextUserId (db : Database) : Int := (db.localUsers.map LocalUser.id).foldl max 0 + 1

def createUser (hashPassword : String → String) (db : Database) (username password : String)
    (role : Role) : Database :=
  { db with localUsers := db.localUsers ++
      [{ id := nextUserId db, username := username, passwordHash := hashPassword password, role := role }] }

/-- An existing account of any role gets the password; a new one becomes an admin. -/
def setupAdmin (hashPassword : String → String) (db : Database) (body : SetupAdminRequest) :
    Except HttpException Database :=
  if body.password ≠ body.confirmPassword then .error ⟨422, "Passwords do not match"⟩
  else if (getUserByUsername db body.username).isSome then
    .ok { db with localUsers := db.localUsers.map fun user =>
      if user.username = body.username then { user with passwordHash := hashPassword body.password }
      else user }
  else .ok (createUser hashPassword db body.username body.password .admin)

/-- A row of `portal_config` holds a plain value or an encrypted secret. -/
structure ConfigRow where
  value : String
  isSecret : Bool := false
  deriving DecidableEq

/-- The key column is the primary key. -/
abbrev PortalConfig := OrderedMap String ConfigRow

/-- The process settings and the Fernet key belong to the running portal. -/
structure ConfigSite where
  settings : String → Option String
  encryptSecret : String → String
  decryptSecret : String → Option String

/-- Only these keys can be overridden from the environment. -/
def envMap : List String :=
  ["proxmox_host", "proxmox_node", "proxmox_verify_ssl", "packer_http_ip", "packer_token_id",
    "packer_token_secret", "proxmox_viewer_token_id", "proxmox_viewer_token_secret",
    "proxmox_operator_token_id", "proxmox_operator_token_secret", "proxmox_admin_token_id",
    "proxmox_admin_token_secret"]

def envValue (site : ConfigSite) (key : String) : Option String :=
  if key ∈ envMap then Text.truthy (site.settings key) else none

/-- A failed read of the rows, an unreadable secret and a missing row all answer nothing. -/
def getConfig (site : ConfigSite) (rows : Option PortalConfig) (key : String) : Option String :=
  match envValue site key with
  | some value => some value
  | none =>
      match rows.bind fun config => config.get? key with
      | none => none
      | some row => if row.isSecret then site.decryptSecret row.value else Text.truthy (some row.value)

/-- A write replaces the row of its key. -/
def setConfig (site : ConfigSite) (config : PortalConfig) (key value : String) (isSecret : Bool) :
    PortalConfig :=
  config.set key ⟨if isSecret then site.encryptSecret value else value, isSecret⟩

def isSetupComplete (site : ConfigSite) (rows : Option PortalConfig) : Bool :=
  getConfig site rows "setup_complete" = some "true"

/-- A failed read always looks like an unfinished setup. -/
@[simp] theorem isSetupComplete_none (site : ConfigSite) : isSetupComplete site none = false := by
  simp [isSetupComplete, getConfig, envValue, envMap]

/-- Only the row of the flag decides. -/
theorem isSetupComplete_congr (site : ConfigSite) {first second : PortalConfig}
    (same : first.get? "setup_complete" = second.get? "setup_complete") :
    isSetupComplete site (some first) = isSetupComplete site (some second) := by
  have answer : getConfig site (some first) "setup_complete" =
      getConfig site (some second) "setup_complete" := by
    simp only [getConfig, Option.bind_some, same]
  unfold isSetupComplete
  rw [answer]

theorem isSetupComplete_stored (site : ConfigSite) (config : PortalConfig) :
    isSetupComplete site (some (setConfig site config "setup_complete" "true" false)) = true := by
  simp [isSetupComplete, getConfig, envValue, envMap, setConfig, Text.truthy]

theorem isSetupComplete_setConfig (site : ConfigSite) (config : PortalConfig) {key value : String}
    {isSecret : Bool} (other : key ≠ "setup_complete") :
    isSetupComplete site (some (setConfig site config key value isSecret)) =
      isSetupComplete site (some config) := by
  apply isSetupComplete_congr
  rw [setConfig, OrderedMap.get?_set, if_neg (Ne.symm other)]

/-- The schema strips the names and accepts a URL of the two web schemes. -/
structure SetupNodeRequest where
  name : String
  url : String
  proxmoxNode : String
  verifySsl : Bool := true
  tokenId : String := ""
  tokenSecret : String := ""
  named : name ≠ "" ∧ proxmoxNode ≠ ""
  web : "http://".toList <+: url.toList ∨ "https://".toList <+: url.toList

structure SetupTokensRequest where
  viewerTokenId : String := ""
  viewerTokenSecret : String := ""
  operatorTokenId : String := ""
  operatorTokenSecret : String := ""
  adminTokenId : String := ""
  adminTokenSecret : String := ""
  packerTokenId : String := ""
  packerTokenSecret : String := ""
  tofuTokenId : String := ""
  tofuTokenSecret : String := ""

structure SetupPortalRequest where
  portalName : String := "P3 Portal"
  packerHttpIp : String := ""

inductive DbType where
  | sqlite
  | postgresql
  deriving DecidableEq

/-- The schema bounds the port; the other fields matter to PostgreSQL only. -/
structure SetupDatabaseRequest where
  dbType : DbType := .sqlite
  host : String := ""
  port : Nat := 5432
  database : String := ""
  username : String := ""
  password : String := ""
  portBounds : 1 ≤ port ∧ port ≤ 65535 := by decide

/-- A request names one of the six write endpoints and carries its body. -/
inductive SetupRequest where
  | admin (body : SetupAdminRequest)
  | node (body : SetupNodeRequest)
  | tokens (body : SetupTokensRequest)
  | portalSettings (body : SetupPortalRequest)
  | database (body : SetupDatabaseRequest)
  | complete

/-- The answers carry the fields of the endpoints; an uncaught database error ends in a crash. -/
inductive SetupAnswer where
  | ok
  | admin (username : String)
  | node (nodeId : Int)
  | database (dbType : DbType)
  | autoLogin (token : Claims)
  | refused (exception : HttpException)
  | crashed
  deriving DecidableEq

/-- The endpoints store these settings besides the flag. -/
inductive SettingKey where
  | proxmoxHost
  | proxmoxNode
  | proxmoxVerifySsl
  | portalName
  | packerHttpIp
  deriving DecidableEq

def SettingKey.name : SettingKey → String
  | .proxmoxHost => "proxmox_host"
  | .proxmoxNode => "proxmox_node"
  | .proxmoxVerifySsl => "proxmox_verify_ssl"
  | .portalName => "portal_name"
  | .packerHttpIp => "packer_http_ip"

theorem SettingKey.name_ne_flag (key : SettingKey) : key.name ≠ "setup_complete" := by
  cases key <;> decide

/-- Every write is committed on its own before the next one starts. -/
inductive Write where
  | updatePassword (username passwordHash : String)
  | createUser (username password : String)
  | saveNode (existing : Option Int) (body : SetupNodeRequest)
  | saveTokens (nodeId : Int) (body : SetupTokensRequest)
  | setting (key : SettingKey) (value : String)
  | dbConfig (url : Option String)

/-- The database rows, the configuration rows and the URL in the file `.db_config` are stored. -/
structure SetupStore where
  db : Database
  config : PortalConfig
  dbConfig : Option String := none

/-- The check of a node URL resolves its host, so it belongs to the running portal. -/
structure SetupSite where
  config : ConfigSite
  hashPassword : String → String
  targetAllowed : String → Bool

/-- A read that fails sees no rows. -/
def SetupStore.read (store : SetupStore) (succeeds : Bool) : Option PortalConfig :=
  if succeeds then some store.config else none

section
variable (site : SetupSite)

/-- `build_postgres_url` escapes the name and the password. -/
def buildPostgresUrl (body : SetupDatabaseRequest) : String :=
  "postgresql+asyncpg://" ++ String.ofList (PercentEncoding.quotePlus body.username.toList) ++ ":" ++
    String.ofList (PercentEncoding.quotePlus body.password.toList) ++ "@" ++ body.host ++ ":" ++
    toString body.port ++ "/" ++ body.database

def nodeRow (body : SetupNodeRequest) : NodeRow where
  id := 0
  name := body.name
  url := body.url
  proxmoxNode := body.proxmoxNode
  verifySsl := body.verifySsl
  tokenId := body.tokenId
  tokenSecret := body.tokenSecret

def nodeUpdate (body : SetupNodeRequest) : Nodes.NodeUpdate where
  name := some body.name
  url := some body.url
  proxmoxNode := some body.proxmoxNode
  verifySsl := some body.verifySsl
  tokenId := some body.tokenId
  tokenSecret := some body.tokenSecret

/-- An empty token field keeps the stored token. -/
def tokensUpdate (body : SetupTokensRequest) : Nodes.NodeUpdate where
  viewerTokenId := Text.truthy (some body.viewerTokenId)
  viewerTokenSecret := Text.truthy (some body.viewerTokenSecret)
  operatorTokenId := Text.truthy (some body.operatorTokenId)
  operatorTokenSecret := Text.truthy (some body.operatorTokenSecret)
  adminTokenId := Text.truthy (some body.adminTokenId)
  adminTokenSecret := Text.truthy (some body.adminTokenSecret)
  packerTokenId := Text.truthy (some body.packerTokenId)
  packerTokenSecret := Text.truthy (some body.packerTokenSecret)
  tofuTokenId := Text.truthy (some body.tofuTokenId)
  tofuTokenSecret := Text.truthy (some body.tofuTokenSecret)

/-- A committed write yields the new store and the answer that the endpoint will give. -/
def Write.commit (store : SetupStore) (answer : SetupAnswer) : Write → SetupStore × SetupAnswer
  | .updatePassword username passwordHash =>
      ({ store with db := { store.db with localUsers := store.db.localUsers.map fun user =>
          if user.username = username then { user with passwordHash := passwordHash } else user } }, answer)
  | .createUser username password =>
      ({ store with db := Setup.createUser site.hashPassword store.db username password .admin }, answer)
  | .saveNode (some nodeId) body =>
      ({ store with db := Nodes.updateNode store.db nodeId (nodeUpdate body) },
        if (Nodes.getNode store.db nodeId).isSome then .node nodeId else .crashed)
  | .saveNode none body =>
      ({ store with db := Nodes.createNode store.db (nodeRow body) }, .node (Nodes.nextNodeId store.db))
  | .saveTokens nodeId body =>
      ({ store with db := Nodes.updateNode store.db nodeId (tokensUpdate body) }, answer)
  | .setting key value =>
      ({ store with config := setConfig site.config store.config key.name value false }, answer)
  | .dbConfig url => ({ store with dbConfig := url }, answer)

/-- The first PostgreSQL field that is empty. -/
def missingField (body : SetupDatabaseRequest) : Option String :=
  [("host", body.host), ("database", body.database), ("username", body.username)].findSome? fun field =>
    if field.2 = "" then some field.1 else none

/-- A body first checks its input and reads the store, and then has writes to commit. -/
def SetupRequest.start (store : SetupStore) (succeeds : Bool) :
    SetupRequest → Except SetupAnswer (List Write × SetupAnswer)
  | .admin body =>
      if body.password ≠ body.confirmPassword then .error (.refused ⟨422, "Passwords do not match"⟩)
      else if !succeeds then .error .crashed
      else if (getUserByUsername store.db body.username).isSome then
        .ok ([.updatePassword body.username (site.hashPassword body.password)], .admin body.username)
      else .ok ([.createUser body.username body.password], .admin body.username)
  | .node body =>
      if !site.targetAllowed body.url then .error (.refused ⟨400, "Target address blocked"⟩)
      else if !succeeds then .error .crashed
      else .ok ([.saveNode ((Nodes.getDefaultNode store.db).map NodeRow.id) body,
        .setting .proxmoxHost body.url, .setting .proxmoxNode body.proxmoxNode,
        .setting .proxmoxVerifySsl (if body.verifySsl then "true" else "false")], .crashed)
  | .tokens body =>
      if !succeeds then .error .crashed
      else match Nodes.getDefaultNode store.db with
        | none => .error (.refused ⟨400, "No Proxmox node configured yet – complete Step 2 first"⟩)
        | some stored => .ok ([.saveTokens stored.id body], .ok)
  | .portalSettings body =>
      .ok ((if body.portalName ≠ "" then [.setting .portalName body.portalName] else []) ++
        (if body.packerHttpIp ≠ "" then [.setting .packerHttpIp body.packerHttpIp] else []), .ok)
  | .database body =>
      match body.dbType with
      | .sqlite => .ok ([.dbConfig none], .database .sqlite)
      | .postgresql =>
          match missingField body with
          | some field => .error (.refused ⟨422, field ++ " is required for PostgreSQL"⟩)
          | none => .ok ([.dbConfig (some (buildPostgresUrl body))], .database .postgresql)
  | .complete =>
      if !succeeds then .error .crashed
      else if Nodes.countNodes store.db = 0 then
        .error (.refused ⟨400, "At least one Proxmox node must be configured before completing setup"⟩)
      else .ok ([], .ok)

/-- The active admin with the least identifier is logged in. -/
def setupAdminUser (db : Database) : Option LocalUser :=
  ((db.localUsers.filter fun user => user.role = .admin && user.active).insertionSort
    fun left right => left.id ≤ right.id).head?

/-- A request waits for the gate, runs its body between two database operations, or has its answer. -/
inductive Phase where
  | arrived
  | admitted
  | writing (pending : List Write) (answer : SetupAnswer)
  | counted
  | storing (firstCompletion : Bool)
  | selecting
  | finished (answer : SetupAnswer)

structure SetupCall where
  request : SetupRequest
  credentials : Option Bearer
  phase : Phase := .arrived

/-- The calls share the store and the automatic tokens issued so far. -/
structure SetupShared where
  store : SetupStore
  issued : List Claims := []

abbrev SetupState := Interleaved SetupShared SetupCall

/-- After its first read a completion goes on to its own second read; the other bodies write. -/
def startPhase (store : SetupStore) (succeeds : Bool) (request : SetupRequest) : Phase :=
  match request.start site store succeeds with
  | .error answer => .finished answer
  | .ok (pending, answer) =>
      match request with
      | .complete => .counted
      | _ => .writing pending answer

/-- A call runs to its next database operation, which fails or succeeds. -/
def SetupCall.advance (succeeds : Bool) (jti : String) (shared : SetupShared) (call : SetupCall) :
    SetupShared × SetupCall :=
  match call.phase with
  | .arrived =>
      match requireSetupAccess (isSetupComplete site.config (shared.store.read succeeds)) call.credentials with
      | .error exception => (shared, { call with phase := .finished (.refused exception) })
      | .ok _ => (shared, { call with phase := .admitted })
  | .admitted => (shared, { call with phase := startPhase site shared.store succeeds call.request })
  | .writing [] answer => (shared, { call with phase := .finished answer })
  | .writing (write :: rest) answer =>
      if !succeeds then (shared, { call with phase := .finished .crashed })
      else
        let (store, answer) := write.commit site shared.store answer
        ({ shared with store := store }, { call with phase := .writing rest answer })
  | .counted =>
      (shared, { call with phase := .storing !isSetupComplete site.config (shared.store.read succeeds) })
  | .storing firstCompletion =>
      if !succeeds then (shared, { call with phase := .finished .crashed })
      else
        ({ shared with store := { shared.store with
            config := setConfig site.config shared.store.config "setup_complete" "true" false } },
          { call with phase := if firstCompletion then .selecting else .finished .ok })
  | .selecting =>
      match (if succeeds then setupAdminUser shared.store.db else none).filter (·.username ≠ "") with
      | none => (shared, { call with phase := .finished .ok })
      | some user =>
          let token := createAccessToken user.username .localUser .admin jti false user.portalPermissions false
          ({ shared with issued := token :: shared.issued }, { call with phase := .finished (.autoLogin token) })
  | .finished _ => (shared, call)

/-- Requests arrive and take turns while the rest of the portal writes anything but the flag. -/
inductive SetupEvent where
  | request (request : SetupRequest) (credentials : Option Bearer)
  | advance (index : Nat) (succeeds : Bool) (jti : String)
  | elsewhere (store : SetupStore)

def setupStep (state : SetupState) : SetupEvent → SetupState
  | .request request credentials => state.spawn { request := request, credentials := credentials }
  | .advance index succeeds jti => state.act (SetupCall.advance site succeeds jti) index
  | .elsewhere store =>
      if store.config.get? "setup_complete" = state.shared.store.config.get? "setup_complete" then
        { state with shared := { state.shared with store := store } }
      else state

/-- A history starts without calls. -/
def setupStart (store : SetupStore) : SetupState := ⟨{ store := store }, []⟩
end
end P3Portal.Setup
