import P3Portal.Construction.Database.Schema
import P3Portal.Construction.Http.Failure
import P3Portal.Foundation.KeyedRows
import P3Portal.Foundation.PythonText

namespace P3Portal.Auth
open Schema Foundation Http

/-- A login happens against Proxmox or against the table of local users. -/
inductive AuthType where
  | proxmox
  | localUser
  deriving DecidableEq

/-- The token and the audit log store the kind under this name. -/
def AuthType.name : AuthType → String
  | .proxmox => "proxmox"
  | .localUser => "local"

/-- The payload of a validly signed token; any claim may be missing. -/
structure Claims where
  sub : Option String := none
  stage : Option String := none
  authType : Option AuthType := none
  role : Option Role := none
  jti : Option String := none
  mustChangePw : Bool := false
  mustSetup2fa : Bool := false
  portalPermissions : List String := []
  deriving DecidableEq

/-- A request carries a personal key, a token that the portal signed, or some other text. -/
inductive Bearer where
  | apiKey (key : String)
  | signed (claims : Claims)
  | unsigned
  deriving DecidableEq

def createAccessToken (subject : String) (authType : AuthType) (role : Role) (jti : String)
    (mustChangePw : Bool) (portalPermissions : List String) (mustSetup2fa : Bool) : Claims where
  sub := some subject
  authType := some authType
  role := some role
  jti := some jti
  mustChangePw := mustChangePw
  portalPermissions := portalPermissions
  mustSetup2fa := mustSetup2fa

/-- The token between the two login steps carries only its stage. -/
def createPreAuthToken (subject jti : String) : Claims where
  sub := some subject
  stage := some "2fa"
  jti := some jti

def createSession (db : Database) (id username jti : String) : Database :=
  { db with userSessions := db.userSessions ++ [⟨id, username, jti, false⟩] }

/-- A token without a stored session counts as not revoked. -/
def isJtiRevoked (db : Database) (jti : String) : Bool :=
  match db.userSessions.find? fun row => row.jti = jti with
  | none => false
  | some row => row.revoked

/-- Every revocation marks the selected rows and keeps the others. -/
def revokeWhere (db : Database) (selected : UserSession → Bool) : Database :=
  { db with userSessions := db.userSessions.map fun row =>
      if selected row then { row with revoked := true } else row }

def revokeSessionById (db : Database) (sessionId username : String) : Database :=
  revokeWhere db fun row => row.id = sessionId && row.username = username

def revokeAllExceptJti (db : Database) (username currentJti : String) : Database :=
  revokeWhere db fun row => row.username = username && row.jti ≠ currentJti

def revokeSessionByJti (db : Database) (jti : String) : Database :=
  revokeWhere db fun row => row.jti = jti

/-- The sessions of a user are revoked after a reset, a deactivation or a password change. -/
def revokeAllForUser (db : Database) (username : String) (exceptJti : Option String) : Database :=
  match exceptJti with
  | some jti => if jti = "" then revokeWhere db fun row => row.username = username
      else revokeAllExceptJti db username jti
  | none => revokeWhere db fun row => row.username = username

/-- The sessions are kept apart from the accounts. -/
@[simp] theorem revokeWhere_localUsers (db : Database) (selected : UserSession → Bool) :
    (revokeWhere db selected).localUsers = db.localUsers := rfl

@[simp] theorem revokeAllForUser_localUsers (db : Database) (username : String) (exceptJti : Option String) :
    (revokeAllForUser db username exceptJti).localUsers = db.localUsers := by
  unfold revokeAllForUser revokeAllExceptJti
  split
  · split <;> rfl
  · rfl

@[simp] theorem revokeAllForUser_userApiKeys (db : Database) (username : String) (exceptJti : Option String) :
    (revokeAllForUser db username exceptJti).userApiKeys = db.userApiKeys := by
  unfold revokeAllForUser revokeAllExceptJti
  split
  · split <;> rfl
  · rfl

/-- A request carries a session token or a personal API key. -/
inductive AuthKind where
  | jwt
  | upk
  deriving DecidableEq

/-- The dependency hands this record to every endpoint. -/
structure CurrentUser where
  username : String
  authType : AuthType
  role : Role
  jti : Option String := none
  mustChangePw : Bool := false
  mustSetup2fa : Bool := false
  portalPermissions : List String := []
  userId : Option Int := none
  authKind : AuthKind := .jwt
  scopes : Option (List String) := none
  apiKeyId : Option Int := none
  deriving DecidableEq

def getUserByUsername (db : Database) (username : String) : Option LocalUser :=
  db.localUsers.find? fun user => user.username = username

def getUserById (db : Database) (userId : Int) : Option LocalUser :=
  db.localUsers.find? fun user => user.id = userId

theorem getUserByUsername_spec {db : Database} {username : String} {user : LocalUser}
    (found : getUserByUsername db username = some user) : user ∈ db.localUsers ∧ user.username = username :=
  find?_key_spec found

theorem getUserById_spec {db : Database} {userId : Int} {user : LocalUser}
    (found : getUserById db userId = some user) : user ∈ db.localUsers ∧ user.id = userId :=
  find?_key_spec found

def countActiveAdmins (db : Database) : Nat :=
  (db.localUsers.filter fun user => user.role = .admin && user.active).length

/-- The session table answers, does not exist yet, or cannot be read. -/
inductive TableHealth where
  | ready
  | missing
  | failing
  deriving DecidableEq

/-- The key service returns the stored data of an accepted personal key. -/
structure KeyInfo where
  keyId : Int
  userId : Option Int
  username : String
  role : Role
  scopes : List String
  deriving DecidableEq

/-- A token with an identifier is checked against the stored sessions; a missing table lets it pass
and an unreadable one does not. -/
def checkSession (db : Database) (table : TableHealth) (jti : Option String) :
    Except HttpException Unit :=
  match Text.truthy jti with
  | none => .ok ()
  | some jti =>
      match table with
      | .ready => if isJtiRevoked db jti then .error ⟨401, "Session revoked"⟩ else .ok ()
      | .missing => .ok ()
      | .failing => .error ⟨503, "Session konnte nicht verifiziert werden"⟩

def getCurrentUser (authenticateUserKey : String → Except String (Option KeyInfo)) (db : Database)
    (table : TableHealth) : Option Bearer → Except HttpException CurrentUser
  | none => .error ⟨401, "Not authenticated"⟩
  | some (.apiKey key) =>
      match authenticateUserKey key with
      | .error reason => .error ⟨401, reason⟩
      | .ok none => .error ⟨401, "Invalid or missing API key"⟩
      | .ok (some info) => .ok
          { username := info.username
            authType := .localUser
            role := info.role
            portalPermissions := ((info.userId.bind (getUserById db)).map
              LocalUser.portalPermissions).getD []
            userId := info.userId
            authKind := .upk
            scopes := some info.scopes
            apiKeyId := some info.keyId }
  | some .unsigned => .error ⟨401, "Invalid or expired token"⟩
  | some (.signed claims) =>
      if claims.stage = some "2fa" then .error ⟨401, "Invalid or expired token"⟩
      else match Text.truthy claims.sub with
        | none => .error ⟨401, "Invalid or expired token"⟩
        | some username =>
            let authType := claims.authType.getD .proxmox
            match checkSession db table claims.jti with
            | .error exception => .error exception
            | .ok () => .ok
                { username := username
                  authType := authType
                  role := claims.role.getD .operator
                  jti := claims.jti
                  mustChangePw := claims.mustChangePw
                  mustSetup2fa := claims.mustSetup2fa
                  portalPermissions := claims.portalPermissions
                  userId := if authType = .localUser
                    then (getUserByUsername db username).map LocalUser.id else none }

/-- The user administration is open to admins and to holders of the portal permission. -/
def requireAdminOr (permission : String) (user : CurrentUser) : Except HttpException CurrentUser :=
  if user.role = .admin || user.portalPermissions.contains permission then .ok user
  else .error ⟨403, "Admin privileges required"⟩
end P3Portal.Auth
