import P3Portal.Construction.Auth.TwoFactor
import P3Portal.Construction.Users.Administration

namespace P3Portal.ApiKeys
open Schema Foundation Http Auth Users

def validScopes : List String :=
  ["cluster:read", "jobs:read", "jobs:write", "playbooks:read", "playbooks:write", "packer:read", "packer:write",
    "groups:read", "groups:write", "pools:read", "pools:write", "pools:deploy", "owners:read", "approvals:read",
    "approvals:approve"]

def expiryDaysOptions : List Int := [30, 90, 180, 365]

/-- The edition limits the number of keys, and only hashes of keys and passwords are stored. -/
structure KeySite where
  hashKey : String → String
  hashPassword : String → String
  maxApiKeys : LocalUser → Int

/-- The core edition grants one key to everybody. -/
def coreMaxKeys (_ : LocalUser) : Int := 1

structure UserApiKeyCreateRequest where
  name : String
  scopes : List String
  expiresInDays : Option Int := some 365
  deriving DecidableEq

structure ApiKeySettingsRequest where
  apiKeysEnabled : Bool
  apiKeysAllowedScopes : Option (List String) := none
  apiKeysMaxCount : Option Int := none
  deriving DecidableEq

def sorted (scopes : List String) : List String := scopes.insertionSort (· ≤ ·)

/-- A message shows a set of scopes as a sorted list. -/
def scopeList (scopes : List String) : String :=
  "[" ++ ", ".intercalate ((sorted scopes.dedup).map fun scope => "'" ++ scope ++ "'") ++ "]"

def unknownScopes (scopes : List String) : List String := scopes.filter fun scope => scope ∉ validScopes

/-- The fields of the request are checked before the endpoint runs. -/
def UserApiKeyCreateRequest.validate (body : UserApiKeyCreateRequest) :
    Except HttpException UserApiKeyCreateRequest :=
  let name := strip body.name
  if name = "" then .error ⟨422, "Name must not be empty"⟩
  else if 100 < name.length then .error ⟨422, "Name must not exceed 100 characters"⟩
  else if unknownScopes body.scopes ≠ [] then
    .error ⟨422, "Unknown scopes: " ++ scopeList (unknownScopes body.scopes)⟩
  else if body.scopes = [] then .error ⟨422, "At least one scope required"⟩
  else if body.expiresInDays.any (· ∉ expiryDaysOptions) then
    .error ⟨422, "expires_in_days must be one of [30, 90, 180, 365] or null"⟩
  else .ok { body with name := name }

def ApiKeySettingsRequest.validate (body : ApiKeySettingsRequest) : Except HttpException Unit :=
  let unknown := unknownScopes (body.apiKeysAllowedScopes.getD [])
  if unknown ≠ [] then .error ⟨422, "Unknown scopes: " ++ scopeList unknown⟩
  else if body.apiKeysMaxCount.any fun count => count < 1 || 50 < count then
    .error ⟨422, "api_keys_max_count must be between 1 and 50"⟩
  else .ok ()

section
variable (site : KeySite) (db : Database)

def countActiveUserKeys (userId : Int) : Nat :=
  db.userApiKeys.countP fun key => key.userId = userId && key.isActive

/-- The keys of a disabled account cannot be created or listed. -/
def requireKeysEnabled (username : String) : Except HttpException LocalUser :=
  match getUserByUsername db username with
  | none => .error ⟨403, "User not found"⟩
  | some user =>
      if user.apiKeysEnabled then .ok user
      else .error ⟨403, "API Keys sind für diesen Account nicht aktiviert"⟩

def microsecondsPerDay : Int := 86400 * 1000000

def nextKeyId : Int := (db.userApiKeys.map UserApiKey.id).foldl max 0 + 1

/-- The row of a new key. -/
def newKey (now userId : Int) (body : UserApiKeyCreateRequest) (plaintext : String) : UserApiKey where
  id := nextKeyId db
  userId := userId
  name := body.name
  keyHash := site.hashKey plaintext
  keyPrefix := String.ofList (plaintext.toList.take 12)
  scopes := sorted body.scopes
  expiresAt := body.expiresInDays.map fun days => now + days * microsecondsPerDay

/-- The scopes of a new key are valid and allowed; the hash of a key is unique in the table. -/
def createUserKey (now userId : Int) (body : UserApiKeyCreateRequest) (allowedScopes : Option (List String))
    (plaintext : String) : Except HttpException Database :=
  let forbidden := (allowedScopes.map fun allowed => body.scopes.filter fun scope => scope ∉ allowed).getD []
  if unknownScopes body.scopes ≠ [] then
    .error ⟨422, "Unknown scopes: " ++ scopeList (unknownScopes body.scopes)⟩
  else if body.scopes = [] then .error ⟨422, "At least one scope required"⟩
  else if forbidden ≠ [] then .error ⟨422, "Scopes not allowed by admin: " ++ scopeList forbidden⟩
  else if site.hashKey plaintext ∈ db.userApiKeys.map UserApiKey.keyHash then
    .error ⟨500, "Internal Server Error"⟩
  else .ok { db with userApiKeys := db.userApiKeys ++ [newKey site db now userId body plaintext] }

def createMyApiKey (now : Int) (username : String) (body : UserApiKeyCreateRequest) (plaintext : String) :
    Except HttpException Database :=
  match body.validate with
  | .error exception => .error exception
  | .ok body =>
      match requireKeysEnabled db username with
      | .error exception => .error exception
      | .ok user =>
          if site.maxApiKeys user ≤ countActiveUserKeys db user.id then
            .error ⟨403, "Maximale Key-Anzahl (" ++ toString (site.maxApiKeys user) ++ ") erreicht"⟩
          else createUserKey site db now user.id body user.apiKeysAllowedScopes plaintext

/-- The selected active keys are switched off and the others are kept. -/
def deactivateKeys (selected : UserApiKey → Bool) : Database :=
  { db with userApiKeys := db.userApiKeys.map fun key =>
      if selected key && key.isActive then { key with isActive := false } else key }

def revokeMyApiKey (username : String) (keyId : Int) : Except HttpException Database :=
  match getUserByUsername db username with
  | none => .error ⟨404, "User not found"⟩
  | some user =>
      if db.userApiKeys.any fun key => key.id = keyId && key.userId = user.id && key.isActive then
        .ok (deactivateKeys db fun key => key.id = keyId && key.userId = user.id)
      else .error ⟨404, "API-Key nicht gefunden oder bereits widerrufen"⟩

/-- Switching the keys off deactivates them; a change of the scopes leaves them as they are. -/
def updateUserApiKeySettings (userId : Int) (body : ApiKeySettingsRequest) : Option Database :=
  match getUserById db userId with
  | none => none
  | some user =>
      let updated := updateUsers db (fun row => row.id = userId) fun row =>
        { row with
          apiKeysEnabled := body.apiKeysEnabled
          apiKeysAllowedScopes := body.apiKeysAllowedScopes.map sorted
          apiKeysMaxCount := body.apiKeysMaxCount }
      some (if user.apiKeysEnabled && !body.apiKeysEnabled
        then deactivateKeys updated fun key => key.userId = userId else updated)

def putApiKeySettings (userId : Int) (body : ApiKeySettingsRequest) : Except HttpException Database :=
  match body.validate with
  | .error exception => .error exception
  | .ok () =>
      match updateUserApiKeySettings db userId body with
      | none => .error ⟨404, "User not found"⟩
      | some db => .ok db

def expired (now : Int) (key : UserApiKey) : Bool := key.expiresAt.any (· < now)

/-- The row of a key is joined with the row of its owner. -/
def authenticateUserKey (now : Int) (plaintext : String) : Except String (Option KeyInfo) :=
  match db.userApiKeys.find? fun key => key.keyHash = site.hashKey plaintext with
  | none => .ok none
  | some key =>
      match getUserById db key.userId with
      | none => .ok none
      | some user =>
          if !key.isActive then .error "API key revoked or deactivated"
          else if expired now key then .error "API key expired"
          else if !user.active then .error "User account disabled"
          else if !user.apiKeysEnabled then .error "API keys disabled for this user"
          else .ok (some
            { keyId := key.id
              userId := some key.userId
              username := user.username
              role := user.role
              scopes := key.scopes })
end

/-- The clock counts microseconds and only runs forward. -/
structure KeyState where
  db : Database
  now : Int
  deriving DecidableEq

inductive KeyEvent where
  | wait (elapsed : Nat)
  | createMyApiKey (username : String) (body : UserApiKeyCreateRequest) (plaintext : String)
  | revokeMyApiKey (username : String) (keyId : Int)
  | updateApiKeySettings (userId : Int) (body : ApiKeySettingsRequest)
  | updateLocalUser (userId : Int) (body : UserUpdateRequest)
  | createLocalUser (username password : String) (role : Role)
  | deleteUser (userId : Int)

section
variable (site : KeySite)

/-- An update that would take the last active admin away is refused. -/
def updateRefused (db : Database) (body : UserUpdateRequest) (target : LocalUser) : Bool :=
  wouldLoseAdmin body target && countActiveAdmins db ≤ 1

/-- `PATCH /api/admin/users/{user_id}` behind its permission. -/
def updateLocalUser (db : Database) (userId : Int) (body : UserUpdateRequest) : Database :=
  match getUserById db userId with
  | none => db
  | some target =>
      if updateRefused db body target then db
      else
        let updated := updateUser site.hashPassword db userId body
        if body.active = some false && target.active then revokeAllForUser updated target.username none
        else updated

/-- A refused request leaves the database as it is. -/
def keyStep (state : KeyState) : KeyEvent → KeyState
  | .wait elapsed => { state with now := state.now + elapsed }
  | .createMyApiKey username body plaintext =>
      { state with db := (createMyApiKey site state.db state.now username body plaintext).toOption.getD state.db }
  | .revokeMyApiKey username keyId =>
      { state with db := (revokeMyApiKey state.db username keyId).toOption.getD state.db }
  | .updateApiKeySettings userId body =>
      { state with db := (putApiKeySettings state.db userId body).toOption.getD state.db }
  | .updateLocalUser userId body => { state with db := updateLocalUser site state.db userId body }
  | .createLocalUser username password role =>
      { state with db :=
          if (getUserByUsername state.db username).isSome then state.db
          else Setup.createUser site.hashPassword state.db username password role }
  | .deleteUser userId => { state with db := (Users.deleteUser state.db userId).getD state.db }
end
end P3Portal.ApiKeys
