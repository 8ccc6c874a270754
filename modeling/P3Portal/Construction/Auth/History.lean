import P3Portal.Construction.Auth.TwoFactor
import P3Portal.Construction.Jobs.LogSocket
import P3Portal.Construction.Setup.Wizard
import P3Portal.Foundation.Run

namespace P3Portal.Auth
open Schema Foundation Http Setup Jobs

/-- The password hash and the key service are parts of the running portal. -/
structure Site where
  hashPassword : String → String
  authenticateUserKey : Database → String → Except String (Option KeyInfo)

/-- The state holds the stored rows, the health of the session table, whether setup is complete, and
the tokens that the portal has signed so far. -/
structure AuthState where
  db : Database
  table : TableHealth := .ready
  setupComplete : Bool := true
  issued : List Claims := []
  deriving DecidableEq

/-- These requests and failures make up a history. -/
inductive Event where
  | login (username jti : String) (stored : Bool)
  | loginLocal (username password jti : String) (requiredForRole stored : Bool)
  | login2fa (token : Bearer) (codeAccepted : Bool) (jti : String) (stored : Bool)
  | logout (token : Bearer)
  | revokeSession (token : Bearer) (sessionId : String)
  | revokeOtherSessions (token : Bearer)
  | changePassword (token : Bearer) (currentPassword newPassword jti : String)
  | createLocalUser (token : Bearer) (username password : String) (role : Role)
  | updateLocalUser (token : Bearer) (userId : Int) (password : Option String) (role : Option Role)
      (active : Option Bool)
  | resetUserPassword (token : Bearer) (userId : Int) (newPassword : String)
  | deleteLocalUser (token : Bearer) (userId : Int)
  | setTotp (userId : Int) (enabled : Bool)
  | tableHealth (table : TableHealth)
  | setupAdmin (token : Bearer) (body : SetupAdminRequest)
  | jobLogs (token : Bearer) (jobId : String)
  deriving DecidableEq

section
variable (site : Site)

def AuthState.currentUser (state : AuthState) (token : Bearer) : Except HttpException CurrentUser :=
  getCurrentUser (site.authenticateUserKey state.db) state.db state.table (some token)

/-- A user that the dependency accepts with the permission to manage users. -/
def AuthState.userManager (state : AuthState) (token : Bearer) : Except HttpException CurrentUser :=
  (state.currentUser site token).bind (requireAdminOr "manage_users")

/-- The rows that a change selects are changed and the others are kept. -/
def updateUsers (db : Database) (selected : LocalUser → Bool) (change : LocalUser → LocalUser) : Database :=
  { db with localUsers := db.localUsers.map fun user => if selected user then change user else user }

theorem getUserById_updateUsers {db : Database} {selected : LocalUser → Bool} {change : LocalUser → LocalUser}
    (named : ∀ row, (change row).id = row.id) (userId : Int) :
    getUserById (updateUsers db selected change) userId =
      (getUserById db userId).map fun row => if selected row then change row else row :=
  find?_map_selected (fun row => selected row) named userId

/-- A column that the change keeps is the same in all rows. -/
theorem updateUsers_column {A : Type} (db : Database) (selected : LocalUser → Bool) {column : LocalUser → A}
    {change : LocalUser → LocalUser} (named : ∀ row, column (change row) = column row) :
    (updateUsers db selected change).localUsers.map column = db.localUsers.map column :=
  map_column_selected (fun row => selected row) named

/-- A new token is remembered, and its session is stored unless that write fails. -/
def AuthState.issue (state : AuthState) (claims : Claims) (username jti : String) (stored : Bool) : AuthState :=
  { state with
    db := if stored then createSession state.db jti username jti else state.db
    issued := claims :: state.issued }

/-- The full token of a local login carries the stored role and permissions. -/
def issueLocalToken (user : LocalUser) (jti : String) (mustSetup2fa : Bool) : Claims :=
  createAccessToken user.username .localUser user.role jti user.mustChangePassword
    user.portalPermissions mustSetup2fa

/-- A successful first step yields the full token, or the half token when a second factor is set. -/
def loginLocal (state : AuthState) (username password jti : String) (requiredForRole stored : Bool) :
    AuthState :=
  match getUserByUsername state.db username with
  | none => state
  | some user =>
      if user.passwordHash ≠ site.hashPassword password || !user.active then state
      else if user.totpEnabled then
        { state with issued := createPreAuthToken user.username jti :: state.issued }
      else state.issue (issueLocalToken user jti requiredForRole) user.username jti stored

/-- The second step accepts the half token of an active account with a second factor. -/
def login2fa (state : AuthState) (token : Bearer) (codeAccepted : Bool) (jti : String)
    (stored : Bool) : AuthState :=
  match token with
  | .signed claims =>
      if claims.stage ≠ some "2fa" then state
      else match (Text.truthy claims.sub).bind (getUserByUsername state.db) with
        | none => state
        | some user =>
            if !user.active || !user.totpEnabled || !codeAccepted then state
            else state.issue (issueLocalToken user jti false) user.username jti stored
  | _ => state

/-- The old sessions of the user end and a token with the old role is issued. -/
def changePassword (state : AuthState) (user : CurrentUser) (currentPassword newPassword jti : String) :
    AuthState :=
  match getUserByUsername state.db user.username with
  | none => state
  | some row =>
      if user.authType ≠ .localUser || row.passwordHash ≠ site.hashPassword currentPassword then state
      else
        let db := updateUsers state.db (fun row => row.username = user.username) fun row =>
          { row with passwordHash := site.hashPassword newPassword, mustChangePassword := false }
        let db := revokeAllForUser db user.username user.jti
        let db := match Text.truthy user.jti with
          | some old => revokeSessionByJti db old
          | none => db
        { state with db := db }.issue
          (createAccessToken user.username .localUser user.role jti false [] false) user.username jti true

/-- A deactivation ends the sessions of the account; a change of the role does not. -/
def updateLocalUser (state : AuthState) (userId : Int) (password : Option String) (role : Option Role)
    (active : Option Bool) : AuthState :=
  match getUserById state.db userId with
  | none => state
  | some target =>
      let wouldLoseAdmin := (role.isSome && role ≠ some .admin && target.role = .admin) ||
        (active = some false && target.role = .admin && target.active)
      if wouldLoseAdmin && countActiveAdmins state.db ≤ 1 then state
      else
        let db := updateUsers state.db (fun row => row.id = userId) fun row =>
          { row with
            passwordHash := (password.map site.hashPassword).getD row.passwordHash
            role := role.getD row.role
            active := active.getD row.active }
        { state with db := if active = some false && target.active
            then revokeAllForUser db target.username none else db }

def resetUserPassword (state : AuthState) (userId : Int) (newPassword : String) : AuthState :=
  match getUserById state.db userId with
  | none => state
  | some target =>
      let db := updateUsers state.db (fun row => row.id = userId) fun row =>
        { row with passwordHash := site.hashPassword newPassword, mustChangePassword := true }
      { state with db := revokeAllForUser db target.username none }

/-- The foreign key of the owner rows refuses the deletion of an account that they name. -/
def deleteLocalUser (state : AuthState) (user : CurrentUser) (userId : Int) : AuthState :=
  match getUserById state.db userId with
  | none => state
  | some target =>
      if (target.role = .admin && countActiveAdmins state.db ≤ 1) || target.username = user.username
      then state
      else if state.db.vmOwners.any fun owner => owner.userId = userId then state
      else { state with db :=
        { state.db with localUsers := state.db.localUsers.filter fun row => row.id ≠ userId } }

/-- An event whose token is refused leaves the state unchanged. -/
def step (state : AuthState) : Event → AuthState
  | .login username jti stored =>
      state.issue (createAccessToken username .proxmox .operator jti false [] false) username jti stored
  | .loginLocal username password jti requiredForRole stored =>
      loginLocal site state username password jti requiredForRole stored
  | .login2fa token codeAccepted jti stored => login2fa state token codeAccepted jti stored
  | .logout token =>
      match state.currentUser site token with
      | .error _ => state
      | .ok user =>
          match Text.truthy user.jti with
          | some jti => { state with db := revokeSessionByJti state.db jti }
          | none => state
  | .revokeSession token sessionId =>
      match state.currentUser site token with
      | .error _ => state
      | .ok user => { state with db := revokeSessionById state.db sessionId user.username }
  | .revokeOtherSessions token =>
      match state.currentUser site token with
      | .error _ => state
      | .ok user =>
          match Text.truthy user.jti with
          | some jti => { state with db := revokeAllExceptJti state.db user.username jti }
          | none => state
  | .changePassword token currentPassword newPassword jti =>
      match state.currentUser site token with
      | .error _ => state
      | .ok user => changePassword site state user currentPassword newPassword jti
  | .createLocalUser token username password role =>
      match state.userManager site token with
      | .error _ => state
      | .ok _ =>
          if (getUserByUsername state.db username).isSome then state
          else { state with db := createUser site.hashPassword state.db username password role }
  | .updateLocalUser token userId password role active =>
      match state.userManager site token with
      | .error _ => state
      | .ok _ => updateLocalUser site state userId password role active
  | .resetUserPassword token userId newPassword =>
      match state.userManager site token with
      | .error _ => state
      | .ok _ => resetUserPassword site state userId newPassword
  | .deleteLocalUser token userId =>
      match state.userManager site token with
      | .error _ => state
      | .ok user => deleteLocalUser state user userId
  | .setTotp userId enabled =>
      { state with db := updateUsers state.db (fun row => row.id = userId) fun row =>
          { row with totpEnabled := enabled } }
  | .tableHealth table => { state with table := table }
  | .setupAdmin token body =>
      match requireSetupAccess state.setupComplete (some token) with
      | .error _ => state
      | .ok _ =>
          match Setup.setupAdmin site.hashPassword state.db body with
          | .error _ => state
          | .ok db => { state with db := db }
  | .jobLogs _ _ => state
end

/-- The ledger lists the tokens that were issued to an account after its creation and its last end; the portal
does not keep it. -/
structure Ledger where
  auth : AuthState
  live : List (Claims × Int) := []
  deriving DecidableEq

section
variable (site : Site)

/-- The guard of the last admin refuses an update. -/
def losesLastAdmin (state : AuthState) (role : Option Role) (active : Option Bool) (target : LocalUser) : Bool :=
  ((role.isSome && role ≠ some .admin && target.role = .admin) ||
    (active = some false && target.role = .admin && target.active)) && countActiveAdmins state.db ≤ 1

/-- A deactivation, a new password set by an administrator and a deletion end the tokens of an account; the flag
says whether the endpoint revokes its sessions. -/
def AuthState.accountEnd (state : AuthState) : Event → Option (LocalUser × Bool)
  | .updateLocalUser token userId password role active =>
      match state.userManager site token, getUserById state.db userId with
      | .ok _, some target =>
          if losesLastAdmin state role active target then none
          else if active = some false && target.active then some (target, true)
          else if password.isSome then some (target, false)
          else none
      | _, _ => none
  | .resetUserPassword token userId _ =>
      match state.userManager site token, getUserById state.db userId with
      | .ok _, some target => some (target, true)
      | _, _ => none
  | .deleteLocalUser token userId =>
      match state.userManager site token, getUserById state.db userId with
      | .ok user, some target =>
          if (target.role = .admin && countActiveAdmins state.db ≤ 1) || target.username = user.username then none
          else if state.db.vmOwners.any fun owner => owner.userId = userId then none
          else some (target, false)
      | _, _ => none
  | _ => none

/-- The tokens that an event adds are entered for the account that they name. -/
def issuedNow (before after : AuthState) : List (Claims × Int) :=
  (after.issued.take (after.issued.length - before.issued.length)).filterMap fun claims =>
    (claims.sub.bind (getUserByUsername before.db)).map fun row => (claims, row.id)

def ledgerStep (ledger : Ledger) (event : Event) : Ledger where
  auth := step site ledger.auth event
  live :=
    match ledger.auth.accountEnd site event with
    | some (target, _) => ledger.live.filter fun entry => entry.2 ≠ target.id
    | none => issuedNow ledger.auth (step site ledger.auth event) ++ ledger.live
end

/-- The endpoints that mint full local tokens depend on the portal and on its policy. -/
structure IssuanceSite where
  portal : Site
  twoFactor : TwoFactorSite
  policy : TwoFactorPolicy

/-- A request names one of the five endpoints. -/
inductive Minting where
  | loginLocal (username password jti : String) (stored : Bool)
  | login2fa (token : Bearer) (codeAccepted : Bool) (jti : String) (stored : Bool)
  | changePassword (presented : Claims) (currentPassword newPassword jti : String)
  | verify2fa (presented : Claims) (now : Int) (code : String) (plain : List String) (jti : String)
  | setupComplete (credentials : Option Bearer) (jti : String)

def resolveUserId (db : Database) (user : CurrentUser) : Option Int :=
  user.userId.or ((getUserByUsername db user.username).map LocalUser.id)

section
variable (site : IssuanceSite) (state : AuthState)

/-- A confirmed enrolment ends the presented session, and the new token copies the presented claims. -/
def verify2fa (user : CurrentUser) (now : Int) (code : String) (plain : List String) (jti : String) : AuthState :=
  if user.authType ≠ .localUser then state
  else match (resolveUserId state.db user).bind fun userId =>
      activate site.twoFactor state.db userId now code plain with
    | none => state
    | some db =>
        let db := match Text.truthy user.jti with
          | some old => revokeSessionByJti db old
          | none => db
        { state with db := db }.issue
          (createAccessToken user.username .localUser user.role jti false user.portalPermissions false)
          user.username jti true

/-- The first completion of setup logs an admin in without a session row. -/
def setupComplete (credentials : Option Bearer) (jti : String) : AuthState :=
  match requireSetupAccess state.setupComplete credentials with
  | .error _ => state
  | .ok _ =>
      if Nodes.countNodes state.db = 0 then state
      else if state.setupComplete then state
      else match (setupAdminUser state.db).filter (·.username ≠ "") with
        | none => { state with setupComplete := true }
        | some user =>
            { state with
              setupComplete := true
              issued := createAccessToken user.username .localUser .admin jti false user.portalPermissions false ::
                state.issued }

/-- The policy is asked for the role of the account that logs in. -/
def requiredFor (username : String) : Bool :=
  (getUserByUsername state.db username).any fun user => isRequiredForRole site.policy user.role

def mint : Minting → AuthState
  | .loginLocal username password jti stored =>
      loginLocal site.portal state username password jti (requiredFor site state username) stored
  | .login2fa token codeAccepted jti stored => login2fa state token codeAccepted jti stored
  | .changePassword presented currentPassword newPassword jti =>
      match state.currentUser site.portal (.signed presented) with
      | .error _ => state
      | .ok user => changePassword site.portal state user currentPassword newPassword jti
  | .verify2fa presented now code plain jti =>
      match state.currentUser site.portal (.signed presented) with
      | .error _ => state
      | .ok user => verify2fa site state user now code plain jti
  | .setupComplete credentials jti => setupComplete state credentials jti
end
end P3Portal.Auth
