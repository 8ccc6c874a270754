import P3Portal.Construction.Auth.History
import P3Portal.Proof.Auth.TokenUse

namespace P3Portal.Auth
open Schema Foundation Http Setup Jobs

/-- Logins, logouts, revocations of sessions and the administration of accounts make up a history. -/
def Event.listed : Event → Bool
  | .changePassword .. | .tableHealth _ | .setupAdmin .. => false
  | _ => true

/-- What a listed event can do to the state. The index is the account that it ends, with the flag that says whether
it revokes the sessions of this account. -/
inductive Effect (site : Site) (state : AuthState) : Option (LocalUser × Bool) → AuthState → Prop where
  | refused : Effect site state none state
  | halved (username jti : String) : Effect site state none
      { state with issued := createPreAuthToken username jti :: state.issued }
  | issued (claims : Claims) (username jti : String) (stored : Bool)
      (belongs : claims.authType = some .localUser → ∃ user, claims.sub = some user.username ∧
        getUserByUsername state.db user.username = some user ∧ user.active = true) :
      Effect site state none (state.issue claims username jti stored)
  | revoked (selected : UserSession → Bool) : Effect site state none
      { state with db := revokeWhere state.db selected }
  | created (username password : String) (role : Role) (free : getUserByUsername state.db username = none) :
      Effect site state none { state with db := createUser site.hashPassword state.db username password role }
  | updated (userId : Int) (change : LocalUser → LocalUser)
      (named : ∀ row, (change row).id = row.id ∧ (change row).username = row.username)
      (stays : ∀ row, getUserById state.db userId = some row → row.active = true → (change row).active = true) :
      Effect site state none { state with db := updateUsers state.db (fun row => row.id = userId) change }
  | replaced (target : LocalUser) (userId : Int) (change : LocalUser → LocalUser)
      (named : ∀ row, (change row).id = row.id ∧ (change row).username = row.username)
      (found : getUserById state.db userId = some target) :
      Effect site state (some (target, false))
        { state with db := updateUsers state.db (fun row => row.id = userId) change }
  | terminated (target : LocalUser) (userId : Int) (change : LocalUser → LocalUser)
      (named : ∀ row, (change row).id = row.id ∧ (change row).username = row.username)
      (found : getUserById state.db userId = some target) :
      Effect site state (some (target, true))
        { state with
          db := revokeAllForUser (updateUsers state.db (fun row => row.id = userId) change) target.username none }
  | deleted (target : LocalUser) (userId : Int) (found : getUserById state.db userId = some target) :
      Effect site state (some (target, false))
        { state with db := { state.db with localUsers := state.db.localUsers.filter fun row => row.id ≠ userId } }

section Endpoints
variable {site : Site} {state : AuthState}

theorem getUserByUsername_self {db : Database} {username : String} {user : LocalUser}
    (found : getUserByUsername db username = some user) : getUserByUsername db user.username = some user := by
  rw [(getUserByUsername_spec found).2]
  exact found

theorem loginLocal_effect (username password jti : String) (requiredForRole stored : Bool) :
    Effect site state none (loginLocal site state username password jti requiredForRole stored) := by
  unfold loginLocal
  split
  · exact .refused
  · rename_i user found
    split
    · exact .refused
    · rename_i admitted
      split
      · exact .halved user.username jti
      · apply Effect.issued
        intro _
        have active : user.active = true := by
          cases stored : user.active with
          | true => rfl
          | false => simp [stored] at admitted
        exact ⟨user, rfl, getUserByUsername_self found, active⟩

theorem login2fa_effect (token : Bearer) (codeAccepted : Bool) (jti : String) (stored : Bool) :
    Effect site state none (login2fa state token codeAccepted jti stored) := by
  unfold login2fa
  split
  · split
    · exact .refused
    · split
      · exact .refused
      · rename_i user found
        split
        · exact .refused
        · rename_i admitted
          obtain ⟨name, _, named⟩ := Option.bind_eq_some_iff.mp found
          apply Effect.issued
          intro _
          have active : user.active = true := by
            cases stored : user.active with
            | true => rfl
            | false => simp [stored] at admitted
          exact ⟨user, rfl, getUserByUsername_self named, active⟩
  · exact .refused

/-- The row of an account after an update. -/
def edited (site : Site) (password : Option String) (role : Option Role) (active : Option Bool) (row : LocalUser) :
    LocalUser :=
  { row with
    passwordHash := (password.map site.hashPassword).getD row.passwordHash
    role := role.getD row.role
    active := active.getD row.active }

theorem updateLocalUser_eq {userId : Int} {target : LocalUser} (password : Option String)
    (role : Option Role) (active : Option Bool) (found : getUserById state.db userId = some target) :
    updateLocalUser site state userId password role active =
      if losesLastAdmin state role active target = true then state
      else { state with db :=
          let db := updateUsers state.db (fun row => row.id = userId) (edited site password role active)
          if active = some false && target.active then revokeAllForUser db target.username none else db } := by
  simp only [updateLocalUser, found]
  rfl

/-- An update that does not switch an active account off leaves it active. -/
theorem edited_active {target : LocalUser} (password : Option String) (role : Option Role) {active : Option Bool}
    (stays : ¬ (active = some false && target.active) = true) (before : target.active = true) :
    (edited site password role active target).active = true := by
  change active.getD target.active = true
  cases active with
  | none => exact before
  | some value =>
      cases value with
      | true => rfl
      | false => simp [before] at stays

theorem updateLocalUser_effect (token : Bearer) (userId : Int) (password : Option String) (role : Option Role)
    (active : Option Bool) :
    Effect site state (state.accountEnd site (.updateLocalUser token userId password role active))
      (step site state (.updateLocalUser token userId password role active)) := by
  simp only [AuthState.accountEnd, step]
  cases authorized : state.userManager site token with
  | error exception => exact .refused
  | ok user =>
      cases found : getUserById state.db userId with
      | none =>
          simp only [updateLocalUser, found]
          exact .refused
      | some target =>
          have named : ∀ row, (edited site password role active row).id = row.id ∧
              (edited site password role active row).username = row.username := fun _ => ⟨rfl, rfl⟩
          simp only [updateLocalUser_eq password role active found]
          by_cases last : losesLastAdmin state role active target = true
          · rw [if_pos last, if_pos last]
            exact .refused
          · rw [if_neg last, if_neg last]
            by_cases deactivates : (active = some false && target.active) = true
            · rw [if_pos deactivates, if_pos deactivates]
              exact .terminated target userId _ named found
            · rw [if_neg deactivates, if_neg deactivates]
              split
              · exact .replaced target userId _ named found
              · refine .updated userId _ named ?_
                intro row foundRow before
                rw [Option.some.inj (foundRow.symm.trans found)] at before ⊢
                exact edited_active password role deactivates before

/-- The row of an account after a reset of its password. -/
def renewed (site : Site) (newPassword : String) (row : LocalUser) : LocalUser :=
  { row with
    passwordHash := site.hashPassword newPassword
    mustChangePassword := true }

theorem resetUserPassword_effect (token : Bearer) (userId : Int) (newPassword : String) :
    Effect site state (state.accountEnd site (.resetUserPassword token userId newPassword))
      (step site state (.resetUserPassword token userId newPassword)) := by
  simp only [AuthState.accountEnd, step]
  cases authorized : state.userManager site token with
  | error exception => exact .refused
  | ok user =>
      cases found : getUserById state.db userId with
      | none =>
          simp only [resetUserPassword, found]
          exact .refused
      | some target =>
          simp only [resetUserPassword, found]
          exact .terminated target userId (renewed site newPassword) (fun _ => ⟨rfl, rfl⟩) found

theorem deleteLocalUser_effect (token : Bearer) (userId : Int) :
    Effect site state (state.accountEnd site (.deleteLocalUser token userId))
      (step site state (.deleteLocalUser token userId)) := by
  simp only [AuthState.accountEnd, step]
  cases authorized : state.userManager site token with
  | error exception => exact .refused
  | ok user =>
      cases found : getUserById state.db userId with
      | none =>
          simp only [deleteLocalUser, found]
          exact .refused
      | some target =>
          simp only [deleteLocalUser, found]
          split
          · exact .refused
          · split
            · exact .refused
            · exact .deleted target userId found

/-- Every listed event has one of these effects. -/
theorem step_effect (event : Event) (listed : event.listed = true) :
    Effect site state (state.accountEnd site event) (step site state event) := by
  cases event with
  | login username jti stored =>
      apply Effect.issued
      intro isLocal
      cases isLocal
  | loginLocal username password jti requiredForRole stored => exact loginLocal_effect _ _ _ _ _
  | login2fa token codeAccepted jti stored => exact login2fa_effect _ _ _ _
  | logout token =>
      simp only [step]
      split
      · exact .refused
      · split
        · exact .revoked _
        · exact .refused
  | revokeSession token sessionId =>
      simp only [step]
      split
      · exact .refused
      · exact .revoked _
  | revokeOtherSessions token =>
      simp only [step]
      split
      · exact .refused
      · split
        · exact .revoked _
        · exact .refused
  | createLocalUser token username password role =>
      simp only [step]
      split
      · exact .refused
      · split
        · exact .refused
        · rename_i free
          exact .created username password role (by simpa using free)
  | updateLocalUser token userId password role active => exact updateLocalUser_effect _ _ _ _ _
  | resetUserPassword token userId newPassword => exact resetUserPassword_effect _ _ _
  | deleteLocalUser token userId => exact deleteLocalUser_effect _ _
  | setTotp userId enabled => exact .updated userId _ (fun _ => ⟨rfl, rfl⟩) fun _ _ active => active
  | jobLogs token jobId => exact .refused
  | changePassword token currentPassword newPassword jti => cases listed
  | tableHealth table => cases listed
  | setupAdmin token body => cases listed

end Endpoints

section Rows
variable {db : Database} {jti : String}

theorem isJtiRevoked_iff (db : Database) (jti : String) :
    isJtiRevoked db jti = true ↔
      ∃ row, db.userSessions.find? (fun row => row.jti = jti) = some row ∧ row.revoked = true := by
  unfold isJtiRevoked
  cases db.userSessions.find? fun row => row.jti = jti <;> simp

/-- A revocation keeps every earlier one. -/
theorem isJtiRevoked_revokeWhere (selected : UserSession → Bool) (revoked : isJtiRevoked db jti = true) :
    isJtiRevoked (revokeWhere db selected) jti = true := by
  obtain ⟨row, found, marked⟩ := (isJtiRevoked_iff db jti).mp revoked
  refine (isJtiRevoked_iff _ _).mpr
    ⟨if selected row then { row with revoked := true } else row, ?_, ?_⟩
  · have kept : ∀ row : UserSession, { row with revoked := true }.jti = row.jti := fun _ => rfl
    rw [revokeWhere, find?_map_selected (fun row => selected row) kept, found, Option.map_some]
  · split
    · rfl
    · exact marked

/-- A new session is stored behind the old ones. -/
theorem isJtiRevoked_createSession (id username fresh : String) (revoked : isJtiRevoked db jti = true) :
    isJtiRevoked (createSession db id username fresh) jti = true := by
  obtain ⟨row, found, marked⟩ := (isJtiRevoked_iff db jti).mp revoked
  refine (isJtiRevoked_iff _ _).mpr ⟨row, ?_, marked⟩
  rw [createSession, List.find?_append, found, Option.some_or]

theorem isJtiRevoked_revokeAllForUser (username : String) (exceptJti : Option String)
    (revoked : isJtiRevoked db jti = true) :
    isJtiRevoked (revokeAllForUser db username exceptJti) jti = true := by
  unfold revokeAllForUser
  split
  · split
    · exact isJtiRevoked_revokeWhere _ revoked
    · exact isJtiRevoked_revokeWhere _ revoked
  · exact isJtiRevoked_revokeWhere _ revoked

theorem isJtiRevoked_issue {state : AuthState} (claims : Claims) (username fresh : String) (stored : Bool)
    (revoked : isJtiRevoked state.db jti = true) :
    isJtiRevoked (state.issue claims username fresh stored).db jti = true := by
  unfold AuthState.issue
  cases stored with
  | true => exact isJtiRevoked_createSession _ _ _ revoked
  | false => exact revoked

end Rows

section
variable (site : Site)

/-- The first setup step touches the accounts only. -/
theorem setupAdmin_userSessions {hashPassword : String → String} {db after : Database}
    {body : SetupAdminRequest} (done : Setup.setupAdmin hashPassword db body = .ok after) :
    after.userSessions = db.userSessions := by
  unfold Setup.setupAdmin at done
  split at done
  · cases done
  · split at done
    · rw [← Except.ok.inj done]
    · rw [← Except.ok.inj done]
      rfl

section Endpoints
variable {state : AuthState} {jti : String}

theorem changePassword_isJtiRevoked (user : CurrentUser) (currentPassword newPassword fresh : String)
    (revoked : isJtiRevoked state.db jti = true) :
    isJtiRevoked (changePassword site state user currentPassword newPassword fresh).db jti = true := by
  unfold changePassword
  split
  · exact revoked
  · split
    · exact revoked
    · apply isJtiRevoked_issue
      simp only
      split
      · exact isJtiRevoked_revokeWhere _ (isJtiRevoked_revokeAllForUser _ _ revoked)
      · exact isJtiRevoked_revokeAllForUser _ _ revoked

/-- No effect takes a revocation back. -/
theorem Effect.isJtiRevoked {after : AuthState} {ended : Option (LocalUser × Bool)}
    (effect : Effect site state ended after) (revoked : Auth.isJtiRevoked state.db jti = true) :
    Auth.isJtiRevoked after.db jti = true := by
  cases effect with
  | refused => exact revoked
  | halved username jti => exact revoked
  | issued claims username fresh stored belongs => exact isJtiRevoked_issue _ _ _ _ revoked
  | revoked selected => exact isJtiRevoked_revokeWhere _ revoked
  | created username password role free => exact revoked
  | updated userId change named stays => exact revoked
  | replaced target userId change named found => exact revoked
  | terminated target userId change named found => exact isJtiRevoked_revokeAllForUser _ _ revoked
  | deleted target userId found => exact revoked

end Endpoints

/-- No event takes a revocation back. -/
theorem step_isJtiRevoked (state : AuthState) (event : Event) (jti : String)
    (revoked : isJtiRevoked state.db jti = true) :
    isJtiRevoked (step site state event).db jti = true := by
  cases listed : event.listed with
  | true => exact (step_effect event listed).isJtiRevoked site revoked
  | false =>
      cases event with
      | changePassword token currentPassword newPassword fresh =>
          simp only [step]
          split
          · exact revoked
          · exact changePassword_isJtiRevoked site _ _ _ _ revoked
      | tableHealth table => exact revoked
      | setupAdmin token body =>
          simp only [step]
          split
          · exact revoked
          · split
            · exact revoked
            · rename_i done
              simp only [isJtiRevoked, setupAdmin_userSessions done]
              exact revoked
      | _ => cases listed

/-- Once a session is revoked, it stays revoked at every later point of the history. -/
theorem visits_isJtiRevoked (state : AuthState) (events : List Event) (jti : String)
    (revoked : isJtiRevoked state.db jti = true) :
    ∀ visit ∈ visits (step site) state events, isJtiRevoked visit.1.db jti = true :=
  visits_invariant (step site)
    (fun state event kept (_ : True) => step_isJtiRevoked site state event jti kept) events revoked
    fun _ _ => trivial

theorem Current.not_revoked {state : AuthState} {claims : Claims} {jti : String} (current : Current state claims)
    (carried : claims.jti = some jti) (filled : jti ≠ "") (present : state.table ≠ .missing) :
    isJtiRevoked state.db jti = false := by
  rcases current.session jti carried filled with missing | ⟨ready, kept⟩
  · exact absurd missing present
  · exact kept

/-- A sound use of setup by a token that is not current, or of a dismissed admin, changes nothing. -/
theorem Sound.setupAdmin_kept {state : AuthState} {claims : Claims} (body : SetupAdminRequest)
    (sound : Sound state .setup (.signed claims)) (complete : state.setupComplete = true)
    (unfit : ¬ Current state claims ∨ Dismissed state (.signed claims)) :
    step site state (.setupAdmin (.signed claims) body) = state := by
  rcases sound with other | ⟨current, active⟩
  · simp [step, requireSetupAccess, complete, other]
  · rcases unfit with outdated | dismissed
    · exact absurd current outdated
    · exact absurd dismissed active

/-- After a revocation, a history of sound uses never sets a password or creates an admin with the
revoked token. -/
theorem revoked_session_powerless (state : AuthState) (events : List Event) (claims : Claims) (jti : String)
    (carried : claims.jti = some jti) (filled : jti ≠ "") (revoked : isJtiRevoked state.db jti = true)
    (sound : ∀ visit ∈ visits (step site) state events, ∀ endpoint token,
      visit.2.presents = some (endpoint, token) → visit.1.setupComplete = true →
        Sound visit.1 endpoint token) :
    ∀ visit ∈ visits (step site) state events, ∀ body,
      visit.2 = .setupAdmin (.signed claims) body → visit.1.setupComplete = true →
        visit.1.table ≠ .missing → step site visit.1 visit.2 = visit.1 := by
  intro visit member body used complete present
  have later := visits_isJtiRevoked site state events jti revoked visit member
  rw [used]
  refine (sound visit member .setup (.signed claims) (by rw [used]; rfl) complete).setupAdmin_kept site
    body complete (.inl fun current => ?_)
  rw [current.not_revoked carried filled present] at later
  cases later
end
end P3Portal.Auth
