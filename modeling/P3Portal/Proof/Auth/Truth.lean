import P3Portal.Construction.Auth.History
import P3Portal.Proof.Auth.TokenUse

namespace P3Portal.Auth
open Schema Foundation Http Setup

/-- The claims of a full local token agree with the stored account and with the policy. -/
def Truthful (policy : TwoFactorPolicy) (db : Database) (claims : Claims) : Prop :=
  ∃ user, claims.sub.bind (getUserByUsername db) = some user ∧ claims.role = some user.role ∧
    claims.portalPermissions = user.portalPermissions ∧ claims.mustChangePw = user.mustChangePassword ∧
    claims.mustSetup2fa = (!user.totpEnabled && isRequiredForRole policy user.role)

section Rows
variable {db : Database} {username : String} {user : LocalUser}

/-- A change that keeps the names is seen by the next lookup of the name. -/
theorem getUserByUsername_map {change : LocalUser → LocalUser} (named : ∀ row, (change row).username = row.username)
    (found : getUserByUsername db username = some user) :
    getUserByUsername { db with localUsers := db.localUsers.map change } username = some (change user) := by
  unfold getUserByUsername at found ⊢
  rw [find?_map_key named, found, Option.map_some]

theorem getUserByUsername_updateUserRow {userId : Int} {change : LocalUser → LocalUser}
    (named : ∀ row, (change row).username = row.username) (found : getUserByUsername db username = some user)
    (same : user.id = userId) : getUserByUsername (updateUserRow db userId change) username = some (change user) := by
  have changed : getUserByUsername (updateUserRow db userId change) username =
      some (if user.id = userId then change user else user) := by
    apply getUserByUsername_map
    · intro row
      split
      · exact named row
      · rfl
    · exact found
  rw [if_pos same] at changed
  exact changed

theorem getUserByUsername_unique (unique : (db.localUsers.map LocalUser.username).Nodup)
    (stored : user ∈ db.localUsers) : getUserByUsername db user.username = some user :=
  find?_key unique stored

theorem setupAdminUser_spec (found : setupAdminUser db = some user) :
    user ∈ db.localUsers ∧ user.role = .admin ∧ user.active = true := by
  have member := List.mem_of_head? found
  rw [List.mem_insertionSort] at member
  obtain ⟨stored, admin⟩ := List.mem_filter.mp member
  rw [Bool.and_eq_true, decide_eq_true_eq] at admin
  exact ⟨stored, admin⟩

/-- The lookup reads the accounts only. -/
theorem getUserByUsername_congr {other : Database} (same : other.localUsers = db.localUsers) :
    getUserByUsername other = getUserByUsername db := by
  funext name
  unfold getUserByUsername
  rw [same]

end Rows

section Presented
variable {site : Site} {state : AuthState} {presented : Claims} {user : CurrentUser}

/-- The dependency copies the claims of an accepted token and looks the account up by its name. -/
theorem currentUser_signed (accepted : state.currentUser site (.signed presented) = .ok user) :
    presented.sub = some user.username ∧ user.role = presented.role.getD .operator ∧
      user.portalPermissions = presented.portalPermissions ∧
      (user.authType = .localUser → user.userId = (getUserByUsername state.db user.username).map LocalUser.id) := by
  unfold AuthState.currentUser getCurrentUser at accepted
  simp only at accepted
  split at accepted
  · cases accepted
  · split at accepted
    · cases accepted
    · rename_i username named
      split at accepted
      · cases accepted
      · rw [← Except.ok.inj accepted]
        refine ⟨((Text.truthy_eq_some _ _).mp named).1, rfl, rfl, ?_⟩
        intro locally
        exact if_pos locally

end Presented

section Minted
variable {state : AuthState} {claims : Claims}

theorem issue_minted {minted : Claims} {username jti : String} {stored : Bool} {issued : List Claims}
    (grown : (state.issue minted username jti stored).issued = claims :: issued) : claims = minted := by
  unfold AuthState.issue at grown
  exact (List.cons.inj grown).1.symm

theorem issue_localUsers (minted : Claims) (username jti : String) (stored : Bool) :
    (state.issue minted username jti stored).db.localUsers = state.db.localUsers := by
  unfold AuthState.issue
  cases stored <;> rfl

/-- Nothing is minted by an unchanged state. -/
theorem not_minted {A : Prop} (grown : state.issued = claims :: state.issued) : A :=
  absurd grown.symm (List.cons_ne_self claims state.issued)

theorem loginLocal_minted {site : Site} {username password jti : String} {required stored : Bool}
    (grown : (loginLocal site state username password jti required stored).issued = claims :: state.issued)
    (full : claims.stage = none) :
    ∃ user, getUserByUsername state.db username = some user ∧ user.totpEnabled = false ∧
      claims = issueLocalToken user jti required ∧
      (loginLocal site state username password jti required stored).db.localUsers = state.db.localUsers := by
  unfold loginLocal at grown ⊢
  cases found : getUserByUsername state.db username with
  | none =>
      simp only [found] at grown
      exact not_minted grown
  | some user =>
      simp only [found] at grown ⊢
      split at grown
      · exact not_minted grown
      · rename_i admitted
        split at grown
        · rw [← (List.cons.inj grown).1] at full
          cases full
        · rename_i single
          rw [if_neg admitted, if_neg single]
          exact ⟨user, rfl, Bool.eq_false_iff.mpr single, issue_minted grown, issue_localUsers _ _ _ _⟩

theorem login2fa_minted {token : Bearer} {codeAccepted stored : Bool} {jti : String}
    (grown : (login2fa state token codeAccepted jti stored).issued = claims :: state.issued) :
    ∃ user, getUserByUsername state.db user.username = some user ∧ user.totpEnabled = true ∧
      claims = issueLocalToken user jti false ∧
      (login2fa state token codeAccepted jti stored).db.localUsers = state.db.localUsers := by
  unfold login2fa at grown ⊢
  cases token with
  | apiKey key => exact not_minted grown
  | unsigned => exact not_minted grown
  | signed presented =>
      simp only at grown ⊢
      split at grown
      · exact not_minted grown
      · rename_i half
        rw [if_neg half]
        cases found : (Text.truthy presented.sub).bind (getUserByUsername state.db) with
        | none =>
            simp only [found] at grown
            exact not_minted grown
        | some user =>
            simp only [found] at grown ⊢
            obtain ⟨username, -, named⟩ := Option.bind_eq_some_iff.mp found
            split at grown
            · exact not_minted grown
            · rename_i admitted
              rw [if_neg admitted]
              simp only [Bool.or_eq_true, Bool.not_eq_true', not_or, Bool.not_eq_false] at admitted
              refine ⟨user, ?_, admitted.1.2, issue_minted grown, issue_localUsers _ _ _ _⟩
              rw [(getUserByUsername_spec named).2]
              exact named

theorem changePassword_minted {site : Site} {user : CurrentUser} {currentPassword newPassword jti : String}
    (grown : (changePassword site state user currentPassword newPassword jti).issued = claims :: state.issued) :
    ∃ row, getUserByUsername state.db user.username = some row ∧
      claims = createAccessToken user.username .localUser user.role jti false [] false ∧
      getUserByUsername (changePassword site state user currentPassword newPassword jti).db user.username =
        some { row with passwordHash := site.hashPassword newPassword, mustChangePassword := false } := by
  unfold changePassword at grown ⊢
  cases found : getUserByUsername state.db user.username with
  | none =>
      simp only [found] at grown
      exact not_minted grown
  | some row =>
      simp only [found] at grown ⊢
      split at grown
      · exact not_minted grown
      · rename_i admitted
        rw [if_neg admitted]
        refine ⟨row, rfl, issue_minted grown, ?_⟩
        rw [getUserByUsername_congr (issue_localUsers _ _ _ _)]
        have changed : getUserByUsername { state.db with localUsers := state.db.localUsers.map fun row =>
              if row.username = user.username then
                { row with passwordHash := site.hashPassword newPassword, mustChangePassword := false }
              else row } user.username = some (if row.username = user.username then
                { row with passwordHash := site.hashPassword newPassword, mustChangePassword := false }
              else row) :=
          getUserByUsername_map (fun row => by split <;> rfl) found
        rw [if_pos (getUserByUsername_spec found).2] at changed
        rw [← changed]
        apply congrFun
        apply getUserByUsername_congr
        cases Text.truthy user.jti with
        | none => simp [updateUsers]
        | some old => simp [revokeSessionByJti, updateUsers]

theorem verify2fa_minted {site : IssuanceSite} {user : CurrentUser} {now : Int} {code jti : String}
    {plain : List String} (resolved : user.authType = .localUser →
      user.userId = (getUserByUsername state.db user.username).map LocalUser.id)
    (grown : (verify2fa site state user now code plain jti).issued = claims :: state.issued) :
    ∃ row secret, getUserByUsername state.db user.username = some row ∧
      claims = createAccessToken user.username .localUser user.role jti false user.portalPermissions false ∧
      getUserByUsername (verify2fa site state user now code plain jti).db user.username =
        some { row with
          totpSecret := some (site.twoFactor.encryptSecret secret)
          totpPendingSecret := none
          totpEnabled := true
          totpRecoveryCodes := some (plain.map (hashRecovery site.twoFactor)) } := by
  unfold verify2fa at grown ⊢
  split at grown
  · exact not_minted grown
  · rename_i locally
    rw [if_neg locally]
    split at grown
    · exact not_minted grown
    · rename_i db activated
      obtain ⟨userId, known, done⟩ := Option.bind_eq_some_iff.mp activated
      obtain ⟨secret, confirmed, written⟩ := Option.map_eq_some_iff.mp done
      rw [resolveUserId, resolved (not_not.mp locally), Option.or_self] at known
      obtain ⟨row, found, same⟩ := Option.map_eq_some_iff.mp known
      refine ⟨row, secret, found, issue_minted grown, ?_⟩
      rw [getUserByUsername_congr (issue_localUsers _ _ _ _)]
      have changed : getUserByUsername (writeActivation site.twoFactor state.db userId secret
          (plain.map (hashRecovery site.twoFactor))) user.username = some _ :=
        getUserByUsername_updateUserRow (fun row => rfl) found same
      rw [← changed, written]
      apply congrFun
      apply getUserByUsername_congr
      cases Text.truthy user.jti with
      | none => rfl
      | some old => rfl

theorem setupComplete_minted {credentials : Option Bearer} {jti : String}
    (grown : (setupComplete state credentials jti).issued = claims :: state.issued) :
    ∃ user, setupAdminUser state.db = some user ∧
      claims = createAccessToken user.username .localUser .admin jti false user.portalPermissions false ∧
      (setupComplete state credentials jti).db = state.db := by
  unfold setupComplete at grown ⊢
  split at grown
  · exact not_minted grown
  · split at grown
    · exact not_minted grown
    · split at grown
      · exact not_minted grown
      · rename_i someNode incomplete
        rw [if_neg someNode, if_neg incomplete]
        split at grown
        · exact not_minted grown
        · rename_i user found
          obtain ⟨selected, filled⟩ := Option.filter_eq_some_iff.mp found
          exact ⟨user, selected, (List.cons.inj grown).1.symm, rfl⟩

end Minted

section Condition
variable (site : IssuanceSite) (state : AuthState)

/-- The account that a presented token names. -/
def namedAccount (presented : Claims) : Option LocalUser := presented.sub.bind (getUserByUsername state.db)

/-- What an endpoint leaves out or copies from the presented token agrees with the stored account. -/
def Faithful : Minting → Prop
  | .loginLocal _ _ _ _ => True
  | .login2fa _ _ _ _ => True
  | .changePassword presented _ _ _ => ∀ row, namedAccount state presented = some row →
      presented.role.getD .operator = row.role ∧ row.portalPermissions = [] ∧
        (row.totpEnabled = true ∨ isRequiredForRole site.policy row.role = false)
  | .verify2fa presented _ _ _ _ => ∀ row, namedAccount state presented = some row →
      presented.role.getD .operator = row.role ∧ presented.portalPermissions = row.portalPermissions ∧
        row.mustChangePassword = false
  | .setupComplete _ _ => ∀ row, setupAdminUser state.db = some row →
      row.mustChangePassword = false ∧ (row.totpEnabled = true ∨ isRequiredForRole site.policy .admin = false)

variable {site state} {claims : Claims}

/-- Truth is read off the row that the subject names. -/
theorem truthful_iff {policy : TwoFactorPolicy} {db : Database} {username jti : String} {role : Role}
    {mustChangePw mustSetup2fa : Bool} {permissions : List String} {user : LocalUser}
    (found : getUserByUsername db username = some user) :
    Truthful policy db (createAccessToken username .localUser role jti mustChangePw permissions mustSetup2fa) ↔
      role = user.role ∧ permissions = user.portalPermissions ∧ mustChangePw = user.mustChangePassword ∧
        mustSetup2fa = (!user.totpEnabled && isRequiredForRole policy user.role) := by
  unfold Truthful createAccessToken
  simp only [Option.bind_some, found, Option.some.injEq, exists_eq_left']

/-- No second factor is missing. -/
theorem nothing_to_set_up {enabled required : Bool} :
    false = (!enabled && required) ↔ enabled = true ∨ required = false := by
  cases enabled <;> cases required <;> decide

/-- A minted full token tells the truth exactly when the endpoint is faithful to the stored account. -/
theorem minted_truthful_iff (request : Minting) (unique : (state.db.localUsers.map LocalUser.username).Nodup)
    (grown : (mint site state request).issued = claims :: state.issued) (full : claims.stage = none) :
    Truthful site.policy (mint site state request).db claims ↔ Faithful site state request := by
  cases request with
  | loginLocal username password jti stored =>
      obtain ⟨user, found, single, same, accounts⟩ := loginLocal_minted grown full
      have named := (getUserByUsername_spec found).2
      have after : getUserByUsername (mint site state (.loginLocal username password jti stored)).db user.username =
          some user := by
        rw [mint, getUserByUsername_congr accounts, named]
        exact found
      refine iff_of_true ?_ trivial
      rw [same, issueLocalToken, truthful_iff after, requiredFor, found, single]
      exact ⟨rfl, rfl, rfl, rfl⟩
  | login2fa token codeAccepted jti stored =>
      obtain ⟨user, found, enabled, same, accounts⟩ := login2fa_minted grown
      have after : getUserByUsername (mint site state (.login2fa token codeAccepted jti stored)).db user.username =
          some user := by
        rw [mint, getUserByUsername_congr accounts]
        exact found
      refine iff_of_true ?_ trivial
      rw [same, issueLocalToken, truthful_iff after, enabled]
      exact ⟨rfl, rfl, rfl, rfl⟩
  | changePassword presented currentPassword newPassword jti =>
      simp only [mint] at grown ⊢
      split at grown
      · exact not_minted grown
      · rename_i user accepted
        obtain ⟨subject, role, -, -⟩ := currentUser_signed accepted
        obtain ⟨row, found, same, after⟩ := changePassword_minted grown
        have account : namedAccount state presented = some row := by
          rw [namedAccount, subject]
          exact found
        rw [same, truthful_iff after]
        simp only [Faithful, account, Option.some.injEq, forall_eq', role, true_and, nothing_to_set_up,
          @eq_comm _ [] row.portalPermissions]
  | verify2fa presented now code plain jti =>
      simp only [mint] at grown ⊢
      split at grown
      · exact not_minted grown
      · rename_i user accepted
        obtain ⟨subject, role, permissions, resolved⟩ := currentUser_signed accepted
        obtain ⟨row, secret, found, same, after⟩ := verify2fa_minted resolved grown
        have account : namedAccount state presented = some row := by
          rw [namedAccount, subject]
          exact found
        rw [same, truthful_iff after]
        simp only [Faithful, account, Option.some.injEq, forall_eq', role, permissions, Bool.not_true,
          Bool.false_and, and_true, @eq_comm _ false row.mustChangePassword]
  | setupComplete credentials jti =>
      obtain ⟨user, selected, same, kept⟩ := setupComplete_minted grown
      obtain ⟨stored, admin, -⟩ := setupAdminUser_spec selected
      have after : getUserByUsername (mint site state (.setupComplete credentials jti)).db user.username =
          some user := by
        rw [mint, kept]
        exact getUserByUsername_unique unique stored
      rw [same, truthful_iff after, admin]
      simp only [Faithful, selected, Option.some.injEq, forall_eq', true_and, nothing_to_set_up,
        @eq_comm _ false user.mustChangePassword]

end Condition

section Demoted
/-- Passwords and codes are stored as they are, and the policy asks the admins for a second factor. -/
def plainSite : IssuanceSite where
  portal := { hashPassword := id, authenticateUserKey := fun _ _ => .ok none }
  twoFactor :=
    { encryptSecret := id, decryptSecret := some, totpValid := fun _ secret code => secret = code,
      isDigit := fun _ => true, upper := String.toUpper, sha256 := id }
  policy := { enforceRoles := ["admin"] }

/-- Anna was an admin when her token was issued and is a viewer now. -/
def demotedState : AuthState where
  db := { localUsers := [{ id := 1, username := "anna", passwordHash := "old", role := .viewer }] }

def adminClaims : Claims := createAccessToken "anna" .localUser .admin "j1" false [] false

/-- Her login tells the truth. -/
theorem login_truthful_anna :
    Truthful plainSite.policy (mint plainSite demotedState (.loginLocal "anna" "old" "j2" true)).db
      (createAccessToken "anna" .localUser .viewer "j2" false [] false) :=
  (minted_truthful_iff (.loginLocal "anna" "old" "j2" true) (by decide) (by decide) rfl).mpr trivial

/-- A changed password renews the old role. -/
theorem changed_password_keeps_old_role :
    ¬ ∀ (site : IssuanceSite) (state : AuthState) (request : Minting) (claims : Claims),
      (state.db.localUsers.map LocalUser.username).Nodup →
        (mint site state request).issued = claims :: state.issued → claims.stage = none →
          Truthful site.policy (mint site state request).db claims := by
  intro claim
  obtain ⟨user, found, role, -⟩ := claim plainSite demotedState (.changePassword adminClaims "old" "new" "j2")
    (createAccessToken "anna" .localUser .admin "j2" false [] false) (by decide) (by decide) rfl
  have stored : user.role = .viewer := by
    rw [← Option.some.inj found]
    rfl
  rw [stored] at role
  cases role

end Demoted
end P3Portal.Auth
