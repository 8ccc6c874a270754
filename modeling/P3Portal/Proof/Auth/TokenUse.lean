import P3Portal.Construction.Auth.History

namespace P3Portal.Auth
open Schema Foundation Http Setup Jobs

/-- An endpoint uses the dependency, or decodes the token on its own. -/
inductive Endpoint where
  | guarded
  | jobLogs
  | setup
  deriving DecidableEq

/-- Every event with a token presents it to an endpoint, except the second login step. -/
def Event.presents : Event → Option (Endpoint × Bearer)
  | .login .. | .loginLocal .. | .login2fa .. | .setTotp .. | .tableHealth .. => none
  | .logout token | .revokeSession token _ | .revokeOtherSessions token | .changePassword token .. |
    .createLocalUser token .. | .updateLocalUser token .. | .resetUserPassword token .. |
    .deleteLocalUser token _ => some (.guarded, token)
  | .setupAdmin token _ => some (.setup, token)
  | .jobLogs token _ => some (.jobLogs, token)

/-- A larger level includes the portal rights of the smaller ones. -/
def roleLevel : Role → Nat
  | .restricted => 0
  | .viewer => 1
  | .operator => 2
  | .admin => 3

variable (site : Site)

/-- An endpoint admits a token with this role. -/
def Endpoint.admits (state : AuthState) (token : Bearer) : Endpoint → Option Role
  | .guarded =>
      match state.currentUser site token with
      | .ok user => some user.role
      | .error _ => none
  | .jobLogs => (socketUser token).map Prod.snd
  | .setup =>
      match requireSetupAccess state.setupComplete (some token) with
      | .ok _ => some .admin
      | .error _ => none

/-- The account of the token is stored but is no longer an active admin. -/
def Dismissed (state : AuthState) (token : Bearer) : Prop :=
  ∃ claims sub row, token = .signed claims ∧ claims.sub = some sub ∧
    getUserByUsername state.db sub = some row ∧ (row.role ≠ .admin ∨ row.active = false)

/-- After setup an endpoint admits a token only as far as the dependency does at that moment, and the
setup endpoints never admit the token of a dismissed admin. -/
def Confined (state : AuthState) (endpoint : Endpoint) (token : Bearer) : Prop :=
  state.setupComplete = true → ∀ role, endpoint.admits site state token = some role →
    (∃ user, state.currentUser site token = .ok user ∧ roleLevel role ≤ roleLevel user.role) ∧
      (endpoint = .setup → ¬ Dismissed state token)

/-- The token is past the second factor, names its user, and its session is not known as revoked. -/
structure Current (state : AuthState) (claims : Claims) : Prop where
  pastSecondFactor : claims.stage ≠ some "2fa"
  named : ∃ sub, claims.sub = some sub ∧ sub ≠ ""
  session : ∀ jti, claims.jti = some jti → jti ≠ "" →
    state.table = .missing ∨ (state.table = .ready ∧ isJtiRevoked state.db jti = false)

/-- A use is sound when the endpoint refuses the token itself or the token is current, and for setup
also when the account is not dismissed. -/
def Sound (state : AuthState) : Endpoint → Bearer → Prop
  | .jobLogs, .signed claims => (¬ ∃ sub, claims.sub = some sub ∧ sub ≠ "") ∨ Current state claims
  | .setup, .signed claims => claims.role ≠ some .admin ∨
      (Current state claims ∧ ¬ Dismissed state (.signed claims))
  | _, _ => True

section Dependency
variable {site : Site} {state : AuthState} {claims : Claims}

theorem checkSession_ok_iff (db : Database) (table : TableHealth) (jti : Option String) :
    checkSession db table jti = .ok () ↔ ∀ value, jti = some value → value ≠ "" →
      table = .missing ∨ (table = .ready ∧ isJtiRevoked db value = false) := by
  unfold checkSession
  cases known : Text.truthy jti with
  | none =>
      simp only [true_iff]
      intro value present filled
      rw [(Text.truthy_eq_some jti value).mpr ⟨present, filled⟩] at known
      cases known
  | some value =>
      obtain ⟨present, filled⟩ := (Text.truthy_eq_some jti value).mp known
      constructor
      · intro passed other same nonempty
        rw [present] at same
        rw [← Option.some.inj same]
        cases table with
        | ready =>
            simp only at passed
            split at passed
            · cases passed
            · rename_i kept
              exact .inr ⟨rfl, Bool.eq_false_iff.mpr kept⟩
        | missing => exact .inl rfl
        | failing => cases passed
      · intro allowed
        rcases allowed value present filled with absent | ⟨ready, kept⟩
        · rw [absent]
        · rw [ready]
          simp [kept]

/-- The dependency accepts exactly the current tokens, with the role that they carry. -/
theorem currentUser_ok_iff :
    (∃ user, state.currentUser site (.signed claims) = .ok user ∧
        user.role = claims.role.getD .operator) ↔ Current state claims := by
  unfold AuthState.currentUser getCurrentUser
  constructor
  · intro accepted
    obtain ⟨user, accepted, role⟩ := accepted
    simp only at accepted
    split at accepted
    · cases accepted
    · rename_i past
      split at accepted
      · cases accepted
      · rename_i username named
        split at accepted
        · cases accepted
        · rename_i passed
          exact ⟨past, ⟨username, (Text.truthy_eq_some _ _).mp named⟩,
            (checkSession_ok_iff _ _ _).mp passed⟩
  · intro current
    obtain ⟨sub, present, filled⟩ := current.named
    have named := (Text.truthy_eq_some claims.sub sub).mpr ⟨present, filled⟩
    have passed := (checkSession_ok_iff state.db state.table claims.jti).mpr current.session
    simp only [current.pastSecondFactor, if_false, named, passed]
    exact ⟨_, rfl, rfl⟩

theorem currentUser_role {user : CurrentUser}
    (accepted : state.currentUser site (.signed claims) = .ok user) :
    user.role = claims.role.getD .operator ∧ Current state claims := by
  have role : user.role = claims.role.getD .operator := by
    unfold AuthState.currentUser getCurrentUser at accepted
    simp only at accepted
    split at accepted
    · cases accepted
    · split at accepted
      · cases accepted
      · split at accepted
        · cases accepted
        · rw [← Except.ok.inj accepted]
  exact ⟨role, currentUser_ok_iff.mp ⟨user, accepted, role⟩⟩

theorem Current.accepted (site : Site) (current : Current state claims) :
    ∃ user, state.currentUser site (.signed claims) = .ok user ∧ user.role = claims.role.getD .operator :=
  currentUser_ok_iff.mpr current

end Dependency

theorem confined_guarded (state : AuthState) (token : Bearer) : Confined site state .guarded token := by
  intro complete role admitted
  refine ⟨?_, fun setup => by cases setup⟩
  simp only [Endpoint.admits] at admitted
  split at admitted
  · rename_i user accepted
    rw [← Option.some.inj admitted]
    exact ⟨user, accepted, Nat.le_refl _⟩
  · cases admitted

/-- The log socket is confined exactly when it refuses the token or the token is current. -/
theorem confined_jobLogs_iff (state : AuthState) (claims : Claims) (complete : state.setupComplete = true) :
    Confined site state .jobLogs (.signed claims) ↔ Sound state .jobLogs (.signed claims) := by
  constructor
  · intro confined
    by_cases named : ∃ sub, claims.sub = some sub ∧ sub ≠ ""
    · obtain ⟨sub, present, filled⟩ := named
      have admitted : Endpoint.jobLogs.admits site state (.signed claims) =
          some (claims.role.getD .operator) := by
        simp [Endpoint.admits, socketUser, (Text.truthy_eq_some _ _).mpr ⟨present, filled⟩]
      obtain ⟨⟨user, accepted, level⟩, rest⟩ := confined complete _ admitted
      exact .inr (currentUser_role accepted).2
    · exact .inl named
  · intro sound complete role admitted
    refine ⟨?_, fun setup => by cases setup⟩
    simp only [Endpoint.admits, socketUser, Option.map_map, Option.map_eq_some_iff] at admitted
    obtain ⟨sub, named, same⟩ := admitted
    rcases sound with unnamed | current
    · exact absurd ⟨sub, (Text.truthy_eq_some _ _).mp named⟩ unnamed
    · obtain ⟨user, accepted, held⟩ := current.accepted site
      exact ⟨user, accepted, by rw [held, ← same]; exact Nat.le_refl _⟩

/-- The setup gate is confined exactly when the token is no admin token, or is current and belongs to
no dismissed admin. -/
theorem confined_setup_iff (state : AuthState) (claims : Claims) (complete : state.setupComplete = true) :
    Confined site state .setup (.signed claims) ↔ Sound state .setup (.signed claims) := by
  have gate (role : Role) : Endpoint.setup.admits site state (.signed claims) = some role ↔
      claims.role = some .admin ∧ role = .admin := by
    by_cases admin : claims.role = some .admin
    · simp [Endpoint.admits, requireSetupAccess, complete, admin, eq_comm]
    · simp [Endpoint.admits, requireSetupAccess, complete, admin]
  constructor
  · intro confined
    by_cases admin : claims.role = some .admin
    · obtain ⟨⟨user, accepted, level⟩, active⟩ := confined complete .admin ((gate _).mpr ⟨admin, rfl⟩)
      exact .inr ⟨(currentUser_role accepted).2, active rfl⟩
    · exact .inl admin
  · intro sound complete role admitted
    obtain ⟨admin, same⟩ := (gate role).mp admitted
    rcases sound with other | ⟨current, active⟩
    · exact absurd admin other
    · obtain ⟨user, accepted, held⟩ := current.accepted site
      refine ⟨⟨user, accepted, ?_⟩, fun _ => active⟩
      rw [held, admin, same]
      exact Nat.le_refl _

/-- A personal key or a text that the portal did not sign is refused by both own checks. -/
theorem confined_unsigned (state : AuthState) (endpoint : Endpoint) (token : Bearer)
    (foreign : ∀ claims, token ≠ .signed claims) : Confined site state endpoint token := by
  cases endpoint with
  | guarded => exact confined_guarded site state token
  | jobLogs =>
      intro complete role admitted
      cases token with
      | signed claims => exact absurd rfl (foreign claims)
      | apiKey key => cases admitted
      | «unsigned» => cases admitted
  | setup =>
      intro complete role admitted
      simp only [Endpoint.admits, requireSetupAccess, complete] at admitted
      cases token with
      | signed claims => exact absurd rfl (foreign claims)
      | apiKey key => cases admitted
      | «unsigned» => cases admitted

theorem confined_iff (state : AuthState) (endpoint : Endpoint) (token : Bearer) :
    Confined site state endpoint token ↔ (state.setupComplete = true → Sound state endpoint token) := by
  by_cases complete : state.setupComplete = true
  · rw [imp_iff_right complete]
    cases token with
    | signed claims =>
        cases endpoint with
        | guarded => exact iff_of_true (confined_guarded site state _) trivial
        | jobLogs => exact confined_jobLogs_iff site state claims complete
        | setup => exact confined_setup_iff site state claims complete
    | apiKey key =>
        refine iff_of_true (confined_unsigned site state endpoint _ fun _ => by simp) ?_
        cases endpoint <;> trivial
    | «unsigned» =>
        refine iff_of_true (confined_unsigned site state endpoint _ fun _ => by simp) ?_
        cases endpoint <;> trivial
  · exact iff_of_true (fun done => absurd done complete) fun done => absurd done complete

/-- In every history all uses of tokens are confined exactly when all of them are sound. -/
theorem history_confined_iff (state : AuthState) (events : List Event) :
    (∀ visit ∈ visits (step site) state events, ∀ endpoint token,
        visit.2.presents = some (endpoint, token) → Confined site visit.1 endpoint token) ↔
      ∀ visit ∈ visits (step site) state events, ∀ endpoint token,
        visit.2.presents = some (endpoint, token) → visit.1.setupComplete = true →
          Sound visit.1 endpoint token := by
  simp only [confined_iff]

/-- The token of a logged-out admin sets a password through setup, and the token before the second
factor reads a job log. -/
theorem history_unconfined :
    (∃ (site : Site) (state : AuthState) (events : List Event), state.issued = [] ∧
      ∃ visit ∈ visits (step site) state events, ∃ claims ∈ visit.1.issued,
        visit.2.presents = some (.setup, .signed claims) ∧
          ¬ Confined site visit.1 .setup (.signed claims) ∧
          (step site visit.1 visit.2).db.localUsers ≠ visit.1.db.localUsers) ∧
    ∃ (site : Site) (state : AuthState) (events : List Event), state.issued = [] ∧
      ∃ visit ∈ visits (step site) state events, ∃ claims ∈ visit.1.issued,
        visit.2.presents = some (.jobLogs, .signed claims) ∧ claims.stage = some "2fa" ∧
          ¬ Confined site visit.1 .jobLogs (.signed claims) ∧
          jobLogsWs visit.1.db (.signed claims) "job" = .log "job" := by
  let site : Site := ⟨fun password => password, fun _ _ => .ok none⟩
  constructor
  · let admin : LocalUser := { id := 1, username := "admin", passwordHash := "first", role := .admin }
    let claims := issueLocalToken admin "session" false
    let state : AuthState := { db := { localUsers := [admin] } }
    let revoked : AuthState :=
      { db := { localUsers := [admin], userSessions := [⟨"session", "admin", "session", true⟩] }
        issued := [claims] }
    let body : SetupAdminRequest :=
      ⟨"admin", "second password", "second password", by decide, by decide⟩
    refine ⟨site, state, [.loginLocal "admin" "first" "session" false true, .logout (.signed claims),
      .setupAdmin (.signed claims) body], rfl, (revoked, .setupAdmin (.signed claims) body), ?_,
      claims, List.mem_singleton_self _, rfl, ?_, by decide⟩
    · decide
    · intro confined
      obtain ⟨⟨user, accepted, level⟩, rest⟩ := confined rfl .admin rfl
      have refused : revoked.currentUser site (.signed claims) = .error ⟨401, "Session revoked"⟩ := by
        decide
      rw [refused] at accepted
      cases accepted
  · let user : LocalUser := { id := 1, username := "user", passwordHash := "first", totpEnabled := true }
    let claims := createPreAuthToken "user" "half"
    let db : Database := { localUsers := [user], jobs := [{ id := "job", playbook := "p", username := "user" }] }
    let state : AuthState := { db := db }
    let half : AuthState := { db := db, issued := [claims] }
    refine ⟨site, state, [.loginLocal "user" "first" "half" false true, .jobLogs (.signed claims) "job"],
      rfl, (half, .jobLogs (.signed claims) "job"), ?_, claims, List.mem_singleton_self _, rfl, rfl, ?_,
      by decide⟩
    · decide
    · intro confined
      obtain ⟨⟨user, accepted, level⟩, rest⟩ := confined rfl .operator (by decide)
      have refused : half.currentUser site (.signed claims) =
          .error ⟨401, "Invalid or expired token"⟩ := by decide
      rw [refused] at accepted
      cases accepted

end P3Portal.Auth
