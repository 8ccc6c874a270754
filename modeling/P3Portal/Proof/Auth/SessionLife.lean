import P3Portal.Construction.Auth.History
import P3Portal.Proof.Auth.Revocation

namespace P3Portal.Auth
open Schema Foundation Http Setup Jobs

section Definitions
variable (site : Site)

/-- Whenever the dependency accepts a local token, its user exists and is active, and the token was issued to that
account after its creation and its last end. -/
def NoneOutlives (ledger : Ledger) : Prop :=
  ∀ claims ∈ ledger.auth.issued, ∀ user, ledger.auth.currentUser site (.signed claims) = .ok user →
    user.authType = .localUser → ∃ row ∈ ledger.auth.db.localUsers,
      row.username = user.username ∧ row.active = true ∧ (claims, row.id) ∈ ledger.live

/-- The first stored session of the token belongs to the user. -/
def StoredFor (db : Database) (claims : Claims) (username : String) : Prop :=
  ∃ jti session, claims.jti = some jti ∧ jti ≠ "" ∧
    db.userSessions.find? (fun row => row.jti = jti) = some session ∧ session.username = username

/-- A local token names a user and is not revoked. -/
structure Accepted (state : AuthState) (claims : Claims) (username : String) : Prop where
  issued : claims ∈ state.issued
  full : claims.stage ≠ some "2fa"
  named : claims.sub = some username
  nonempty : username ≠ ""
  isLocal : claims.authType = some .localUser
  unrevoked : ∀ jti, claims.jti = some jti → jti ≠ "" → isJtiRevoked state.db jti = false

/-- Every unrevoked token that names the account has a stored session under its name when the event revokes the
sessions of the account, and there is no such token when the event ends the account without a revocation. -/
def Terminates (ledger : Ledger) (event : Event) : Prop :=
  ∀ target revokes, ledger.auth.accountEnd site event = some (target, revokes) →
    ∀ claims, Accepted ledger.auth claims target.username →
      revokes = true ∧ StoredFor ledger.auth.db claims target.username

/-- Names and identifiers of accounts are unique, and the table of sessions answers. -/
structure AccountsKept (state : AuthState) : Prop where
  ids : (state.db.localUsers.map LocalUser.id).Nodup
  usernames : (state.db.localUsers.map LocalUser.username).Nodup
  ready : state.table = .ready

end Definitions

section Acceptance
variable {site : Site} {state : AuthState} {claims : Claims}

/-- The dependency accepts a local token for a user exactly when the token is accepted in this sense. -/
theorem currentUser_local_iff (ready : state.table = .ready) (issued : claims ∈ state.issued) (username : String) :
    (∃ user, state.currentUser site (.signed claims) = .ok user ∧ user.authType = .localUser ∧
      user.username = username) ↔ Accepted state claims username := by
  have session : checkSession state.db state.table claims.jti = .ok () ↔
      ∀ jti, claims.jti = some jti → jti ≠ "" → isJtiRevoked state.db jti = false := by
    simp [checkSession_ok_iff, ready]
  constructor
  · intro ⟨user, accepted, kind, named⟩
    simp only [AuthState.currentUser, getCurrentUser] at accepted
    split at accepted
    · cases accepted
    · rename_i full
      split at accepted
      · cases accepted
      · rename_i sub present
        obtain ⟨carried, nonempty⟩ := (Text.truthy_eq_some _ _).mp present
        split at accepted
        · cases accepted
        · rename_i passed
          rw [← Except.ok.inj accepted] at kind named
          rw [← named]
          refine ⟨issued, full, carried, nonempty, ?_, session.mp passed⟩
          change claims.authType.getD .proxmox = .localUser at kind
          cases stored : claims.authType with
          | none =>
              rw [stored] at kind
              cases kind
          | some authType =>
              rw [stored] at kind
              exact congrArg some kind
  · intro accepted
    have present := (Text.truthy_eq_some claims.sub username).mpr ⟨accepted.named, accepted.nonempty⟩
    have passed := session.mpr accepted.unrevoked
    simp [AuthState.currentUser, getCurrentUser, accepted.full, present, passed, accepted.isLocal]

theorem noneOutlives_iff {ledger : Ledger} (ready : ledger.auth.table = .ready) :
    NoneOutlives site ledger ↔ ∀ claims username, Accepted ledger.auth claims username →
      ∃ row ∈ ledger.auth.db.localUsers, row.username = username ∧ row.active = true ∧
        (claims, row.id) ∈ ledger.live := by
  constructor
  · intro none claims username accepted
    obtain ⟨user, current, kind, named⟩ := (currentUser_local_iff ready accepted.issued username).mpr accepted
    rw [← named]
    exact none claims accepted.issued user current kind
  · intro all claims issued user current kind
    exact all claims user.username ((currentUser_local_iff ready issued _).mp ⟨user, current, kind, rfl⟩)

end Acceptance

section Sessions
variable {db : Database}

/-- A new session of a token with a known identifier stands behind the first one. -/
theorem isJtiRevoked_createSession_eq (id username fresh jti : String) :
    isJtiRevoked (createSession db id username fresh) jti = isJtiRevoked db jti := by
  unfold isJtiRevoked createSession
  rw [List.find?_append]
  cases db.userSessions.find? fun row => row.jti = jti with
  | some row => rfl
  | none =>
      by_cases same : fresh = jti
      · simp [same]
      · simp [same]

/-- A revocation by name reaches the tokens whose session is stored under the name. -/
theorem isJtiRevoked_revokeAll (username jti : String) :
    isJtiRevoked (revokeAllForUser db username none) jti = true ↔ isJtiRevoked db jti = true ∨
      ∃ session, db.userSessions.find? (fun row => row.jti = jti) = some session ∧ session.username = username := by
  have kept : ∀ row : UserSession, { row with revoked := true }.jti = row.jti := fun _ => rfl
  simp only [isJtiRevoked, revokeAllForUser, revokeWhere, decide_eq_true_eq, find?_map_selected _ kept]
  cases found : db.userSessions.find? fun row => row.jti = jti with
  | none => simp
  | some session =>
      by_cases named : session.username = username
      · simp [named]
      · simp [named]

end Sessions

section Steps
variable {site : Site} {ledger : Ledger}

/-- An event that ends no account keeps the active accounts, and a token that it makes acceptable is one that it
issues to an active account. -/
structure QuietEffect (before after : AuthState) : Prop where
  rows : ∀ row ∈ before.db.localUsers, row.active = true → ∃ kept ∈ after.db.localUsers,
    kept.username = row.username ∧ kept.id = row.id ∧ kept.active = true
  tokens : ∀ claims username, Accepted after claims username → Accepted before claims username ∨
    ∃ row ∈ after.db.localUsers, row.username = username ∧ row.active = true ∧
      (claims, row.id) ∈ issuedNow before after

theorem QuietEffect.noneOutlives {after : AuthState} (effect : QuietEffect ledger.auth after)
    (readyAfter : after.table = .ready)
    (none : ∀ claims username, Accepted ledger.auth claims username → ∃ row ∈ ledger.auth.db.localUsers,
      row.username = username ∧ row.active = true ∧ (claims, row.id) ∈ ledger.live) :
    NoneOutlives site ⟨after, issuedNow ledger.auth after ++ ledger.live⟩ := by
  rw [noneOutlives_iff readyAfter]
  intro claims username accepted
  rcases effect.tokens claims username accepted with old | new
  · obtain ⟨row, stored, named, active, entered⟩ := none claims username old
    obtain ⟨kept, keptStored, sameName, sameId, keptActive⟩ := effect.rows row stored active
    refine ⟨kept, keptStored, sameName.trans named, keptActive, ?_⟩
    rw [sameId]
    exact List.mem_append_right _ entered
  · obtain ⟨row, stored, named, active, entered⟩ := new
    exact ⟨row, stored, named, active, List.mem_append_left _ entered⟩

theorem QuietEffect.refl (state : AuthState) : QuietEffect state state :=
  ⟨fun row stored active => ⟨row, stored, rfl, rfl, active⟩, fun _ _ => .inl⟩

/-- Neither the accounts nor the issued tokens change, and no revocation is taken back. -/
theorem QuietEffect.of_revocation {before after : AuthState} (users : after.db.localUsers = before.db.localUsers)
    (issued : after.issued = before.issued)
    (revokes : ∀ jti, isJtiRevoked before.db jti = true → isJtiRevoked after.db jti = true) :
    QuietEffect before after := by
  refine ⟨?_, ?_⟩
  · intro row stored active
    rw [users]
    exact ⟨row, stored, rfl, rfl, active⟩
  · intro claims username accepted
    left
    refine ⟨issued ▸ accepted.issued, accepted.full, accepted.named, accepted.nonempty, accepted.isLocal, ?_⟩
    intro jti carried nonempty
    have open_ := accepted.unrevoked jti carried nonempty
    rw [← Bool.not_eq_true] at open_ ⊢
    exact fun revoked => open_ (revokes jti revoked)

/-- The sessions and the issued tokens stay, and the active accounts do too. -/
theorem QuietEffect.of_accounts {before after : AuthState} (sessions : after.db.userSessions = before.db.userSessions)
    (issued : after.issued = before.issued)
    (rows : ∀ row ∈ before.db.localUsers, row.active = true → ∃ kept ∈ after.db.localUsers,
      kept.username = row.username ∧ kept.id = row.id ∧ kept.active = true) : QuietEffect before after := by
  refine ⟨rows, ?_⟩
  intro claims username accepted
  left
  refine ⟨issued ▸ accepted.issued, accepted.full, accepted.named, accepted.nonempty, accepted.isLocal, ?_⟩
  intro jti carried nonempty
  have open_ := accepted.unrevoked jti carried nonempty
  simp only [isJtiRevoked, sessions] at open_ ⊢
  exact open_

/-- A new token is either not acceptable as a local token, or it belongs to the active account that it names. -/
theorem QuietEffect.of_issue {state : AuthState} (claims : Claims) (username jti : String) (stored : Bool)
    (belongs : claims.authType = some .localUser → ∃ user, claims.sub = some user.username ∧
      getUserByUsername state.db user.username = some user ∧ user.active = true) :
    QuietEffect state (state.issue claims username jti stored) := by
  have users : (state.issue claims username jti stored).db.localUsers = state.db.localUsers := by
    cases stored <;> rfl
  have revoked : ∀ other, isJtiRevoked (state.issue claims username jti stored).db other =
      isJtiRevoked state.db other := by
    intro other
    cases stored with
    | true => exact isJtiRevoked_createSession_eq jti username jti other
    | false => rfl
  refine ⟨?_, ?_⟩
  · intro row member active
    rw [users]
    exact ⟨row, member, rfl, rfl, active⟩
  · intro other name accepted
    rcases List.mem_cons.mp accepted.issued with new | old
    · right
      rw [new] at accepted ⊢
      obtain ⟨user, named, found, active⟩ := belongs accepted.isLocal
      have same : user.username = name := Option.some.inj (named.symm.trans accepted.named)
      refine ⟨user, ?_, same, active, ?_⟩
      · rw [users]
        exact List.mem_of_find?_eq_some found
      · simp [issuedNow, AuthState.issue, named, found]
    · left
      refine ⟨old, accepted.full, accepted.named, accepted.nonempty, accepted.isLocal, ?_⟩
      intro value carried nonempty
      rw [← revoked]
      exact accepted.unrevoked value carried nonempty

/-- What the end of an account changes: only rows with its identifier, and only sessions under its name. -/
structure EndEffect (before after : AuthState) (target : LocalUser) (revokes : Bool) : Prop where
  stored : target ∈ before.db.localUsers
  issued : after.issued = before.issued
  table : after.table = before.table
  others : ∀ row, row.id ≠ target.id → (row ∈ after.db.localUsers ↔ row ∈ before.db.localUsers)
  sessions : ∀ jti, isJtiRevoked after.db jti = true ↔ isJtiRevoked before.db jti = true ∨
    (revokes = true ∧ ∃ session, before.db.userSessions.find? (fun row => row.jti = jti) = some session ∧
      session.username = target.username)

/-- A token outlives the end of an account exactly when its session is not revoked with it. -/
theorem EndEffect.accepted_iff {before after : AuthState} {target : LocalUser} {revokes : Bool}
    (effect : EndEffect before after target revokes) (claims : Claims) (username : String) :
    Accepted after claims username ↔
      Accepted before claims username ∧ ¬ (revokes = true ∧ StoredFor before.db claims target.username) := by
  constructor
  · intro accepted
    have unrevoked : ∀ jti, claims.jti = some jti → jti ≠ "" → isJtiRevoked before.db jti = false := by
      intro jti carried nonempty
      have open_ := accepted.unrevoked jti carried nonempty
      rw [← Bool.not_eq_true] at open_ ⊢
      intro revoked
      exact open_ ((effect.sessions jti).mpr (.inl revoked))
    refine ⟨⟨effect.issued ▸ accepted.issued, accepted.full, accepted.named, accepted.nonempty, accepted.isLocal,
      unrevoked⟩, ?_⟩
    intro ⟨revoking, jti, session, carried, nonempty, found, owned⟩
    have open_ := accepted.unrevoked jti carried nonempty
    rw [(effect.sessions jti).mpr (.inr ⟨revoking, session, found, owned⟩)] at open_
    cases open_
  · intro ⟨accepted, survives⟩
    refine ⟨effect.issued.symm ▸ accepted.issued, accepted.full, accepted.named, accepted.nonempty,
      accepted.isLocal, ?_⟩
    intro jti carried nonempty
    rw [← Bool.not_eq_true, effect.sessions]
    rintro (revoked | ⟨revoking, session, found, owned⟩)
    · rw [accepted.unrevoked jti carried nonempty] at revoked
      cases revoked
    · exact survives ⟨revoking, jti, session, carried, nonempty, found, owned⟩

/-- The end of an account leaves no token behind exactly when every accepted token of it is revoked. -/
theorem EndEffect.noneOutlives_iff {after : AuthState} {target : LocalUser} {revokes : Bool}
    (effect : EndEffect ledger.auth after target revokes) (kept : AccountsKept ledger.auth)
    (none : ∀ claims username, Accepted ledger.auth claims username → ∃ row ∈ ledger.auth.db.localUsers,
      row.username = username ∧ row.active = true ∧ (claims, row.id) ∈ ledger.live) :
    NoneOutlives site ⟨after, ledger.live.filter fun entry => entry.2 ≠ target.id⟩ ↔
      ∀ claims, Accepted ledger.auth claims target.username →
        revokes = true ∧ StoredFor ledger.auth.db claims target.username := by
  have ready : after.table = .ready := effect.table.trans kept.ready
  rw [Auth.noneOutlives_iff ready]
  constructor
  · intro all claims accepted
    by_contra survives
    obtain ⟨row, stored, named, _, entered⟩ :=
      all claims target.username ((effect.accepted_iff claims _).mpr ⟨accepted, survives⟩)
    have other : row.id ≠ target.id := of_decide_eq_true (List.mem_filter.mp entered).2
    have before := (effect.others row other).mp stored
    exact other (congrArg LocalUser.id (List.inj_on_of_nodup_map kept.usernames before effect.stored named))
  · intro ended claims username accepted
    obtain ⟨before, survives⟩ := (effect.accepted_iff claims username).mp accepted
    obtain ⟨row, stored, named, active, entered⟩ := none claims username before
    have other : row.id ≠ target.id := by
      intro same
      have target_row := List.inj_on_of_nodup_map kept.ids stored effect.stored same
      rw [← named, target_row] at before
      exact survives (ended claims before)
    exact ⟨row, (effect.others row other).mpr stored, named, active,
      List.mem_filter.mpr ⟨entered, decide_eq_true other⟩⟩

/-- An administrator changes the row of one account and may revoke the sessions under its name. -/
theorem endEffect_update {state : AuthState} {target : LocalUser} {change : LocalUser → LocalUser} {userId : Int}
    (named : ∀ row, (change row).id = row.id) (found : getUserById state.db userId = some target) :
    EndEffect state { state with db := updateUsers state.db (fun row => row.id = userId) change } target false ∧
      EndEffect state
        { state with
          db := revokeAllForUser (updateUsers state.db (fun row => row.id = userId) change) target.username none }
        target true := by
  obtain ⟨stored, identified⟩ := getUserById_spec found
  have others : ∀ row, row.id ≠ target.id →
      (row ∈ (updateUsers state.db (fun row => row.id = userId) change).localUsers ↔ row ∈ state.db.localUsers) := by
    intro row differs
    rw [identified] at differs
    constructor
    · intro member
      obtain ⟨before, storedBefore, same⟩ := List.mem_map.mp member
      by_cases selected : before.id = userId
      · rw [if_pos (decide_eq_true selected)] at same
        rw [← same, named] at differs
        exact absurd selected differs
      · rw [if_neg (by simpa using selected)] at same
        exact same ▸ storedBefore
    · intro member
      refine List.mem_map.mpr ⟨row, member, ?_⟩
      rw [if_neg (by simpa using differs)]
  refine ⟨⟨stored, rfl, rfl, others, ?_⟩, ⟨stored, rfl, rfl, ?_, ?_⟩⟩
  · intro jti
    simp [isJtiRevoked, updateUsers]
  · intro row differs
    simp only [revokeAllForUser_localUsers]
    exact others row differs
  · intro jti
    simp only [isJtiRevoked_revokeAll, true_and]
    exact Iff.rfl

theorem endEffect_delete {state : AuthState} {target : LocalUser} {userId : Int}
    (found : getUserById state.db userId = some target) :
    EndEffect state
      { state with db := { state.db with localUsers := state.db.localUsers.filter fun row => row.id ≠ userId } }
      target false := by
  obtain ⟨stored, identified⟩ := getUserById_spec found
  refine ⟨stored, rfl, rfl, ?_, ?_⟩
  · intro row differs
    rw [identified] at differs
    simp [List.mem_filter, differs]
  · intro jti
    simp [isJtiRevoked]

/-- An effect that ends an account has this effect on it. -/
theorem Effect.endEffect {state after : AuthState} {target : LocalUser} {revokes : Bool}
    (effect : Effect site state (some (target, revokes)) after) : EndEffect state after target revokes := by
  cases effect with
  | replaced _ userId change named found => exact (endEffect_update (fun row => (named row).1) found).1
  | terminated _ userId change named found => exact (endEffect_update (fun row => (named row).1) found).2
  | deleted _ userId found => exact endEffect_delete found

/-- A change of the accounts with one identifier is quiet when it deactivates none. -/
theorem QuietEffect.of_update {state : AuthState} {userId : Int} {change : LocalUser → LocalUser}
    (named : ∀ row, (change row).id = row.id ∧ (change row).username = row.username)
    (active : ∀ row ∈ state.db.localUsers, row.id = userId → row.active = true → (change row).active = true) :
    QuietEffect state { state with db := updateUsers state.db (fun row => row.id = userId) change } := by
  refine QuietEffect.of_accounts rfl rfl ?_
  intro row member rowActive
  refine ⟨_, List.mem_map_of_mem member, ?_⟩
  by_cases selected : row.id = userId
  · rw [if_pos (decide_eq_true selected)]
    exact ⟨(named row).2, (named row).1, active row member selected rowActive⟩
  · rw [if_neg (by simpa using selected)]
    exact ⟨rfl, rfl, rowActive⟩

/-- An effect that ends no account is quiet. -/
theorem Effect.quiet {state after : AuthState} (effect : Effect site state none after) (kept : AccountsKept state) :
    QuietEffect state after := by
  cases effect with
  | refused => exact QuietEffect.refl state
  | halved username jti =>
      refine ⟨fun row member active => ⟨row, member, rfl, rfl, active⟩, ?_⟩
      intro claims name accepted
      rcases List.mem_cons.mp accepted.issued with half | old
      · rw [half] at accepted
        exact absurd rfl accepted.full
      · exact .inl ⟨old, accepted.full, accepted.named, accepted.nonempty, accepted.isLocal, accepted.unrevoked⟩
  | issued claims username jti stored belongs => exact QuietEffect.of_issue claims username jti stored belongs
  | revoked selected => exact QuietEffect.of_revocation rfl rfl fun _ => isJtiRevoked_revokeWhere selected
  | created username password role free =>
      refine QuietEffect.of_accounts rfl rfl ?_
      intro row member active
      exact ⟨row, List.mem_append_left _ member, rfl, rfl, active⟩
  | updated userId change named stays =>
      apply QuietEffect.of_update named
      intro row member selected active
      have found : getUserById state.db row.id = some row := find?_key kept.ids member
      rw [selected] at found
      exact stays row found active

theorem AccountsKept.congr {before after : AuthState} (kept : AccountsKept before)
    (ids : after.db.localUsers.map LocalUser.id = before.db.localUsers.map LocalUser.id)
    (usernames : after.db.localUsers.map LocalUser.username = before.db.localUsers.map LocalUser.username)
    (table : after.table = before.table) : AccountsKept after := by
  refine ⟨?_, ?_, table.trans kept.ready⟩
  · rw [ids]
    exact kept.ids
  · rw [usernames]
    exact kept.usernames

theorem AccountsKept.update {state : AuthState} (kept : AccountsKept state) (selected : LocalUser → Bool)
    {change : LocalUser → LocalUser}
    (named : ∀ row, (change row).id = row.id ∧ (change row).username = row.username) :
    AccountsKept { state with db := updateUsers state.db selected change } :=
  kept.congr (updateUsers_column _ _ fun row => (named row).1) (updateUsers_column _ _ fun row => (named row).2) rfl

theorem AccountsKept.create {state : AuthState} (kept : AccountsKept state) (hashPassword : String → String)
    {username : String} (password : String) (role : Role)
    (free : getUserByUsername state.db username = none) :
    AccountsKept { state with db := createUser hashPassword state.db username password role } := by
  rw [getUserByUsername, List.find?_eq_none] at free
  refine ⟨?_, ?_, kept.ready⟩
  · exact nodup_append_key kept.ids (next_key_unused _)
  · apply nodup_append_key kept.usernames
    intro used
    obtain ⟨row, stored, named⟩ := List.mem_map.mp used
    exact free row stored (decide_eq_true named)

/-- Every effect keeps names and identifiers unique. -/
theorem Effect.accountsKept {state after : AuthState} {ended : Option (LocalUser × Bool)}
    (effect : Effect site state ended after) (kept : AccountsKept state) : AccountsKept after := by
  cases effect with
  | refused => exact kept
  | halved username jti => exact kept.congr rfl rfl rfl
  | issued claims username jti stored belongs => cases stored <;> exact kept.congr rfl rfl rfl
  | revoked selected => exact kept.congr rfl rfl rfl
  | created username password role free => exact kept.create _ password role free
  | updated userId change named stays => exact kept.update _ named
  | replaced target userId change named found => exact kept.update _ named
  | terminated target userId change named found => exact (kept.update _ named).congr rfl rfl rfl
  | deleted target userId found =>
      exact ⟨kept.ids.sublist (List.filter_sublist.map _), kept.usernames.sublist (List.filter_sublist.map _),
        kept.ready⟩

/-- A listed event lets no token outlive its account exactly when it terminates the account that it ends. -/
theorem ledgerStep_noneOutlives_iff (event : Event) (listed : event.listed = true) (kept : AccountsKept ledger.auth)
    (none : NoneOutlives site ledger) :
    NoneOutlives site (ledgerStep site ledger event) ↔ Terminates site ledger event := by
  have entered := (noneOutlives_iff kept.ready).mp none
  have effect : Effect site ledger.auth (ledger.auth.accountEnd site event) (step site ledger.auth event) :=
    step_effect event listed
  cases ends : ledger.auth.accountEnd site event with
  | none =>
      rw [ends] at effect
      have quiet : ledgerStep site ledger event = ⟨step site ledger.auth event,
          issuedNow ledger.auth (step site ledger.auth event) ++ ledger.live⟩ := by
        simp only [ledgerStep, ends]
      rw [quiet]
      apply iff_of_true ((effect.quiet kept).noneOutlives (effect.accountsKept kept).ready entered)
      intro target revokes impossible
      rw [ends] at impossible
      cases impossible
  | some ended =>
      obtain ⟨target, revokes⟩ := ended
      rw [ends] at effect
      have after : ledgerStep site ledger event = ⟨step site ledger.auth event,
          ledger.live.filter fun entry => entry.2 ≠ target.id⟩ := by
        simp only [ledgerStep, ends]
      rw [after, effect.endEffect.noneOutlives_iff kept entered]
      constructor
      · intro all other flag same
        rw [ends] at same
        obtain ⟨sameTarget, sameFlag⟩ := Prod.mk.inj (Option.some.inj same)
        rw [← sameTarget, ← sameFlag]
        exact all
      · intro all
        exact all target revokes ends

end Steps

/-- Over a history of listed events, no token ever outlives its account exactly when every event terminates the
account that it ends. -/
theorem noneOutlives_reached_iff (site : Site) (ledger : Ledger) (events : List Event)
    (listed : ∀ event ∈ events, event.listed = true) (kept : AccountsKept ledger.auth) (none : NoneOutlives site ledger) :
    (∀ after ∈ reached (ledgerStep site) ledger events, NoneOutlives site after) ↔
      ∀ visit ∈ visits (ledgerStep site) ledger events, Terminates site visit.1 visit.2 := by
  have keep : ∀ ledger event, AccountsKept ledger.auth → event.listed = true → Terminates site ledger event →
      AccountsKept (ledgerStep site ledger event).auth :=
    fun _ event kept listed _ => (step_effect event listed).accountsKept kept
  have once : ∀ ledger event, AccountsKept ledger.auth → event.listed = true → NoneOutlives site ledger →
      (NoneOutlives site (ledgerStep site ledger event) ↔ Terminates site ledger event) :=
    fun _ event kept listed none => ledgerStep_noneOutlives_iff event listed kept none
  exact reached_iff_allowed (ledgerStep site) keep once events kept none fun visit member =>
    listed visit.2 (visits_event _ _ _ member)

section Leavers
/-- Passwords are their own hashes, and no personal key is known. -/
def leaverSite : Site where
  hashPassword password := password
  authenticateUserKey _ _ := .ok none

def rootRow : LocalUser where
  id := 1
  username := "root"
  passwordHash := "r"
  role := .admin

def leaverRow : LocalUser where
  id := 2
  username := "anna"
  passwordHash := "a"

/-- An administrator and Anna have accounts, and nobody is logged in. -/
def leaverStart : Ledger where
  auth := { db := { localUsers := [rootRow, leaverRow] } }

theorem leaverStart_kept : AccountsKept leaverStart.auth := ⟨by decide, by decide, rfl⟩

theorem leaverStart_none : NoneOutlives leaverSite leaverStart := by
  intro claims absent
  cases absent

def rootBearer : Bearer := .signed (issueLocalToken rootRow "j1" false)

def bothLogins : List Event :=
  [.loginLocal "root" "r" "j1" false true, .loginLocal "anna" "a" "j2" false true]

/-- The administrator deactivates Anna, whose session is stored. -/
theorem deactivation_noneOutlives :
    NoneOutlives leaverSite leaverStart ∧
      ∀ after ∈ reached (ledgerStep leaverSite) leaverStart
        (bothLogins ++ [.updateLocalUser rootBearer 2 none none (some false)]), NoneOutlives leaverSite after := by
  refine ⟨leaverStart_none, ?_⟩
  apply (noneOutlives_reached_iff leaverSite leaverStart _ _ leaverStart_kept leaverStart_none).mpr
  · intro visit member
    simp only [bothLogins, List.cons_append, List.nil_append, visits, List.mem_cons, List.not_mem_nil,
      or_false] at member
    rcases member with first | second | third
    · rw [first]
      intro target revokes ends
      cases ends
    · rw [second]
      intro target revokes ends
      cases ends
    · rw [third]
      intro target revokes ends claims accepted
      obtain ⟨same, flag⟩ := Prod.mk.inj (Option.some.inj ends)
      have named := accepted.named
      rw [← same] at named ⊢
      refine ⟨flag.symm, ?_⟩
      rcases List.mem_cons.mp accepted.issued with anna | root
      · rw [anna]
        exact ⟨"j2", ⟨"j2", "anna", "j2", false⟩, rfl, by decide, by decide, rfl⟩
      · rw [List.mem_singleton.mp root] at named
        have differs : (issueLocalToken rootRow "j1" false).sub ≠ some leaverRow.username := by decide
        exact absurd named differs
  · decide

/-- The administrator deletes Anna, and her token is still accepted. -/
theorem deleted_account_outlived :
    ¬ ∀ (site : Site) (ledger : Ledger) (events : List Event), (∀ event ∈ events, event.listed = true) →
      AccountsKept ledger.auth → NoneOutlives site ledger →
        ∀ after ∈ reached (ledgerStep site) ledger events, NoneOutlives site after := by
  intro claim
  have outlives := claim leaverSite leaverStart (bothLogins ++ [.deleteLocalUser rootBearer 2]) ?_
    leaverStart_kept leaverStart_none _ (run_mem_reached _ _ _)
  · have accepted := outlives (issueLocalToken leaverRow "j2" false) (by decide)
      { username := "anna", authType := .localUser, role := .operator, jti := some "j2" } (by decide) rfl
    revert accepted
    decide
  · decide

end Leavers
end P3Portal.Auth
