import P3Portal.Construction.Users.Administration
import P3Portal.Foundation.KeyedRows
import P3Portal.Proof.Users.Deletion

namespace P3Portal.Users
open Schema Foundation Http Auth Nodes

section Accounts
variable {db : Database}

def activeAdmin (user : LocalUser) : Bool := user.role = .admin && user.active

/-- The portal has an active administrator. -/
def AdminPresent (db : Database) : Prop := 0 < countActiveAdmins db

instance (db : Database) : Decidable (AdminPresent db) := inferInstanceAs (Decidable (_ < _))

theorem countActiveAdmins_eq (db : Database) : countActiveAdmins db = db.localUsers.countP activeAdmin := by
  unfold countActiveAdmins
  rw [List.countP_eq_length_filter]
  rfl

theorem adminPresent_iff : AdminPresent db ↔ ∃ user ∈ db.localUsers, activeAdmin user = true := by
  unfold AdminPresent
  rw [countActiveAdmins_eq, List.countP_pos_iff]

/-- The count depends on the standing of the accounts only. -/
theorem countActiveAdmins_standing {other : Database}
    (same : other.localUsers.map standing = db.localUsers.map standing) :
    countActiveAdmins other = countActiveAdmins db := by
  have read : ∀ db : Database, countActiveAdmins db =
      (db.localUsers.map standing).countP fun columns => columns.2.1 = .admin && columns.2.2 := by
    intro db
    rw [countActiveAdmins_eq, List.countP_map]
    rfl
  rw [read, read, same]

/-- The primary key of the accounts. -/
def KeysUnique (db : Database) : Prop := (db.localUsers.map LocalUser.id).Nodup

instance (db : Database) : Decidable (KeysUnique db) := inferInstanceAs (Decidable (List.Nodup _))

theorem keysUnique_standing {other : Database} (unique : KeysUnique db)
    (same : other.localUsers.map standing = db.localUsers.map standing) : KeysUnique other := by
  have read : ∀ db : Database, db.localUsers.map LocalUser.id = (db.localUsers.map standing).map Prod.fst := by
    intro db
    rw [List.map_map]
    rfl
  unfold KeysUnique at unique ⊢
  rw [read, same, ← read]
  exact unique

/-- The update changes the row of its account only. -/
theorem mem_updateUser {hashPassword : String → String} {userId : Int} {body : UserUpdateRequest}
    {changed : LocalUser} :
    changed ∈ (updateUser hashPassword db userId body).localUsers ↔ ∃ user ∈ db.localUsers,
      (user.id = userId ∧ changed = body.apply hashPassword user) ∨ (user.id ≠ userId ∧ changed = user) := by
  unfold updateUser updateUsers
  rw [List.mem_map]
  apply exists_congr
  intro user
  apply and_congr_right
  intro _
  by_cases target : user.id = userId
  · simp [target, eq_comm]
  · simp [target, eq_comm]

/-- An update takes the last admin away exactly when it changes the only one in this way. -/
theorem update_adminPresent_iff (hashPassword : String → String) (userId : Int) (body : UserUpdateRequest)
    (unique : KeysUnique db) (present : AdminPresent db) :
    AdminPresent (updateUser hashPassword db userId body) ↔
      ∀ user ∈ db.localUsers, activeAdmin user = true → user.id = userId → wouldLoseAdmin body user = true →
        1 < countActiveAdmins db := by
  have loses : ∀ user, activeAdmin user = true →
      (activeAdmin (body.apply hashPassword user) = true ↔ wouldLoseAdmin body user = false) := by
    intro user admin
    simp only [activeAdmin, Bool.and_eq_true, decide_eq_true_eq] at admin
    simp only [activeAdmin, wouldLoseAdmin, UserUpdateRequest.apply, admin.1, admin.2]
    cases body.role <;> cases body.active <;> simp
  constructor
  · intro after user stored admin named loss
    obtain ⟨changed, member, still⟩ := adminPresent_iff.mp after
    obtain ⟨other, otherStored, ⟨target, same⟩ | ⟨different, same⟩⟩ := mem_updateUser.mp member
    · have one := List.inj_on_of_nodup_map unique otherStored stored (target.trans named.symm)
      rw [same, one, loses user admin, loss] at still
      cases still
    · rw [same] at still
      rw [countActiveAdmins_eq]
      refine (one_lt_countP_iff unique stored admin).mpr ⟨other, otherStored, still, ?_⟩
      rw [named]
      exact different
  · intro spared
    obtain ⟨user, stored, admin⟩ := adminPresent_iff.mp present
    have kept : ∀ other ∈ db.localUsers, activeAdmin other = true → other.id ≠ userId →
        AdminPresent (updateUser hashPassword db userId body) := by
      intro other otherStored otherAdmin different
      exact adminPresent_iff.mpr
        ⟨other, mem_updateUser.mpr ⟨other, otherStored, .inr ⟨different, rfl⟩⟩, otherAdmin⟩
    by_cases target : user.id = userId
    · by_cases loss : wouldLoseAdmin body user = true
      · have several := spared user stored admin target loss
        rw [countActiveAdmins_eq] at several
        obtain ⟨other, otherStored, otherAdmin, different⟩ := (one_lt_countP_iff unique stored admin).mp several
        exact kept other otherStored otherAdmin (by rw [← target]; exact different)
      · have still := (loses user admin).mpr (Bool.eq_false_iff.mpr loss)
        exact adminPresent_iff.mpr
          ⟨_, mem_updateUser.mpr ⟨user, stored, .inl ⟨target, rfl⟩⟩, still⟩
    · exact kept user stored admin target

/-- A deletion takes the last admin away exactly when it removes the only one. -/
theorem delete_adminPresent_iff (userId : Int) {after : Database} (unique : KeysUnique db)
    (present : AdminPresent db)
    (deleted : after.localUsers = db.localUsers.filter fun user => user.id ≠ userId) :
    AdminPresent after ↔
      ∀ user ∈ db.localUsers, activeAdmin user = true → user.id = userId → 1 < countActiveAdmins db := by
  constructor
  · intro left user stored admin named
    obtain ⟨other, member, still⟩ := adminPresent_iff.mp left
    rw [deleted] at member
    obtain ⟨otherStored, different⟩ := List.mem_filter.mp member
    rw [countActiveAdmins_eq]
    refine (one_lt_countP_iff unique stored admin).mpr ⟨other, otherStored, still, ?_⟩
    rw [named]
    exact of_decide_eq_true different
  · intro spared
    obtain ⟨user, stored, admin⟩ := adminPresent_iff.mp present
    have kept : ∀ other ∈ db.localUsers, activeAdmin other = true → other.id ≠ userId → AdminPresent after := by
      intro other otherStored otherAdmin different
      refine adminPresent_iff.mpr ⟨other, ?_, otherAdmin⟩
      rw [deleted]
      exact List.mem_filter.mpr ⟨otherStored, decide_eq_true different⟩
    by_cases target : user.id = userId
    · have several := spared user stored admin target
      rw [countActiveAdmins_eq] at several
      obtain ⟨other, otherStored, otherAdmin, different⟩ := (one_lt_countP_iff unique stored admin).mp several
      exact kept other otherStored otherAdmin (by rw [← target]; exact different)
    · exact kept user stored admin target

end Accounts

section Turn
variable {Store : Type} (hashPassword : String → String) (hooks : PlusUserHooks Store) (now : String)

/-- This turn of a request takes the admin away unless another one remains. -/
def Takes (portal : Portal Store) (call : AdminCall) (user : LocalUser) : Prop :=
  user.id = call.request.userId ∧ match call.phase, call.request with
    | .checked _, .updateLocalUser _ body => wouldLoseAdmin body user = true
    | .deleting _, request => (∀ owner ∈ portal.db.vmOwners, owner.userId ≠ request.userId) ∧
        (hooks.userRowDeleted portal.plus request.userId).isSome = true
    | _, _ => False

/-- More than one admin is active when a turn takes an active admin away. -/
def SparesLast (portal : Portal Store) (call : AdminCall) : Prop :=
  ∀ user ∈ portal.db.localUsers, activeAdmin user = true → Takes hooks portal call user →
    1 < countActiveAdmins portal.db

theorem cleanupAccount_localUsers (db : Database) (userId : Int) (deletedBy : String) :
    (cleanupAccount db userId deletedBy now).localUsers = db.localUsers := by
  obtain ⟨audits, same⟩ := cleanupAccount_frame db userId deletedBy now
  rw [same]

/-- A turn leaves the accounts, commits an update, or deletes an account. -/
theorem turn_cases (portal : Portal Store) (call : AdminCall) :
    ((call.turn hashPassword hooks now portal).1.db.localUsers = portal.db.localUsers ∧
        ∀ user, ¬ Takes hooks portal call user) ∨
      (∃ target userId body, call.phase = .checked target ∧ call.request = .updateLocalUser userId body ∧
        (call.turn hashPassword hooks now portal).1.db.localUsers =
          (updateUser hashPassword portal.db userId body).localUsers) ∨
      ∃ target, call.phase = .deleting target ∧
        ((∀ owner ∈ portal.db.vmOwners, owner.userId ≠ call.request.userId) ∧
          (hooks.userRowDeleted portal.plus call.request.userId).isSome = true) ∧
        (call.turn hashPassword hooks now portal).1.db.localUsers =
          portal.db.localUsers.filter fun user => user.id ≠ call.request.userId := by
  obtain ⟨request, current, phase⟩ := call
  unfold AdminCall.turn
  cases phase with
  | arrived =>
      refine .inl ⟨?_, fun user taken => taken.2⟩
      simp only
      split <;> rfl
  | counting target =>
      refine .inl ⟨?_, fun user taken => taken.2⟩
      simp only
      split <;> rfl
  | checked target =>
      cases request with
      | updateLocalUser userId body =>
          refine .inr (.inl ⟨target, userId, body, rfl, rfl, ?_⟩)
          simp only [afterGuard, commitUpdate]
          split
          · rfl
          · split <;> rfl
      | deleteLocalUser userId action transferTo =>
          refine .inl ⟨?_, fun user taken => taken.2⟩
          simp only [afterGuard]
          split
          · rfl
          · exact cleanupAccount_localUsers now _ _ _
  | settling target =>
      refine .inl ⟨?_, fun user taken => taken.2⟩
      cases request with
      | updateLocalUser userId body => rfl
      | deleteLocalUser userId action transferTo =>
          simp only [settle]
          split
          · rfl
          · rename_i settled done
            obtain ⟨owners, audits, same⟩ := (cleanupOwnerships_moves _ _ _ _ done).frame
            rw [same]
  | deleting target =>
      simp only [commitDeletion]
      split
      · rename_i deleted plus deletedOk accepted
        obtain ⟨unowned, same⟩ := deleteUser_eq_some.mp deletedOk
        refine .inr (.inr ⟨target, rfl, ⟨unowned, by rw [accepted]; rfl⟩, ?_⟩)
        rw [same]
        rfl
      · rename_i refused
        refine .inl ⟨rfl, ?_⟩
        intro user taken
        obtain ⟨-, unowned, accepted⟩ := taken
        obtain ⟨plus, some_plus⟩ := Option.isSome_iff_exists.mp accepted
        exact refused _ plus (deleteUser_eq_some.mpr ⟨unowned, rfl⟩) some_plus
  | revoking target =>
      refine .inl ⟨?_, fun user taken => taken.2⟩
      cases request with
      | updateLocalUser userId body => exact revokeAllForUser_localUsers _ _ _
      | deleteLocalUser userId action transferTo => rfl
  | finished answer => exact .inl ⟨rfl, fun user taken => taken.2⟩

theorem turn_keysUnique (portal : Portal Store) (call : AdminCall) (unique : KeysUnique portal.db) :
    KeysUnique (call.turn hashPassword hooks now portal).1.db := by
  unfold KeysUnique at unique ⊢
  rcases turn_cases hashPassword hooks now portal call with ⟨same, -⟩ | ⟨target, userId, body, -, -, same⟩ |
    ⟨target, -, -, same⟩
  · rw [same]
    exact unique
  · have ids : (updateUser hashPassword portal.db userId body).localUsers.map LocalUser.id =
        portal.db.localUsers.map LocalUser.id := updateUsers_column _ _ fun _ => rfl
    rw [same, ids]
    exact unique
  · rw [same]
    exact unique.sublist (List.filter_sublist.map _)

/-- A turn leaves an admin exactly when it spares the last one. -/
theorem turn_adminPresent_iff (portal : Portal Store) (call : AdminCall) (unique : KeysUnique portal.db)
    (present : AdminPresent portal.db) :
    AdminPresent (call.turn hashPassword hooks now portal).1.db ↔ SparesLast hooks portal call := by
  rcases turn_cases hashPassword hooks now portal call with ⟨same, untouched⟩ |
    ⟨target, userId, body, checked, named, same⟩ | ⟨target, deleting, accepted, same⟩
  · refine iff_of_true ?_ fun user _ _ taken => absurd taken (untouched user)
    rw [adminPresent_iff] at present ⊢
    rw [same]
    exact present
  · have after : AdminPresent (call.turn hashPassword hooks now portal).1.db ↔
        AdminPresent (updateUser hashPassword portal.db userId body) := by
      rw [adminPresent_iff, adminPresent_iff, same]
    rw [after, update_adminPresent_iff hashPassword userId body unique present]
    simp only [SparesLast, Takes, checked, named, AdminRequest.userId, and_imp]
  · rw [delete_adminPresent_iff call.request.userId unique present same]
    simp only [SparesLast, Takes, deleting, and_imp, accepted.2, forall_const]
    constructor
    · intro spared user stored admin target _
      exact spared user stored admin target
    · intro spared user stored admin target
      exact spared user stored admin target accepted.1

end Turn

section History
variable {Store : Type} (hashPassword : String → String) (hooks : PlusUserHooks Store)

/-- The turns of the requests spare the last admin; the rest of the portal leaves the admins alone. -/
def Spares (state : AdminState Store) : AdminEvent Store → Prop
  | .advance index _ => ∀ call, state.processes[index]? = some call → SparesLast hooks state.shared call
  | _ => True

theorem adminStep_keysUnique (state : AdminState Store) (event : AdminEvent Store)
    (unique : KeysUnique state.shared.db) : KeysUnique (adminStep hashPassword hooks state event).shared.db := by
  cases event with
  | request request current => exact unique
  | advance index now =>
      change KeysUnique (state.act (AdminCall.advance hashPassword hooks now) index).shared.db
      cases present : state.processes[index]? with
      | none =>
          rw [Interleaved.act_absent present]
          exact unique
      | some call =>
          rw [Interleaved.act_shared present]
          exact turn_keysUnique hashPassword hooks now state.shared call unique
  | elsewhere portal =>
      simp only [adminStep]
      split
      · rename_i same
        exact keysUnique_standing unique same
      · exact unique

theorem adminStep_present_iff (state : AdminState Store) (event : AdminEvent Store)
    (unique : KeysUnique state.shared.db) (admin : AdminPresent state.shared.db) :
    AdminPresent (adminStep hashPassword hooks state event).shared.db ↔ Spares hooks state event := by
  cases event with
  | request request current => exact iff_of_true admin trivial
  | advance index now =>
      change AdminPresent (state.act (AdminCall.advance hashPassword hooks now) index).shared.db ↔
        ∀ call, state.processes[index]? = some call → SparesLast hooks state.shared call
      cases present : state.processes[index]? with
      | none =>
          rw [Interleaved.act_absent present]
          refine iff_of_true admin ?_
          intro call absent
          cases absent
      | some call =>
          rw [Interleaved.act_shared present]
          change AdminPresent (call.turn hashPassword hooks now state.shared).1.db ↔ _
          rw [turn_adminPresent_iff hashPassword hooks now state.shared call unique admin]
          simp only [Option.some.injEq, forall_eq']
  | elsewhere portal =>
      refine iff_of_true ?_ trivial
      simp only [adminStep]
      split
      · rename_i same
        unfold AdminPresent
        rw [countActiveAdmins_standing same]
        exact admin
      · exact admin

/-- There is an admin in all states of a history exactly when every turn that takes an active admin away
finds another one. -/
theorem admin_remains_iff (state : AdminState Store) (events : List (AdminEvent Store))
    (unique : KeysUnique state.shared.db) (admin : AdminPresent state.shared.db) :
    (∀ after ∈ reached (adminStep hashPassword hooks) state events, AdminPresent after.shared.db) ↔
      ∀ visit ∈ visits (adminStep hashPassword hooks) state events, Spares hooks visit.1 visit.2 := by
  have keep : ∀ (state : AdminState Store) (event : AdminEvent Store), KeysUnique state.shared.db → True →
      Spares hooks state event → KeysUnique (adminStep hashPassword hooks state event).shared.db :=
    fun state event unique _ _ => adminStep_keysUnique hashPassword hooks state event unique
  have once : ∀ (state : AdminState Store) (event : AdminEvent Store), KeysUnique state.shared.db → True →
      AdminPresent state.shared.db →
        (AdminPresent (adminStep hashPassword hooks state event).shared.db ↔ Spares hooks state event) :=
    fun state event unique _ admin => adminStep_present_iff hashPassword hooks state event unique admin
  exact reached_iff_allowed _ keep once events unique admin fun _ _ => trivial

end History

section TwoAdmins
/-- Two admins, and nobody else. -/
def adminsDb : Database where
  localUsers := [{ id := 1, username := "anna", role := .admin }, { id := 2, username := "bert", role := .admin }]

def demote : UserUpdateRequest where
  role := some .viewer

def adminUser (username : String) : CurrentUser where
  username := username
  authType := .localUser
  role := .admin

/-- Anna and Bert demote each other. -/
def mutualRequests : List (AdminEvent Unit) :=
  [.request (.updateLocalUser 2 demote) (adminUser "anna"), .request (.updateLocalUser 1 demote) (adminUser "bert")]

/-- One request after the other leaves an admin, because the second one is refused. -/
theorem admin_remains_in_sequence :
    AdminPresent adminsDb ∧ ∀ after ∈ reached (adminStep id coreUserHooks) ⟨⟨adminsDb, ()⟩, []⟩
      (mutualRequests ++ [.advance 0 "t1", .advance 0 "t2", .advance 0 "t3", .advance 1 "t4", .advance 1 "t5"]),
      AdminPresent after.shared.db := by
  refine ⟨by decide, ?_⟩
  refine (admin_remains_iff id coreUserHooks _ _ (by decide) (by decide)).mpr ?_
  intro visit member
  simp only [mutualRequests, List.cons_append, List.nil_append, visits, List.mem_cons, List.not_mem_nil,
    or_false] at member
  rcases member with same | same | same | same | same | same | same
  · rw [same]
    trivial
  · rw [same]
    trivial
  · rw [same]
    intro call found user stored admin taken
    rw [← Option.some.inj found] at taken
    exact absurd taken.2 id
  · rw [same]
    intro call found user stored admin taken
    rw [← Option.some.inj found] at taken
    exact absurd taken.2 id
  · rw [same]
    intro call found user stored admin taken
    decide
  · rw [same]
    intro call found user stored admin taken
    rw [← Option.some.inj found] at taken
    exact absurd taken.2 id
  · rw [same]
    intro call found user stored admin taken
    rw [← Option.some.inj found] at taken
    exact absurd taken.2 id

/-- Both requests count two admins before either of them is committed. -/
theorem mutual_demotion_leaves_none :
    ¬ ∀ (state : AdminState Unit) (events : List (AdminEvent Unit)), KeysUnique state.shared.db →
      AdminPresent state.shared.db →
        ∀ after ∈ reached (adminStep id coreUserHooks) state events, AdminPresent after.shared.db := by
  intro claim
  have last := claim ⟨⟨adminsDb, ()⟩, []⟩
    (mutualRequests ++ [.advance 0 "t1", .advance 0 "t2", .advance 1 "t3", .advance 1 "t4", .advance 0 "t5",
      .advance 1 "t6"]) (by decide) (by decide)
    (run (adminStep id coreUserHooks) ⟨⟨adminsDb, ()⟩, []⟩
      (mutualRequests ++ [.advance 0 "t1", .advance 0 "t2", .advance 1 "t3", .advance 1 "t4", .advance 0 "t5",
        .advance 1 "t6"]))
    (run_mem_reached _ _ _)
  revert last
  decide

end TwoAdmins
end P3Portal.Users
