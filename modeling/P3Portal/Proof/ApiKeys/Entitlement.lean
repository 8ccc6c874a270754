import P3Portal.Construction.ApiKeys.Service
import P3Portal.Proof.Users.Deletion

namespace P3Portal.ApiKeys
open Schema Foundation Http Auth Users

section Definitions
variable (site : KeySite)

/-- An account without a list may use all scopes. -/
def Allowed (owner : LocalUser) (scopes : List String) : Prop :=
  ∀ allowed ∈ owner.apiKeysAllowedScopes, scopes ⊆ allowed

/-- An accepted key is active and unexpired, its owner exists, is active and enabled for keys, and the scopes are
allowed for that owner. -/
def Entitled (state : KeyState) : Prop :=
  ∀ plaintext info, authenticateUserKey site state.db state.now plaintext = .ok (some info) →
    ∃ key ∈ state.db.userApiKeys, ∃ owner ∈ state.db.localUsers,
      key.keyHash = site.hashKey plaintext ∧ key.isActive = true ∧ expired state.now key = false ∧
        owner.id = key.userId ∧ owner.active = true ∧ owner.apiKeysEnabled = true ∧ Allowed owner info.scopes

/-- The identifiers of the accounts and the hashes of the keys are unique, and every hash belongs to a key. -/
structure KeysKept (db : Database) : Prop where
  accounts : (db.localUsers.map LocalUser.id).Nodup
  hashes : (db.userApiKeys.map UserApiKey.keyHash).Nodup
  issued : ∀ key ∈ db.userApiKeys, ∃ plaintext, site.hashKey plaintext = key.keyHash

/-- The active unexpired keys of an account carry no scope outside a list. -/
def KeysWithin (state : KeyState) (userId : Int) (allowed : List String) : Prop :=
  ∀ key ∈ state.db.userApiKeys, key.userId = userId → key.isActive = true → expired state.now key = false →
    key.scopes ⊆ allowed

/-- The keys of an active account are within the list when the settings enable them with it, and they are within
the stored list when the account is activated. -/
def Covers (state : KeyState) : KeyEvent → Prop
  | .updateApiKeySettings userId body => body.validate = .ok () →
      ∀ owner, getUserById state.db userId = some owner → owner.active = true → body.apiKeysEnabled = true →
        ∀ allowed ∈ body.apiKeysAllowedScopes, KeysWithin state userId allowed
  | .updateLocalUser userId body =>
      ∀ owner, getUserById state.db userId = some owner → updateRefused state.db body owner = false →
        body.active = some true → owner.apiKeysEnabled = true →
          ∀ allowed ∈ owner.apiKeysAllowedScopes, KeysWithin state userId allowed
  | _ => True

end Definitions

section Acceptance
variable {site : KeySite} {state : KeyState}

/-- A key is accepted together with its owner. -/
structure Live (state : KeyState) (key : UserApiKey) (owner : LocalUser) : Prop where
  stored : key ∈ state.db.userApiKeys
  joined : getUserById state.db key.userId = some owner
  keyActive : key.isActive = true
  unexpired : expired state.now key = false
  ownerActive : owner.active = true
  enabled : owner.apiKeysEnabled = true

/-- What the acceptance of keys shows of the stored rows. -/
def Within (state : KeyState) : Prop := ∀ key owner, Live state key owner → Allowed owner key.scopes

/-- A key is accepted exactly when its row and the row of its owner pass all checks. -/
theorem authenticateUserKey_eq_some {plaintext : String} {info : KeyInfo} :
    authenticateUserKey site state.db state.now plaintext = .ok (some info) ↔
      ∃ key owner, Live state key owner ∧
        state.db.userApiKeys.find? (fun key => key.keyHash = site.hashKey plaintext) = some key ∧
          info = ⟨key.id, some key.userId, owner.username, owner.role, key.scopes⟩ := by
  cases found : state.db.userApiKeys.find? fun key => key.keyHash = site.hashKey plaintext with
  | none => simp [authenticateUserKey, found]
  | some key =>
      have stored := List.mem_of_find?_eq_some found
      cases joined : getUserById state.db key.userId with
      | none =>
          constructor
          · intro accepted
            simp [authenticateUserKey, found, joined] at accepted
          · intro ⟨other, owner, live, same, _⟩
            have owned := live.joined
            rw [← Option.some.inj same, joined] at owned
            cases owned
      | some user =>
          have checks : authenticateUserKey site state.db state.now plaintext = .ok (some info) ↔
              key.isActive = true ∧ expired state.now key = false ∧ user.active = true ∧
                user.apiKeysEnabled = true ∧
                  info = ⟨key.id, some key.userId, user.username, user.role, key.scopes⟩ := by
            simp only [authenticateUserKey, found, joined]
            cases key.isActive <;> cases expired state.now key <;> cases user.active <;>
              cases user.apiKeysEnabled <;> simp [eq_comm]
          rw [checks]
          constructor
          · intro ⟨keyActive, unexpired, ownerActive, enabled, named⟩
            exact ⟨key, user, ⟨stored, joined, keyActive, unexpired, ownerActive, enabled⟩, rfl, named⟩
          · intro ⟨other, owner, live, same, named⟩
            rw [← Option.some.inj same] at live named
            have owned : owner = user := Option.some.inj (live.joined.symm.trans joined)
            rw [owned] at live named
            exact ⟨live.keyActive, live.unexpired, live.ownerActive, live.enabled, named⟩

/-- The acceptance of every key shows all live rows, because hashes are unique and belong to keys. -/
theorem entitled_iff_within (kept : KeysKept site state.db) : Entitled site state ↔ Within state := by
  constructor
  · intro entitled key owner live
    obtain ⟨plaintext, hashed⟩ := kept.issued key live.stored
    have found : state.db.userApiKeys.find? (fun other => other.keyHash = site.hashKey plaintext) = some key := by
      rw [hashed]
      exact find?_key kept.hashes live.stored
    obtain ⟨other, otherStored, user, userStored, otherHashed, _, _, joined, _, _, allowed⟩ :=
      entitled plaintext _ (authenticateUserKey_eq_some.mpr ⟨key, owner, live, found, rfl⟩)
    have same : other = key :=
      List.inj_on_of_nodup_map kept.hashes otherStored live.stored (otherHashed.trans hashed)
    obtain ⟨ownerStored, named⟩ := getUserById_spec live.joined
    have owned : user = owner := by
      apply List.inj_on_of_nodup_map kept.accounts userStored ownerStored
      rw [joined, named, same]
    rw [← owned]
    exact allowed
  · intro within plaintext info accepted
    obtain ⟨key, owner, live, found, named⟩ := authenticateUserKey_eq_some.mp accepted
    obtain ⟨ownerStored, joined⟩ := getUserById_spec live.joined
    have hashed := (find?_key_spec found).2
    refine ⟨key, live.stored, owner, ownerStored, hashed, live.keyActive, live.unexpired, joined,
      live.ownerActive, live.enabled, ?_⟩
    rw [named]
    exact within key owner live

/-- A change that makes no pair live and no list shorter keeps all keys within their lists. -/
theorem Within.of_live {after : KeyState} (within : Within state)
    (earlier : ∀ key owner, Live after key owner → ∃ before, Live state key before ∧
      before.apiKeysAllowedScopes = owner.apiKeysAllowedScopes) : Within after := by
  intro key owner live allowed listed
  obtain ⟨before, liveBefore, same⟩ := earlier key owner live
  apply within key before liveBefore allowed
  rw [same]
  exact listed

/-- The acceptance of keys depends on the accounts and the keys only. -/
theorem Within.congr {db other : Database} {now : Int} (users : other.localUsers = db.localUsers)
    (keys : other.userApiKeys = db.userApiKeys) (within : Within ⟨db, now⟩) : Within ⟨other, now⟩ := by
  apply within.of_live
  intro key owner live
  have stored := live.stored
  have joined := live.joined
  simp only [getUserById, users, keys] at stored joined
  exact ⟨owner, ⟨stored, joined, live.keyActive, live.unexpired, live.ownerActive, live.enabled⟩, rfl⟩

/-- The bound is about the users and their keys only. -/
theorem within_congr {db other : Database} {now : Int} (users : other.localUsers = db.localUsers)
    (keys : other.userApiKeys = db.userApiKeys) : Within ⟨other, now⟩ ↔ Within ⟨db, now⟩ :=
  ⟨fun within => within.congr users.symm keys.symm, fun within => within.congr users keys⟩

end Acceptance

section Steps
variable {site : KeySite} {state : KeyState}

/-- Sorting keeps the scopes. -/
@[simp] theorem mem_sorted {scope : String} {scopes : List String} : scope ∈ sorted scopes ↔ scope ∈ scopes :=
  List.mem_insertionSort _

/-- Time only takes keys away. -/
theorem wait_within (elapsed : Nat) (within : Within state) :
    Within { state with now := state.now + elapsed } := by
  apply within.of_live
  intro key owner live
  have unexpired : expired state.now key = false := by
    have later := live.unexpired
    cases expiry : key.expiresAt with
    | none => simp [expired, expiry]
    | some end_ =>
        simp only [expired, expiry, Option.any_some, decide_eq_false_iff_not] at later ⊢
        omega
  exact ⟨owner, ⟨live.stored, live.joined, live.keyActive, unexpired, live.ownerActive, live.enabled⟩, rfl⟩

/-- What an accepted creation stores. -/
theorem createMyApiKey_eq_ok {now : Int} {username plaintext : String} {body : UserApiKeyCreateRequest}
    {db after : Database} (created : createMyApiKey site db now username body plaintext = .ok after) :
    ∃ user, getUserByUsername db username = some user ∧ ∃ checked : UserApiKeyCreateRequest,
      (∀ allowed ∈ user.apiKeysAllowedScopes, checked.scopes ⊆ allowed) ∧
        site.hashKey plaintext ∉ db.userApiKeys.map UserApiKey.keyHash ∧
          after = { db with userApiKeys := db.userApiKeys ++ [newKey site db now user.id checked plaintext] } := by
  unfold createMyApiKey at created
  split at created
  · cases created
  · rename_i checked _
    unfold requireKeysEnabled at created
    cases found : getUserByUsername db username with
    | none => simp [found] at created
    | some user =>
        refine ⟨user, rfl, checked, ?_⟩
        by_cases enabled : user.apiKeysEnabled = true
        · by_cases full : site.maxApiKeys user ≤ countActiveUserKeys db user.id
          · simp [found, enabled, full] at created
          · simp only [found, enabled, if_true, full, if_false, createUserKey] at created
            split at created
            · cases created
            · split at created
              · cases created
              · split at created
                · cases created
                · split at created
                  · cases created
                  · rename_i permitted unused
                    refine ⟨?_, unused, (Except.ok.inj created).symm⟩
                    intro allowed listed scope member
                    rw [Option.mem_def] at listed
                    by_contra outside
                    apply permitted
                    rw [listed]
                    exact List.ne_nil_of_mem (List.mem_filter.mpr ⟨member, by simpa using outside⟩)
        · simp [found, enabled] at created

/-- A new key is within the list that its owner has at this moment. -/
theorem create_within {username plaintext : String} {body : UserApiKeyCreateRequest} {after : Database}
    (kept : KeysKept site state.db) (within : Within state)
    (created : createMyApiKey site state.db state.now username body plaintext = .ok after) :
    Within { state with db := after } := by
  obtain ⟨user, found, checked, permitted, _, stored⟩ := createMyApiKey_eq_ok created
  intro key owner live
  have joined := live.joined
  have member := live.stored
  rw [stored] at member joined
  rcases List.mem_append.mp member with old | new
  · exact within key owner ⟨old, joined, live.keyActive, live.unexpired, live.ownerActive, live.enabled⟩
  · rw [List.mem_singleton.mp new] at joined ⊢
    have same : getUserById state.db user.id = some user :=
      find?_key kept.accounts (List.mem_of_find?_eq_some found)
    have owned : owner = user := Option.some.inj (joined.symm.trans same)
    rw [owned]
    intro allowed listed scope carried
    exact permitted allowed listed (mem_sorted.mp carried)

/-- A key that is still active was not selected. -/
theorem mem_deactivateKeys {db : Database} {selected : UserApiKey → Bool} {key : UserApiKey}
    (member : key ∈ (deactivateKeys db selected).userApiKeys) (active : key.isActive = true) :
    key ∈ db.userApiKeys ∧ selected key = false := by
  obtain ⟨before, stored, same⟩ := List.mem_map.mp member
  split at same
  · rw [← same] at active
    cases active
  · rename_i unselected
    rw [← same] at active ⊢
    rw [active, Bool.and_true, Bool.not_eq_true] at unselected
    exact ⟨stored, unselected⟩

/-- Switched-off keys are not accepted any more, and the others stay as they are. -/
theorem deactivateKeys_within {db : Database} (selected : UserApiKey → Bool) (within : Within { state with db := db }) :
    Within { state with db := deactivateKeys db selected } := by
  apply within.of_live
  intro key owner live
  have stored := (mem_deactivateKeys live.stored live.keyActive).1
  exact ⟨owner, ⟨stored, live.joined, live.keyActive, live.unexpired, live.ownerActive, live.enabled⟩, rfl⟩

/-- The keys of an account that may use them are within its list. -/
theorem Within.keysWithin {userId : Int} {user : LocalUser} (within : Within state)
    (found : getUserById state.db userId = some user) (active : user.active = true)
    (enabled : user.apiKeysEnabled = true) :
    ∀ allowed ∈ user.apiKeysAllowedScopes, KeysWithin state userId allowed := by
  intro allowed listed key stored owned keyActive unexpired
  have joined : getUserById state.db key.userId = some user := by
    rw [owned]
    exact found
  exact within key user ⟨stored, joined, keyActive, unexpired, active, enabled⟩ allowed listed

/-- After a change of one account all keys are within their lists exactly when the keys of the changed account are
within its new list, provided that it may use keys. -/
theorem update_within_iff {userId : Int} {user : LocalUser} {change : LocalUser → LocalUser}
    (named : ∀ row, (change row).id = row.id) (found : getUserById state.db userId = some user)
    (within : Within state) :
    Within { state with db := updateUsers state.db (fun row => row.id = userId) change } ↔
      ((change user).active = true → (change user).apiKeysEnabled = true →
        ∀ allowed ∈ (change user).apiKeysAllowedScopes, KeysWithin state userId allowed) := by
  have identified := (getUserById_spec found).2
  have lookup : ∀ other, getUserById (updateUsers state.db (fun row => row.id = userId) change) other =
      (getUserById state.db other).map fun row => if row.id = userId then change row else row := by
    intro other
    rw [getUserById_updateUsers named]
    simp only [decide_eq_true_eq]
  constructor
  · intro after active enabled
    apply after.keysWithin _ active enabled
    rw [lookup, found, Option.map_some, if_pos identified]
  · intro covers key owner live
    have joined := live.joined
    rw [lookup] at joined
    obtain ⟨before, foundBefore, changed⟩ := Option.map_eq_some_iff.mp joined
    have owned := (getUserById_spec foundBefore).2
    have active := live.ownerActive
    have enabled := live.enabled
    by_cases target : before.id = userId
    · have same : before = user := by
        rw [← owned, target] at foundBefore
        exact Option.some.inj (foundBefore.symm.trans found)
      rw [if_pos target, same] at changed
      rw [← changed] at active enabled ⊢
      intro allowed listed
      exact covers active enabled allowed listed key live.stored (owned.symm.trans target) live.keyActive
        live.unexpired
    · rw [if_neg target] at changed
      rw [← changed] at active enabled ⊢
      exact within key before ⟨live.stored, foundBefore, live.keyActive, live.unexpired, active, enabled⟩

/-- The row of an account after a change of its settings. -/
def withSettings (body : ApiKeySettingsRequest) (row : LocalUser) : LocalUser :=
  { row with
    apiKeysEnabled := body.apiKeysEnabled
    apiKeysAllowedScopes := body.apiKeysAllowedScopes.map sorted
    apiKeysMaxCount := body.apiKeysMaxCount }

/-- The order of the allowed scopes does not matter. -/
theorem keysWithin_sorted {userId : Int} {allowed : List String} :
    KeysWithin state userId (sorted allowed) ↔ KeysWithin state userId allowed := by
  simp only [KeysWithin, List.subset_def, mem_sorted]

/-- Keys that are switched off with the account need no list. -/
theorem putApiKeySettings_within_iff (userId : Int) (body : ApiKeySettingsRequest) (within : Within state) :
    Within { state with db := (putApiKeySettings state.db userId body).toOption.getD state.db } ↔
      Covers state (.updateApiKeySettings userId body) := by
  cases checked : body.validate with
  | error exception =>
      simp only [putApiKeySettings, checked, Except.toOption, Option.getD_none]
      apply iff_of_true within
      intro valid
      rw [checked] at valid
      cases valid
  | ok _ =>
      cases found : getUserById state.db userId with
      | none =>
          simp only [putApiKeySettings, checked, updateUserApiKeySettings, found, Except.toOption, Option.getD_none]
          apply iff_of_true within
          intro _ owner stored
          rw [found] at stored
          cases stored
      | some user =>
          have named : ∀ row, (withSettings body row).id = row.id := fun _ => rfl
          have covers : Covers state (.updateApiKeySettings userId body) ↔
              ((withSettings body user).active = true → (withSettings body user).apiKeysEnabled = true →
                ∀ allowed ∈ (withSettings body user).apiKeysAllowedScopes, KeysWithin state userId allowed) := by
            simp [Covers, checked, found, withSettings, keysWithin_sorted]
          have updated := update_within_iff named found within
          rw [← covers] at updated
          simp only [putApiKeySettings, checked, updateUserApiKeySettings, found, Except.toOption, Option.getD_some]
          change Within { state with db := (if (user.apiKeysEnabled && !body.apiKeysEnabled) = true then
            deactivateKeys (updateUsers state.db (fun row => row.id = userId) (withSettings body))
              fun key => key.userId = userId
            else updateUsers state.db (fun row => row.id = userId) (withSettings body)) } ↔ _
          split
          · rename_i off
            rw [Bool.and_eq_true, Bool.not_eq_true'] at off
            have silent : Covers state (.updateApiKeySettings userId body) := by
              intro _ owner _ _ enabled
              rw [off.2] at enabled
              cases enabled
            exact iff_of_true (deactivateKeys_within _ (updated.mpr silent)) silent
          · exact updated

/-- An account that the update does not activate keeps its keys within its list. -/
theorem updateLocalUser_within_iff (userId : Int) (body : UserUpdateRequest) (within : Within state) :
    Within { state with db := updateLocalUser site state.db userId body } ↔
      Covers state (.updateLocalUser userId body) := by
  cases found : getUserById state.db userId with
  | none =>
      simp only [updateLocalUser, found]
      apply iff_of_true within
      intro owner stored
      rw [found] at stored
      cases stored
  | some user =>
      by_cases refused : updateRefused state.db body user = true
      · simp only [updateLocalUser, found, refused, if_true]
        apply iff_of_true within
        intro owner stored passes
        rw [← Option.some.inj (found.symm.trans stored), refused] at passes
        cases passes
      · have named : ∀ row, (body.apply site.hashPassword row).id = row.id := fun _ => rfl
        have updated := update_within_iff named found within
        have covers : Covers state (.updateLocalUser userId body) ↔
            ((body.apply site.hashPassword user).active = true →
              (body.apply site.hashPassword user).apiKeysEnabled = true →
                ∀ allowed ∈ (body.apply site.hashPassword user).apiKeysAllowedScopes,
                  KeysWithin state userId allowed) := by
          rw [Bool.not_eq_true] at refused
          have kept := within.keysWithin found
          cases activation : body.active with
          | none => simpa [Covers, found, refused, activation, UserUpdateRequest.apply] using kept
          | some active => cases active <;> simp [Covers, found, refused, activation, UserUpdateRequest.apply]
        rw [covers, ← updated]
        simp only [updateLocalUser, found, refused, Bool.false_eq_true, if_false, updateUser]
        split
        · exact within_congr (revokeAllForUser_localUsers _ _ _) (revokeAllForUser_userApiKeys _ _ _)
        · exact Iff.rfl

/-- A new account is not enabled for keys. -/
theorem createUser_within (username password : String) (role : Role) (within : Within state) :
    Within { state with db := Setup.createUser site.hashPassword state.db username password role } := by
  apply within.of_live
  intro key owner live
  have joined := live.joined
  simp only [getUserById, Setup.createUser, List.find?_append] at joined
  rcases Option.or_eq_some_iff.mp joined with old | new
  · exact ⟨owner, ⟨live.stored, old, live.keyActive, live.unexpired, live.ownerActive, live.enabled⟩, rfl⟩
  · have member := List.mem_of_find?_eq_some new.2
    have enabled := live.enabled
    rw [List.mem_singleton.mp member] at enabled
    cases enabled

/-- A deleted account takes its keys along. -/
theorem deleteUser_within {userId : Int} {after : Database} (kept : KeysKept site state.db)
    (deleted : Users.deleteUser state.db userId = some after) (within : Within state) :
    Within { state with db := after } := by
  rw [(deleteUser_eq_some.mp deleted).2]
  apply within.of_live
  intro key owner live
  have stored := (List.mem_filter.mp live.stored).1
  obtain ⟨remains, named⟩ := getUserById_spec live.joined
  have joined : getUserById state.db owner.id = some owner :=
    find?_key kept.accounts (List.mem_filter.mp remains).1
  rw [named] at joined
  exact ⟨owner, ⟨stored, joined, live.keyActive, live.unexpired, live.ownerActive, live.enabled⟩, rfl⟩

/-- One event keeps all keys within their lists exactly when it covers them. -/
theorem keyStep_within_iff (event : KeyEvent) (kept : KeysKept site state.db) (within : Within state) :
    Within (keyStep site state event) ↔ Covers state event := by
  cases event with
  | wait elapsed => exact iff_of_true (wait_within elapsed within) trivial
  | updateApiKeySettings userId body => exact putApiKeySettings_within_iff userId body within
  | updateLocalUser userId body => exact updateLocalUser_within_iff userId body within
  | createMyApiKey username body plaintext =>
      apply iff_of_true _ trivial
      simp only [keyStep]
      cases created : createMyApiKey site state.db state.now username body plaintext with
      | error exception => exact within
      | ok after => exact create_within kept within created
  | revokeMyApiKey username keyId =>
      apply iff_of_true _ trivial
      simp only [keyStep, revokeMyApiKey]
      split
      · exact within
      · split
        · exact deactivateKeys_within _ within
        · exact within
  | createLocalUser username password role =>
      apply iff_of_true _ trivial
      simp only [keyStep]
      split
      · exact within
      · exact createUser_within username password role within
  | deleteUser userId =>
      apply iff_of_true _ trivial
      simp only [keyStep]
      cases deleted : Users.deleteUser state.db userId with
      | none => exact within
      | some after => exact deleteUser_within kept deleted within

/-- Changes that keep the identifiers of the accounts and the hashes of the keys keep both unique. -/
theorem KeysKept.congr {db other : Database} (kept : KeysKept site db)
    (accounts : other.localUsers.map LocalUser.id = db.localUsers.map LocalUser.id)
    (hashes : other.userApiKeys.map UserApiKey.keyHash = db.userApiKeys.map UserApiKey.keyHash) :
    KeysKept site other := by
  refine ⟨?_, ?_, ?_⟩
  · rw [accounts]
    exact kept.accounts
  · rw [hashes]
    exact kept.hashes
  · intro key stored
    have member : key.keyHash ∈ db.userApiKeys.map UserApiKey.keyHash := by
      rw [← hashes]
      exact List.mem_map_of_mem stored
    obtain ⟨before, storedBefore, same⟩ := List.mem_map.mp member
    rw [← same]
    exact kept.issued before storedBefore

/-- Keys that are switched off keep their hashes. -/
theorem deactivateKeys_hashes (db : Database) (selected : UserApiKey → Bool) :
    (deactivateKeys db selected).userApiKeys.map UserApiKey.keyHash = db.userApiKeys.map UserApiKey.keyHash :=
  map_column_selected _ fun _ => rfl

/-- A new key keeps the table in order. -/
theorem create_kept {username plaintext : String} {body : UserApiKeyCreateRequest} {after : Database}
    (kept : KeysKept site state.db)
    (created : createMyApiKey site state.db state.now username body plaintext = .ok after) :
    KeysKept site after := by
  obtain ⟨user, _, checked, _, unused, stored⟩ := createMyApiKey_eq_ok created
  rw [stored]
  refine ⟨kept.accounts, ?_, ?_⟩
  · exact nodup_append_key kept.hashes unused
  · intro key member
    rcases List.mem_append.mp member with old | new
    · exact kept.issued key old
    · rw [List.mem_singleton.mp new]
      exact ⟨plaintext, rfl⟩

/-- A new user keeps the table in order. -/
theorem createUser_kept (username password : String) (role : Role) (kept : KeysKept site state.db) :
    KeysKept site (Setup.createUser site.hashPassword state.db username password role) :=
  ⟨nodup_append_key kept.accounts (next_key_unused _), kept.hashes, kept.issued⟩

/-- The deletion of a user keeps the table in order. -/
theorem deleteUser_kept {userId : Int} {after : Database} (kept : KeysKept site state.db)
    (deleted : Users.deleteUser state.db userId = some after) : KeysKept site after := by
  rw [(deleteUser_eq_some.mp deleted).2]
  refine ⟨?_, ?_, ?_⟩
  · exact kept.accounts.sublist (List.filter_sublist.map LocalUser.id)
  · exact kept.hashes.sublist (List.filter_sublist.map UserApiKey.keyHash)
  · intro key stored
    exact kept.issued key (List.mem_filter.mp stored).1

/-- New settings keep the table in order. -/
theorem putApiKeySettings_kept {userId : Int} {body : ApiKeySettingsRequest} {after : Database}
    (kept : KeysKept site state.db) (changed : putApiKeySettings state.db userId body = .ok after) :
    KeysKept site after := by
  unfold putApiKeySettings updateUserApiKeySettings at changed
  split at changed
  · cases changed
  · cases found : getUserById state.db userId with
    | none => simp [found] at changed
    | some user =>
        simp only [found] at changed
        rw [← Except.ok.inj changed]
        split
        · exact kept.congr (updateUsers_column _ _ fun _ => rfl) (deactivateKeys_hashes _ _)
        · exact kept.congr (updateUsers_column _ _ fun _ => rfl) rfl

/-- A change of a user keeps the table in order. -/
theorem updateLocalUser_kept (userId : Int) (body : UserUpdateRequest) (kept : KeysKept site state.db) :
    KeysKept site (updateLocalUser site state.db userId body) := by
  unfold updateLocalUser
  split
  · exact kept
  · split
    · exact kept
    · have updated : KeysKept site (updateUser site.hashPassword state.db userId body) :=
        kept.congr (updateUsers_column _ _ fun _ => rfl) rfl
      split
      · exact updated.congr (by rw [revokeAllForUser_localUsers]) (by rw [revokeAllForUser_userApiKeys])
      · exact updated

/-- Every event keeps the table in order. -/
theorem keyStep_kept (event : KeyEvent) (kept : KeysKept site state.db) :
    KeysKept site (keyStep site state event).db := by
  cases event with
  | wait elapsed => exact kept
  | updateLocalUser userId body => exact updateLocalUser_kept userId body kept
  | updateApiKeySettings userId body =>
      simp only [keyStep]
      cases changed : putApiKeySettings state.db userId body with
      | error exception => exact kept
      | ok after => exact putApiKeySettings_kept kept changed
  | createMyApiKey username body plaintext =>
      simp only [keyStep]
      cases created : createMyApiKey site state.db state.now username body plaintext with
      | error exception => exact kept
      | ok after => exact create_kept kept created
  | revokeMyApiKey username keyId =>
      simp only [keyStep, revokeMyApiKey]
      split
      · exact kept
      · split
        · exact kept.congr rfl (deactivateKeys_hashes _ _)
        · exact kept
  | createLocalUser username password role =>
      simp only [keyStep]
      split
      · exact kept
      · exact createUser_kept username password role kept
  | deleteUser userId =>
      simp only [keyStep]
      cases deleted : Users.deleteUser state.db userId with
      | none => exact kept
      | some after => exact deleteUser_kept kept deleted

end Steps

/-- Over a run, every accepted key is entitled in every state exactly when every event covers the keys. -/
theorem entitled_reached_iff (site : KeySite) (state : KeyState) (events : List KeyEvent)
    (kept : KeysKept site state.db) (entitled : Entitled site state) :
    (∀ after ∈ reached (keyStep site) state events, Entitled site after) ↔
      ∀ visit ∈ visits (keyStep site) state events, Covers visit.1 visit.2 := by
  have keep : ∀ state event, KeysKept site state.db → True → Covers state event →
      KeysKept site (keyStep site state event).db := fun _ event kept _ _ => keyStep_kept event kept
  have once : ∀ state event, KeysKept site state.db → True → Entitled site state →
      (Entitled site (keyStep site state event) ↔ Covers state event) := by
    intro state event kept _ entitled
    rw [entitled_iff_within (keyStep_kept event kept)]
    exact keyStep_within_iff event kept ((entitled_iff_within kept).mp entitled)
  exact reached_iff_allowed (keyStep site) keep once events kept entitled fun _ _ => trivial

section Narrowing
/-- The hash of a key is the key itself. -/
def plainSite : KeySite where
  hashKey plaintext := plaintext
  hashPassword password := password
  maxApiKeys := coreMaxKeys

/-- Anna may use keys with two scopes. -/
def annaState : KeyState where
  db := { localUsers := [{ id := 1, username := "anna", apiKeysEnabled := true,
                           apiKeysAllowedScopes := some ["jobs:read", "jobs:write"] }] }
  now := 0

/-- The table of the example is in order. -/
theorem annaState_kept : KeysKept plainSite annaState.db where
  accounts := by decide
  hashes := by decide
  issued key absent := by cases absent

/-- The key of the example is entitled. -/
theorem annaState_entitled : Entitled plainSite annaState := by
  intro plaintext info accepted
  cases accepted

/-- Anna creates a key that carries a scope which the settings keep. -/
def keptScope : List KeyEvent :=
  [.createMyApiKey "anna" ⟨"ci", ["jobs:read"], none⟩ "upk_ab", .wait 5,
    .updateApiKeySettings 1 ⟨true, some ["jobs:read"], none⟩]

/-- A list that keeps the scope leaves the key entitled. -/
theorem keptScope_entitled :
    Entitled plainSite annaState ∧
      ∀ after ∈ reached (keyStep plainSite) annaState keptScope, Entitled plainSite after := by
  refine ⟨annaState_entitled, ?_⟩
  apply (entitled_reached_iff plainSite annaState keptScope annaState_kept annaState_entitled).mpr
  intro visit member
  simp only [keptScope, visits, List.mem_cons, List.not_mem_nil, or_false] at member
  rcases member with creation | pause | settings
  · rw [creation]
    trivial
  · rw [pause]
    trivial
  · rw [settings]
    intro _ owner _ _ _ allowed listed key stored _ _ _
    rw [← Option.some.inj listed]
    rw [List.mem_singleton.mp stored]
    decide

/-- An administrator takes a scope away, and the key that carries it is still accepted with it. -/
theorem narrowed_scope_stays :
    ¬ ∀ (site : KeySite) (state : KeyState) (events : List KeyEvent), KeysKept site state.db → Entitled site state →
      ∀ after ∈ reached (keyStep site) state events, Entitled site after := by
  intro claim
  have entitled := claim plainSite annaState [.createMyApiKey "anna" ⟨"ci", ["jobs:write"], none⟩ "upk_ab",
    .updateApiKeySettings 1 ⟨true, some ["jobs:read"], none⟩] annaState_kept annaState_entitled _
    (run_mem_reached _ _ _)
  obtain ⟨key, _, owner, stored, _, _, _, _, _, _, allowed⟩ :=
    entitled "upk_ab" ⟨1, some 1, "anna", .operator, ["jobs:write"]⟩ (by decide)
  rw [List.mem_singleton.mp stored] at allowed
  have inside := allowed ["jobs:read"] (by decide) List.mem_cons_self
  revert inside
  decide

end Narrowing
end P3Portal.ApiKeys
