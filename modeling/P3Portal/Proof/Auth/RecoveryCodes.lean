import P3Portal.Construction.Auth.TwoFactor
import P3Portal.Foundation.Run

namespace P3Portal.Auth
open Schema Foundation

section Row
variable {db : Database} {userId : Int}

/-- A change of a row is found at its id. -/
theorem getUserById_updateUserRow {change : LocalUser → LocalUser} (named : ∀ row, (change row).id = row.id) :
    getUserById (updateUserRow db userId change) userId = (getUserById db userId).map change := by
  have looked : getUserById (updateUserRow db userId change) userId =
      (getUserById db userId).map fun row => if row.id = userId then change row else row :=
    find?_map_selected _ named userId
  rw [looked]
  cases found : getUserById db userId with
  | none => rfl
  | some row => rw [Option.map_some, Option.map_some, if_pos (getUserById_spec found).2]

/-- A write of codes changes the codes only. -/
theorem getUserById_write (hashes : List String) :
    getUserById (writeRecoveryCodes db userId hashes) userId =
      (getUserById db userId).map fun row => { row with totpRecoveryCodes := some hashes } :=
  getUserById_updateUserRow fun _ => rfl

/-- The activation stores the secret with the codes. -/
theorem getUserById_activation (site : TwoFactorSite) (secret : String) (hashes : List String) :
    getUserById (writeActivation site db userId secret hashes) userId =
      (getUserById db userId).map fun row =>
        { row with
          totpSecret := some (site.encryptSecret secret)
          totpPendingSecret := none
          totpEnabled := true
          totpRecoveryCodes := some hashes } :=
  getUserById_updateUserRow fun _ => rfl

/-- The factor that is disabled leaves nothing of itself. -/
theorem getUserById_disable :
    getUserById (disable db userId) userId =
      (getUserById db userId).map fun row =>
        { row with
          totpSecret := none
          totpPendingSecret := none
          totpEnabled := false
          totpRecoveryCodes := none } :=
  getUserById_updateUserRow fun _ => rfl

/-- A pending secret is stored beside the factor. -/
theorem getUserById_pending (site : TwoFactorSite) (secret : String) :
    getUserById (writePending site db userId secret) userId =
      (getUserById db userId).map fun row => { row with totpPendingSecret := some (site.encryptSecret secret) } :=
  getUserById_updateUserRow fun _ => rfl

/-- The account has an active second factor. -/
def factorEnabled (db : Database) (userId : Int) : Bool := (getUserById db userId).any LocalUser.totpEnabled

/-- The hashes that a login finds. -/
def codesOf (db : Database) (userId : Int) : List String := ((getUserById db userId).map storedCodes).getD []

/-- A write of codes leaves the factor as it is. -/
theorem factorEnabled_write (hashes : List String) :
    factorEnabled (writeRecoveryCodes db userId hashes) userId = factorEnabled db userId := by
  unfold factorEnabled
  rw [getUserById_write]
  cases getUserById db userId <;> rfl

/-- The codes that are written are the codes of the user. -/
theorem codesOf_write (hashes : List String) (enabled : factorEnabled db userId = true) :
    codesOf (writeRecoveryCodes db userId hashes) userId = hashes := by
  unfold factorEnabled at enabled
  unfold codesOf
  rw [getUserById_write]
  cases found : getUserById db userId with
  | none =>
      rw [found] at enabled
      cases enabled
  | some row => rfl

/-- A write of the list leaves these hashes, or nothing when the account does not exist. -/
theorem codesOf_write_cases (hashes : List String) :
    codesOf (writeRecoveryCodes db userId hashes) userId = hashes ∨
      codesOf (writeRecoveryCodes db userId hashes) userId = [] := by
  unfold codesOf
  rw [getUserById_write]
  cases getUserById db userId with
  | none => exact .inr rfl
  | some row => exact .inl rfl

/-- After the activation the user has the new codes. -/
theorem codesOf_activation (site : TwoFactorSite) (secret : String) (hashes : List String) :
    (factorEnabled (writeActivation site db userId secret hashes) userId = true →
        codesOf (writeActivation site db userId secret hashes) userId = hashes) ∧
      (codesOf (writeActivation site db userId secret hashes) userId = hashes ∨
        codesOf (writeActivation site db userId secret hashes) userId = []) := by
  unfold factorEnabled codesOf
  rw [getUserById_activation]
  cases getUserById db userId with
  | none =>
      refine ⟨?_, .inr rfl⟩
      intro impossible
      cases impossible
  | some row => exact ⟨fun _ => rfl, .inl rfl⟩

/-- A disabled factor is off. -/
theorem factorEnabled_disable : factorEnabled (disable db userId) userId = false := by
  unfold factorEnabled
  rw [getUserById_disable]
  cases getUserById db userId <;> rfl

/-- A disabled factor has no codes. -/
theorem codesOf_disable : codesOf (disable db userId) userId = [] := by
  unfold codesOf
  rw [getUserById_disable]
  cases getUserById db userId <;> rfl

/-- A pending secret leaves the factor and its codes alone. -/
theorem pending_keeps (site : TwoFactorSite) (secret : String) :
    factorEnabled (writePending site db userId secret) userId = factorEnabled db userId ∧
      codesOf (writePending site db userId secret) userId = codesOf db userId := by
  unfold factorEnabled codesOf
  rw [getUserById_pending]
  cases getUserById db userId with
  | none => exact ⟨rfl, rfl⟩
  | some row => exact ⟨rfl, rfl⟩

end Row

section State
variable (site : TwoFactorSite) (userId : Int)

/-- A login has been accepted with a code of this hash. -/
def FactorCall.accepts (hash : String) (call : FactorCall) : Bool :=
  match call.request, call.phase with
  | .verifySecondFactor code, .finished .recovery => hashRecovery site code = hash
  | _, _ => false

def acceptances (state : FactorState) (hash : String) : Nat :=
  state.processes.countP (FactorCall.accepts site hash)

/-- Every code is accepted once at most; a login that reads now can only use an unspent code of the current
set, and it can use all of them. -/
structure OneTime (state : FactorState) : Prop where
  once : ∀ hash, acceptances site state hash ≤ 1
  unspent : factorEnabled state.shared.db userId = true → ∀ hash ∈ codesOf state.shared.db userId,
    hash ∈ state.shared.current ∧ acceptances site state hash = 0
  usable : factorEnabled state.shared.db userId = true → ∀ hash ∈ state.shared.current,
    acceptances site state hash = 0 → hash ∈ codesOf state.shared.db userId

/-- A request holds a part of an issued list without the code that it consumes. -/
def CallKept (issued : List String) (call : FactorCall) : Prop :=
  match call.phase with
  | .consuming rest => ∃ code, call.request = .verifySecondFactor code ∧ rest.Nodup ∧
      hashRecovery site code ∉ rest ∧ hashRecovery site code ∈ issued ∧ ∀ hash ∈ rest, hash ∈ issued
  | .finished .recovery => ∃ code, call.request = .verifySecondFactor code ∧ hashRecovery site code ∈ issued
  | _ => True

/-- The stored list has no duplicates and, like the lists of the requests, only issued hashes. -/
structure VaultKept (state : FactorState) : Prop where
  distinct : (codesOf state.shared.db userId).Nodup
  known : ∀ hash ∈ codesOf state.shared.db userId, hash ∈ state.shared.issued
  calls : ∀ call ∈ state.processes, CallKept site state.shared.issued call

/-- Drawn codes are new, as random codes are. -/
def Fresh (state : FactorState) : FactorEvent → Prop
  | .advance _ _ plain => (plain.map (hashRecovery site)).Nodup ∧
      ∀ hash ∈ plain.map (hashRecovery site), hash ∉ state.shared.issued
  | .request _ => True

/-- No other request has spent the code that a login consumes, and while the second factor is active the
login writes the other codes back as they are stored. -/
def Undisturbed (state : FactorState) : FactorEvent → Prop
  | .advance index _ _ => ∀ code rest, state.processes[index]? = some ⟨.verifySecondFactor code, .consuming rest⟩ →
      acceptances site state (hashRecovery site code) = 0 ∧
        (factorEnabled state.shared.db userId = true → ∀ other, other ≠ hashRecovery site code →
          (other ∈ rest ↔ other ∈ codesOf state.shared.db userId))
  | .request _ => True

variable {site userId} {state : FactorState} {index : Nat} {call : FactorCall} {now : Int} {plain : List String}

/-- A call stays in order when more codes are issued. -/
theorem CallKept.mono {issued more : List String} (kept : CallKept site issued call)
    (grown : ∀ hash ∈ issued, hash ∈ more) : CallKept site more call := by
  unfold CallKept at kept ⊢
  split
  · rename_i rest phase
    rw [phase] at kept
    obtain ⟨code, request, distinct, absent, known, inside⟩ := kept
    exact ⟨code, request, distinct, absent, grown _ known, fun hash member => grown _ (inside hash member)⟩
  · rename_i phase
    rw [phase] at kept
    obtain ⟨code, request, known⟩ := kept
    exact ⟨code, request, grown _ known⟩
  · trivial

/-- A hash that was never issued was never accepted. -/
theorem VaultKept.not_accepted (kept : VaultKept site userId state) {hash : String}
    (unissued : hash ∉ state.shared.issued) : acceptances site state hash = 0 := by
  unfold acceptances
  rw [List.countP_eq_zero]
  intro call member accepted
  have inside := kept.calls call member
  obtain ⟨request, phase⟩ := call
  unfold FactorCall.accepts at accepted
  split at accepted
  · rename_i code request_eq phase_eq
    simp only at request_eq phase_eq
    rw [phase_eq, request_eq] at inside
    obtain ⟨other, same, known⟩ := inside
    have codes := FactorRequest.verifySecondFactor.inj same
    rw [← of_decide_eq_true accepted, codes] at unissued
    exact unissued known
  · cases accepted

/-- A turn of a call counts its own acceptance only. -/
theorem acceptances_act (present : state.processes[index]? = some call) (hash : String) :
    acceptances site (state.act (FactorCall.advance site userId now plain) index) hash +
        (if call.accepts site hash then 1 else 0) =
      acceptances site state hash +
        if (call.advance site userId now plain state.shared).2.accepts site hash then 1 else 0 :=
  Interleaved.countP_act _ present

/-- The list of hashes is sound with respect to the issued ones. -/
def ListKept (userId : Int) (vault : Vault) : Prop :=
  (codesOf vault.db userId).Nodup ∧ ∀ hash ∈ codesOf vault.db userId, hash ∈ vault.issued

/-- Codes that were issued once are kept in order. -/
theorem listKept_of_subset {vault : Vault} {hashes : List String}
    (stored : codesOf vault.db userId = hashes ∨ codesOf vault.db userId = []) (distinct : hashes.Nodup)
    (known : ∀ hash ∈ hashes, hash ∈ vault.issued) : ListKept userId vault := by
  rcases stored with same | empty
  · unfold ListKept
    rw [same]
    exact ⟨distinct, known⟩
  · unfold ListKept
    rw [empty]
    refine ⟨List.nodup_nil, ?_⟩
    intro hash absent
    cases absent

/-- A login that finds its hash holds the rest of a list without duplicates. -/
theorem readSecondFactor_kept {vault : Vault} {row : LocalUser} (listKept : ListKept userId vault)
    (found : getUserById vault.db userId = some row) (code : String) :
    CallKept site vault.issued ⟨.verifySecondFactor code, readSecondFactor site now row code⟩ := by
  have codes : codesOf vault.db userId = storedCodes row := by
    unfold codesOf
    rw [found]
    rfl
  obtain ⟨distinct, known⟩ := listKept
  rw [codes] at distinct known
  unfold readSecondFactor
  split
  · trivial
  · split
    · trivial
    · split
      · rename_i member
        refine ⟨code, rfl, distinct.erase _, distinct.not_mem_erase, known _ member, ?_⟩
        intro hash inside
        exact known hash (List.mem_of_mem_erase inside)
      · trivial

/-- One turn keeps the list and the request sound, and issued hashes stay issued. -/
theorem turn_kept (now : Int) {vault : Vault} (listKept : ListKept userId vault) (callKept : CallKept site vault.issued call)
    (distinct : (plain.map (hashRecovery site)).Nodup) :
    ListKept userId (call.turn site userId now plain vault).1 ∧
      (∀ hash ∈ vault.issued, hash ∈ (call.turn site userId now plain vault).1.issued) ∧
        CallKept site (call.turn site userId now plain vault).1.issued
          { call with phase := (call.turn site userId now plain vault).2 } := by
  obtain ⟨request, phase⟩ := call
  have stays : ∀ hash ∈ vault.issued, hash ∈ vault.issued ++ plain.map (hashRecovery site) :=
    fun hash member => List.mem_append_left _ member
  have added : ∀ hash ∈ plain.map (hashRecovery site), hash ∈ vault.issued ++ plain.map (hashRecovery site) :=
    fun hash member => List.mem_append_right _ member
  cases phase with
  | arrived =>
      cases request with
      | startEnrollment secret =>
          refine ⟨?_, fun hash member => member, trivial⟩
          unfold ListKept
          change (codesOf (writePending site vault.db userId secret) userId).Nodup ∧
            ∀ hash ∈ codesOf (writePending site vault.db userId secret) userId, hash ∈ vault.issued
          rw [(pending_keeps site secret).2]
          exact listKept
      | activate code =>
          refine ⟨listKept, fun hash member => member, ?_⟩
          simp only [FactorCall.turn, startFactor]
          split <;> trivial
      | regenerateRecoveryCodes =>
          refine ⟨listKept, fun hash member => member, ?_⟩
          simp only [FactorCall.turn, startFactor]
          split <;> trivial
      | disable =>
          refine ⟨listKept_of_subset (.inr codesOf_disable) List.nodup_nil ?_, fun hash member => member, trivial⟩
          intro hash absent
          cases absent
      | verifySecondFactor code =>
          refine ⟨listKept, fun hash member => member, ?_⟩
          simp only [FactorCall.turn, startFactor]
          cases found : getUserById vault.db userId with
          | none => trivial
          | some row => exact readSecondFactor_kept listKept found code
  | activating secret =>
      exact ⟨listKept_of_subset (codesOf_activation site secret _).2 distinct added, stays, trivial⟩
  | regenerating => exact ⟨listKept_of_subset (codesOf_write_cases _) distinct added, stays, trivial⟩
  | consuming rest =>
      obtain ⟨code, named, unique, absent, known, inside⟩ := callKept
      exact ⟨listKept_of_subset (codesOf_write_cases rest) unique inside, fun hash member => member,
        code, named, known⟩
  | finished answer => exact ⟨listKept, fun hash member => member, callKept⟩

/-- Every event with fresh codes keeps the vault in order. -/
theorem factorStep_kept (event : FactorEvent) (kept : VaultKept site userId state) (fresh : Fresh site state event) :
    VaultKept site userId (factorStep site userId state event) := by
  cases event with
  | request request =>
      refine ⟨kept.distinct, kept.known, ?_⟩
      intro call member
      rcases List.mem_append.mp member with old | new
      · exact kept.calls call old
      · rw [List.mem_singleton.mp new]
        trivial
  | advance index now plain =>
      change VaultKept site userId (state.act (FactorCall.advance site userId now plain) index)
      cases present : state.processes[index]? with
      | none =>
          rw [Interleaved.act_absent present]
          exact kept
      | some call =>
          have callKept := kept.calls call (Interleaved.mem_processes present)
          have listKept : ListKept userId state.shared := ⟨kept.distinct, kept.known⟩
          obtain ⟨list, stays, new⟩ := turn_kept now listKept callKept fresh.1
          have shared : (state.act (FactorCall.advance site userId now plain) index).shared =
              (call.turn site userId now plain state.shared).1 := Interleaved.act_shared present
          rw [← shared] at list stays new
          exact ⟨list.1, list.2, Interleaved.forall_act present kept.calls (fun _ => new)
            fun other _ otherKept => otherKept.mono stays⟩

/-- Only the turn that stores the rest of a list can end in an acceptance. -/
theorem turn_accepts {vault : Vault} (quiet : ∀ rest, call.phase ≠ .consuming rest) (hash : String) :
    (call.advance site userId now plain vault).2.accepts site hash = call.accepts site hash := by
  obtain ⟨request, phase⟩ := call
  cases phase with
  | consuming rest => exact absurd rfl (quiet rest)
  | activating secret => cases request <;> rfl
  | regenerating => cases request <;> rfl
  | finished answer => rfl
  | arrived =>
      cases request with
      | verifySecondFactor code =>
          simp only [FactorCall.advance, FactorCall.turn, startFactor]
          cases getUserById vault.db userId with
          | none => rfl
          | some row =>
              simp only [readSecondFactor]
              split
              · rfl
              · split
                · rfl
                · split <;> rfl
      | startEnrollment secret => rfl
      | activate code => rfl
      | regenerateRecoveryCodes => rfl
      | disable => rfl

/-- What a state shows of the account: the counts of the acceptances, the switch, the list and the set. -/
theorem oneTime_congr {other : FactorState} (oneTime : OneTime site userId state)
    (accepted : ∀ hash, acceptances site other hash = acceptances site state hash)
    (enabled : factorEnabled other.shared.db userId = factorEnabled state.shared.db userId)
    (codes : codesOf other.shared.db userId = codesOf state.shared.db userId)
    (current : other.shared.current = state.shared.current) : OneTime site userId other := by
  constructor
  · intro hash
    rw [accepted]
    exact oneTime.once hash
  · rw [enabled, codes, current]
    intro active hash
    rw [accepted]
    exact oneTime.unspent active hash
  · rw [enabled, codes, current]
    intro active hash
    rw [accepted]
    exact oneTime.usable active hash

/-- A set of fresh codes is entirely unspent. -/
theorem oneTime_issue {other : FactorState} (oneTime : OneTime site userId state)
    (kept : VaultKept site userId state) (accepted : ∀ hash, acceptances site other hash = acceptances site state hash)
    (codes : factorEnabled other.shared.db userId = true →
      codesOf other.shared.db userId = plain.map (hashRecovery site))
    (current : other.shared.current = plain.map (hashRecovery site))
    (unissued : ∀ hash ∈ plain.map (hashRecovery site), hash ∉ state.shared.issued) :
    OneTime site userId other := by
  constructor
  · intro hash
    rw [accepted]
    exact oneTime.once hash
  · intro active hash member
    rw [codes active] at member
    rw [current, accepted]
    exact ⟨member, kept.not_accepted (unissued hash member)⟩
  · intro active hash member _
    rw [codes active, ← current]
    exact member

/-- A turn that consumes no code keeps the list and the set, stores a set of drawn codes, or switches the second
factor off. -/
theorem quiet_turn_cases {vault : Vault} (quiet : ∀ rest, call.phase ≠ .consuming rest) :
    (factorEnabled (call.turn site userId now plain vault).1.db userId = factorEnabled vault.db userId ∧
      codesOf (call.turn site userId now plain vault).1.db userId = codesOf vault.db userId ∧
        (call.turn site userId now plain vault).1.current = vault.current) ∨
    ((factorEnabled (call.turn site userId now plain vault).1.db userId = true →
        codesOf (call.turn site userId now plain vault).1.db userId = plain.map (hashRecovery site)) ∧
      (call.turn site userId now plain vault).1.current = plain.map (hashRecovery site)) ∨
    factorEnabled (call.turn site userId now plain vault).1.db userId = false := by
  obtain ⟨request, phase⟩ := call
  cases phase with
  | consuming rest => exact absurd rfl (quiet rest)
  | activating secret => exact .inr (.inl ⟨(codesOf_activation site secret _).1, rfl⟩)
  | regenerating =>
      right
      left
      refine ⟨?_, rfl⟩
      intro active
      exact codesOf_write _ ((factorEnabled_write _).symm.trans active)
  | finished answer => exact .inl ⟨rfl, rfl, rfl⟩
  | arrived =>
      cases request with
      | startEnrollment secret => exact .inl ⟨(pending_keeps site secret).1, (pending_keeps site secret).2, rfl⟩
      | disable => exact .inr (.inr factorEnabled_disable)
      | activate code => exact .inl ⟨rfl, rfl, rfl⟩
      | regenerateRecoveryCodes => exact .inl ⟨rfl, rfl, rfl⟩
      | verifySecondFactor code => exact .inl ⟨rfl, rfl, rfl⟩

/-- Every turn but a consumption leaves the codes one-time. -/
theorem quiet_oneTime (present : state.processes[index]? = some call) (quiet : ∀ rest, call.phase ≠ .consuming rest)
    (kept : VaultKept site userId state) (fresh : Fresh site state (.advance index now plain))
    (oneTime : OneTime site userId state) :
    OneTime site userId (state.act (FactorCall.advance site userId now plain) index) := by
  have accepted : ∀ hash, acceptances site (state.act (FactorCall.advance site userId now plain) index) hash =
      acceptances site state hash := by
    intro hash
    have counted : acceptances site (state.act (FactorCall.advance site userId now plain) index) hash +
        (if call.accepts site hash then 1 else 0) = _ := acceptances_act present hash
    rw [turn_accepts quiet] at counted
    exact Nat.add_right_cancel counted
  have shared : (state.act (FactorCall.advance site userId now plain) index).shared =
      (call.turn site userId now plain state.shared).1 := Interleaved.act_shared present
  have outcome := @quiet_turn_cases site userId call now plain state.shared quiet
  rw [← shared] at outcome
  rcases outcome with ⟨enabled, codes, current⟩ | ⟨codes, current⟩ | inactive
  · exact oneTime_congr oneTime accepted enabled codes current
  · exact oneTime_issue oneTime kept accepted codes current fresh.2
  · have off := Bool.eq_false_iff.mp inactive
    constructor
    · intro hash
      rw [accepted]
      exact oneTime.once hash
    · intro active
      exact absurd active off
    · intro active
      exact absurd active off

/-- What a login finds in a good state: its code belongs to the current set and nobody has used it. -/
theorem OneTime.read {rest : List String} {code : String} (oneTime : OneTime site userId state)
    (held : (startFactor site userId now state.shared (.verifySecondFactor code)).2 = .consuming rest) :
    hashRecovery site code ∈ state.shared.current ∧ acceptances site state (hashRecovery site code) = 0 := by
  simp only [startFactor] at held
  cases found : getUserById state.shared.db userId with
  | none =>
      rw [found] at held
      cases held
  | some row =>
      rw [found] at held
      have codes : codesOf state.shared.db userId = storedCodes row := by
        unfold codesOf
        rw [found]
        rfl
      simp only [readSecondFactor] at held
      split at held
      · cases held
      · rename_i enabled
        have active : factorEnabled state.shared.db userId = true := by
          rw [Bool.not_eq_true, Bool.not_eq_false'] at enabled
          unfold factorEnabled
          rw [found]
          exact enabled
        split at held
        · cases held
        · split at held
          · rename_i member
            apply oneTime.unspent active
            rw [codes]
            exact member
          · cases held

/-- A consumption adds one acceptance of its code and none of another. -/
theorem consumption_acceptances {code : String} {rest : List String}
    (present : state.processes[index]? = some ⟨.verifySecondFactor code, .consuming rest⟩) (hash : String) :
    acceptances site (state.act (FactorCall.advance site userId now plain) index) hash =
      acceptances site state hash + if hashRecovery site code = hash then 1 else 0 := by
  have counted : acceptances site (state.act (FactorCall.advance site userId now plain) index) hash + _ = _ :=
    acceptances_act present hash
  have before : FactorCall.accepts site hash ⟨.verifySecondFactor code, .consuming rest⟩ = false := rfl
  have after : FactorCall.accepts site hash ⟨.verifySecondFactor code, .finished .recovery⟩ =
      decide (hashRecovery site code = hash) := rfl
  simp only [FactorCall.advance, FactorCall.turn, before, after, decide_eq_true_eq, Bool.false_eq_true,
    if_false, Nat.add_zero] at counted
  exact counted

/-- A consumption leaves the codes one-time exactly when nobody else has spent its code and it writes the other
codes back as they are stored. -/
theorem consumption_oneTime_iff {code : String} {rest : List String}
    (present : state.processes[index]? = some ⟨.verifySecondFactor code, .consuming rest⟩)
    (absent : hashRecovery site code ∉ rest) (oneTime : OneTime site userId state) :
    OneTime site userId (state.act (FactorCall.advance site userId now plain) index) ↔
      acceptances site state (hashRecovery site code) = 0 ∧
        (factorEnabled state.shared.db userId = true → ∀ other, other ≠ hashRecovery site code →
          (other ∈ rest ↔ other ∈ codesOf state.shared.db userId)) := by
  have shared : (state.act (FactorCall.advance site userId now plain) index).shared =
      { state.shared with db := writeRecoveryCodes state.shared.db userId rest } := Interleaved.act_shared present
  have enabled : factorEnabled (state.act (FactorCall.advance site userId now plain) index).shared.db userId =
      factorEnabled state.shared.db userId := by
    rw [shared]
    exact factorEnabled_write rest
  have current : (state.act (FactorCall.advance site userId now plain) index).shared.current =
      state.shared.current := by
    rw [shared]
  have codes (active : factorEnabled state.shared.db userId = true) :
      codesOf (state.act (FactorCall.advance site userId now plain) index).shared.db userId = rest := by
    rw [shared]
    exact codesOf_write rest active
  have spent : acceptances site (state.act (FactorCall.advance site userId now plain) index)
      (hashRecovery site code) = acceptances site state (hashRecovery site code) + 1 := by
    rw [consumption_acceptances present, if_pos rfl]
  have same {other : String} (differs : other ≠ hashRecovery site code) :
      acceptances site (state.act (FactorCall.advance site userId now plain) index) other =
        acceptances site state other := by
    rw [consumption_acceptances present, if_neg differs.symm, Nat.add_zero]
  constructor
  · intro after
    refine ⟨?_, ?_⟩
    · have once := after.once (hashRecovery site code)
      omega
    · intro active other differs
      have stillActive := enabled.trans active
      constructor
      · intro kept
        rw [← codes active] at kept
        obtain ⟨inSet, unspent⟩ := after.unspent stillActive other kept
        rw [current] at inSet
        rw [same differs] at unspent
        exact oneTime.usable active other inSet unspent
      · intro stored
        obtain ⟨inSet, unspent⟩ := oneTime.unspent active other stored
        rw [← current] at inSet
        rw [← same differs] at unspent
        have usable := after.usable stillActive other inSet unspent
        rw [codes active] at usable
        exact usable
  · intro ⟨first, written⟩
    constructor
    · intro hash
      by_cases consumed : hash = hashRecovery site code
      · rw [consumed, spent, first]
      · rw [same consumed]
        exact oneTime.once hash
    · intro stillActive hash kept
      have active := enabled.symm.trans stillActive
      rw [codes active] at kept
      have differs : hash ≠ hashRecovery site code := by
        intro consumed
        rw [consumed] at kept
        exact absent kept
      rw [current, same differs]
      exact oneTime.unspent active hash ((written active hash differs).mp kept)
    · intro stillActive hash inSet unspent
      have active := enabled.symm.trans stillActive
      have differs : hash ≠ hashRecovery site code := by
        intro consumed
        rw [consumed, spent] at unspent
        omega
      rw [current] at inSet
      rw [same differs] at unspent
      rw [codes active]
      exact (written active hash differs).mpr (oneTime.usable active hash inSet unspent)

/-- An event keeps the codes one-time exactly when it is undisturbed. -/
theorem factorStep_oneTime_iff (event : FactorEvent) (kept : VaultKept site userId state)
    (fresh : Fresh site state event) (oneTime : OneTime site userId state) :
    OneTime site userId (factorStep site userId state event) ↔ Undisturbed site userId state event := by
  cases event with
  | request request =>
      have accepted : ∀ hash, acceptances site (factorStep site userId state (.request request)) hash =
          acceptances site state hash := by
        intro hash
        unfold acceptances factorStep Interleaved.spawn
        rw [List.countP_append, List.countP_singleton]
        cases request <;> rfl
      exact iff_of_true (oneTime_congr oneTime accepted rfl rfl rfl) trivial
  | advance index now plain =>
      cases present : state.processes[index]? with
      | none =>
          have stays : factorStep site userId state (.advance index now plain) = state :=
            Interleaved.act_absent present
          rw [stays]
          apply iff_of_true oneTime
          intro code rest held
          rw [present] at held
          cases held
      | some call =>
          by_cases consumes : ∃ rest, call.phase = .consuming rest
          · obtain ⟨rest, phase⟩ := consumes
            have callKept := kept.calls call (Interleaved.mem_processes present)
            obtain ⟨request, before⟩ := call
            change before = .consuming rest at phase
            rw [phase] at callKept present
            obtain ⟨code, named, unique, absent, known, inside⟩ := callKept
            change request = .verifySecondFactor code at named
            rw [named] at present
            apply (consumption_oneTime_iff present absent oneTime).trans
            constructor
            · intro undisturbed other others held
              rw [present] at held
              obtain ⟨same, tail⟩ := FactorCall.mk.inj (Option.some.inj held)
              rw [← FactorRequest.verifySecondFactor.inj same, ← FactorPhase.consuming.inj tail]
              exact undisturbed
            · intro undisturbed
              exact undisturbed code rest present
          · have quiet : ∀ rest, call.phase ≠ .consuming rest := fun rest phase => consumes ⟨rest, phase⟩
            apply iff_of_true (quiet_oneTime present quiet kept fresh oneTime)
            intro code rest held
            rw [present] at held
            rw [Option.some.inj held] at quiet
            exact absurd rfl (quiet rest)

end State

/-- Over a run whose drawn codes are new, the recovery codes are one-time in every state exactly when every
consumption is undisturbed. -/
theorem oneTime_reached_iff (site : TwoFactorSite) (userId : Int) (start : FactorState) (events : List FactorEvent)
    (kept : VaultKept site userId start) (oneTime : OneTime site userId start)
    (fresh : ∀ visit ∈ visits (factorStep site userId) start events, Fresh site visit.1 visit.2) :
    (∀ after ∈ reached (factorStep site userId) start events, OneTime site userId after) ↔
      ∀ visit ∈ visits (factorStep site userId) start events, Undisturbed site userId visit.1 visit.2 :=
  reached_iff_allowed (factorStep site userId) (fun _ event kept fresh _ => factorStep_kept event kept fresh)
    (fun _ event kept fresh oneTime => factorStep_oneTime_iff event kept fresh oneTime) events kept oneTime fresh

section Twice
/-- Codes are their own hashes, and no TOTP code is valid. -/
def codeSite : TwoFactorSite where
  encryptSecret secret := secret
  decryptSecret secret := some secret
  totpValid _ _ _ := false
  isDigit _ := true
  upper text := text
  sha256 text := text

/-- Anna has two recovery codes. -/
def annaRow : LocalUser where
  id := 1
  username := "anna"
  totpEnabled := true
  totpSecret := some "s"
  totpRecoveryCodes := some ["A1", "B2"]

def codeStart : FactorState where
  shared := { db := { localUsers := [annaRow] }, issued := ["A1", "B2"], current := ["A1", "B2"] }
  processes := []

/-- A turn that draws no code draws none twice. -/
theorem fresh_nothing (state : FactorState) (index : Nat) (now : Int) :
    Fresh codeSite state (.advance index now []) := by
  refine ⟨List.nodup_nil, ?_⟩
  intro hash absent
  cases absent

/-- The vault of the example is in order. -/
theorem codeStart_kept : VaultKept codeSite 1 codeStart where
  distinct := by decide
  known := by decide
  calls call absent := by cases absent

/-- In the example each code is accepted once at most. -/
theorem codeStart_oneTime : OneTime codeSite 1 codeStart := by
  constructor
  · intro hash
    exact Nat.zero_le 1
  · intro _ hash member
    exact ⟨member, rfl⟩
  · intro _ hash member _
    exact member

/-- Anna uses her first code. -/
def singleLogin : List FactorEvent :=
  [.request (.verifySecondFactor "a1"), .request (.verifySecondFactor "A1"), .advance 1 5 [], .advance 1 6 []]

/-- A single login accepts its code once. -/
theorem singleLogin_oneTime :
    OneTime codeSite 1 codeStart ∧
      ∀ after ∈ reached (factorStep codeSite 1) codeStart singleLogin, OneTime codeSite 1 after := by
  refine ⟨codeStart_oneTime, ?_⟩
  apply (oneTime_reached_iff codeSite 1 codeStart singleLogin codeStart_kept codeStart_oneTime _).mpr
  · intro visit member
    simp only [singleLogin, visits, List.mem_cons, List.not_mem_nil, or_false] at member
    rcases member with first | second | read | write
    · rw [first]
      trivial
    · rw [second]
      trivial
    · rw [read]
      intro code rest held
      cases held
    · rw [write]
      intro code rest held
      obtain ⟨request, phase⟩ := FactorCall.mk.inj (Option.some.inj held)
      rw [← FactorRequest.verifySecondFactor.inj request, ← FactorPhase.consuming.inj phase]
      refine ⟨by decide, ?_⟩
      intro _ other differs
      constructor
      · intro kept
        exact List.mem_of_mem_erase kept
      · intro stored
        exact (List.mem_erase_of_ne differs).mpr stored
  · intro visit member
    simp only [singleLogin, visits, List.mem_cons, List.not_mem_nil, or_false] at member
    rcases member with first | second | read | write
    · rw [first]
      trivial
    · rw [second]
      trivial
    · rw [read]
      apply fresh_nothing
    · rw [write]
      apply fresh_nothing

/-- Two logins read the list before either writes it, and both are accepted with the same code. -/
theorem same_code_accepted_twice :
    ¬ ∀ (site : TwoFactorSite) (userId : Int) (start : FactorState) (events : List FactorEvent),
      VaultKept site userId start → OneTime site userId start →
        (∀ visit ∈ visits (factorStep site userId) start events, Fresh site visit.1 visit.2) →
          ∀ after ∈ reached (factorStep site userId) start events, OneTime site userId after := by
  intro claim
  have after := claim codeSite 1 codeStart [.request (.verifySecondFactor "A1"),
    .request (.verifySecondFactor "A1"), .advance 0 5 [], .advance 1 5 [], .advance 0 6 [], .advance 1 6 []]
    codeStart_kept codeStart_oneTime ?_ _ (run_mem_reached _ _ _)
  · have once := after.once "A1"
    revert once
    decide
  · intro visit member
    simp only [visits, List.mem_cons, List.not_mem_nil, or_false] at member
    rcases member with first | second | third | fourth | fifth | last
    · rw [first]
      trivial
    · rw [second]
      trivial
    · rw [third]
      apply fresh_nothing
    · rw [fourth]
      apply fresh_nothing
    · rw [fifth]
      apply fresh_nothing
    · rw [last]
      apply fresh_nothing

end Twice
end P3Portal.Auth
