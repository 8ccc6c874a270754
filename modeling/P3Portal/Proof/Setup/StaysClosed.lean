import P3Portal.Construction.Setup.Wizard

namespace P3Portal.Setup
open Schema Foundation Http Auth

/-- A valid admin credential is a signed token with the admin role. -/
def adminCredentials : Option Bearer → Bool
  | some (.signed claims) => claims.role = some .admin
  | _ => false

/-- The gate and the second read of a completion look at the flag. -/
def SetupCall.readsFlag (call : SetupCall) : Bool :=
  match call.phase with
  | .arrived | .counted => true
  | _ => false

/-- A call is in its body from the gate on; a completion that has stored the flag only selects the
admin for its token. -/
def SetupCall.inBody (call : SetupCall) : Bool :=
  match call.phase with
  | .admitted | .writing _ _ | .counted | .storing _ => true
  | _ => false

def SetupCall.storesFlag (call : SetupCall) : Bool :=
  match call.phase with
  | .storing _ => true
  | _ => false

/-- The completion found setup unfinished and will ask for a token. -/
def SetupCall.foundOpen (call : SetupCall) : Bool :=
  match call.phase with
  | .storing firstCompletion => firstCompletion
  | _ => false

def SetupCall.isSelecting (call : SetupCall) : Bool :=
  match call.phase with
  | .selecting => true
  | _ => false

theorem SetupCall.foundOpen_storesFlag (call : SetupCall) (found : call.foundOpen = true) :
    call.storesFlag = true := by
  unfold SetupCall.foundOpen at found
  unfold SetupCall.storesFlag
  cases phase : call.phase with
  | storing firstCompletion => rfl
  | _ => simp [phase] at found

theorem SetupCall.storesFlag_inBody (call : SetupCall) (stores : call.storesFlag = true) :
    call.inBody = true := by
  unfold SetupCall.storesFlag at stores
  unfold SetupCall.inBody
  cases phase : call.phase with
  | storing firstCompletion => rfl
  | _ => simp [phase] at stores

variable (site : SetupSite)

/-- Setup is complete when a successful read of the flag says so. -/
def SetupStore.complete (store : SetupStore) : Bool := isSetupComplete site.config (some store.config)

/-- The call whose body runs in this event. -/
def runsBody (state : SetupState) : SetupEvent → Option SetupCall
  | .advance index _ _ => state.processes[index]?.filter SetupCall.inBody
  | _ => none

/-- After completion only admins run a body, and at most one automatic token is issued. -/
def StaysClosed (store : SetupStore) (events : List SetupEvent) : Prop :=
  (∀ visit ∈ visits (setupStep site) (setupStart store) events,
    visit.1.shared.store.complete site = true →
      ∀ call ∈ runsBody visit.1 visit.2, adminCredentials call.credentials = true) ∧
    (run (setupStep site) (setupStart store) events).shared.issued.length ≤ 1

/-- No read of the flag fails once it is stored. -/
def FlagReadable (state : SetupState) : SetupEvent → Prop
  | .advance index succeeds _ => ∀ call ∈ state.processes[index]?,
      call.readsFlag = true → state.shared.store.complete site = true → succeeds = true
  | _ => True

/-- When the flag is first stored, every other call in its body is by an admin and no second
completion has found setup unfinished. -/
def StoresAlone (state : SetupState) : SetupEvent → Prop
  | .advance index succeeds _ => ∀ call ∈ state.processes[index]?,
      call.storesFlag = true → succeeds = true → state.shared.store.complete site = false →
        ∀ other ∈ state.others index, other.inBody = true →
          adminCredentials other.credentials = true ∧ other.foundOpen = false
  | _ => True

instance (store : SetupStore) (events : List SetupEvent) : Decidable (StaysClosed site store events) :=
  inferInstanceAs (Decidable ((∀ visit ∈ visits _ _ events, _ → ∀ call ∈ runsBody visit.1 visit.2, _) ∧ _))

instance (state : SetupState) : (event : SetupEvent) → Decidable (FlagReadable site state event)
  | .advance index _ _ => inferInstanceAs (Decidable (∀ call ∈ state.processes[index]?, _))
  | .request _ _ => isTrue trivial
  | .elsewhere _ => isTrue trivial

instance (state : SetupState) : (event : SetupEvent) → Decidable (StoresAlone site state event)
  | .advance index _ _ => inferInstanceAs (Decidable (∀ call ∈ state.processes[index]?, _))
  | .request _ _ => isTrue trivial
  | .elsewhere _ => isTrue trivial

section Turn
variable {site}

/-- The closed gate lets only admins through. -/
theorem requireSetupAccess_closed {credentials : Option Bearer} {sub : Option String}
    (admitted : requireSetupAccess true credentials = .ok sub) : adminCredentials credentials = true := by
  unfold requireSetupAccess at admitted
  split at admitted
  · rename_i opened
    cases opened
  · split at admitted
    · cases admitted
    · split at admitted
      · cases admitted
      · rename_i role
        simpa [adminCredentials] using role
    · cases admitted

/-- Apart from the flag itself, no committed write touches its row. -/
theorem Write.commit_complete (write : Write) (store : SetupStore) (answer : SetupAnswer) :
    (write.commit site store answer).1.complete site = store.complete site := by
  cases write with
  | saveNode existing body => cases existing <;> rfl
  | setting key value => exact isSetupComplete_setConfig site.config store.config key.name_ne_flag
  | updatePassword username passwordHash => rfl
  | createUser username password => rfl
  | saveTokens nodeId body => rfl
  | dbConfig url => rfl

/-- The writes of the first step, committed in turn, store what the endpoint computes. -/
theorem start_admin_commit {store : SetupStore} {body : SetupAdminRequest} {pending : List Write}
    {answer : SetupAnswer} (started : (SetupRequest.admin body).start site store true = .ok (pending, answer)) :
    setupAdmin site.hashPassword store.db body =
      .ok (pending.foldl (fun store write => (write.commit site store answer).1) store).db := by
  simp only [SetupRequest.start] at started
  unfold setupAdmin
  by_cases differ : body.password ≠ body.confirmPassword
  · rw [if_pos differ] at started
    cases started
  · rw [if_neg differ] at started ⊢
    by_cases known : (getUserByUsername store.db body.username).isSome = true
    · simp only [Bool.not_true, Bool.false_eq_true, if_false, if_pos known] at started ⊢
      rw [← (Prod.mk.inj (Except.ok.inj started)).1]
      rfl
    · simp only [Bool.not_true, Bool.false_eq_true, if_false, if_neg known] at started ⊢
      rw [← (Prod.mk.inj (Except.ok.inj started)).1]
      rfl

/-- A body that starts answers at once, counts the nodes for a completion, or has writes to commit. -/
theorem startPhase_cases (site : SetupSite) (store : SetupStore) (succeeds : Bool) (request : SetupRequest) :
    (∃ answer, startPhase site store succeeds request = .finished answer) ∨
      startPhase site store succeeds request = .counted ∨
        ∃ pending answer, startPhase site store succeeds request = .writing pending answer := by
  unfold startPhase
  split
  · exact .inl ⟨_, rfl⟩
  · split
    · exact .inr (.inl rfl)
    · exact .inr (.inr ⟨_, _, rfl⟩)

theorem advance_credentials (succeeds : Bool) (jti : String) (shared : SetupShared) (call : SetupCall) :
    (call.advance site succeeds jti shared).2.credentials = call.credentials := by
  unfold SetupCall.advance
  split <;> try rfl
  · split <;> rfl
  · split <;> rfl
  · split <;> rfl
  · split <;> rfl

/-- Only the step that stores the flag changes whether setup is complete. -/
theorem advance_complete (succeeds : Bool) (jti : String) (shared : SetupShared) (call : SetupCall) :
    (call.advance site succeeds jti shared).1.store.complete site =
      (shared.store.complete site || (call.storesFlag && succeeds)) := by
  unfold SetupCall.advance SetupCall.storesFlag
  cases phase : call.phase with
  | arrived =>
      simp only [Bool.false_and, Bool.or_false]
      split <;> rfl
  | admitted => simp
  | writing pending answer =>
      cases pending with
      | nil => simp
      | cons write rest =>
          cases succeeds with
          | false => simp
          | true => simp [write.commit_complete]
  | counted => simp
  | storing firstCompletion =>
      cases succeeds with
      | false => simp
      | true =>
          have stored := isSetupComplete_stored site.config shared.store.config
          simpa [SetupStore.complete] using stored
  | selecting =>
      simp only [Bool.false_and, Bool.or_false]
      split <;> rfl
  | finished answer => simp

/-- After completion, a turn with a good read keeps every body with the admins. -/
theorem advance_inBody {succeeds : Bool} {jti : String} {shared : SetupShared} {call : SetupCall}
    (complete : shared.store.complete site = true) (readable : call.readsFlag = true → succeeds = true)
    (before : call.inBody = true → adminCredentials call.credentials = true ∧ call.foundOpen = false)
    (inside : (call.advance site succeeds jti shared).2.inBody = true) :
    adminCredentials call.credentials = true ∧
      (call.advance site succeeds jti shared).2.foundOpen = false := by
  unfold SetupCall.advance at inside ⊢
  unfold SetupCall.readsFlag at readable
  unfold SetupCall.inBody at before
  cases phase : call.phase with
  | arrived =>
      simp only [phase, forall_const] at readable inside ⊢
      rw [readable] at inside ⊢
      change isSetupComplete site.config (some shared.store.config) = true at complete
      simp only [SetupStore.read, if_true, complete] at inside ⊢
      split at inside
      · cases inside
      · rename_i admitted
        exact ⟨requireSetupAccess_closed admitted, rfl⟩
  | admitted =>
      simp only [phase, forall_const] at before ⊢
      refine ⟨before.1, ?_⟩
      obtain ⟨answer, next⟩ | next | ⟨pending, answer, next⟩ :=
        startPhase_cases site shared.store succeeds call.request
      all_goals
        rw [next]
        rfl
  | writing pending answer =>
      simp only [phase, forall_const] at before inside ⊢
      refine ⟨before.1, ?_⟩
      cases pending with
      | nil => rfl
      | cons write rest => cases succeeds <;> rfl
  | counted =>
      simp only [phase, forall_const] at readable before ⊢
      refine ⟨before.1, ?_⟩
      rw [readable]
      change isSetupComplete site.config (some shared.store.config) = true at complete
      simp only [SetupStore.read, if_true, complete]
      rfl
  | storing firstCompletion =>
      simp only [phase] at inside
      cases succeeds <;> cases firstCompletion <;> cases inside
  | selecting =>
      simp only [phase] at inside
      split at inside <;> cases inside
  | finished answer =>
      simp only [phase] at inside
      rw [SetupCall.inBody, phase] at inside
      cases inside

/-- The turn that stores the flag ends the body of its own request. -/
theorem advance_storesFlag {succeeds : Bool} {jti : String} {shared : SetupShared} {call : SetupCall}
    (stores : call.storesFlag = true) (succeeded : succeeds = true) :
    (call.advance site succeeds jti shared).2.inBody = false := by
  unfold SetupCall.storesFlag at stores
  unfold SetupCall.advance
  cases phase : call.phase with
  | storing firstCompletion =>
      rw [succeeded]
      cases firstCompletion <;> rfl
  | _ =>
      rw [phase] at stores
      cases stores

/-- A turn makes room for a token only by storing the flag for a completion that found setup open. -/
theorem advance_tokens (succeeds : Bool) (jti : String) (shared : SetupShared) (call : SetupCall) :
    (if (call.advance site succeeds jti shared).2.isSelecting then 1 else 0) +
        (call.advance site succeeds jti shared).1.issued.length ≤
      (if call.isSelecting then 1 else 0) + shared.issued.length +
        if call.foundOpen && succeeds then 1 else 0 := by
  unfold SetupCall.advance SetupCall.foundOpen SetupCall.isSelecting
  cases phase : call.phase with
  | arrived =>
      simp only
      split <;> simp
  | admitted =>
      obtain ⟨answer, next⟩ | next | ⟨pending, answer, next⟩ :=
        startPhase_cases site shared.store succeeds call.request
      all_goals
        rw [next]
        simp
  | writing pending answer =>
      cases pending with
      | nil =>
          simp only
          omega
      | cons write rest => cases succeeds <;> simp
  | counted =>
      simp only
      omega
  | storing firstCompletion => cases succeeds <;> cases firstCompletion <;> simp [Nat.add_comm]
  | selecting =>
      simp only
      split <;> simp [Nat.add_comm]
  | finished answer => simp [phase]

end Turn

/-- Once setup is complete only admins are in a body; each token has a place of its own. -/
structure Guarded (state : SetupState) : Prop where
  bodies : state.shared.store.complete site = true → ∀ call ∈ state.processes, call.inBody = true →
    adminCredentials call.credentials = true ∧ call.foundOpen = false
  tokens : state.processes.countP SetupCall.isSelecting + state.shared.issued.length ≤
    if state.shared.store.complete site then 1 else 0

theorem setupStart_guarded (store : SetupStore) : Guarded site (setupStart store) where
  bodies := by
    intro complete call absent
    cases absent
  tokens := by
    change 0 + 0 ≤ _
    omega

variable {site}

section Act
variable {state : SetupState} {index : Nat} {succeeds : Bool} {jti : String} {call : SetupCall}

theorem act_complete (present : state.processes[index]? = some call) :
    (state.act (SetupCall.advance site succeeds jti) index).shared.store.complete site =
      (state.shared.store.complete site || (call.storesFlag && succeeds)) := by
  rw [Interleaved.act_shared present]
  exact advance_complete succeeds jti state.shared call

/-- A turn with a good read keeps the bodies with the admins, also when it completes the setup. -/
theorem Guarded.act_bodies (guarded : Guarded site state) (present : state.processes[index]? = some call)
    (readable : FlagReadable site state (.advance index succeeds jti))
    (alone : StoresAlone site state (.advance index succeeds jti))
    (complete : (state.act (SetupCall.advance site succeeds jti) index).shared.store.complete site = true) :
    ∀ other ∈ (state.act (SetupCall.advance site succeeds jti) index).processes, other.inBody = true →
      adminCredentials other.credentials = true ∧ other.foundOpen = false := by
  rw [act_complete present] at complete
  cases before : state.shared.store.complete site with
  | true =>
      refine Interleaved.forall_act present (guarded.bodies before) ?_ fun other _ kept => kept
      intro kept inside
      rw [advance_credentials]
      exact advance_inBody before (fun reads => readable call present reads before) kept inside
  | false =>
      rw [before, Bool.false_or, Bool.and_eq_true] at complete
      obtain ⟨stores, succeeded⟩ := complete
      refine Interleaved.forall_act present (fun _ _ => trivial) ?_ fun other there _ =>
        alone call present stores succeeded before other there
      intro _ inside
      rw [advance_storesFlag stores succeeded] at inside
      cases inside

/-- Only the turn that completes the setup makes room for a token. -/
theorem Guarded.act_room (guarded : Guarded site state) (present : state.processes[index]? = some call) :
    (if call.foundOpen && succeeds then 1 else 0) + (if state.shared.store.complete site then 1 else 0) ≤
      if (state.shared.store.complete site || (call.storesFlag && succeeds)) then 1 else 0 := by
  cases found : call.foundOpen with
  | false => cases state.shared.store.complete site <;> simp
  | true =>
      have stores := call.foundOpen_storesFlag found
      cases before : state.shared.store.complete site with
      | false => simp [stores]
      | true =>
          have kept := guarded.bodies before call (Interleaved.mem_processes present)
            (call.storesFlag_inBody stores)
          rw [found] at kept
          cases kept.2

/-- A turn under the two conditions keeps the guard. -/
theorem Guarded.act (guarded : Guarded site state) (present : state.processes[index]? = some call)
    (readable : FlagReadable site state (.advance index succeeds jti))
    (alone : StoresAlone site state (.advance index succeeds jti)) :
    Guarded site (state.act (SetupCall.advance site succeeds jti) index) where
  bodies := guarded.act_bodies present readable alone
  tokens := by
    have counted := @Interleaved.countP_act _ _ (SetupCall.advance site succeeds jti) _ _ _
      SetupCall.isSelecting present
    have before := guarded.tokens
    have token := @advance_tokens site succeeds jti state.shared call
    have room := @Guarded.act_room site state index succeeds call guarded present
    rw [act_complete present, Interleaved.act_shared present]
    omega

end Act

theorem Guarded.step {state : SetupState} {event : SetupEvent} (guarded : Guarded site state)
    (allowed : FlagReadable site state event ∧ StoresAlone site state event) :
    Guarded site (setupStep site state event) := by
  cases event with
  | request request credentials =>
      constructor
      · intro complete call member inside
        rcases List.mem_append.mp member with old | new
        · exact guarded.bodies complete call old inside
        · rw [List.mem_singleton.mp new] at inside
          cases inside
      · change (state.processes ++ [_]).countP _ + _ ≤ _
        rw [List.countP_append]
        exact guarded.tokens
  | advance index succeeds jti =>
      cases present : state.processes[index]? with
      | none =>
          have same : setupStep site state (.advance index succeeds jti) = state := by
            simp only [setupStep, Interleaved.act, present]
          rw [same]
          exact guarded
      | some call => exact guarded.act present allowed.1 allowed.2
  | elsewhere store =>
      simp only [setupStep]
      split
      · rename_i same
        have kept := isSetupComplete_congr site.config same
        constructor
        · intro complete
          exact guarded.bodies (kept.symm.trans complete)
        · have room := guarded.tokens
          change _ ≤ if isSetupComplete site.config (some store.config) = true then 1 else 0
          rw [kept]
          exact room
      · exact guarded

/-- The guard makes every running body one of an admin. -/
theorem Guarded.runsBody {state : SetupState} {event : SetupEvent} {call : SetupCall}
    (guarded : Guarded site state) (complete : state.shared.store.complete site = true)
    (running : Setup.runsBody state event = some call) : adminCredentials call.credentials = true := by
  cases event with
  | advance index succeeds jti =>
      obtain ⟨present, inside⟩ := Option.filter_eq_some_iff.mp running
      exact (guarded.bodies complete call (Interleaved.mem_processes present) inside).1
  | request request credentials => cases running
  | elsewhere store => cases running

variable (site)

/-- When every read of the stored flag succeeds and the flag is stored with no other open body
running, setup stays closed. -/
theorem setup_stays_closed (store : SetupStore) (events : List SetupEvent)
    (sound : ∀ visit ∈ visits (setupStep site) (setupStart store) events,
      FlagReadable site visit.1 visit.2 ∧ StoresAlone site visit.1 visit.2) :
    StaysClosed site store events := by
  have kept := fun state event (guarded : Guarded site state)
    (allowed : FlagReadable site state event ∧ StoresAlone site state event) => guarded.step allowed
  constructor
  · intro visit member complete call running
    exact (visits_invariant (setupStep site) kept events (setupStart_guarded site store) sound visit
      member).runsBody complete running
  · have last := (run_invariant (setupStep site) kept events (setupStart_guarded site store) sound).tokens
    split at last
    · omega
    · omega

/-- A portal without overrides from the environment. -/
def exampleSite : SetupSite where
  config := ⟨fun _ => none, id, some⟩
  hashPassword := id
  targetAllowed := fun _ => true

/-- One node and one admin are stored, and setup is not complete yet. -/
def exampleStore : SetupStore where
  db := { localUsers := [{ id := 1, username := "admin", role := .admin }]
          nodes := [{ id := 1, name := "pve", url := "https://pve:8006", proxmoxNode := "pve" }] }
  config := OrderedMap.empty

/-- A completion that is not interrupted takes five turns. -/
def completion (index : Nat) : List SetupEvent := List.replicate 5 (.advance index true "jti")

def adminBody : SetupAdminRequest where
  username := "admin"
  password := "chosen-by-guest"
  confirmPassword := "chosen-by-guest"
  filled := by decide
  long := by decide

/-- An uninterrupted completion meets the conditions, issues its token, and shuts out a later guest. -/
theorem setup_stays_closed_completion :
    StaysClosed exampleSite exampleStore
      (.request .complete none :: completion 0 ++ [.request (.admin adminBody) none, .advance 1 true ""]) :=
  setup_stays_closed exampleSite exampleStore _ (by decide)

/-- A failed read after the completion lets a guest set the password of the admin, and two
completions that read the flag in turns issue two tokens. -/
theorem setup_reopens :
    ¬ StaysClosed exampleSite exampleStore (.request .complete none :: completion 0 ++
      [.request (.admin adminBody) none, .advance 1 false "", .advance 1 true "", .advance 1 true ""]) ∧
      (run (setupStep exampleSite) (setupStart exampleStore)
        ([.request .complete none, .request .complete none] ++
          (List.replicate 5 [.advance 0 true "first", .advance 1 true "second"]).flatten)).shared.issued.length =
            2 := by
  decide

end P3Portal.Setup
