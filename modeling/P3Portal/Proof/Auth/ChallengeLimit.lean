import P3Portal.Construction.Auth.TwoFactor
import P3Portal.Foundation.Run

namespace P3Portal.Auth
open Schema Foundation Http

section Store
variable {before : Challenges} {jti : String}

/-- A token that is not in the ledger keeps its recorded attempts. -/
def Forgets (before after : Challenges) : Prop :=
  ∀ jti ∉ after.forgotten, after.count jti = before.count jti ∧ jti ∉ before.forgotten

theorem Forgets.refl (challenges : Challenges) : Forgets challenges challenges := fun _ absent => ⟨rfl, absent⟩

theorem keep_forgets (challenges : Challenges) (kept : String → Nat × Int → Bool) :
    Forgets challenges (challenges.keep kept) := by
  intro jti remembered
  have earlier : jti ∉ challenges.forgotten := fun member => remembered (List.mem_append_left _ member)
  refine ⟨?_, earlier⟩
  cases stored : challenges.attempts.get? jti with
  | none => simp [Challenges.count, Challenges.keep, stored]
  | some entry =>
      have passes : kept jti entry = true := by
        by_contra dropped
        apply remembered
        apply List.mem_append_right
        have member := (challenges.attempts.get?_eq_some_iff).mp stored
        exact List.mem_map.mpr ⟨(jti, entry), List.mem_filter.mpr ⟨member, by simpa using dropped⟩, rfl⟩
      simp [Challenges.count, Challenges.keep, stored, Option.filter, passes]

@[simp] theorem count_set (challenges : Challenges) (jti other : String) (attempts : Nat) (exp : Int) :
    (setChallengeAttempts challenges jti attempts exp).count other =
      if other = jti then attempts else challenges.count other := by
  by_cases same : other = jti <;> simp [setChallengeAttempts, Challenges.count, same]

/-- The cleanup of an accepted token drops its own entry exactly after the start of its last second. -/
theorem cleanup_drops_accepted_iff {token : SignedToken} {now : Rat} {claims : Claims} {attempts : Nat}
    (accepted : decodeAccessToken now token = some claims)
    (stored : before.attempts.get? jti = some (attempts, token.exp)) :
    (cleanupChallengeAttempts before now).attempts.get? jti = none ↔
      token.exp = now.floor ∧ (now.floor : Rat) < now := by
  have unexpired : now.floor ≤ token.exp := by
    by_contra expired
    simp [decodeAccessToken, expired] at accepted
  have dropped : (cleanupChallengeAttempts before now).attempts.get? jti = none ↔ (token.exp : Rat) < now := by
    simp [cleanupChallengeAttempts, Challenges.keep, stored, Option.filter]
  rw [dropped]
  constructor
  · intro earlier
    have below : token.exp ≤ now.floor := Rat.le_floor_iff.mpr (Rat.le_of_lt earlier)
    have same : token.exp = now.floor := by omega
    rw [same] at earlier
    exact ⟨same, earlier⟩
  · intro boundary
    obtain ⟨same, earlier⟩ := boundary
    rw [same]
    exact earlier

end Store

section State
variable (site : TwoFactorSite)

/-- The code of a request for this token was checked and rejected. -/
def ChallengeCall.failedFor (jti : String) (call : ChallengeCall) : Bool :=
  match call.phase with
  | .failed _ => call.jti = jti
  | _ => false

/-- The rejected codes of a token over its whole life. -/
def failedAttempts (state : ChallengeState) (jti : String) : Nat :=
  state.processes.countP (ChallengeCall.failedFor jti)

/-- A request in progress has read this number of attempts. -/
def ChallengeCall.attemptsRead (call : ChallengeCall) : Option Nat :=
  match call.phase with
  | .checked attempts => some attempts
  | .verifying attempts _ => some attempts
  | _ => none

/-- A code that is rejected adds to the count that its request has read, and no attempt of the token has been
forgotten. -/
def CountStands (state : ChallengeState) : ChallengeEvent → Prop
  | .request _ _ => True
  | .advance index moment => ∀ call attempts userId, state.processes[index]? = some call →
      call.phase = .verifying attempts userId → verifySecondFactor site moment userId call.code = none →
        state.shared.count call.jti = attempts ∧ call.jti ∉ state.shared.forgotten

/-- A request in progress was below the maximum when it was checked. -/
def ChallengeCall.Admitted (call : ChallengeCall) : Prop :=
  ∀ attempts, call.attemptsRead = some attempts → attempts < maxChallengeAttempts

/-- The recorded attempts are the rejected codes, and requests in progress are below the maximum. -/
structure Counted (state : ChallengeState) : Prop where
  limited : ∀ jti, failedAttempts state jti ≤ maxChallengeAttempts
  recorded : ∀ jti ∉ state.shared.forgotten, state.shared.count jti = failedAttempts state jti
  admitted : ∀ call ∈ state.processes, call.Admitted

variable {site} {state : ChallengeState} {index : Nat} {call : ChallengeCall} {moment : Moment}

/-- A check forgets expired entries at most and admits a request below the maximum. -/
theorem checkChallenge_spec (moment : Moment) (challenges : Challenges) (call : ChallengeCall) :
    Forgets challenges (checkChallenge moment challenges call).1 ∧
      ((∃ exception, (checkChallenge moment challenges call).2 = .refused exception) ∨
        ∃ attempts, attempts < maxChallengeAttempts ∧
          (checkChallenge moment challenges call).2 = .checked attempts) := by
  have cleaned : Forgets challenges (cleanupChallengeAttempts challenges moment.cleanupAt) := keep_forgets _ _
  unfold checkChallenge
  split
  · exact ⟨Forgets.refl challenges, .inl ⟨_, rfl⟩⟩
  · split
    · exact ⟨Forgets.refl challenges, .inl ⟨_, rfl⟩⟩
    · split
      · exact ⟨Forgets.refl challenges, .inl ⟨_, rfl⟩⟩
      · by_cases full : maxChallengeAttempts ≤
            (cleanupChallengeAttempts challenges moment.cleanupAt).count call.jti
        · simp only [full, if_true]
          exact ⟨cleaned, .inl ⟨_, rfl⟩⟩
        · simp only [full, if_false]
          exact ⟨cleaned, .inr ⟨_, Nat.lt_of_not_le full, rfl⟩⟩

/-- A turn records a rejected code, or it rejects nothing and forgets entries at most. -/
theorem turn_cases (site : TwoFactorSite) (moment : Moment) (challenges : Challenges) (call : ChallengeCall) :
    (∃ attempts userId, call.phase = .verifying attempts userId ∧
      verifySecondFactor site moment userId call.code = none ∧
        call.turn site moment challenges =
          (setChallengeAttempts challenges call.jti (attempts + 1) call.exp, .failed authenticationFailed)) ∨
    (Forgets challenges (call.turn site moment challenges).1 ∧
      (∀ jti, (call.advance site moment challenges).2.failedFor jti = call.failedFor jti) ∧
        ∀ attempts, (call.advance site moment challenges).2.attemptsRead = some attempts →
          attempts < maxChallengeAttempts ∨ call.attemptsRead = some attempts) := by
  obtain ⟨token, code, phase⟩ := call
  cases phase with
  | arrived =>
      right
      obtain ⟨forgets, outcome⟩ := checkChallenge_spec moment challenges ⟨token, code, .arrived⟩
      refine ⟨forgets, ?_⟩
      rcases outcome with ⟨exception, refused⟩ | ⟨attempts, below, checked⟩
      · simp [ChallengeCall.advance, ChallengeCall.turn, refused, ChallengeCall.failedFor,
          ChallengeCall.attemptsRead]
      · simp [ChallengeCall.advance, ChallengeCall.turn, checked, ChallengeCall.failedFor,
          ChallengeCall.attemptsRead, below]
  | checked attempts =>
      right
      refine ⟨Forgets.refl challenges, ?_⟩
      cases found : (getUserByUsername moment.db
          (ChallengeCall.username ⟨token, code, .checked attempts⟩)).filter
            fun user => user.active && user.totpEnabled <;>
        simp [ChallengeCall.advance, ChallengeCall.turn, found, ChallengeCall.failedFor,
          ChallengeCall.attemptsRead]
  | verifying attempts userId =>
      cases verified : verifySecondFactor site moment userId code with
      | none =>
          left
          exact ⟨attempts, userId, rfl, verified, by simp [ChallengeCall.turn, verified]⟩
      | some method =>
          right
          refine ⟨?_, ?_⟩
          · simp only [ChallengeCall.turn, verified]
            exact keep_forgets _ _
          · simp [ChallengeCall.advance, ChallengeCall.turn, verified, ChallengeCall.failedFor,
              ChallengeCall.attemptsRead]
  | refused exception => exact .inr ⟨Forgets.refl challenges, fun _ => rfl, fun _ => .inr⟩
  | failed exception => exact .inr ⟨Forgets.refl challenges, fun _ => rfl, fun _ => .inr⟩
  | accepted method => exact .inr ⟨Forgets.refl challenges, fun _ => rfl, fun _ => .inr⟩

theorem failedAttempts_act (site : TwoFactorSite) (moment : Moment)
    (present : state.processes[index]? = some call) (jti : String) :
    failedAttempts (state.act (ChallengeCall.advance site moment) index) jti +
        (if call.failedFor jti then 1 else 0) =
      failedAttempts state jti +
        if (call.advance site moment state.shared).2.failedFor jti then 1 else 0 :=
  Interleaved.countP_act _ present

/-- A turn that rejects no code keeps the counts. -/
theorem quiet_counted (present : state.processes[index]? = some call) (counted : Counted state)
    (forgets : Forgets state.shared (call.turn site moment state.shared).1)
    (rejects : ∀ jti, (call.advance site moment state.shared).2.failedFor jti = call.failedFor jti)
    (reads : ∀ attempts, (call.advance site moment state.shared).2.attemptsRead = some attempts →
      attempts < maxChallengeAttempts ∨ call.attemptsRead = some attempts) :
    Counted (state.act (ChallengeCall.advance site moment) index) := by
  have shared : (state.act (ChallengeCall.advance site moment) index).shared =
      (call.turn site moment state.shared).1 := Interleaved.act_shared present
  have same : ∀ jti, failedAttempts (state.act (ChallengeCall.advance site moment) index) jti =
      failedAttempts state jti := by
    intro jti
    have moved := failedAttempts_act site moment present jti
    rw [rejects] at moved
    omega
  refine ⟨?_, ?_, ?_⟩
  · intro jti
    rw [same]
    exact counted.limited jti
  · intro jti remembered
    rw [shared] at remembered ⊢
    obtain ⟨stays, earlier⟩ := forgets jti remembered
    rw [stays, same]
    exact counted.recorded jti earlier
  · have still : call.Admitted → (call.advance site moment state.shared).2.Admitted := by
      intro admitted attempts read
      rcases reads attempts read with below | before
      · exact below
      · exact admitted attempts before
    exact Interleaved.forall_act present counted.admitted still fun other _ admitted => admitted

/-- A rejected code keeps the counts when the count that was read still stands. -/
theorem rejected_counted {attempts : Nat} {userId : Int} (present : state.processes[index]? = some call)
    (phase : call.phase = .verifying attempts userId) (counted : Counted state)
    (turn : call.turn site moment state.shared =
      (setChallengeAttempts state.shared call.jti (attempts + 1) call.exp, .failed authenticationFailed))
    (stands : state.shared.count call.jti = attempts ∧ call.jti ∉ state.shared.forgotten) :
    Counted (state.act (ChallengeCall.advance site moment) index) := by
  have shared : (state.act (ChallengeCall.advance site moment) index).shared =
      setChallengeAttempts state.shared call.jti (attempts + 1) call.exp := by
    rw [Interleaved.act_shared present]
    simp only [ChallengeCall.advance, turn]
  have more : ∀ jti, failedAttempts (state.act (ChallengeCall.advance site moment) index) jti =
      failedAttempts state jti + if call.jti = jti then 1 else 0 := by
    intro jti
    have moved := failedAttempts_act site moment present jti
    simp only [ChallengeCall.advance, turn, ChallengeCall.failedFor, phase, decide_eq_true_eq,
      Bool.false_eq_true, if_false, Nat.add_zero] at moved
    exact moved
  have below : attempts < maxChallengeAttempts :=
    counted.admitted call (Interleaved.mem_processes present) attempts (by simp [ChallengeCall.attemptsRead, phase])
  have exact_count : failedAttempts state call.jti = attempts :=
    (counted.recorded call.jti stands.2).symm.trans stands.1
  refine ⟨?_, ?_, ?_⟩
  · intro jti
    rw [more]
    have before := counted.limited jti
    by_cases same : call.jti = jti
    · rw [← same, if_pos rfl, exact_count]
      omega
    · rw [if_neg same]
      exact before
  · intro jti remembered
    rw [shared] at remembered ⊢
    rw [count_set, more]
    by_cases same : jti = call.jti
    · rw [if_pos same, if_pos same.symm, same, exact_count]
    · rw [if_neg same, if_neg (Ne.symm same)]
      exact counted.recorded jti remembered
  · have ended : call.Admitted → (call.advance site moment state.shared).2.Admitted := by
      intro _ attempts read
      simp [ChallengeCall.advance, turn, ChallengeCall.attemptsRead] at read
    exact Interleaved.forall_act present counted.admitted ended fun other _ admitted => admitted

/-- Every event keeps the counts when a rejected code finds the count that its request has read. -/
theorem challengeStep_counted (event : ChallengeEvent) (counted : Counted state)
    (stands : CountStands site state event) : Counted (challengeStep site state event) := by
  cases event with
  | request token code =>
      have same : ∀ jti, failedAttempts (challengeStep site state (.request token code)) jti =
          failedAttempts state jti := by
        intro jti
        simp [failedAttempts, challengeStep, Interleaved.spawn, ChallengeCall.failedFor]
      refine ⟨?_, ?_, ?_⟩
      · intro jti
        rw [same]
        exact counted.limited jti
      · intro jti remembered
        rw [same]
        exact counted.recorded jti remembered
      · intro call member attempts read
        rcases List.mem_append.mp member with old | new
        · exact counted.admitted call old attempts read
        · rw [List.mem_singleton.mp new] at read
          cases read
  | advance index moment =>
      cases present : state.processes[index]? with
      | none =>
          have stays : challengeStep site state (.advance index moment) = state :=
            Interleaved.act_absent present
          rw [stays]
          exact counted
      | some call =>
          rcases turn_cases site moment state.shared call with
            ⟨attempts, userId, phase, verified, turn⟩ | ⟨forgets, rejects, reads⟩
          · exact rejected_counted present phase counted turn (stands call attempts userId present phase verified)
          · exact quiet_counted present counted forgets rejects reads

/-- The portal starts without recorded attempts. -/
def ChallengeState.start : ChallengeState where
  shared := {}
  processes := []

theorem start_counted : Counted ChallengeState.start where
  limited jti := Nat.zero_le _
  recorded jti _ := rfl
  admitted call absent := by cases absent

end State

/-- Over a run in which every rejected code finds the count that its request has read, and no attempt of its
token forgotten, no token is good for more than five rejected codes. -/
theorem failedAttempts_limited (site : TwoFactorSite) (events : List ChallengeEvent)
    (stands : ∀ visit ∈ visits (challengeStep site) .start events, CountStands site visit.1 visit.2) :
    ∀ after ∈ reached (challengeStep site) .start events, ∀ jti,
      failedAttempts after jti ≤ maxChallengeAttempts := by
  have counted := reached_invariant (challengeStep site)
    (fun _ event counted stands => challengeStep_counted event counted stands) events start_counted stands
  intro after member
  exact (counted after member).limited

section Guesses
/-- No code is ever right. -/
def guessSite : TwoFactorSite where
  encryptSecret secret := secret
  decryptSecret secret := some secret
  totpValid _ _ _ := false
  isDigit _ := true
  upper text := text
  sha256 text := text

def guessToken : SignedToken where
  claims := createPreAuthToken "anna" "half"
  exp := 300

/-- The portal signs this token half a second after the epoch. -/
example : signPreAuthToken "anna" "half" (1 / 2) = guessToken := by decide +kernel

def guessMoment : Moment where
  decodeAt := 3
  cleanupAt := 4
  db := { localUsers := [{ id := 1, username := "anna", totpEnabled := true }] }

/-- Anna mistypes her code once. -/
def singleGuess : List ChallengeEvent :=
  [.request guessToken "000000", .advance 0 guessMoment, .advance 0 guessMoment, .advance 0 guessMoment]

theorem singleGuess_limited :
    (∀ jti, failedAttempts .start jti = 0) ∧
      ∀ after ∈ reached (challengeStep guessSite) .start singleGuess, ∀ jti,
        failedAttempts after jti ≤ maxChallengeAttempts := by
  refine ⟨fun _ => rfl, ?_⟩
  apply failedAttempts_limited guessSite singleGuess
  intro visit member
  simp only [singleGuess, visits, List.mem_cons, List.not_mem_nil, or_false] at member
  rcases member with arrival | check | lookup | verification
  · rw [arrival]
    trivial
  · rw [check]
    intro call attempts userId held phase
    rw [← Option.some.inj held] at phase
    cases phase
  · rw [lookup]
    intro call attempts userId held phase
    rw [← Option.some.inj held] at phase
    cases phase
  · rw [verification]
    intro call attempts userId held phase _
    have same := Option.some.inj held
    rw [← same] at phase ⊢
    rw [← (ChallengePhase.verifying.inj phase).1]
    decide

/-- Six requests read the count before the first of them stores it. -/
def sixGuesses : List ChallengeEvent :=
  let turns := (List.range 6).map fun index => ChallengeEvent.advance index guessMoment
  List.replicate 6 (.request guessToken "000000") ++ turns ++ turns ++ turns

theorem sixGuesses_exceed :
    ¬ ∀ (site : TwoFactorSite) (events : List ChallengeEvent),
      ∀ after ∈ reached (challengeStep site) .start events, ∀ jti,
        failedAttempts after jti ≤ maxChallengeAttempts := by
  intro claim
  have limited := claim guessSite sixGuesses _ (run_mem_reached _ _ _) "half"
  revert limited
  decide

end Guesses
end P3Portal.Auth
