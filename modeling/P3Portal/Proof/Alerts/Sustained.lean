import P3Portal.Proof.Alerts.Checks

namespace P3Portal.Alerts
open Foundation
variable {F : Type} [PythonFloat F] (lower : String → String) (rule : EffectiveRule F) (vm : VmKey)

/-- The tables of the alerts and the polls of one guest so far, the latest first. -/
structure Watched (F : Type) where
  db : AlertDb F
  history : List (VmData F) := []

/-- A poll checks the rule for the guest. -/
def watch (state : Watched F) (vmData : VmData F) : Watched F where
  db := checkRule lower rule vmData vm (if vmData.name = "" then vm.vmid else vmData.name) state.db
  history := vmData :: state.history

/-- The polls that carried data for the rule. -/
def dataPolls (polls : List (VmData F)) : List (List (Reading F)) :=
  (polls.map (readings rule.toAlertRule)).filter fun poll => !poll.isEmpty

/-- As many of the latest polls with data as the rule asks for were above the threshold. -/
def SustainedBreach (severity : AlertSeverity) (polls : List (VmData F)) : Prop :=
  max 1 rule.sustainedPolls.toNat ≤ (dataPolls rule polls).length ∧
    ∀ poll ∈ (dataPolls rule polls).take (max 1 rule.sustainedPolls.toNat), ∀ reading ∈ poll,
      breaches lower rule.toAlertRule severity reading = true

/-- All readings of the poll are on one side of the threshold, and several breach it only when the row fires
already or is about to. -/
def OneSided (severity : AlertSeverity) (state : Watched F) (vmData : VmData F) : Prop :=
  Alarm.Steady rule.sustainedPolls (alarmOf state.db ⟨rule.id, vm, severity⟩)
    ((readings rule.toAlertRule vmData).map (breaches lower rule.toAlertRule severity))

/-- The poll records at most one event, and a firing one only after a sustained breach. -/
def FiresRightly (severity : AlertSeverity) (state : Watched F) (vmData : VmData F) : Prop :=
  ∃ new, signals (watch lower rule vm state vmData).db ⟨rule.id, vm, severity⟩ =
      signals state.db ⟨rule.id, vm, severity⟩ ++ new ∧
    new.length ≤ 1 ∧
    (.firing ∈ new → readings rule.toAlertRule vmData ≠ [] ∧
      SustainedBreach lower rule severity (vmData :: state.history))

section Polls
variable {lower rule vm} {severity : AlertSeverity} {state : Watched F} {vmData : VmData F}

/-- Whether a poll was above the threshold as a whole, for all polls with data. -/
def sides (lower : String → String) (rule : EffectiveRule F) (severity : AlertSeverity) (polls : List (VmData F)) :
    List Bool :=
  (dataPolls rule polls).map fun poll => poll.all (breaches lower rule.toAlertRule severity)

theorem sustainedBreach_of_streak {polls : List (VmData F)} (present : 1 ≤ Alarm.streak (sides lower rule severity polls))
    (enough : rule.sustainedPolls ≤ Alarm.streak (sides lower rule severity polls)) :
    SustainedBreach lower rule severity polls := by
  have needed : max 1 rule.sustainedPolls.toNat ≤ Alarm.streak (sides lower rule severity polls) := by omega
  constructor
  · have bound := needed.trans (Alarm.streak_le_length _)
    unfold sides at bound
    rw [List.length_map] at bound
    exact bound
  · intro poll member reading inside
    have breached := Alarm.take_streak needed (poll.all (breaches lower rule.toAlertRule severity)) (by
      unfold sides
      rw [← List.map_take]
      exact List.mem_map_of_mem member)
    exact List.all_eq_true.mp breached reading inside

theorem sides_cons_of_empty {polls : List (VmData F)} (empty : readings rule.toAlertRule vmData = []) :
    sides lower rule severity (vmData :: polls) = sides lower rule severity polls := by
  unfold sides dataPolls
  rw [List.map_cons, empty, List.filter_cons_of_neg (by simp)]

theorem sides_cons {polls : List (VmData F)} {first : Reading F} {rest : List (Reading F)}
    (read : readings rule.toAlertRule vmData = first :: rest) :
    sides lower rule severity (vmData :: polls) =
      (first :: rest).all (breaches lower rule.toAlertRule severity) :: sides lower rule severity polls := by
  unfold sides dataPolls
  rw [List.map_cons, read, List.filter_cons_of_pos (by simp), List.map_cons]

/-- The row of a severity is regular and its count is covered by the polls so far. -/
structure Counted (lower : String → String) (rule : EffectiveRule F) (vm : VmKey) (severity : AlertSeverity)
    (state : Watched F) : Prop where
  regular : RegularAt state.db ⟨rule.id, vm, severity⟩
  backed : (alarmOf state.db ⟨rule.id, vm, severity⟩).Backed (sides lower rule severity state.history)
  idle : handles rule.toAlertRule severity = false → (alarmOf state.db ⟨rule.id, vm, severity⟩).count = 0

/-- The calls of the rule report these breaches for the severity. -/
def reported (lower : String → String) (rule : EffectiveRule F) (vm : VmKey) (severity : AlertSeverity)
    (vmData : VmData F) : List Bool :=
  breachesOf (ruleChecks lower rule vmData vm (if vmData.name = "" then vm.vmid else vmData.name))
    ⟨rule.id, vm, severity⟩

/-- A poll observes what its calls report. -/
theorem watch_observes (vmData : VmData F) (regular : RegularAt state.db ⟨rule.id, vm, severity⟩) :
    let key : StateKey := ⟨rule.id, vm, severity⟩
    let observed := (alarmOf state.db key).observeAll rule.sustainedPolls (reported lower rule vm severity vmData)
    RegularAt (watch lower rule vm state vmData).db key ∧
      alarmOf (watch lower rule vm state vmData).db key = observed.1 ∧
      signals (watch lower rule vm state vmData).db key =
        signals state.db key ++ recorded rule.notifyRecovery observed.2 := by
  dsimp only
  unfold watch reported
  dsimp only
  rw [checkRule_eq]
  refine ⟨foldl_processSeverity_regular regular, ?_⟩
  apply foldl_processSeverity _ regular
  intro check called _
  obtain ⟨_, _, sustained, notify, _⟩ := mem_ruleChecks called
  exact ⟨sustained, notify⟩

/-- The calls report nothing, that a status without a value is no breach, or the breaches of the readings. -/
theorem reported_cases (lower : String → String) (rule : EffectiveRule F) (vm : VmKey) (severity : AlertSeverity)
    (vmData : VmData F) :
    reported lower rule vm severity vmData = [] ∧ handles rule.toAlertRule severity = false ∨
      reported lower rule vm severity vmData = [false] ∧ readings rule.toAlertRule vmData = [] ∨
      reported lower rule vm severity vmData =
        (readings rule.toAlertRule vmData).map (breaches lower rule.toAlertRule severity) ∧
          handles rule.toAlertRule severity = true := by
  unfold reported
  by_cases status : rule.metric = .status
  · rw [breachesOf_status status]
    cases handled : handles rule.toAlertRule severity with
    | false => exact .inl ⟨rfl, rfl⟩
    | true =>
        have read : readings rule.toAlertRule vmData = (vmData.status.map Reading.text).toList := by
          unfold readings extractMetric
          simp only [status]
          cases vmData.status <;> rfl
        rw [read]
        cases vmData.status with
        | none => exact .inr (.inl ⟨rfl, rfl⟩)
        | some text => exact .inr (.inr ⟨rfl, rfl⟩)
  · rw [breachesOf_ruleChecks status]
    cases handled : handles rule.toAlertRule severity with
    | false => exact .inl ⟨rfl, rfl⟩
    | true => exact .inr (.inr ⟨rfl, rfl⟩)

theorem recorded_length_le (notifyRecovery : Bool) (signal : Option Signal) :
    (recorded notifyRecovery signal.toList).length ≤ 1 := by
  apply (List.length_filter_le _ _).trans
  cases signal <;> simp

theorem firing_of_recorded {notifyRecovery : Bool} {signal : Option Signal}
    (fires : .firing ∈ recorded notifyRecovery signal.toList) : signal = some .firing :=
  Option.mem_toList.mp (List.mem_of_mem_filter fires)

omit [PythonFloat F] in
/-- One-sided readings are all on the side of the first one. -/
theorem all_eq_first {first : Reading F} {rest : List (Reading F)} {alarm : Alarm} {sustained : Int}
    {breach : Reading F → Bool} (steady : Alarm.Steady sustained alarm ((first :: rest).map breach)) :
    (first :: rest).all breach = breach first := by
  cases side : breach first with
  | false => rw [List.all_cons, side, Bool.false_and]
  | true =>
      rcases steady with below | ⟨above, _⟩
      · rw [below _ List.mem_cons_self] at side
        cases side
      · apply List.all_eq_true.mpr
        intro reading member
        exact above _ (List.mem_map_of_mem member)

/-- One poll keeps the count covered and fires rightly. -/
theorem counted_watch (counted : Counted lower rule vm severity state)
    (oneSided : OneSided lower rule vm severity state vmData) :
    Counted lower rule vm severity (watch lower rule vm state vmData) ∧
      FiresRightly lower rule vm severity state vmData := by
  obtain ⟨regular, alarm, log⟩ := watch_observes vmData counted.regular
  have next : (watch lower rule vm state vmData).history = vmData :: state.history := rfl
  rcases reported_cases lower rule vm severity vmData with ⟨nothing, unhandled⟩ | ⟨below, missing⟩ | ⟨read, handled⟩
  · have idle := counted.idle unhandled
    rw [nothing] at alarm log
    refine ⟨⟨regular, ?_, ?_⟩, [], log, Nat.zero_le 1, fun absent => by cases absent⟩
    · intro _
      rw [alarm]
      exact idle.trans_le (Nat.zero_le _)
    · intro _
      rw [alarm]
      exact idle
  · rw [below] at alarm log
    refine ⟨⟨regular, ?_, ?_⟩, _, log, ?_, ?_⟩
    · intro _
      rw [alarm]
      exact Nat.zero_le _
    · intro _
      rw [alarm]
      rfl
    · rw [Alarm.observeAll_cons]
      exact (congrArg _ (congrArg _ (List.append_nil _))).trans_le (recorded_length_le _ _)
    · intro fires
      rw [Alarm.observeAll_cons] at fires
      have signal := firing_of_recorded (by rw [← List.append_nil (Option.toList _)]; exact fires)
      have breached := (Alarm.firing_observe counted.backed signal).1
      cases breached
  · cases readAs : readings rule.toAlertRule vmData with
    | nil =>
        rw [read, readAs] at alarm log
        refine ⟨⟨regular, ?_, ?_⟩, [], log, Nat.zero_le 1, fun absent => by cases absent⟩
        · rw [alarm, next, sides_cons_of_empty readAs]
          exact counted.backed
        · rw [alarm]
          exact counted.idle
    | cons first rest =>
        unfold OneSided at oneSided
        rw [readAs] at oneSided
        have side : sides lower rule severity (vmData :: state.history) = _ := sides_cons readAs
        rw [all_eq_first oneSided] at side
        rw [read, readAs, List.map_cons, Alarm.observeAll_steady oneSided] at alarm log
        refine ⟨⟨regular, ?_, ?_⟩, _, log, recorded_length_le _ _, ?_⟩
        · rw [alarm, next, side]
          exact Alarm.backed_observe counted.backed _
        · intro unhandled
          rw [handled] at unhandled
          cases unhandled
        · intro fires
          obtain ⟨breached, enough⟩ := Alarm.firing_observe counted.backed (firing_of_recorded fires)
          have carries : readings rule.toAlertRule vmData ≠ [] := by
            rw [readAs]
            exact List.cons_ne_nil first rest
          refine ⟨carries, sustainedBreach_of_streak ?_ ?_⟩
          · rw [side, breached]
            exact Nat.succ_pos _
          · rw [side]
            exact enough

/-- The condition on a poll, for both severities. -/
def PollOneSided (lower : String → String) (rule : EffectiveRule F) (vm : VmKey) (state : Watched F)
    (vmData : VmData F) : Prop := ∀ severity, OneSided lower rule vm severity state vmData

end Polls

section Runs
variable {lower rule vm}

/-- In a run of polls that are one-sided, an alert fires only after a sustained breach, and a poll records at
most one event for each severity. -/
theorem fires_only_after_sustained_breach (db : AlertDb F)
    (fresh : ∀ severity, db.states.get? ⟨rule.id, vm, severity⟩ = none) (polls : List (VmData F))
    (oneSided : ∀ visit ∈ visits (watch lower rule vm) ⟨db, []⟩ polls, PollOneSided lower rule vm visit.1 visit.2) :
    ∀ visit ∈ visits (watch lower rule vm) ⟨db, []⟩ polls, ∀ severity,
      FiresRightly lower rule vm severity visit.1 visit.2 := by
  have empty (severity : AlertSeverity) : getState db ⟨rule.id, vm, severity⟩ = {} := by
    unfold getState
    rw [fresh]
    rfl
  have start (severity : AlertSeverity) : Counted lower rule vm severity ⟨db, []⟩ := by
    refine ⟨regularAt_of_missing (fresh severity), ?_, ?_⟩
    · intro _
      unfold alarmOf
      rw [empty]
      exact Nat.zero_le _
    · intro _
      unfold alarmOf
      rw [empty]
  have kept (state : Watched F) (vmData : VmData F) (counted : ∀ severity, Counted lower rule vm severity state)
      (sided : PollOneSided lower rule vm state vmData) (severity : AlertSeverity) :
      Counted lower rule vm severity (watch lower rule vm state vmData) :=
    (counted_watch (counted severity) (sided severity)).1
  intro visit member severity
  have counted := visits_invariant _ kept polls start oneSided visit member severity
  exact (counted_watch counted (oneSided visit member severity)).2

end Runs

section Filesystems
/-- Two consecutive polls above the threshold are asked for. -/
def diskRule : EffectiveRule Nat where
  id := 1
  scope := .global
  name := "Disk"
  metric := .diskPercent
  criticalThreshold := some 90
  sustainedPolls := 2
  source := .global

def fullDisk : Filesystem Nat := { totalBytes := 1, usedBytes := 1 }

def oneFull : VmData Nat := { vmid := some "100", filesystems := [fullDisk] }

def twoFull : VmData Nat := { vmid := some "100", filesystems := [fullDisk, fullDisk] }

/-- Two full filesystems fire in the first poll. -/
theorem two_filesystems_fire_at_once :
    signals (watch Text.lower diskRule ⟨"100", 1⟩ ⟨{}, []⟩ twoFull).db ⟨diskRule.id, ⟨"100", 1⟩, .critical⟩ =
        [.firing] ∧
      ¬ FiresRightly Text.lower diskRule ⟨"100", 1⟩ .critical ⟨{}, []⟩ twoFull := by
  have fired : signals (watch Text.lower diskRule ⟨"100", 1⟩ ⟨{}, []⟩ twoFull).db
      ⟨diskRule.id, ⟨"100", 1⟩, .critical⟩ = [.firing] := by decide +kernel
  refine ⟨fired, ?_⟩
  rintro ⟨new, log, _, after⟩
  have same : new = [.firing] := by
    rw [fired] at log
    exact log.symm
  have enough := (after (by rw [same]; exact List.mem_singleton.mpr rfl)).2.1
  revert enough
  decide +kernel

/-- One filesystem that stays full fires in the second poll. -/
theorem one_filesystem_fires_after_two_polls :
    signals (run (watch Text.lower diskRule ⟨"100", 1⟩) ⟨{}, []⟩ [oneFull, oneFull]).db
        ⟨diskRule.id, ⟨"100", 1⟩, .critical⟩ = [.firing] ∧
      FiresRightly Text.lower diskRule ⟨"100", 1⟩ .critical
        (watch Text.lower diskRule ⟨"100", 1⟩ ⟨{}, []⟩ oneFull) oneFull := by
  refine ⟨by decide +kernel, ?_⟩
  have once (severity : AlertSeverity) : ((readings diskRule.toAlertRule oneFull).map
      (breaches Text.lower diskRule.toAlertRule severity)).length ≤ 1 := by
    rw [List.length_map]
    decide +kernel
  apply fires_only_after_sustained_breach {} (fun _ => rfl) [oneFull, oneFull] _ (_, oneFull) (.tail _ (.head _))
  intro visit member severity
  have polled : visit.2 = oneFull := by
    rcases List.mem_cons.mp (visits_event _ _ _ member) with first | second
    · exact first
    · exact List.mem_singleton.mp second
  unfold OneSided
  rw [polled]
  exact Alarm.steady_of_length_le (once severity)

end Filesystems
end P3Portal.Alerts
