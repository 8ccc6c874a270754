import P3Portal.Proof.Alerts.Edits
import P3Portal.Proof.Alerts.Layers
import P3Portal.Proof.Alerts.Checks

namespace P3Portal.Alerts
open Foundation
variable {F : Type} [PythonFloat F]

/-- The edit deletes no rule, changes no assignment and lets every rule announce its recovery. -/
def keepsRecovery : AlertEdit F → Bool
  | .createGlobalRule request _ _ => request.body.notifyRecovery
  | .updateGlobalRule _ updates _ => updates.notifyRecovery.all (· = some true)
  | .createVmRule _ request _ _ => request.body.notifyRecovery
  | .updateVmRule _ _ updates _ => updates.notifyRecovery.all (· = some true)
  | .createPreset _ rules _ _ => rules.all fun request => request.body.notifyRecovery
  | .updatePreset _ _ rules _ _ => rules.isNone
  | .updateThresholdOverrides _ _ => true
  | .deleteGlobalRule _ | .deleteVmRule _ _ | .deletePreset _ | .assignPreset _ _ | .removeAssignment _ _ => false

/-- All stored rules announce a recovery. -/
def Recovering (rules : List (AlertRule String)) : Prop := ∀ row ∈ rules, row.notifyRecovery = true

section Edits
variable {db after : AlertDb F} {isPlus : Bool}

/-- The change leaves states and events alone and keeps the rules recovering. -/
def Quiet (db after : AlertDb F) : Prop :=
  after.states = db.states ∧ after.events = db.events ∧ (Recovering db.rules → Recovering after.rules)

theorem quiet_createRule (place : RulePlace) {body : AlertRuleBase F} (createdBy now : String)
    (recovers : body.notifyRecovery = true) : Quiet db (createRule db place body createdBy now) := by
  refine ⟨rfl, rfl, ?_⟩
  intro before row member
  rcases List.mem_append.mp member with old | new
  · exact before row old
  · rw [List.mem_singleton.mp new]
    exact recovers

theorem quiet_createRules (place : RulePlace) {bodies : List (AlertRuleBase F)} (createdBy now : String)
    (recover : ∀ body ∈ bodies, body.notifyRecovery = true) :
    Quiet db (createRules db place bodies createdBy now) := by
  induction bodies generalizing db with
  | nil => exact ⟨rfl, rfl, id⟩
  | cons body rest ih =>
      have here : Quiet db (createRule db place body createdBy now) :=
        quiet_createRule place createdBy now (recover body List.mem_cons_self)
      have later : Quiet (createRule db place body createdBy now)
          (createRules (createRule db place body createdBy now) place rest createdBy now) :=
        ih fun other member => recover other (List.mem_cons_of_mem _ member)
      exact ⟨later.1.trans here.1, later.2.1.trans here.2.1, later.2.2 ∘ here.2.2⟩

theorem quiet_updateRule {ruleId : Int} {updates : GlobalRuleUpdateRequest F} {now : String}
    (recovers : updates.notifyRecovery.all (· = some true) = true)
    (updated : updateRule db ruleId updates now = some after) :
    Quiet db after := by
  obtain ⟨row, _, stored, _, patched, changed, rfl⟩ := updateRule_eq updated
  obtain ⟨name, metric, sustainedPolls, _, _, _, rfl⟩ := patchRow_eq changed
  refine ⟨rfl, rfl, ?_⟩
  intro before other member
  obtain ⟨old, listed, shown⟩ := List.mem_map.mp member
  split at shown
  · rw [← shown]
    show (updates.notifyRecovery.map (·.getD false)).getD row.notifyRecovery = true
    cases sent : updates.notifyRecovery with
    | none => exact before row stored
    | some value =>
        rw [sent, Option.all_some, decide_eq_true_eq] at recovers
        rw [recovers]
        rfl
  · rw [← shown]
    exact before old listed

/-- An accepted edit that keeps the recoveries is quiet. -/
theorem quiet_edited {edit : AlertEdit F} (kept : keepsRecovery edit = true) (edited : Edited db edit after) :
    Quiet db after := by
  cases edited with
  | createdGlobal isPlus request createdBy now =>
      apply quiet_createRule .global createdBy now
      rw [notifyRecovery_filtered]
      exact kept
  | createdVm isPlus vm request createdBy now =>
      apply quiet_createRule (.vm vm) createdBy now
      rw [notifyRecovery_filtered]
      exact kept
  | updatedGlobal _ updated | updatedVm _ _ updated => exact quiet_updateRule kept updated
  | presetCreated sent presets presetId rules createdBy now =>
      have recover : ∀ body ∈ rules.map RuleCreateRequest.body, body.notifyRecovery = true := by
        intro body member
        obtain ⟨request, listed, rfl⟩ := List.mem_map.mp member
        exact List.all_eq_true.mp kept request listed
      exact quiet_createRules (.preset presetId) createdBy now recover
  | presetRenamed => exact ⟨rfl, rfl, id⟩
  | overrides stored =>
      rw [← Option.some.inj (Option.ite_none_right_eq_some.mp stored).2]
      exact ⟨rfl, rfl, id⟩
  | deletedGlobal | deletedVm | presetReplaced | presetDeleted | assigned | unassigned => cases kept

theorem quiet_applyEdit {edit : AlertEdit F} (kept : keepsRecovery edit = true) :
    Quiet db (applyEdit isPlus db edit) := by
  rcases applyEdit_cases db isPlus edit with unchanged | edited
  · rw [unchanged]
    exact ⟨rfl, rfl, id⟩
  · exact quiet_edited kept edited

end Edits

section Runs
variable {lower : String → String} {isPlus : Bool}

/-- Every log tells the state of its row, and all rules and calls to come announce a recovery. -/
structure Truthful (state : Polling F) : Prop where
  regular : Regular state.db
  told : ∀ key, (alarmOf state.db key).Told (signals state.db key)
  rules : Recovering state.db.rules
  checks : ∀ check ∈ state.checks, check.notifyRecovery = true

theorem recovering_vmChecks {db : AlertDb F} (recovering : Recovering db.rules) (nodeId : Int) (vmData : VmData F) :
    ∀ check ∈ vmChecks lower isPlus db nodeId vmData, check.notifyRecovery = true := by
  intro check called
  unfold vmChecks at called
  split at called
  · cases called
  · split at called
    · cases called
    · obtain ⟨rule, effective, made⟩ := List.mem_flatMap.mp called
      obtain ⟨measurement, _, once⟩ := List.mem_flatMap.mp made
      have copied := (mem_measurementChecks once).2.2.2.1
      obtain ⟨row, stored, _, same | ⟨_, override, _, _, same⟩⟩ :=
        getEffectiveRules_stored rule (List.mem_filter.mp effective).1
      · rw [copied, same]
        exact recovering row stored
      · rw [copied, same]
        exact recovering row stored

omit [PythonFloat F] in
/-- One call keeps every log true. -/
theorem told_processSeverity {db : AlertDb F} {check : SeverityCheck F} (regular : Regular db)
    (told : ∀ key, (alarmOf db key).Told (signals db key)) (recovers : check.notifyRecovery = true) (key : StateKey) :
    (alarmOf (processSeverity db check) key).Told (signals (processSeverity db check) key) := by
  by_cases same : key = check.key
  · rw [same, alarmOf_processSeverity (regular _), signals_processSeverity (regular _), recovers]
    have complete (all : List Signal) : recorded true all = all := by
      unfold recorded
      exact List.filter_eq_self.mpr fun _ _ => rfl
    rw [complete]
    exact Alarm.told_observe (told check.key) check.breached
  · unfold alarmOf
    rw [getState_processSeverity_of_ne same, signals_processSeverity_of_ne same]
    exact told key

/-- A step of this kind is no edit, or it keeps the recoveries. -/
def StepKeepsRecovery (_ : Polling F) (event : PollingStep F) : Prop :=
  ∀ edit, event = .edit edit → keepsRecovery edit = true

theorem truthful_step (state : Polling F) (event : PollingStep F) (truthful : Truthful state)
    (kept : StepKeepsRecovery state event) : Truthful (pollingStep lower isPlus state event) := by
  cases event with
  | edit edit =>
      have quiet : Quiet state.db (applyEdit isPlus state.db edit) := quiet_applyEdit (kept edit rfl)
      obtain ⟨states, events, recovering⟩ := quiet
      have rows (key : StateKey) : getState (applyEdit isPlus state.db edit) key = getState state.db key := by
        unfold getState
        rw [states]
      have logs (key : StateKey) : signals (applyEdit isPlus state.db edit) key = signals state.db key := by
        unfold signals
        rw [events]
      refine ⟨?_, ?_, recovering truthful.rules, truthful.checks⟩
      · intro key
        unfold RegularAt
        rw [show getState (pollingStep lower isPlus state (.edit edit)).db key = getState state.db key from rows key]
        exact truthful.regular key
      · intro key
        unfold alarmOf
        rw [show getState (pollingStep lower isPlus state (.edit edit)).db key = getState state.db key from rows key,
          show signals (pollingStep lower isPlus state (.edit edit)).db key = signals state.db key from logs key]
        exact truthful.told key
  | start nodeId vmsData =>
      unfold pollingStep
      dsimp only
      split
      · exact ⟨truthful.regular, truthful.told, truthful.rules, truthful.checks⟩
      · exact truthful
  | nextVm =>
      unfold pollingStep
      dsimp only
      split
      · exact ⟨truthful.regular, truthful.told, truthful.rules, recovering_vmChecks truthful.rules _ _⟩
      · exact truthful
  | nextCheck =>
      unfold pollingStep
      dsimp only
      split
      · rename_i check rest pending
        have here := truthful.checks check (by rw [pending]; exact List.mem_cons_self)
        refine ⟨fun key => regularAt_processSeverity (truthful.regular key),
          told_processSeverity truthful.regular truthful.told here, ?_, ?_⟩
        · rw [(tables_processSeverity state.db check).1]
          exact truthful.rules
        · intro other member
          apply truthful.checks other
          rw [pending]
          exact List.mem_cons_of_mem _ member
      · exact truthful

/-- However edits and polls interleave, the events of each key alternate and begin with a firing one, and the
row of the key fires exactly when the last event does. -/
theorem firing_and_resolved_alternate (db : AlertDb F) (recovering : Recovering db.rules)
    (fresh : db.states = .empty) (silent : db.events = []) (events : List (PollingStep F))
    (kept : ∀ edit, .edit edit ∈ events → keepsRecovery edit = true) :
    ∀ state ∈ reached (pollingStep lower isPlus) ⟨db, [], []⟩ events, ∀ key,
      Alarm.Alternates (signals state.db key) ∧
        (Firing state.db key ↔ (signals state.db key).getLast? = some .firing) := by
  have empty (key : StateKey) : getState db key = {} := by
    unfold getState
    rw [fresh]
    rfl
  have start : Truthful (F := F) ⟨db, [], []⟩ := by
    refine ⟨fun key => regularAt_of_missing (by rw [fresh]; rfl), ?_, recovering, fun _ absent => by cases absent⟩
    intro key
    unfold alarmOf signals
    rw [empty, silent]
    have lowered : decide (AlertState.ok = key.severity.target) = false := decide_eq_false (ok_ne_target _)
    show Alarm.Told ⟨decide (AlertState.ok = key.severity.target), 0⟩ []
    rw [lowered]
    exact Alarm.told_fresh 0
  intro state passed key
  have allowed : ∀ visit ∈ visits (pollingStep lower isPlus) ⟨db, [], []⟩ events,
      StepKeepsRecovery visit.1 visit.2 := by
    intro visit member edit named
    apply kept edit
    rw [← named]
    exact visits_event _ _ _ member
  have truthful := reached_invariant _ truthful_step events start allowed state passed
  refine ⟨(truthful.told key).alternates, ?_⟩
  rw [← (truthful.told key).current, firing_iff_target (truthful.regular key)]
  exact decide_eq_true_iff.symm

/-- A guest that is busy in one poll and idle in the next. -/
theorem firing_and_resolved_once :
    let rule : AlertRule String := { id := 1, scope := .global, name := "CPU", metric := .cpuPercent,
                                     criticalThreshold := some "90.0" }
    let busy : VmData Nat := { vmid := some "100", cpu := some 1 }
    let idle : VmData Nat := { vmid := some "100", cpu := some 0 }
    let final := run (pollingStep Text.lower false) ⟨{ rules := [rule] }, [], []⟩
      [.start 1 [busy], .nextVm, .edit (.updateGlobalRule 1 { criticalThreshold := some (some 80) } "now"), .nextCheck,
        .start 1 [idle], .nextVm, .nextCheck]
    signals final.db ⟨1, ⟨"100", 1⟩, .critical⟩ = [.firing, .resolved] ∧
      Alarm.Alternates (signals final.db ⟨1, ⟨"100", 1⟩, .critical⟩) := by
  refine ⟨by decide +kernel, ?_⟩
  apply (firing_and_resolved_alternate { rules := _ } _ rfl rfl _ _ _ (run_mem_reached _ _ _) _).1
  · unfold Recovering
    decide
  · intro edit member
    simp only [List.mem_cons, List.not_mem_nil, reduceCtorEq, false_or, or_false, PollingStep.edit.injEq] at member
    rw [member]
    rfl

end Runs
end P3Portal.Alerts
