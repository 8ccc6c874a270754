import P3Portal.Proof.Alerts.Checks
import P3Portal.Proof.Alerts.Edits
import P3Portal.Proof.Alerts.Layers

namespace P3Portal.Alerts
open Foundation
variable {F : Type} [PythonFloat F] {lower : String → String} {isPlus : Bool} {db after : AlertDb F} {key : StateKey}

/-- An effective rule of the guest has the threshold of the row. -/
def Covered (isPlus : Bool) (db : AlertDb F) (key : StateKey) : Prop :=
  ∃ rule ∈ getEffectiveRules db isPlus key.vm, rule.id = key.ruleId ∧
    (thresholdOf rule.toAlertRule key.severity).isSome = true

/-- The state machine handles the severity of the row for an effective rule of the guest. -/
def Visited (isPlus : Bool) (db : AlertDb F) (key : StateKey) : Prop :=
  ∃ rule ∈ getEffectiveRules db isPlus key.vm, rule.id = key.ruleId ∧ handles rule.toAlertRule key.severity = true

theorem visited_of_covered (covered : Covered isPlus db key) : Visited isPlus db key := by
  obtain ⟨rule, effective, named, threshold⟩ := covered
  refine ⟨rule, effective, named, ?_⟩
  unfold handles
  rw [threshold, Bool.true_or]

section Tables
/-- Two databases have the same rules, presets, assignments and overrides. -/
def SameTables (db after : AlertDb F) : Prop :=
  after.rules = db.rules ∧ after.presets = db.presets ∧ after.assignments = db.assignments ∧
    after.overrides = db.overrides

/-- The effective rules depend on these tables only. -/
theorem getEffectiveRules_congr (same : SameTables db after) (vm : VmKey) :
    getEffectiveRules after isPlus vm = getEffectiveRules db isPlus vm := by
  obtain ⟨rules, presets, assignments, overrides⟩ := same
  unfold getEffectiveRules mergeLayers getVmPreset listOverrides listVmRules listGlobalRules listPresetRules
  rw [rules, presets, assignments, overrides]

theorem visited_congr (same : SameTables db after) : Visited isPlus after key ↔ Visited isPlus db key := by
  unfold Visited
  rw [getEffectiveRules_congr same]

theorem covered_congr (same : SameTables db after) : Covered isPlus after key ↔ Covered isPlus db key := by
  unfold Covered
  rw [getEffectiveRules_congr same]

theorem sameTables_checkVm (nodeId : Int) (vmData : VmData F) :
    SameTables db (checkVm lower isPlus nodeId db vmData) := by
  rw [checkVm_eq]
  exact tables_foldl _ db

end Tables

section Polls
variable {nodeId : Int} {vmData : VmData F} {vmid : String}

/-- Effective rules are enabled. -/
theorem enabled_of_effective {vm : VmKey} {rule : EffectiveRule F} (effective : rule ∈ getEffectiveRules db isPlus vm) :
    rule.enabled = true := by
  obtain ⟨row, _, enabled, same | ⟨_, override, _, _, same⟩⟩ := getEffectiveRules_stored rule effective
  · rw [same]
    exact enabled
  · rw [same]
    exact enabled

/-- The calls of a guest belong to its effective rules. -/
theorem mem_vmChecks {check : SeverityCheck F} (called : check ∈ vmChecks lower isPlus db nodeId vmData) :
    ∃ vmid, vmData.vmid = some vmid ∧ vmData.template = false ∧ check.key.vm = ⟨vmid, nodeId⟩ ∧
      (check.breached = true → Covered isPlus db check.key) := by
  unfold vmChecks at called
  split at called
  · cases called
  · rename_i vmid identified
    split at called
    · cases called
    · rename_i template
      obtain ⟨rule, effective, made⟩ := List.mem_flatMap.mp called
      obtain ⟨named, vm, _, _, breach⟩ := mem_ruleChecks made
      refine ⟨vmid, identified, Bool.eq_false_iff.mpr template, vm, ?_⟩
      intro breached
      rw [← vm] at effective
      exact ⟨rule, (List.mem_filter.mp effective).1, named.symm, breach breached⟩

/-- A status rule is checked for the critical severity in every poll of a guest. -/
theorem status_checked {vm : VmKey} {vmName : String} {rule : EffectiveRule F} (status : rule.metric = .status) :
    ∃ check ∈ ruleChecks lower rule vmData vm vmName, check.key = ⟨rule.id, vm, .critical⟩ := by
  have reported : breachesOf (ruleChecks lower rule vmData vm vmName) ⟨rule.id, vm, .critical⟩ = _ :=
    breachesOf_status status .critical
  have handled : handles rule.toAlertRule .critical = true := by
    unfold handles
    simp [status]
  rw [if_pos handled] at reported
  unfold breachesOf at reported
  cases calls : (ruleChecks lower rule vmData vm vmName).filter fun check => check.key = ⟨rule.id, vm, .critical⟩ with
  | nil =>
      rw [calls] at reported
      cases reported
  | cons check rest =>
      have member : check ∈ (ruleChecks lower rule vmData vm vmName).filter
          fun check => check.key = ⟨rule.id, vm, .critical⟩ := by
        rw [calls]
        exact List.mem_cons_self
      have found := List.mem_filter.mp member
      exact ⟨check, found.1, of_decide_eq_true found.2⟩

/-- After the check of a guest its firing rows are covered, provided that they were handled before. -/
theorem checkVm_covers (identified : vmData.vmid = some vmid) (running : vmData.template = false)
    (vm : key.vm = ⟨vmid, nodeId⟩) (regular : RegularAt db key) (visited : Firing db key → Visited isPlus db key)
    (fires : Firing (checkVm lower isPlus nodeId db vmData) key) : Covered isPlus db key := by
  rw [checkVm_eq] at fires
  have lit := (firing_iff_target (foldl_processSeverity_regular regular)).mp fires
  rcases raised_foldl regular lit with ⟨check, called, same, breached⟩ | ⟨before, untouched⟩
  · obtain ⟨_, _, _, _, covers⟩ := mem_vmChecks called
    rw [← same]
    exact covers breached
  · obtain ⟨rule, effective, named, handled⟩ := visited ((firing_iff_target regular).mpr before)
    unfold handles at handled
    rcases (Bool.or_eq_true _ _).mp handled with threshold | status
    · exact ⟨rule, effective, named, threshold⟩
    · exfalso
      simp only [Bool.and_eq_true, decide_eq_true_eq] at status
      have checked : ∃ check ∈ ruleChecks lower rule vmData ⟨vmid, nodeId⟩
          (if vmData.name = "" then vmid else vmData.name), check.key = ⟨rule.id, ⟨vmid, nodeId⟩, .critical⟩ :=
        status_checked status.2
      obtain ⟨check, called, same⟩ := checked
      apply untouched check
      · unfold vmChecks
        rw [identified]
        dsimp only
        rw [if_neg (by rw [running]; exact Bool.false_ne_true)]
        rw [vm] at effective
        exact List.mem_flatMap.mpr ⟨rule, List.mem_filter.mpr ⟨effective, enabled_of_effective effective⟩, called⟩
      · rw [same, named, ← vm, ← status.1]

/-- The check of a guest leaves the rows of other guests alone, and that of a template all rows. -/
theorem checkVm_others (others : ∀ vmid, vmData.vmid = some vmid → vmData.template = false → key.vm ≠ ⟨vmid, nodeId⟩) :
    getState (checkVm lower isPlus nodeId db vmData) key = getState db key := by
  rw [checkVm_eq]
  apply getState_foldl_of_ne
  intro check called same
  obtain ⟨vmid, identified, running, vm, _⟩ := mem_vmChecks called
  rw [same] at vm
  exact others vmid identified running vm

/-- The invariant of a poll: rows are regular, and those that fire are handled. -/
structure Attended (isPlus : Bool) (db : AlertDb F) : Prop where
  regular : Regular db
  visited : ∀ key, Firing db key → Visited isPlus db key

/-- The check of a guest keeps the invariant, and what it leaves alone stays covered. -/
theorem attended_checkVm (attended : Attended isPlus db) (vmData : VmData F) :
    Attended isPlus (checkVm lower isPlus nodeId db vmData) ∧
      ∀ key, (Firing db key → Covered isPlus db key) →
        Firing (checkVm lower isPlus nodeId db vmData) key → Covered isPlus db key := by
  have cases (key : StateKey) : getState (checkVm lower isPlus nodeId db vmData) key = getState db key ∨
      (Firing (checkVm lower isPlus nodeId db vmData) key → Covered isPlus db key) := by
    by_cases checked : ∃ vmid, vmData.vmid = some vmid ∧ vmData.template = false ∧ key.vm = ⟨vmid, nodeId⟩
    · obtain ⟨vmid, identified, running, vm⟩ := checked
      exact .inr (checkVm_covers identified running vm (attended.regular key) (attended.visited key))
    · refine .inl (checkVm_others ?_)
      intro vmid identified running vm
      exact checked ⟨vmid, identified, running, vm⟩
  have same : SameTables db (checkVm lower isPlus nodeId db vmData) := sameTables_checkVm nodeId vmData
  refine ⟨⟨?_, ?_⟩, ?_⟩
  · intro key
    rw [checkVm_eq]
    exact foldl_processSeverity_regular (attended.regular key)
  · intro key fires
    rw [visited_congr same]
    rcases cases key with unchanged | covers
    · unfold Firing at fires
      rw [unchanged] at fires
      exact attended.visited key fires
    · exact visited_of_covered (covers fires)
  · intro key before fires
    rcases cases key with unchanged | covers
    · unfold Firing at fires
      rw [unchanged] at fires
      exact before fires
    · exact covers fires

/-- A poll keeps the invariant. The firing rows of the guests that it checks are covered, and it leaves the
rows of the others alone. -/
theorem checkNode_covers (vmsData : List (VmData F)) (attended : Attended isPlus db) :
    let after := checkNode lower isPlus nodeId vmsData db
    Attended isPlus after ∧ SameTables db after ∧
      (∀ key, (Firing db key → Covered isPlus db key) → Firing after key → Covered isPlus db key) ∧
      ∀ key, Firing after key → Covered isPlus db key ∨
        getState after key = getState db key ∧ ∀ vmData ∈ vmsData, ∀ vmid, vmData.vmid = some vmid →
          vmData.template = false → key.vm ≠ ⟨vmid, nodeId⟩ := by
  induction vmsData generalizing db with
  | nil =>
      exact ⟨attended, ⟨rfl, rfl, rfl, rfl⟩, fun _ covered => covered,
        fun _ _ => .inr ⟨rfl, fun _ absent => by cases absent⟩⟩
  | cons vmData rest ih =>
      have first : Attended isPlus (checkVm lower isPlus nodeId db vmData) ∧ _ := attended_checkVm attended vmData
      have tables : SameTables db (checkVm lower isPlus nodeId db vmData) := sameTables_checkVm nodeId vmData
      obtain ⟨later, laterTables, keeps, either⟩ := ih first.1
      have together : SameTables db (checkNode lower isPlus nodeId rest (checkVm lower isPlus nodeId db vmData)) :=
        ⟨laterTables.1.trans tables.1, laterTables.2.1.trans tables.2.1, laterTables.2.2.1.trans tables.2.2.1,
          laterTables.2.2.2.trans tables.2.2.2⟩
      refine ⟨later, together, ?_, ?_⟩
      · intro key before fires
        have middle := first.2 key before
        rw [← covered_congr tables]
        exact keeps key (fun lit => (covered_congr tables).mpr (middle lit)) fires
      · intro key fires
        rcases either key fires with covered | ⟨unchanged, others⟩
        · exact .inl ((covered_congr tables).mp covered)
        · by_cases checked : ∃ vmid, vmData.vmid = some vmid ∧ vmData.template = false ∧ key.vm = ⟨vmid, nodeId⟩
          · obtain ⟨vmid, identified, running, vm⟩ := checked
            have lit : Firing (checkVm lower isPlus nodeId db vmData) key := by
              unfold Firing at fires ⊢
              rw [← unchanged]
              exact fires
            exact .inl (checkVm_covers identified running vm (attended.regular key) (attended.visited key) lit)
          · have alone : ∀ vmid, vmData.vmid = some vmid → vmData.template = false → key.vm ≠ ⟨vmid, nodeId⟩ := by
              intro vmid identified running vm
              exact checked ⟨vmid, identified, running, vm⟩
            refine .inr ⟨unchanged.trans (checkVm_others alone), ?_⟩
            intro other member
            rcases List.mem_cons.mp member with here | there
            · rw [here]
              exact alone
            · exact others other there

end Polls

section Histories
/-- An edit takes states away or leaves them alone. -/
def Fewer (db after : AlertDb F) : Prop :=
  ∀ key, after.states.get? key = db.states.get? key ∨ after.states.get? key = none

omit [PythonFloat F] in
theorem fewer_deleteRules (db : AlertDb F) (gone : AlertRule String → Bool) : Fewer db (deleteRules db gone) :=
  fun key => db.states.get?_filter_cases _ key

omit [PythonFloat F] in
theorem fewer_reset (db : AlertDb F) (vm : VmKey) (key : StateKey) :
    (resetStates db vm).get? key = db.states.get? key ∨ (resetStates db vm).get? key = none :=
  db.states.get?_filter_cases _ key

theorem states_createRules (place : RulePlace) (bodies : List (AlertRuleBase F)) (createdBy now : String) :
    (createRules db place bodies createdBy now).states = db.states := by
  induction bodies generalizing db with
  | nil => rfl
  | cons body rest ih =>
      show (createRules (createRule db place body createdBy now) place rest createdBy now).states = db.states
      rw [ih]
      rfl

theorem states_recreateRules (tokens : String → AlertMetric → Option EncryptedToken) (presetId : Int)
    (bodies : List (AlertRuleBase F)) (updatedBy now : String) :
    (recreateRules db tokens presetId bodies updatedBy now).states = db.states := by
  induction bodies generalizing db with
  | nil => rfl
  | cons body rest ih =>
      show (recreateRules (recreateRule tokens presetId updatedBy now db body) tokens presetId rest updatedBy now).states =
        db.states
      rw [ih]
      rcases recreateRule_cases tokens presetId updatedBy now db body with created | ⟨token, -, -, attached⟩
      · rw [created]
        rfl
      · rw [attached]
        rfl

theorem fewer_edited {edit : AlertEdit F} (edited : Edited db edit after) : Fewer db after := by
  have same (kept : after.states = db.states) : Fewer db after := by
    intro key
    rw [kept]
    exact .inl rfl
  cases edited with
  | createdGlobal | createdVm | presetRenamed => exact same rfl
  | updatedGlobal _ updated | updatedVm _ _ updated =>
      obtain ⟨_, _, _, _, _, _, rfl⟩ := updateRule_eq updated
      exact same rfl
  | deletedGlobal ruleId | deletedVm _ ruleId => exact fewer_deleteRules db fun row => row.id = ruleId
  | presetDeleted presetId => exact fewer_deleteRules db fun row => row.presetId = some presetId
  | presetCreated => exact same (states_createRules _ _ _ _)
  | presetReplaced =>
      intro key
      rw [states_recreateRules]
      exact fewer_deleteRules _ _ key
  | unassigned presetId vm => exact fewer_reset db vm
  | assigned made =>
      have stored := (Option.ite_none_left_eq_some.mp made).2
      rw [← Option.some.inj stored]
      exact fewer_reset db _
  | overrides made =>
      have stored := (Option.ite_none_right_eq_some.mp made).2
      apply same
      rw [← Option.some.inj stored]

/-- No edit takes a firing row away from the state machine, and no guest with a firing row is listed as a
template. -/
def KeepsVisited (isPlus : Bool) (db : AlertDb F) : AlertStep F → Prop
  | .edit edit => ∀ key, Firing (applyEdit isPlus db edit) key → Visited isPlus db key →
      Visited isPlus (applyEdit isPlus db edit) key
  | .poll nodeId vmsData => ∀ vmData ∈ vmsData, vmData.template = true → ∀ vmid, vmData.vmid = some vmid →
      ∀ key : StateKey, key.vm = ⟨vmid, nodeId⟩ → ¬ Firing db key

/-- A change of the assignment of one guest does not show in the rules of another. -/
theorem getEffectiveRules_of_assignments {vm other : VmKey} (different : other ≠ vm) {keep : PresetAssignment → Bool}
    (kept : ∀ assignment, assignment.vm ≠ vm → keep assignment = true) {added : List PresetAssignment}
    (own : ∀ assignment ∈ added, assignment.vm = vm) (states : OrderedMap StateKey (StateRow F)) :
    getEffectiveRules { db with assignments := db.assignments.filter keep ++ added, states := states } isPlus other =
      getEffectiveRules db isPlus other := by
  have found : (db.assignments.filter keep ++ added).find? (fun assignment => assignment.vm = other) =
      db.assignments.find? fun assignment => assignment.vm = other := by
    have absent : added.find? (fun assignment => assignment.vm = other) = none := by
      apply List.find?_eq_none.mpr
      intro assignment member named
      apply different
      rw [← of_decide_eq_true named]
      exact own assignment member
    rw [List.find?_append, absent, Option.or_none, List.find?_filter]
    congr 1
    funext assignment
    by_cases named : assignment.vm = other
    · simp [named, kept assignment (named ▸ different)]
    · simp [named]
  unfold getEffectiveRules mergeLayers getVmPreset
  dsimp only
  rw [found]
  rfl

/-- A row that fires after the reset of a guest belongs to another guest, whose rules are as before. -/
theorem visited_of_reset {vm : VmKey} {keep : PresetAssignment → Bool} {added : List PresetAssignment}
    (kept : ∀ assignment, assignment.vm ≠ vm → keep assignment = true)
    (own : ∀ assignment ∈ added, assignment.vm = vm) (visited : Visited isPlus db key)
    (fires : Firing { db with assignments := db.assignments.filter keep ++ added, states := resetStates db vm } key) :
    Visited isPlus { db with assignments := db.assignments.filter keep ++ added, states := resetStates db vm } key := by
  have different : key.vm ≠ vm := by
    intro same
    have gone : (resetStates db vm).get? key = none := by
      unfold resetStates
      rw [OrderedMap.get?_filter, same]
      cases db.states.get? key <;> simp
    unfold Firing getState at fires
    rw [gone] at fires
    rcases fires with absurd | absurd <;> cases absurd
  unfold Visited
  rw [getEffectiveRules_of_assignments different kept own]
  exact visited

/-- The endpoints that change an assignment always keep the rows in order, because they reset the states of
the guest. -/
theorem assignments_keepVisited (presetId : Int) (vm : VmKey) :
    KeepsVisited isPlus db (.edit (.assignPreset presetId vm)) ∧
      KeepsVisited isPlus db (.edit (.removeAssignment presetId vm)) := by
  constructor
  · intro key fires visited
    rcases applyEdit_cases db isPlus (.assignPreset presetId vm) with unchanged | edited
    · rw [unchanged]
      exact visited
    · generalize applyEdit isPlus db (.assignPreset presetId vm) = after at fires edited
      cases edited with
      | assigned made =>
          have stored := (Option.ite_none_left_eq_some.mp made).2
          rw [← Option.some.inj stored] at fires ⊢
          refine visited_of_reset ?_ ?_ visited fires
          · intro assignment other
            exact decide_eq_true other
          · intro assignment member
            rw [List.mem_singleton.mp member]
  · intro key fires visited
    rcases applyEdit_cases db isPlus (.removeAssignment presetId vm) with unchanged | edited
    · rw [unchanged]
      exact visited
    · generalize applyEdit isPlus db (.removeAssignment presetId vm) = after at fires edited
      cases edited
      unfold removeAssignment at fires ⊢
      rw [← List.append_nil (List.filter _ _)] at fires ⊢
      refine visited_of_reset ?_ ?_ visited fires
      · intro assignment other
        simp [other]
      · intro assignment absent
        cases absent

theorem attended_alertStep (db : AlertDb F) (step : AlertStep F) (attended : Attended isPlus db)
    (kept : KeepsVisited isPlus db step) : Attended isPlus (alertStep lower isPlus db step) := by
  cases step with
  | poll nodeId vmsData => exact (checkNode_covers vmsData attended).1
  | edit edit =>
      show Attended isPlus (applyEdit isPlus db edit)
      have fewer : Fewer db (applyEdit isPlus db edit) := by
        rcases applyEdit_cases db isPlus edit with unchanged | edited
        · intro key
          rw [unchanged]
          exact .inl rfl
        · exact fewer_edited edited
      have rows (key : StateKey) : getState (applyEdit isPlus db edit) key = getState db key ∨
          getState (applyEdit isPlus db edit) key = {} := by
        unfold getState
        rcases fewer key with same | gone
        · exact .inl (by rw [same])
        · exact .inr (by rw [gone]; rfl)
      constructor
      · intro key
        unfold RegularAt
        rcases rows key with same | gone
        · rw [same]
          exact attended.regular key
        · rw [gone]
          exact .inl rfl
      · intro key fires
        apply kept key fires
        apply attended.visited key
        unfold Firing at fires ⊢
        rcases rows key with same | gone
        · rw [same] at fires
          exact fires
        · rw [gone] at fires
          rcases fires with absurd | absurd <;> cases absurd

/-- After a poll no row of a guest that it delivered fires without an effective rule that has its threshold. -/
theorem no_ghost_alerts (steps : List (AlertStep F))
    (kept : ∀ visit ∈ visits (alertStep lower isPlus) {} steps, KeepsVisited isPlus visit.1 visit.2) :
    ∀ visit ∈ visits (alertStep lower isPlus) {} steps, ∀ nodeId vmsData, visit.2 = .poll nodeId vmsData →
      ∀ vmData ∈ vmsData, ∀ vmid, vmData.vmid = some vmid → ∀ key : StateKey, key.vm = ⟨vmid, nodeId⟩ →
        Firing (alertStep lower isPlus visit.1 visit.2) key →
          Covered isPlus (alertStep lower isPlus visit.1 visit.2) key := by
  have start : Attended isPlus ({} : AlertDb F) := by
    refine ⟨fun key => .inl rfl, ?_⟩
    intro key fires
    rcases fires with absurd | absurd <;> cases absurd
  intro visit member nodeId vmsData polled vmData listed vmid identified key vm fires
  have attended := visits_invariant _ attended_alertStep steps start kept visit member
  have allowed := kept visit member
  rw [polled] at fires allowed ⊢
  have polled : Attended isPlus (checkNode lower isPlus nodeId vmsData visit.1) ∧ _ := checkNode_covers vmsData attended
  obtain ⟨_, tables, _, either⟩ := polled
  show Covered isPlus (checkNode lower isPlus nodeId vmsData visit.1) key
  rw [covered_congr tables]
  rcases either key fires with covered | ⟨unchanged, others⟩
  · exact covered
  · exfalso
    have template : vmData.template = true := by
      cases running : vmData.template with
      | true => rfl
      | false => exact absurd vm (others vmData listed vmid identified running)
    apply allowed vmData listed template vmid identified key vm
    unfold Firing
    rw [← unchanged]
    exact fires

end Histories

section Examples
def busy : VmData Nat := { vmid := some "100", cpu := some 1 }

def cpuKey : StateKey := ⟨1, ⟨"100", 1⟩, .critical⟩

/-- A rule that is disabled while it fires leaves its row behind, and no later poll clears it. -/
theorem disabled_rule_leaves_a_ghost :
    let state := run (alertStep Text.lower false) {}
      [.edit (.createGlobalRule cpuRequest "admin" "2026-01-01"), .poll 1 [busy],
        .edit (.updateGlobalRule 1 { enabled := some (some false) } "now"), .poll 1 [busy]]
    Firing state cpuKey ∧ ¬ Covered false state cpuKey := by
  unfold Firing Covered
  decide +kernel

/-- A rule that stays in effect covers its firing row. -/
theorem rule_in_effect_is_no_ghost :
    let before := alertStep Text.lower false {} (.edit (.createGlobalRule cpuRequest "admin" "2026-01-01"))
    Covered false (alertStep Text.lower false before (.poll 1 [busy])) cpuKey := by
  have fires : Firing (alertStep Text.lower false (alertStep Text.lower false {}
      (.edit (.createGlobalRule cpuRequest "admin" "2026-01-01"))) (.poll 1 [busy])) cpuKey := by
    unfold Firing
    decide +kernel
  apply no_ghost_alerts [.edit (.createGlobalRule cpuRequest "admin" "2026-01-01"), .poll 1 [busy]] _
    (_, .poll 1 [busy]) (.tail _ (.head _)) 1 [busy] rfl busy (.head _) "100" rfl cpuKey rfl fires
  intro visit member
  rcases List.mem_cons.mp member with first | second
  · rw [first]
    intro key lit
    rcases lit with absurd | absurd <;> cases absurd
  · rw [List.mem_singleton.mp second]
    intro vmData listed template
    rw [List.mem_singleton.mp listed] at template
    cases template

end Examples
end P3Portal.Alerts
