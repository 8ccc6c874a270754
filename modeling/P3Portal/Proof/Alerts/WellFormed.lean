import P3Portal.Proof.Alerts.Checks
import P3Portal.Proof.Alerts.Edits
import P3Portal.Proof.Alerts.Layers

namespace P3Portal.Alerts
open Foundation

section
variable {F : Type} [PythonFloat F] {db after : AlertDb F} {isPlus : Bool}

/-- The rule meets what the model of a rule demands. -/
structure Checked (rule : AlertRule F) : Prop where
  named : Text.strip rule.name ≠ ""
  sustained : 1 ≤ rule.sustainedPolls
  thresholds : checkThresholds rule.metric rule.warningThreshold rule.criticalThreshold = .ok ()

section Requests
@[simp] theorem decode_encode (threshold : Option F) : decodeThreshold (encodeThreshold threshold) = threshold := by
  unfold decodeThreshold encodeThreshold
  cases threshold with
  | none => rfl
  | some value => exact PythonFloat.loads_dumps value

/-- A body that passed its validation becomes a rule that meets the demands. -/
theorem checked_newRow (request : RuleCreateRequest F) (id : Int) (place : RulePlace) (createdBy now : String) :
    Checked (F := F) (rowToRule (newRow id place request.body createdBy now)) := by
  obtain ⟨sent, accepted⟩ := request.accepted
  unfold validate nameNotEmpty sustainedPollsPositive validateThresholds at accepted
  split at accepted
  · cases accepted
  · rename_i named
    split at accepted
    · cases accepted
    · rename_i sustained
      cases thresholds : checkThresholds sent.metric sent.warningThreshold sent.criticalThreshold with
      | error text =>
          dsimp only [bind, Except.bind] at accepted
          rw [thresholds] at accepted
          cases accepted
      | ok checked =>
          dsimp only [bind, Except.bind] at accepted
          rw [thresholds] at accepted
          have body : _ = request.body := Except.ok.inj accepted
          unfold rowToRule newRow
          rw [← body]
          refine ⟨Text.strip_strip_ne_empty named, Int.not_lt.mp sustained, ?_⟩
          dsimp only
          rw [decode_encode, decode_encode]
          exact thresholds

/-- The rule with the thresholds that an item sends. -/
def mergedWith (item : ThresholdOverrideItem F) (rule : AlertRule F) : AlertRule F :=
  { rule with
    warningThreshold := item.warningThreshold.or rule.warningThreshold
    criticalThreshold := item.criticalThreshold.or rule.criticalThreshold }

/-- A stored override shows the thresholds of its item. -/
theorem overridden_newOverride (vm : VmKey) (id : Int) (item : ThresholdOverrideItem F) (rule : AlertRule F) :
    overridden (rowToOverride (newOverride vm id item)) rule = mergedWith item rule := by
  unfold overridden rowToOverride newOverride mergedWith
  simp only [decode_encode]

/-- An inserted row is that of an item, under some number. -/
theorem mem_insertOverrides {vm : VmKey} {first : Int} {items : List (ThresholdOverrideItem F)}
    {row : ThresholdOverride String} (member : row ∈ insertOverrides vm first items) :
    ∃ item ∈ items, ∃ id, row = newOverride vm id item := by
  induction items generalizing first with
  | nil => cases member
  | cons item rest ih =>
      rcases List.mem_cons.mp member with here | later
      · exact ⟨item, List.mem_cons_self, first, here⟩
      · obtain ⟨other, listed, id, same⟩ := ih later
        exact ⟨other, List.mem_cons_of_mem item listed, id, same⟩

end Requests

section Edits
/-- Every enabled rule meets the demands, alone and with each override of it, and overrides name stored rules. -/
structure Sound (db : AlertDb F) : Prop where
  rules : ∀ row ∈ db.rules, row.enabled = true → Checked (F := F) (rowToRule row)
  overrides : ∀ row ∈ db.rules, row.enabled = true → row.scope = .preset → ∀ override ∈ db.overrides,
    override.ruleId = row.id → Checked (F := F) (overridden (rowToOverride override) (rowToRule row))
  references : ∀ override ∈ db.overrides, ∃ row ∈ db.rules, row.id = override.ruleId

/-- The patched rule is disabled or meets the demands. -/
def PatchChecked (db : AlertDb F) (ruleId : Int) (updates : GlobalRuleUpdateRequest F) (now : String) : Prop :=
  ∀ row, db.rules.find? (fun row => row.id = ruleId) = some row → ∀ patched, patchRow updates now row = some patched →
    patched.enabled = true → Checked (F := F) (rowToRule patched)

/-- An update leaves a rule, and an override leaves the rule of a preset, that meets the demands. -/
def StaysChecked (db : AlertDb F) : AlertEdit F → Prop
  | .updateGlobalRule ruleId updates now => PatchChecked db ruleId updates now
  | .updateVmRule _ ruleId updates now => PatchChecked db ruleId updates now
  | .updateThresholdOverrides _ requests => ∀ request ∈ requests, ∀ row ∈ db.rules, row.id = request.item.ruleId →
      row.enabled = true → row.scope = .preset → Checked (mergedWith request.item (rowToRule row))
  | _ => True

theorem sound_createRule (sound : Sound db) (place : RulePlace) (request : RuleCreateRequest F) (createdBy now : String) :
    Sound (createRule db place request.body createdBy now) := by
  have fresh : nextRuleId db ∉ db.rules.map AlertRule.id := next_key_unused _
  constructor
  · intro row member enabled
    rcases List.mem_append.mp member with old | new
    · exact sound.rules row old enabled
    · rw [List.mem_singleton.mp new]
      exact checked_newRow request _ place createdBy now
  · intro row member enabled scope override stored named
    rcases List.mem_append.mp member with old | new
    · exact sound.overrides row old enabled scope override stored named
    · exfalso
      obtain ⟨referred, listed, same⟩ := sound.references override stored
      rw [List.mem_singleton.mp new] at named
      apply fresh
      rw [show nextRuleId db = override.ruleId from named.symm, ← same]
      exact List.mem_map_of_mem listed
  · intro override stored
    obtain ⟨row, listed, same⟩ := sound.references override stored
    exact ⟨row, List.mem_append_left _ listed, same⟩

theorem sound_createRules (sound : Sound db) (place : RulePlace) (requests : List (RuleCreateRequest F))
    (createdBy now : String) :
    Sound (createRules db place (requests.map RuleCreateRequest.body) createdBy now) := by
  induction requests generalizing db with
  | nil => exact sound
  | cons request rest ih => exact ih (sound_createRule sound place request createdBy now)

/-- The demands do not look at tokens. -/
theorem sound_setToken (sound : Sound db) (ruleId : Int) (token : EncryptedToken) : Sound (setToken db ruleId token) := by
  constructor
  · intro row member enabled
    rcases mem_setToken member with old | ⟨old, listed, _, rfl⟩
    · exact sound.rules row old enabled
    · exact sound.rules old listed enabled
  · intro row member enabled scope override stored named
    rcases mem_setToken member with old | ⟨old, listed, _, rfl⟩
    · exact sound.overrides row old enabled scope override stored named
    · exact sound.overrides old listed enabled scope override stored named
  · intro override stored
    obtain ⟨row, listed, same⟩ := sound.references override stored
    refine ⟨_, List.mem_map_of_mem listed, ?_⟩
    split
    · exact same
    · exact same

theorem sound_recreateRules (sound : Sound db) (tokens : String → AlertMetric → Option EncryptedToken) (presetId : Int)
    (requests : List (RuleCreateRequest F)) (updatedBy now : String) :
    Sound (recreateRules db tokens presetId (requests.map RuleCreateRequest.body) updatedBy now) := by
  induction requests generalizing db with
  | nil => exact sound
  | cons request rest ih =>
      have created := sound_createRule sound (.preset presetId) request updatedBy now
      apply ih
      rcases recreateRule_cases tokens presetId updatedBy now db request.body with plain | ⟨token, -, -, attached⟩
      · rw [plain]
        exact created
      · rw [attached]
        exact sound_setToken created _ token

/-- Fewer rules, with the overrides of the remaining ones, stay sound. -/
theorem sound_deleteRules (sound : Sound db) (gone : AlertRule String → Bool) : Sound (deleteRules db gone) := by
  constructor
  · intro row member enabled
    exact sound.rules row (List.mem_of_mem_filter member) enabled
  · intro row member enabled scope override stored named
    exact sound.overrides row (List.mem_of_mem_filter member) enabled scope override (List.mem_of_mem_filter stored) named
  · intro override stored
    have kept := List.mem_filter.mp stored
    obtain ⟨row, listed, same⟩ := sound.references override kept.1
    refine ⟨row, List.mem_filter.mpr ⟨listed, ?_⟩, same⟩
    cases selected : gone row with
    | false => rfl
    | true =>
        exfalso
        apply of_decide_eq_true kept.2
        rw [← same]
        exact List.mem_map_of_mem (List.mem_filter.mpr ⟨listed, selected⟩)

/-- Presets and assignments do not matter to the demands. -/
theorem sound_of_tables (sound : Sound db) (rules : after.rules = db.rules) (overrides : after.overrides = db.overrides) :
    Sound after := by
  constructor
  · rw [rules]
    exact sound.rules
  · rw [rules, overrides]
    exact sound.overrides
  · rw [rules, overrides]
    exact sound.references

/-- A patched row keeps its place and its key. -/
theorem patchRow_place {updates : GlobalRuleUpdateRequest F} {now : String} {row patched : AlertRule String}
    (changed : patchRow updates now row = some patched) : patched.id = row.id ∧ patched.scope = row.scope := by
  obtain ⟨name, metric, sustainedPolls, _, _, _, rfl⟩ := patchRow_eq changed
  exact ⟨rfl, rfl⟩

theorem sound_updateRule (sound : Sound db) {ruleId : Int} {updates : GlobalRuleUpdateRequest F} {now : String}
    (checked : PatchChecked db ruleId updates now)
    (elsewhere : ∀ row, db.rules.find? (fun row => row.id = ruleId) = some row → row.scope ≠ .preset)
    (updated : updateRule db ruleId updates now = some after) : Sound after := by
  obtain ⟨row, found, stored, named, patched, changed, rfl⟩ := updateRule_eq updated
  obtain ⟨same, place⟩ := patchRow_place changed
  constructor
  · intro other member enabled
    obtain ⟨old, listed, shown⟩ := List.mem_map.mp member
    split at shown
    · rw [← shown] at enabled ⊢
      exact checked row found patched changed enabled
    · rw [← shown] at enabled ⊢
      exact sound.rules old listed enabled
  · intro other member enabled scope override kept refers
    obtain ⟨old, listed, shown⟩ := List.mem_map.mp member
    split at shown
    · rw [← shown, place] at scope
      exact absurd scope (elsewhere row found)
    · rw [← shown] at enabled scope refers ⊢
      exact sound.overrides old listed enabled scope override kept refers
  · intro override kept
    obtain ⟨old, listed, refers⟩ := sound.references override kept
    refine ⟨if old.id = ruleId then patched else old, List.mem_map_of_mem listed, ?_⟩
    split
    · rename_i here
      rw [same, named, ← here]
      exact refers
    · exact refers

theorem sound_upsertOverrides (sound : Sound db) {vm : VmKey} {requests : List (OverrideRequest F)}
    (checked : StaysChecked db (.updateThresholdOverrides vm requests))
    (made : upsertOverrides db vm (requests.map OverrideRequest.item) = some after) : Sound after := by
  obtain ⟨accepted, stored⟩ := Option.ite_none_right_eq_some.mp made
  rw [← Option.some.inj stored]
  have known := (Bool.and_eq_true _ _).mp accepted
  constructor
  · exact sound.rules
  · intro row member enabled scope override kept refers
    rcases List.mem_append.mp kept with old | new
    · exact sound.overrides row member enabled scope override (List.mem_of_mem_filter old) refers
    · obtain ⟨item, listed, id, rfl⟩ := mem_insertOverrides new
      obtain ⟨request, sent, rfl⟩ := List.mem_map.mp listed
      rw [overridden_newOverride]
      exact checked request sent row member refers.symm enabled scope
  · intro override kept
    rcases List.mem_append.mp kept with old | new
    · exact sound.references override (List.mem_of_mem_filter old)
    · obtain ⟨item, listed, id, rfl⟩ := mem_insertOverrides new
      have present := List.all_eq_true.mp known.2 item.ruleId (List.mem_map_of_mem listed)
      obtain ⟨row, member, same⟩ := List.any_eq_true.mp present
      exact ⟨row, member, of_decide_eq_true same⟩

theorem sound_edited {edit : AlertEdit F} (sound : Sound db) (checked : StaysChecked db edit)
    (edited : Edited db edit after) : Sound after := by
  cases edited with
  | createdGlobal isPlus request createdBy now =>
      exact sound_createRule sound .global (request.filtered isPlus) createdBy now
  | createdVm isPlus vm request createdBy now =>
      exact sound_createRule sound (.vm vm) (request.filtered isPlus) createdBy now
  | updatedGlobal scope updated =>
      apply sound_updateRule sound checked _ updated
      intro row found preset
      unfold isGlobalRule at scope
      rw [found, Option.any_some, decide_eq_true_eq, preset] at scope
      cases scope
  | updatedVm vm scope updated =>
      apply sound_updateRule sound checked _ updated
      intro row found preset
      unfold isVmRule at scope
      rw [found, Option.any_some, Bool.and_eq_true, Bool.and_eq_true, decide_eq_true_eq, preset] at scope
      cases scope.1.1
  | deletedGlobal ruleId | deletedVm _ ruleId => exact sound_deleteRules sound _
  | presetCreated sent presets presetId rules createdBy now =>
      have listed : Sound { db with presets := presets } := sound_of_tables sound rfl rfl
      exact sound_createRules listed _ rules createdBy now
  | presetRenamed => exact sound_of_tables sound rfl rfl
  | presetReplaced presetId name rules updatedBy now presets =>
      have listed : Sound { db with presets := presets } := sound_of_tables sound rfl rfl
      exact sound_recreateRules (sound_deleteRules listed _) (existingTokens db presetId) presetId rules updatedBy now
  | presetDeleted presetId =>
      exact sound_of_tables (sound_deleteRules sound fun row => row.presetId = some presetId) rfl rfl
  | assigned made =>
      have stored := (Option.ite_none_left_eq_some.mp made).2
      rw [← Option.some.inj stored]
      exact sound_of_tables sound rfl rfl
  | unassigned => exact sound_of_tables sound rfl rfl
  | overrides made => exact sound_upsertOverrides sound checked made

theorem sound_applyEdit (db : AlertDb F) (edit : AlertEdit F) (sound : Sound db) (checked : StaysChecked db edit) :
    Sound (applyEdit isPlus db edit) := by
  rcases applyEdit_cases db isPlus edit with unchanged | edited
  · rw [unchanged]
    exact sound
  · exact sound_edited sound checked edited

end Edits

section Histories
/-- The rules of a guest meet the demands. -/
theorem checked_of_sound (sound : Sound db) {vm : VmKey} {rule : EffectiveRule F}
    (effective : rule ∈ getEffectiveRules db isPlus vm) : Checked rule.toAlertRule := by
  obtain ⟨row, stored, enabled, same | ⟨scope, override, listed, refers, same⟩⟩ :=
    getEffectiveRules_stored rule effective
  · rw [same]
    exact sound.rules row stored enabled
  · obtain ⟨kept, member, rfl⟩ := List.mem_map.mp listed
    rw [same]
    exact sound.overrides row stored enabled scope kept (List.mem_of_mem_filter member) refers

/-- In a history whose updates and overrides leave rules that meet the demands, every effective rule does. -/
theorem effective_rules_checked (edits : List (AlertEdit F))
    (checked : ∀ visit ∈ visits (applyEdit isPlus) {} edits, StaysChecked visit.1 visit.2) :
    ∀ db ∈ reached (applyEdit isPlus) {} edits, ∀ vm, ∀ rule ∈ getEffectiveRules db isPlus vm,
      Checked rule.toAlertRule := by
  have start : Sound ({} : AlertDb F) := by
    refine ⟨fun _ absent => ?_, fun _ absent => ?_, fun _ absent => ?_⟩ <;> cases absent
  intro db passed vm rule effective
  exact checked_of_sound (reached_invariant _ sound_applyEdit edits start checked db passed) effective

end Histories

section Examples
/-- An update removes the only threshold of a rule, and the rule stays in effect. -/
theorem update_removes_every_threshold :
    let db := run (applyEdit false) {}
      [.createGlobalRule cpuRequest "admin" "2026-01-01", .updateGlobalRule 1 { criticalThreshold := some none } "now"]
    ¬ ∀ rule ∈ getEffectiveRules db false ⟨"100", 1⟩, Checked rule.toAlertRule := by
  have refused : ∃ rule ∈ getEffectiveRules (run (applyEdit false) {}
      [.createGlobalRule cpuRequest "admin" "2026-01-01", .updateGlobalRule 1 { criticalThreshold := some none } "now"])
      false ⟨"100", 1⟩,
      (checkThresholds rule.metric rule.warningThreshold rule.criticalThreshold).toBool = false := by decide +kernel
  intro db everywhere
  obtain ⟨rule, effective, error⟩ := refused
  rw [(everywhere rule effective).thresholds] at error
  cases error

/-- An update of the threshold keeps the rule well formed. -/
theorem update_changes_the_threshold :
    let db := run (applyEdit false) {}
      [.createGlobalRule cpuRequest "admin" "2026-01-01", .updateGlobalRule 1 { criticalThreshold := some (some 80) } "now"]
    (getEffectiveRules db false ⟨"100", 1⟩).map (fun rule => rule.criticalThreshold) = [some 80] ∧
      ∀ rule ∈ getEffectiveRules db false ⟨"100", 1⟩, Checked rule.toAlertRule := by
  refine ⟨by decide +kernel, ?_⟩
  apply effective_rules_checked [.createGlobalRule cpuRequest "admin" "2026-01-01",
    .updateGlobalRule 1 { criticalThreshold := some (some 80) } "now"] _ _ (run_mem_reached _ _ _)
  intro visit member
  rcases List.mem_cons.mp member with first | second
  · rw [first]
    trivial
  · rw [List.mem_singleton.mp second]
    intro row found patched changed _
    have created : newRow 1 .global cpuBody "admin" "2026-01-01" = row := Option.some.inj found
    rw [← created] at changed
    have updated : { newRow 1 .global cpuBody "admin" "2026-01-01" with
        criticalThreshold := some "80.0"
        updatedAt := "now" } = patched := Option.some.inj changed
    rw [← updated]
    exact ⟨by decide +kernel, by decide, rfl⟩

end Examples
end

section
variable {F : Type} [PythonFloat F] (lower : String → String) (isPlus : Bool)

/-- The portal after the creation of one global rule and one poll of one guest. -/
def createdAndPolled (request : RuleCreateRequest F) (createdBy now : String) (nodeId : Int) (vmData : VmData F) :
    AlertDb F :=
  checkNode lower isPlus nodeId [vmData] (applyEdit isPlus {} (.createGlobalRule request createdBy now))

/-- An accepted rule about the status fires in the first poll exactly for the guests with this status. -/
def Expresses (F : Type) [PythonFloat F] (status : String) : Prop :=
  ∃ request : RuleCreateRequest F, request.body.metric = .status ∧ request.body.sustainedPolls = 1 ∧
    ∀ (createdBy now vmid : String) (nodeId : Int) (vmData : VmData F) (current : String),
      vmData.vmid = some vmid → vmData.template = false → vmData.status = some current →
        ((∃ event ∈ (createdAndPolled lower isPlus request createdBy now nodeId vmData).events,
          event.state = .firing) ↔ lower current = lower status)

section Polls
variable {lower isPlus} {request : RuleCreateRequest F} {createdBy now vmid current : String} {nodeId : Int}
  {vmData : VmData F}

theorem rowToRule_newRow (id : Int) (body : AlertRuleBase F) :
    (rowToRule (newRow id .global body createdBy now) : AlertRule F) =
      { id := id
        scope := .global
        name := body.name
        metric := body.metric
        warningThreshold := body.warningThreshold
        criticalThreshold := body.criticalThreshold
        sustainedPolls := body.sustainedPolls
        enabled := body.enabled
        notifyRecovery := body.notifyRecovery
        filesystem := body.filesystem
        webhookUrl := body.webhookUrl
        webhookReceiverType := some (Text.orElse body.webhookReceiverType "custom")
        emailRecipients := body.emailRecipients
        createdBy := createdBy
        createdAt := now
        updatedAt := now } := by
  unfold rowToRule newRow
  simp only [decode_encode]

/-- The only rule is in effect for every guest when it is enabled. -/
theorem getEffectiveRules_created (vm : VmKey) :
    getEffectiveRules (applyEdit isPlus ({} : AlertDb F) (.createGlobalRule request createdBy now)) isPlus vm =
      if request.body.enabled then
        [{ toAlertRule := rowToRule (newRow 1 .global (filterNotificationFields isPlus request.body) createdBy now)
           source := .global }] else [] := by
  have preset : getVmPreset (applyEdit isPlus ({} : AlertDb F) (.createGlobalRule request createdBy now)) vm = none := rfl
  have own : listVmRules (applyEdit isPlus ({} : AlertDb F) (.createGlobalRule request createdBy now)) vm = [] := rfl
  have global : listGlobalRules (applyEdit isPlus ({} : AlertDb F) (.createGlobalRule request createdBy now)) =
      [rowToRule (newRow 1 .global (filterNotificationFields isPlus request.body) createdBy now)] := rfl
  unfold getEffectiveRules mergeLayers
  rw [preset, own, global, ite_self]
  dsimp only [Option.isSome_none, Option.getD_none, List.foldl_cons, List.foldl_nil]
  unfold layerGlobal
  obtain ⟨webhookUrl, webhookToken, emailRecipients, same⟩ := filterNotificationFields_eq isPlus request.body
  have switch : (rowToRule (newRow 1 .global (filterNotificationFields isPlus request.body) createdBy now) :
      AlertRule F).enabled = request.body.enabled := by
    rw [same]
    rfl
  rw [switch]
  cases request.body.enabled with
  | true => rfl
  | false => rfl

/-- A rule about the status has no warning threshold. -/
theorem no_warning_of_status (status : request.body.metric = .status) : request.body.warningThreshold = none := by
  have checked : Checked (rowToRule (newRow 1 .global request.body "" "") : AlertRule F) :=
    checked_newRow request 1 .global "" ""
  have thresholds := checked.thresholds
  rw [rowToRule_newRow] at thresholds
  dsimp only at thresholds
  rw [status] at thresholds
  unfold checkThresholds at thresholds
  cases warning : request.body.warningThreshold with
  | none => rfl
  | some value =>
      rw [warning] at thresholds
      repeat' split at thresholds
      all_goals simp_all

/-- The first poll fires exactly when the rule is enabled and its target is the status of the guest. -/
theorem events_createdAndPolled (status : request.body.metric = .status) (once : request.body.sustainedPolls = 1)
    (identified : vmData.vmid = some vmid) (running : vmData.template = false) (reported : vmData.status = some current) :
    (createdAndPolled lower isPlus request createdBy now nodeId vmData).events.map AlertEvent.state =
      if request.body.enabled && statusTriggered lower (some (.text current)) request.body.criticalThreshold then
        [.firing] else [] := by
  have silent := no_warning_of_status status
  unfold createdAndPolled checkNode
  rw [List.foldl_cons, List.foldl_nil, checkVm_eq]
  unfold vmChecks
  rw [identified]
  dsimp only
  rw [if_neg (by rw [running]; exact Bool.false_ne_true), getEffectiveRules_created]
  cases enabled : request.body.enabled with
  | false => rfl
  | true =>
      obtain ⟨webhookUrl, webhookToken, emailRecipients, same⟩ := filterNotificationFields_eq isPlus request.body
      rw [same, if_pos rfl, List.filter_cons_of_pos (by exact enabled), List.filter_nil, List.flatMap_cons, List.flatMap_nil,
        List.append_nil]
      unfold ruleChecks extractMetric measurementChecks
      rw [rowToRule_newRow]
      simp only [status, silent, reported, once, Option.map_some, List.flatMap_cons, List.flatMap_nil, List.append_nil,
        if_true, Option.isSome_none, Bool.false_eq_true, if_false, List.nil_append, decide_true, Bool.or_true,
        List.foldl_cons, List.foldl_nil, Bool.true_and]
      cases statusTriggered lower (some (.text current)) request.body.criticalThreshold with
      | true => rfl
      | false => rfl

/-- A rule that expresses a status has a target with the same text. -/
theorem target_of_expresses {status : String} (expresses : Expresses lower isPlus F status) :
    ∃ target : F, lower (PythonFloat.str target) = lower status := by
  obtain ⟨request, metric, once, exactly⟩ := expresses
  have fires := (exactly "" "" "100" 1 { vmid := some "100", status := some status } status rfl rfl rfl).mpr rfl
  obtain ⟨event, recorded, state⟩ := fires
  have listed := List.mem_map_of_mem (f := AlertEvent.state) recorded
  rw [events_createdAndPolled metric once rfl rfl rfl] at listed
  split at listed
  · rename_i triggered
    have met := (Bool.and_eq_true _ _).mp triggered
    unfold statusTriggered at met
    cases target : request.body.criticalThreshold with
    | none =>
        rw [target] at met
        cases met.2
    | some found =>
        rw [target] at met
        exact ⟨found, (of_decide_eq_true met.2).symm⟩
  · cases listed

/-- A number with the text of the status is a target that expresses it. -/
theorem expresses_of_target {status : String} {target : F} (same : lower (PythonFloat.str target) = lower status) :
    Expresses lower isPlus F status := by
  let body : AlertRuleBase F := { name := "status", metric := .status, criticalThreshold := some target }
  have accepted : validate body = .ok body := by
    have named : nameNotEmpty "status" = .ok "status" := by decide +kernel
    unfold validate
    rw [show nameNotEmpty body.name = .ok "status" from named]
    rfl
  refine ⟨⟨body, body, accepted⟩, rfl, rfl, ?_⟩
  intro createdBy now vmid nodeId vmData current identified running reported
  have states : (createdAndPolled lower isPlus ⟨body, body, accepted⟩ createdBy now nodeId vmData).events.map
      AlertEvent.state = _ := events_createdAndPolled rfl rfl identified running reported
  have met : (body.enabled && statusTriggered lower (some (.text current)) body.criticalThreshold) =
      decide (lower current = lower (PythonFloat.str target)) := rfl
  rw [met, same] at states
  have fires : (∃ event ∈ (createdAndPolled lower isPlus ⟨body, body, accepted⟩ createdBy now nodeId vmData).events,
      event.state = .firing) ↔ .firing ∈ (createdAndPolled lower isPlus ⟨body, body, accepted⟩ createdBy now nodeId
        vmData).events.map AlertEvent.state := List.mem_map.symm
  rw [fires, states]
  by_cases equal : lower current = lower status
  · simp [equal]
  · simp [equal]

end Polls

/-- A status can be expressed exactly when it is the text of a number, up to case. -/
theorem status_expressible_iff (status : String) :
    Expresses lower isPlus F status ↔ ∃ target : F, lower (PythonFloat.str target) = lower status := by
  constructor
  · exact target_of_expresses
  · rintro ⟨target, same⟩
    exact expresses_of_target same

/-- No rule expresses that a guest is stopped. -/
theorem stopped_not_expressible : ¬ Expresses Text.lower false Nat "stopped" := by
  intro expresses
  obtain ⟨target, same⟩ := target_of_expresses expresses
  have letters := congrArg (fun text : String => text.toList.getLast?) same
  have digits : (PythonFloat.str target).toList = target.repr.toList ++ ['.', '0'] := String.toList_append
  unfold Text.lower at letters
  rw [String.toList_ofList, String.toList_ofList, digits, List.map_append, List.getLast?_append] at letters
  have zero : (List.map Char.toLower ['.', '0']).getLast? = some '0' := rfl
  have last : (List.map Char.toLower "stopped".toList).getLast? = some 'd' := by decide
  rw [zero, last, Option.some_or] at letters
  cases letters
end
end P3Portal.Alerts
