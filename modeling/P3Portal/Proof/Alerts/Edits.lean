import P3Portal.Construction.Alerts.Check
import P3Portal.Foundation.KeyedRows
import P3Portal.Foundation.Outcome

namespace P3Portal.Alerts
open Foundation
variable {F : Type} [PythonFloat F] {db after : AlertDb F} {isPlus : Bool}

/-- The filter of the external channels does not touch what the validation looks at. -/
theorem validate_filterNotificationFields {sent body : AlertRuleBase F} (accepted : validate sent = .ok body) :
    validate (filterNotificationFields isPlus sent) = .ok (filterNotificationFields isPlus body) := by
  cases isPlus with
  | true => exact accepted
  | false =>
      obtain ⟨name, named, rest⟩ := Outcome.bind_eq_ok.mp accepted
      obtain ⟨sustainedPolls, sustained, checked⟩ := Outcome.bind_eq_ok.mp rest
      obtain ⟨passed, reached, done⟩ := Outcome.bind_eq_ok.mp checked
      apply Outcome.bind_eq_ok.mpr
      refine ⟨name, named, Outcome.bind_eq_ok.mpr ⟨sustainedPolls, sustained, Outcome.bind_eq_ok.mpr ⟨passed, reached, ?_⟩⟩⟩
      rw [← Except.ok.inj done]
      rfl

/-- A filtered body is accepted as well. -/
def RuleCreateRequest.filtered (isPlus : Bool) (request : RuleCreateRequest F) : RuleCreateRequest F where
  body := filterNotificationFields isPlus request.body
  accepted := by
    obtain ⟨sent, accepted⟩ := request.accepted
    exact ⟨filterNotificationFields isPlus sent, validate_filterNotificationFields accepted⟩

omit [PythonFloat F] in
/-- Only the channels of the body differ. -/
theorem filterNotificationFields_eq (isPlus : Bool) (body : AlertRuleBase F) :
    ∃ webhookUrl webhookToken emailRecipients, filterNotificationFields isPlus body =
      { body with webhookUrl := webhookUrl, webhookToken := webhookToken, emailRecipients := emailRecipients } := by
  cases isPlus with
  | false => exact ⟨none, none, none, rfl⟩
  | true => exact ⟨body.webhookUrl, body.webhookToken, body.emailRecipients, rfl⟩

theorem notifyRecovery_filtered (request : RuleCreateRequest F) :
    (request.filtered isPlus).body.notifyRecovery = request.body.notifyRecovery := by
  obtain ⟨webhookUrl, webhookToken, emailRecipients, same⟩ := filterNotificationFields_eq isPlus request.body
  show (filterNotificationFields isPlus request.body).notifyRecovery = _
  rw [same]

/-- The recreation of a rule creates it and may set its token. -/
theorem recreateRule_cases (tokens : String → AlertMetric → Option EncryptedToken) (presetId : Int)
    (updatedBy now : String) (db : AlertDb F) (body : AlertRuleBase F) :
    recreateRule tokens presetId updatedBy now db body = createRule db (.preset presetId) body updatedBy now ∨
      ∃ token, tokens body.name body.metric = some token ∧ Text.truthy body.webhookToken = none ∧
        recreateRule tokens presetId updatedBy now db body =
          setToken (createRule db (.preset presetId) body updatedBy now) (nextRuleId db) token := by
  unfold recreateRule
  dsimp only
  split
  · exact .inl rfl
  · rename_i unsent
    cases prior : tokens body.name body.metric with
    | none => exact .inl rfl
    | some token => exact .inr ⟨token, rfl, by simpa using unsent, rfl⟩

omit [PythonFloat F] in
/-- A token is set on stored rows, which keep all other columns. -/
theorem mem_setToken {ruleId : Int} {token : EncryptedToken} {row : AlertRule String}
    (member : row ∈ (setToken db ruleId token).rules) :
    row ∈ db.rules ∨ ∃ old ∈ db.rules, old.id = ruleId ∧ row = { old with webhookToken := some token } := by
  obtain ⟨old, listed, shown⟩ := List.mem_map.mp member
  split at shown
  · rename_i here
    exact .inr ⟨old, listed, here, shown.symm⟩
  · rw [← shown]
    exact .inl listed

/-- An accepted edit makes one of these changes. -/
inductive Edited (db : AlertDb F) : AlertEdit F → AlertDb F → Prop where
  | createdGlobal (isPlus : Bool) (request : RuleCreateRequest F) (createdBy now : String) :
      Edited db (.createGlobalRule request createdBy now)
        (createRule db .global (request.filtered isPlus).body createdBy now)
  | createdVm (isPlus : Bool) (vm : VmKey) (request : RuleCreateRequest F) (createdBy now : String) :
      Edited db (.createVmRule vm request createdBy now)
        (createRule db (.vm vm) (request.filtered isPlus).body createdBy now)
  | updatedGlobal {ruleId : Int} {updates : GlobalRuleUpdateRequest F} {now : String} {after : AlertDb F}
      (scope : isGlobalRule db ruleId = true) (updated : updateRule db ruleId updates now = some after) :
      Edited db (.updateGlobalRule ruleId updates now) after
  | updatedVm (vm : VmKey) {ruleId : Int} {updates : GlobalRuleUpdateRequest F} {now : String} {after : AlertDb F}
      (scope : isVmRule db vm ruleId = true) (updated : updateRule db ruleId updates now = some after) :
      Edited db (.updateVmRule vm ruleId updates now) after
  | deletedGlobal (ruleId : Int) : Edited db (.deleteGlobalRule ruleId) (deleteRule db ruleId)
  | deletedVm (vm : VmKey) (ruleId : Int) : Edited db (.deleteVmRule vm ruleId) (deleteRule db ruleId)
  | presetCreated (sent : String) (presets : List AlertPreset) (presetId : Int) (rules : List (RuleCreateRequest F))
      (createdBy now : String) :
      Edited db (.createPreset sent rules createdBy now)
        (createRules { db with presets := presets } (.preset presetId) (rules.map RuleCreateRequest.body) createdBy now)
  | presetRenamed (presetId : Int) (name : Option String) (updatedBy now : String) (presets : List AlertPreset) :
      Edited db (.updatePreset presetId name none updatedBy now) { db with presets := presets }
  | presetReplaced (presetId : Int) (name : Option String) (rules : List (RuleCreateRequest F))
      (updatedBy now : String) (presets : List AlertPreset) :
      Edited db (.updatePreset presetId name (some rules) updatedBy now)
        (recreateRules (deleteRules { db with presets := presets }
          fun row => row.scope = .preset && row.presetId = some presetId)
          (existingTokens db presetId) presetId (rules.map RuleCreateRequest.body) updatedBy now)
  | presetDeleted (presetId : Int) : Edited db (.deletePreset presetId) (deletePreset db presetId)
  | assigned {presetId : Int} {vm : VmKey} {after : AlertDb F} (made : assignPreset db presetId vm = some after) :
      Edited db (.assignPreset presetId vm) after
  | unassigned (presetId : Int) (vm : VmKey) : Edited db (.removeAssignment presetId vm) (removeAssignment db presetId vm)
  | overrides {vm : VmKey} {requests : List (OverrideRequest F)} {after : AlertDb F}
      (stored : upsertOverrides db vm (requests.map OverrideRequest.item) = some after) :
      Edited db (.updateThresholdOverrides vm requests) after

theorem edited_of_accept {edit : AlertEdit F} (accepted : accept isPlus db edit = some after) : Edited db edit after := by
  cases edit with
  | createGlobalRule request createdBy now =>
      rw [← Option.some.inj accepted]
      exact .createdGlobal isPlus request createdBy now
  | createVmRule vm request createdBy now =>
      rw [← Option.some.inj accepted]
      exact .createdVm isPlus vm request createdBy now
  | updateGlobalRule ruleId updates now =>
      have allowed := Option.ite_none_right_eq_some.mp accepted
      exact .updatedGlobal allowed.1 allowed.2
  | updateVmRule vm ruleId updates now =>
      have allowed := Option.ite_none_right_eq_some.mp accepted
      exact .updatedVm vm allowed.1 allowed.2
  | deleteGlobalRule ruleId =>
      rw [← Option.some.inj (Option.ite_none_right_eq_some.mp accepted).2]
      exact .deletedGlobal ruleId
  | deleteVmRule vm ruleId =>
      rw [← Option.some.inj (Option.ite_none_right_eq_some.mp accepted).2]
      exact .deletedVm vm ruleId
  | createPreset name rules createdBy now =>
      have licensed := (Option.ite_none_left_eq_some.mp accepted).2
      cases named : nameNotEmpty name with
      | error text =>
          rw [named] at licensed
          cases licensed
      | ok name =>
          rw [named] at licensed
          rw [← Option.some.inj (Option.ite_none_left_eq_some.mp licensed).2]
          exact .presetCreated _ _ _ rules createdBy now
  | updatePreset presetId name rules updatedBy now =>
      have licensed := (Option.ite_none_left_eq_some.mp accepted).2
      have present := (Option.ite_none_left_eq_some.mp licensed).2
      have unique := (Option.ite_none_left_eq_some.mp present).2
      cases rules with
      | none =>
          rw [← Option.some.inj unique]
          exact .presetRenamed presetId name updatedBy now _
      | some rules =>
          rw [← Option.some.inj unique]
          exact .presetReplaced presetId name rules updatedBy now _
  | deletePreset presetId =>
      rw [← Option.some.inj (Option.ite_none_left_eq_some.mp accepted).2]
      exact .presetDeleted presetId
  | assignPreset presetId vm => exact .assigned (Option.ite_none_left_eq_some.mp accepted).2
  | removeAssignment presetId vm =>
      rw [← Option.some.inj (Option.ite_none_left_eq_some.mp accepted).2]
      exact .unassigned presetId vm
  | updateThresholdOverrides vm overrides => exact .overrides (Option.ite_none_left_eq_some.mp accepted).2

/-- An edit changes nothing, or it was accepted. -/
theorem applyEdit_cases (db : AlertDb F) (isPlus : Bool) (edit : AlertEdit F) :
    applyEdit isPlus db edit = db ∨ Edited db edit (applyEdit isPlus db edit) := by
  unfold applyEdit
  cases accepted : accept isPlus db edit with
  | none => exact .inl rfl
  | some after => exact .inr (edited_of_accept accepted)

/-- An update patches the rows of one rule and nothing else. -/
theorem updateRule_eq {ruleId : Int} {updates : GlobalRuleUpdateRequest F} {now : String}
    (updated : updateRule db ruleId updates now = some after) :
    ∃ row, db.rules.find? (fun row => row.id = ruleId) = some row ∧ row ∈ db.rules ∧ row.id = ruleId ∧
      ∃ patched, patchRow updates now row = some patched ∧
      after = { db with rules := db.rules.map fun row => if row.id = ruleId then patched else row } := by
  obtain ⟨row, found, later⟩ := Option.bind_eq_some_iff.mp updated
  obtain ⟨patched, changed, done⟩ := Option.bind_eq_some_iff.mp later
  obtain ⟨stored, named⟩ := find?_key_spec found
  exact ⟨row, found, stored, named, patched, changed, (Option.some.inj done).symm⟩

/-- A patched row has the columns that were sent and the time of the update. -/
theorem patchRow_eq {updates : GlobalRuleUpdateRequest F} {now : String} {row patched : AlertRule String}
    (changed : patchRow updates now row = some patched) :
    ∃ name metric sustainedPolls, updates.name.required row.name = some name ∧
      updates.metric.required row.metric = some metric ∧
      updates.sustainedPolls.required row.sustainedPolls = some sustainedPolls ∧
      patched = { row with
        name := name
        metric := metric
        sustainedPolls := sustainedPolls
        warningThreshold := (updates.warningThreshold.map encodeThreshold).getD row.warningThreshold
        criticalThreshold := (updates.criticalThreshold.map encodeThreshold).getD row.criticalThreshold
        enabled := (updates.enabled.map (·.getD false)).getD row.enabled
        notifyRecovery := (updates.notifyRecovery.map (·.getD false)).getD row.notifyRecovery
        filesystem := updates.filesystem.getD row.filesystem
        webhookUrl := updates.webhookUrl.getD row.webhookUrl
        webhookToken :=
          (encryptToken updates.webhookToken.join (updates.webhookUrl.getD row.webhookUrl)).or row.webhookToken
        webhookReceiverType := updates.webhookReceiverType.getD row.webhookReceiverType
        webhookVerifySsl := (updates.webhookVerifySsl.map fun sent => some (sent.getD false)).getD row.webhookVerifySsl
        emailRecipients := updates.emailRecipients.getD row.emailRecipients
        updatedAt := now } := by
  obtain ⟨name, named, measured⟩ := Option.bind_eq_some_iff.mp changed
  obtain ⟨metric, metered, counted⟩ := Option.bind_eq_some_iff.mp measured
  obtain ⟨sustainedPolls, sustained, complete⟩ := Option.bind_eq_some_iff.mp counted
  exact ⟨name, metric, sustainedPolls, named, metered, sustained, (Option.some.inj complete).symm⟩

section Examples
def cpuBody : AlertRuleBase Nat := { name := "CPU", metric := .cpuPercent, criticalThreshold := some 90 }

/-- The validation accepts this body as it is. -/
def cpuRequest : RuleCreateRequest Nat := ⟨cpuBody, cpuBody, by decide +kernel⟩

end Examples
end P3Portal.Alerts
