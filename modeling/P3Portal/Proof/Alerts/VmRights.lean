import P3Portal.Construction.Alerts.Views
import P3Portal.Proof.Alerts.Edits

namespace P3Portal.Alerts
open Schema Foundation Auth Access
variable {F : Type} [PythonFloat F]

/-- The resolver gives the user nothing on the guest, whatever its kind. -/
def HoldsNothing (db : Database) (getPoolPermissions : Int → List PoolGrant) (userId : Int) (vm : VmKey) : Prop :=
  ∀ number : Int, toString number = vm.vmid → ∀ resourceType,
    resolveUserPermissions db getPoolPermissions userId (some vm.nodeId) number resourceType = ∅

/-- A local user without rights on the guest has rights elsewhere or a restricted role. -/
structure Outsider (db : Database) (getPoolPermissions : Int → List PoolGrant) (currentUser : CurrentUser) (vm : VmKey) :
    Prop where
  isLocal : currentUser.authType = .localUser
  notAdmin : currentUser.role ≠ .admin
  notOperator : currentUser.role ≠ .operator
  account : ∃ user, getUserByUsername db currentUser.username = some user ∧ user.role = currentUser.role ∧
    HoldsNothing db getPoolPermissions user.id vm ∧
    (currentUser.role = .restricted ∨ ∃ nodeId number resourceType,
      resolveUserPermissions db getPoolPermissions user.id nodeId number resourceType ≠ ∅)

/-- Rules and overrides are the same rows; the database keeps overrides in no order. -/
def Unchanged (before after : AlertDb F) : Prop :=
  after.rules = before.rules ∧ after.overrides.Perm before.overrides

/-- An update that sends null for a column that must not be null. -/
def GlobalRuleUpdateRequest.SendsNull (updates : GlobalRuleUpdateRequest F) : Prop :=
  updates.name = some none ∨ updates.metric = some none ∨ updates.sustainedPolls = some none

/-- The request has a token encrypted and stored. A row holds what its token decrypts to, so the new ciphertext does not
show in it. -/
def VmAlertRequest.encrypts (isPlus : Bool) (vm : VmKey) (alerts : AlertDb F) : VmAlertRequest F → Bool
  | .createRule request _ => (Text.truthy (filterNotificationFields isPlus request.body).webhookToken).isSome
  | .updateRule ruleId updates now => isVmRule alerts vm ruleId &&
      (Alerts.updateRule alerts ruleId updates now).isSome &&
      (Text.truthy updates.webhookToken.join).isSome
  | .deleteRule _ => false
  | .updateOverrides _ => false

/-- The request of a user leaves the stored rules and overrides unchanged, down to the ciphertexts. -/
def LeavesStored (isPlus : Bool) (currentUser : CurrentUser) (vm : VmKey) (alerts : AlertDb F)
    (request : VmAlertRequest F) : Prop :=
  Unchanged alerts (handleVmAlert isPlus currentUser vm alerts request) ∧ request.encrypts isPlus vm alerts = false

/-- An update that sends what the rule has already and no token, at the very time of the last change. -/
structure GlobalRuleUpdateRequest.Repeats (updates : GlobalRuleUpdateRequest F) (now : String)
    (row : AlertRule String) : Prop where
  name : ∀ sent ∈ updates.name, sent = some row.name
  metric : ∀ sent ∈ updates.metric, sent = some row.metric
  sustainedPolls : ∀ sent ∈ updates.sustainedPolls, sent = some row.sustainedPolls
  warningThreshold : ∀ sent ∈ updates.warningThreshold, encodeThreshold sent = row.warningThreshold
  criticalThreshold : ∀ sent ∈ updates.criticalThreshold, encodeThreshold sent = row.criticalThreshold
  enabled : ∀ sent ∈ updates.enabled, sent.getD false = row.enabled
  notifyRecovery : ∀ sent ∈ updates.notifyRecovery, sent.getD false = row.notifyRecovery
  filesystem : ∀ sent ∈ updates.filesystem, sent = row.filesystem
  webhookUrl : ∀ sent ∈ updates.webhookUrl, sent = row.webhookUrl
  webhookToken : Text.truthy updates.webhookToken.join = none
  webhookReceiverType : ∀ sent ∈ updates.webhookReceiverType, sent = row.webhookReceiverType
  webhookVerifySsl : ∀ sent ∈ updates.webhookVerifySsl, some (sent.getD false) = row.webhookVerifySsl
  emailRecipients : ∀ sent ∈ updates.emailRecipients, sent = row.emailRecipients
  updatedAt : now = row.updatedAt

/-- The rows that a list of overrides leaves for the guest, numbered behind those of the other guests. -/
def replacedOverrides (alerts : AlertDb F) (vm : VmKey) (overrides : List (OverrideRequest F)) :
    List (ThresholdOverride String) :=
  insertOverrides vm (nextOverrideId (alerts.overrides.filter fun row => row.vm ≠ vm))
    (overrides.map OverrideRequest.item)

/-- The request is refused for another reason than the rights of its user, or it stores the same rows again. -/
def Ineffective (isPlus : Bool) (vm : VmKey) (alerts : AlertDb F) : VmAlertRequest F → Prop
  | .createRule _ _ => False
  | .updateRule ruleId updates now => ∀ row, alerts.rules.find? (fun row => row.id = ruleId) = some row →
      isVmRule alerts vm ruleId = true → updates.SendsNull ∨ updates.Repeats now row
  | .deleteRule ruleId => isVmRule alerts vm ruleId = false
  | .updateOverrides overrides => isPlus = true → (overrides.map fun request => request.item.ruleId).Nodup →
      (∀ request ∈ overrides, ∃ row ∈ alerts.rules, row.id = request.item.ruleId) →
        (replacedOverrides alerts vm overrides).Perm (alerts.overrides.filter fun row => row.vm = vm)

section Requests
variable {isPlus : Bool} {currentUser : CurrentUser} {vm : VmKey} {alerts : AlertDb F}

omit [PythonFloat F] in
theorem Sent.required_eq_none {Column : Type} (sent : Sent Column) (stored : Column) :
    sent.required stored = none ↔ sent = some none := by
  cases sent with
  | none => simp [Sent.required]
  | some value => simp [Sent.required]

omit [PythonFloat F] in
theorem Sent.required_eq_stored {Column : Type} (sent : Sent Column) (stored : Column) :
    sent.required stored = some stored ↔ ∀ value ∈ sent, value = some stored := by
  cases sent with
  | none => simp [Sent.required]
  | some value => simp [Sent.required]

omit [PythonFloat F] in
/-- A sent column leaves the stored one as it is when it repeats it. -/
theorem Sent.getD_eq_stored {Column : Type} (sent : Option Column) (stored : Column) :
    sent.getD stored = stored ↔ ∀ value ∈ sent, value = stored := by
  cases sent with
  | none => simp
  | some value => simp

omit [PythonFloat F] in
theorem Sent.map_getD_eq_stored {Column Stored : Type} (sent : Option Column) (encode : Column → Stored)
    (stored : Stored) : (sent.map encode).getD stored = stored ↔ ∀ value ∈ sent, encode value = stored := by
  cases sent with
  | none => simp
  | some value => simp

/-- An update fails exactly when it sends null for a required column. -/
theorem patchRow_eq_none_iff {updates : GlobalRuleUpdateRequest F} {now : String} {row : AlertRule String} :
    patchRow updates now row = none ↔ updates.SendsNull := by
  unfold GlobalRuleUpdateRequest.SendsNull
  rw [← Sent.required_eq_none updates.name row.name, ← Sent.required_eq_none updates.metric row.metric,
    ← Sent.required_eq_none updates.sustainedPolls row.sustainedPolls]
  unfold patchRow
  cases updates.name.required row.name with
  | none => simp
  | some name =>
      cases updates.metric.required row.metric with
      | none => simp
      | some metric =>
          cases updates.sustainedPolls.required row.sustainedPolls with
          | none => simp
          | some sustainedPolls => simp

/-- An update without a token leaves a row as it is exactly when it repeats it. -/
theorem patchRow_eq_self_iff {updates : GlobalRuleUpdateRequest F} {now : String} {row : AlertRule String} :
    patchRow updates now row = some row ∧ Text.truthy updates.webhookToken.join = none ↔ updates.Repeats now row := by
  constructor
  · intro ⟨changed, untold⟩
    obtain ⟨name, metric, sustainedPolls, named, measured, sustained, same⟩ := patchRow_eq changed
    have names : row.name = name := congrArg AlertRule.name same
    have metrics : row.metric = metric := congrArg AlertRule.metric same
    have polls : row.sustainedPolls = sustainedPolls := congrArg AlertRule.sustainedPolls same
    exact {
      name := (Sent.required_eq_stored _ _).mp (names ▸ named)
      metric := (Sent.required_eq_stored _ _).mp (metrics ▸ measured)
      sustainedPolls := (Sent.required_eq_stored _ _).mp (polls ▸ sustained)
      warningThreshold := (Sent.map_getD_eq_stored _ _ _).mp (congrArg AlertRule.warningThreshold same).symm
      criticalThreshold := (Sent.map_getD_eq_stored _ _ _).mp (congrArg AlertRule.criticalThreshold same).symm
      enabled := (Sent.map_getD_eq_stored _ _ _).mp (congrArg AlertRule.enabled same).symm
      notifyRecovery := (Sent.map_getD_eq_stored _ _ _).mp (congrArg AlertRule.notifyRecovery same).symm
      filesystem := (Sent.getD_eq_stored _ _).mp (congrArg AlertRule.filesystem same).symm
      webhookUrl := (Sent.getD_eq_stored _ _).mp (congrArg AlertRule.webhookUrl same).symm
      webhookToken := untold
      webhookReceiverType := (Sent.getD_eq_stored _ _).mp (congrArg AlertRule.webhookReceiverType same).symm
      webhookVerifySsl := (Sent.map_getD_eq_stored _ _ _).mp (congrArg AlertRule.webhookVerifySsl same).symm
      emailRecipients := (Sent.getD_eq_stored _ _).mp (congrArg AlertRule.emailRecipients same).symm
      updatedAt := (congrArg AlertRule.updatedAt same).symm }
  · intro repeats
    refine ⟨?_, repeats.webhookToken⟩
    unfold patchRow encryptToken
    rw [(Sent.required_eq_stored _ _).mpr repeats.name, (Sent.required_eq_stored _ _).mpr repeats.metric,
      (Sent.required_eq_stored _ _).mpr repeats.sustainedPolls,
      (Sent.map_getD_eq_stored _ _ _).mpr repeats.warningThreshold,
      (Sent.map_getD_eq_stored _ _ _).mpr repeats.criticalThreshold,
      (Sent.map_getD_eq_stored _ _ _).mpr repeats.enabled, (Sent.map_getD_eq_stored _ _ _).mpr repeats.notifyRecovery,
      (Sent.getD_eq_stored _ _).mpr repeats.filesystem, (Sent.getD_eq_stored _ _).mpr repeats.webhookUrl,
      repeats.webhookToken, Option.map_none, Option.none_or,
      (Sent.getD_eq_stored _ _).mpr repeats.webhookReceiverType,
      (Sent.map_getD_eq_stored _ _ _).mpr repeats.webhookVerifySsl,
      (Sent.getD_eq_stored _ _).mpr repeats.emailRecipients, repeats.updatedAt]
    rfl

/-- A creation always adds a row. -/
theorem createRule_changes (place : RulePlace) (body : AlertRuleBase F) (createdBy now : String) :
    ¬ Unchanged alerts (createRule alerts place body createdBy now) := by
  intro same
  have longer := congrArg List.length same.1
  rw [show (createRule alerts place body createdBy now).rules = alerts.rules ++
    [newRow (nextRuleId alerts) place body createdBy now] from rfl, List.length_append, List.length_singleton] at longer
  omega

omit [PythonFloat F] in
/-- A rule of the guest is stored under its key. -/
theorem isVmRule_find {ruleId : Int} (own : isVmRule alerts vm ruleId = true) :
    ∃ row, alerts.rules.find? (fun row => row.id = ruleId) = some row ∧ row ∈ alerts.rules ∧ row.id = ruleId := by
  obtain ⟨row, found, -⟩ := (Option.any_eq_true _ _).mp own
  exact ⟨row, found, find?_key_spec found⟩

omit [PythonFloat F] in
theorem unchanged_self (alerts : AlertDb F) : Unchanged alerts alerts := ⟨rfl, .refl _⟩

/-- An update leaves the stored rows as they are exactly when it fails or repeats its row. -/
theorem updateRule_leavesStored_iff (keyed : (alerts.rules.map AlertRule.id).Nodup) {ruleId : Int}
    {updates : GlobalRuleUpdateRequest F} {now : String} {row : AlertRule String}
    (found : alerts.rules.find? (fun row => row.id = ruleId) = some row) :
    Unchanged alerts ((updateRule alerts ruleId updates now).getD alerts) ∧
        ((updateRule alerts ruleId updates now).isSome && (Text.truthy updates.webhookToken.join).isSome) = false ↔
      updates.SendsNull ∨ updates.Repeats now row := by
  obtain ⟨stored, named⟩ := find?_key_spec found
  have failing : patchRow updates now row = none ↔ updates.SendsNull := patchRow_eq_none_iff
  rw [← failing, ← patchRow_eq_self_iff]
  unfold updateRule
  rw [found, Option.bind_eq_bind, Option.bind_some]
  cases patched : patchRow updates now row with
  | none => exact iff_of_true ⟨unchanged_self alerts, rfl⟩ (.inl rfl)
  | some replaced =>
      have replaces := map_replace_eq_self_iff keyed stored replaced
      rw [named] at replaces
      simpa [Unchanged] using fun _ => replaces

omit [PythonFloat F] in
theorem deleteRule_unchanged_iff {ruleId : Int} :
    Unchanged alerts ((if isVmRule alerts vm ruleId then some (deleteRule alerts ruleId) else none).getD alerts) ↔
      isVmRule alerts vm ruleId = false := by
  split
  · rename_i own
    obtain ⟨row, -, stored, named⟩ := isVmRule_find own
    rw [own]
    refine iff_of_false ?_ (by decide)
    intro same
    rw [← same.1] at stored
    simpa [named] using (List.mem_filter.mp stored).2
  · rename_i other
    simpa [other] using unchanged_self alerts

/-- The stored overrides are those of other guests and those of this one. -/
theorem updateOverrides_unchanged_iff (overrides : List (OverrideRequest F)) :
    Unchanged alerts ((upsertOverrides alerts vm (overrides.map OverrideRequest.item)).getD alerts) ↔
      ((overrides.map fun request => request.item.ruleId).Nodup →
        (∀ request ∈ overrides, ∃ row ∈ alerts.rules, row.id = request.item.ruleId) →
          (replacedOverrides alerts vm overrides).Perm (alerts.overrides.filter fun row => row.vm = vm)) := by
  have parts : (alerts.overrides.filter (fun row => row.vm ≠ vm) ++ alerts.overrides.filter fun row => row.vm = vm).Perm
      alerts.overrides := by
    have split := (List.filter_append_perm (fun row : ThresholdOverride String => row.vm = vm) alerts.overrides)
    apply List.perm_append_comm.trans
    simpa using split
  unfold upsertOverrides
  dsimp only
  split
  · rename_i valid
    obtain ⟨distinct, known⟩ := (Bool.and_eq_true _ _).mp valid
    have stored : ∀ request ∈ overrides, ∃ row ∈ alerts.rules, row.id = request.item.ruleId := by
      intro request sent
      have present := List.all_eq_true.mp known request.item.ruleId (by
        rw [List.map_map]
        exact List.mem_map_of_mem sent)
      obtain ⟨row, member, same⟩ := List.any_eq_true.mp present
      exact ⟨row, member, of_decide_eq_true same⟩
    have separate : (overrides.map fun request => request.item.ruleId).Nodup := by
      simpa [Function.comp_def] using distinct
    unfold Unchanged
    rw [Option.getD_some]
    constructor
    · intro same _ _
      exact (List.perm_append_left_iff _).mp (same.2.trans parts.symm)
    · intro repeats
      exact ⟨rfl, ((List.perm_append_left_iff _).mpr (repeats separate stored)).trans parts⟩
  · rename_i invalid
    refine iff_of_true (unchanged_self alerts) ?_
    intro separate stored
    apply absurd _ invalid
    rw [Bool.and_eq_true, decide_eq_true_eq, List.map_map]
    refine ⟨separate, List.all_eq_true.mpr ?_⟩
    intro ruleId sent
    obtain ⟨request, member, rfl⟩ := List.mem_map.mp sent
    obtain ⟨row, listed, same⟩ := stored request member
    exact List.any_eq_true.mpr ⟨row, listed, decide_eq_true same⟩

/-- A request leaves the stored rows as they are exactly when it is ineffective, whoever makes it. -/
theorem leavesStored_iff (keyed : (alerts.rules.map AlertRule.id).Nodup) (request : VmAlertRequest F) :
    LeavesStored isPlus currentUser vm alerts request ↔ Ineffective isPlus vm alerts request := by
  unfold LeavesStored VmAlertRequest.encrypts
  cases request with
  | createRule request now => exact iff_of_false (fun same => createRule_changes _ _ _ _ same.1) id
  | updateRule ruleId updates now =>
      show Unchanged alerts
        ((if isVmRule alerts vm ruleId then updateRule alerts ruleId updates now else none).getD alerts) ∧
          (isVmRule alerts vm ruleId && (updateRule alerts ruleId updates now).isSome &&
            (Text.truthy updates.webhookToken.join).isSome) = false ↔ _
      cases own : isVmRule alerts vm ruleId with
      | true =>
          obtain ⟨row, found, -⟩ := isVmRule_find own
          rw [if_pos rfl, Bool.true_and, updateRule_leavesStored_iff keyed found]
          constructor
          · intro harmless other same _
            rw [found] at same
            rwa [← Option.some.inj same]
          · intro harmless
            exact harmless row found own
      | false =>
          refine iff_of_true ⟨unchanged_self alerts, rfl⟩ ?_
          intro row _ other
          rw [own] at other
          cases other
  | deleteRule ruleId => exact (and_iff_left rfl).trans deleteRule_unchanged_iff
  | updateOverrides overrides =>
      show Unchanged alerts ((if !isPlus then none else
        upsertOverrides alerts vm (overrides.map OverrideRequest.item)).getD alerts) ∧ _ ↔ _
      rw [and_iff_left rfl]
      cases isPlus with
      | false =>
          refine iff_of_true (unchanged_self alerts) ?_
          intro licensed
          cases licensed
      | true =>
          rw [Bool.not_true, if_neg Bool.false_ne_true, updateOverrides_unchanged_iff]
          exact ⟨fun repeats _ => repeats, fun repeats => repeats rfl⟩

end Requests

section Summary
variable {isPlus : Bool} {currentUser : CurrentUser} {vm : VmKey}

/-- Two portals differ in the rules and the overrides of one guest only. -/
structure SameElsewhere (vm : VmKey) (first second : AlertDb F) : Prop where
  rules : first.rules.filter (fun row => !(row.scope = .vm && row.nodeId = some vm.nodeId && row.vmid = some vm.vmid)) =
    second.rules.filter fun row => !(row.scope = .vm && row.nodeId = some vm.nodeId && row.vmid = some vm.vmid)
  overrides : first.overrides.filter (fun row => row.vm ≠ vm) = second.overrides.filter fun row => row.vm ≠ vm
  presets : first.presets = second.presets
  assignments : first.assignments = second.assignments

/-- The summary is the same whatever rules and overrides the guest has. -/
def SummaryHides (F : Type) [PythonFloat F] (isPlus : Bool) (currentUser : CurrentUser) (vm : VmKey) : Prop :=
  ∀ first second : AlertDb F, SameElsewhere vm first second →
    getVmAlertSummary isPlus currentUser first vm = getVmAlertSummary isPlus currentUser second vm

/-- A rule of the guest is listed for every user. -/
theorem not_summaryHides : ¬ SummaryHides F isPlus currentUser vm := by
  intro hides
  let row : AlertRule String :=
    { id := 1, scope := .vm, vmid := some vm.vmid, nodeId := some vm.nodeId, name := "", metric := .status }
  have own : (row.scope = .vm && row.nodeId = some vm.nodeId && row.vmid = some vm.vmid) = true := by simp [row]
  have same : SameElsewhere vm ({} : AlertDb F) { rules := [row] } := by
    refine ⟨?_, rfl, rfl, rfl⟩
    rw [List.filter_cons_of_neg (by rw [own]; decide)]
  have listed : listVmRules ({ rules := [row] } : AlertDb F) vm = [rowToRule row] := by
    unfold listVmRules
    rw [List.filter_cons_of_pos (by rw [own])]
    rfl
  have rules := congrArg VmAlertSummary.vmRules (hides {} { rules := [row] } same)
  rw [show (getVmAlertSummary isPlus currentUser ({ rules := [row] } : AlertDb F) vm).vmRules =
    listVmRules { rules := [row] } vm from rfl, listed] at rules
  cases rules

end Summary

section Examples
/-- A viewer who owns another machine. -/
def otherOwner : Database where
  localUsers := [{ id := 7, username := "eve", role := .viewer }]
  vmOwners := [{ id := 1, resourceType := .vm, nodeId := 2, vmid := 200, userId := 7 }]

def eve : CurrentUser where
  username := "eve"
  authType := .localUser
  role := .viewer

/-- The alerts with one rule of machine 100 on node 1. -/
def watched : AlertDb Nat where
  rules := [{ id := 1, scope := .vm, vmid := some "100", nodeId := some 1, name := "CPU", metric := .cpuPercent,
              criticalThreshold := some "90.0" }]

theorem eve_outsider : Outsider otherOwner (fun _ => []) eve ⟨"100", 1⟩ where
  isLocal := rfl
  notAdmin := by decide
  notOperator := by decide
  account := by
    refine ⟨{ id := 7, username := "eve", role := .viewer }, rfl, rfl, ?_, .inr ⟨some 2, 200, .vm, ?_⟩⟩
    · intro number _ resourceType
      have others : ownerActionsForResource otherOwner 7 resourceType (some 1) number = ∅ := by
        simp [ownerActionsForResource, otherOwner, sqlEq]
      show ∅ ∪ ownerActionsForResource otherOwner 7 resourceType (some 1) number = ∅
      rw [others]
      rfl
    · intro nothing
      have view : "view" ∈ resolveUserPermissions otherOwner (fun _ => []) 7 (some 2) 200 .vm := by decide +kernel
      rw [nothing] at view
      cases view

end Examples
end P3Portal.Alerts
