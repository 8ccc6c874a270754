import P3Portal.Construction.Alerts.Webhooks
import P3Portal.Foundation.KeyedRows
import P3Portal.Proof.Alerts.Edits
import P3Portal.Proof.Alerts.Checks

namespace P3Portal.Alerts
open Foundation

section
variable {F : Type} [PythonFloat F] {db after : AlertDb F} {presetId : Int} {updatedBy now : String}

/-- The rules of a preset in the order of their rows. -/
def presetRows (db : AlertDb F) (presetId : Int) : List (AlertRule String) :=
  db.rules.filter fun row => row.scope = .preset && row.presetId = some presetId

/-- The stored tokens of the rules of a preset. -/
def presetTokens (db : AlertDb F) (presetId : Int) : List (Option EncryptedToken) :=
  (presetRows db presetId).map AlertRule.webhookToken

/-- Among the rules of a preset with this name and metric the last one with a token has it. -/
def lastToken (db : AlertDb F) (presetId : Int) (name : String) (metric : AlertMetric) : Option EncryptedToken :=
  (((presetRows db presetId).filter fun row => row.name = name && row.metric = metric).filterMap
    AlertRule.webhookToken).getLast?

/-- The first row with a value among the chosen ones gives the first value. -/
theorem find?_bind_eq_head? {Row Value : Type} (selected named : Row → Bool) (value : Row → Option Value)
    (rows : List Row) : ((rows.filter fun row => selected row && (value row).isSome).find? named).bind value =
      (((rows.filter selected).filter named).filterMap value).head? := by
  induction rows with
  | nil => rfl
  | cons row rest ih =>
      cases chosen : selected row with
      | false => simpa [chosen] using ih
      | true =>
          cases found : value row with
          | none => cases hit : named row <;> simpa [chosen, found, hit] using ih
          | some content =>
              cases hit : named row with
              | true => simp [chosen, found, hit]
              | false => simpa [chosen, found, hit] using ih

omit [PythonFloat F] in
/-- The snapshot of the tokens keeps the last one under each name and metric. -/
theorem existingTokens_eq (db : AlertDb F) (presetId : Int) (name : String) (metric : AlertMetric) :
    existingTokens db presetId name metric = lastToken db presetId name metric := by
  have first := find?_bind_eq_head? (fun row => row.scope = .preset && row.presetId = some presetId)
    (fun row => row.name = name && row.metric = metric) AlertRule.webhookToken db.rules.reverse
  refine first.trans ?_
  unfold lastToken presetRows
  rw [List.filter_reverse, List.filter_reverse, List.filterMap_reverse, List.head?_reverse]

/-- The token of a recreated rule is the sent one, or else the one that was kept under its name and metric. -/
def recreatedToken (tokens : String → AlertMetric → Option EncryptedToken) (body : AlertRuleBase F) :
    Option EncryptedToken :=
  (encryptToken body.webhookToken body.webhookUrl).or (tokens body.name body.metric)

/-- The row of a recreated rule. -/
def recreatedRow (tokens : String → AlertMetric → Option EncryptedToken) (id presetId : Int)
    (updatedBy now : String) (body : AlertRuleBase F) : AlertRule String :=
  { newRow id (.preset presetId) body updatedBy now with webhookToken := recreatedToken tokens body }

/-- Setting a token on the row that was created last changes no other row. -/
theorem setToken_created (body : AlertRuleBase F) (token : EncryptedToken) :
    (setToken (createRule db (.preset presetId) body updatedBy now) (nextRuleId db) token).rules =
      db.rules ++
        [{ newRow (nextRuleId db) (.preset presetId) body updatedBy now with webhookToken := some token }] := by
  have others : ∀ row ∈ db.rules,
      (if row.id = nextRuleId db then { row with webhookToken := some token } else row) = row := by
    intro row stored
    apply if_neg
    intro same
    exact next_key_unused (db.rules.map AlertRule.id) (List.mem_map.mpr ⟨row, stored, same⟩)
  have own : (newRow (nextRuleId db) (.preset presetId) body updatedBy now).id = nextRuleId db := rfl
  unfold setToken createRule
  dsimp only
  rw [List.map_append, List.map_congr_left others, List.map_id', List.map_singleton, if_pos own]

theorem recreateRule_rules (tokens : String → AlertMetric → Option EncryptedToken) (body : AlertRuleBase F) :
    (recreateRule tokens presetId updatedBy now db body).rules =
      db.rules ++ [recreatedRow tokens (nextRuleId db) presetId updatedBy now body] := by
  unfold recreateRule recreatedRow recreatedToken encryptToken
  dsimp only
  cases sent : Text.truthy body.webhookToken with
  | some plain =>
      have created : (newRow (nextRuleId db) (.preset presetId) body updatedBy now).webhookToken =
          some ⟨plain, body.webhookUrl⟩ := by
        show (Text.truthy body.webhookToken).map _ = _
        rw [sent]
        rfl
      rw [Option.isSome_some, if_pos rfl, Option.map_some, Option.some_or, ← created]
      rfl
  | none =>
      have created : (newRow (nextRuleId db) (.preset presetId) body updatedBy now).webhookToken = none := by
        show (Text.truthy body.webhookToken).map _ = _
        rw [sent]
        rfl
      rw [Option.isSome_none, if_neg Bool.false_ne_true, Option.map_none, Option.none_or]
      cases tokens body.name body.metric with
      | some token => exact setToken_created body token
      | none =>
          show db.rules ++ [newRow (nextRuleId db) (.preset presetId) body updatedBy now] = _
          rw [← created]

/-- Recreated rules come after the stored ones, each with its token. -/
theorem presetTokens_recreateRules (tokens : String → AlertMetric → Option EncryptedToken)
    (bodies : List (AlertRuleBase F)) :
    presetTokens (recreateRules db tokens presetId bodies updatedBy now) presetId =
      presetTokens db presetId ++ bodies.map (recreatedToken tokens) := by
  induction bodies generalizing db with
  | nil => exact (List.append_nil _).symm
  | cons body rest ih =>
      have first : presetTokens (recreateRule tokens presetId updatedBy now db body) presetId =
          presetTokens db presetId ++ [recreatedToken tokens body] := by
        have own : (decide ((recreatedRow tokens (nextRuleId db) presetId updatedBy now body).scope = .preset) &&
            decide ((recreatedRow tokens (nextRuleId db) presetId updatedBy now body).presetId = some presetId)) =
              true := by
          simp [recreatedRow, newRow]
        unfold presetTokens presetRows
        rw [recreateRule_rules, List.filter_append, List.filter_singleton, own, List.map_append]
        rfl
      have later : presetTokens (recreateRules (recreateRule tokens presetId updatedBy now db body) tokens presetId
          rest updatedBy now) presetId =
            presetTokens (recreateRule tokens presetId updatedBy now db body) presetId ++
              rest.map (recreatedToken tokens) := ih
      rw [first, List.append_assoc] at later
      exact later

/-- A submitted rule and the stored rule that it stands for. -/
structure RuleEdit (F : Type) where
  stored : AlertRule String
  body : AlertRuleBase F

/-- A new token replaces the stored one, which stays otherwise. -/
def RuleEdit.token (edit : RuleEdit F) : Option EncryptedToken :=
  (encryptToken edit.body.webhookToken edit.body.webhookUrl).or edit.stored.webhookToken

/-- The accepted update leaves the rules with the tokens that were sent for them, or else under their names. -/
theorem presetTokens_updatePreset {name : Option String} {bodies : List (AlertRuleBase F)}
    (accepted : updatePreset db presetId name (some bodies) updatedBy now = some after) :
    presetTokens after presetId = bodies.map (recreatedToken (lastToken db presetId)) := by
  have kept : existingTokens db presetId = lastToken db presetId := by
    funext name metric
    exact existingTokens_eq db presetId name metric
  have cleared (db : AlertDb F) : presetTokens
      (deleteRules db fun row => row.scope = .preset && row.presetId = some presetId) presetId = [] := by
    unfold presetTokens presetRows deleteRules
    rw [List.filter_filter, List.map_eq_nil_iff, List.filter_eq_nil_iff]
    intro row _
    simp
  have replaced := (Option.ite_none_left_eq_some.mp (Option.ite_none_left_eq_some.mp accepted).2).2
  rw [← Option.some.inj replaced, presetTokens_recreateRules, cleared, List.nil_append, kept]

/-- An accepted update of a preset changes the tokens of the rules that carry new ones and no others exactly when each
of the others has the token of the last stored rule with a token under its name and metric, or none without such a
rule. -/
theorem update_keeps_tokens_iff {name : Option String} {edits : List (RuleEdit F)}
    (accepted : updatePreset db presetId name (some (edits.map RuleEdit.body)) updatedBy now = some after) :
    presetTokens after presetId = edits.map RuleEdit.token ↔
      ∀ edit ∈ edits, Text.truthy edit.body.webhookToken = none →
        lastToken db presetId edit.body.name edit.body.metric = edit.stored.webhookToken := by
  rw [presetTokens_updatePreset accepted, List.map_map, List.map_inj_left]
  apply forall₂_congr
  intro edit _
  unfold Function.comp recreatedToken RuleEdit.token encryptToken
  cases sent : Text.truthy edit.body.webhookToken with
  | none => simp
  | some plain => simp

section Examples

/-- A preset with two rules of one name and metric, of which only the first one has a token. -/
def twoReceivers : AlertDb Nat where
  presets := [⟨1, "Server"⟩]
  rules := [{ newRow 1 (.preset 1) cpuBody "admin" "2026-01-01" with
      webhookUrl := some "https://hook.example", webhookToken := some ⟨"secret", some "https://hook.example"⟩ },
    { newRow 2 (.preset 1) cpuBody "admin" "2026-01-02" with webhookUrl := some "https://other.example" }]

/-- The same rules are submitted without tokens. -/
def resubmitted : List (RuleEdit Nat) :=
  [⟨{ newRow 1 (.preset 1) cpuBody "admin" "2026-01-01" with
      webhookUrl := some "https://hook.example", webhookToken := some ⟨"secret", some "https://hook.example"⟩ },
      { cpuBody with webhookUrl := some "https://hook.example" }⟩,
    ⟨{ newRow 2 (.preset 1) cpuBody "admin" "2026-01-02" with webhookUrl := some "https://other.example" },
      { cpuBody with webhookUrl := some "https://other.example" }⟩]

theorem update_keeps_tokens_iff_resubmitted :
    (updatePreset twoReceivers 1 none (some (resubmitted.map RuleEdit.body)) "admin" "2026-01-03").map
        (presetTokens · 1) = some (resubmitted.map RuleEdit.token) ↔
      ∀ edit ∈ resubmitted, Text.truthy edit.body.webhookToken = none →
        lastToken twoReceivers 1 edit.body.name edit.body.metric = edit.stored.webhookToken := by
  cases updated : updatePreset twoReceivers 1 none (some (resubmitted.map RuleEdit.body)) "admin" "2026-01-03" with
  | none => cases updated
  | some after =>
      rw [Option.map_some, Option.some_inj]
      exact update_keeps_tokens_iff updated

/-- The rule that had no token is left with the secret of the other one, which goes to another receiver. -/
theorem resubmission_copies_token :
    resubmitted.map RuleEdit.stored = presetRows twoReceivers 1 ∧
    resubmitted.map RuleEdit.token = [some ⟨"secret", some "https://hook.example"⟩, none] ∧
    (updatePreset twoReceivers 1 none (some (resubmitted.map RuleEdit.body)) "admin" "2026-01-03").map
        (presetTokens · 1) =
      some [some ⟨"secret", some "https://hook.example"⟩, some ⟨"secret", some "https://hook.example"⟩] := by
  decide +kernel

end Examples
end

section
variable {F : Type} [PythonFloat F]

/-- Every stored token was stored for the receiver that its rule has. -/
def AtHome (db : AlertDb F) : Prop :=
  ∀ row ∈ db.rules, ∀ token, row.webhookToken = some token → token.storedFor = row.webhookUrl

section Edits
variable {db after : AlertDb F} {isPlus : Bool}

/-- An update that keeps the token of a rule keeps its receiver. -/
def UpdateKeepsReceiver (db : AlertDb F) (ruleId : Int) (updates : GlobalRuleUpdateRequest F) : Prop :=
  ∀ row, db.rules.find? (fun row => row.id = ruleId) = some row → row.webhookToken.isSome →
    Text.truthy updates.webhookToken.join = none → updates.webhookUrl.getD row.webhookUrl = row.webhookUrl

/-- A rule of a preset that takes over a token has the receiver of the rule that had it. -/
def PresetKeepsReceivers (db : AlertDb F) (presetId : Int) (bodies : List (AlertRuleBase F)) : Prop :=
  ∀ body ∈ bodies, Text.truthy body.webhookToken = none → ∀ row, tokenRule db presetId body.name body.metric = some row →
    body.webhookUrl = row.webhookUrl

/-- An edit moves no stored token to another receiver. -/
def EditKeepsReceivers (isPlus : Bool) (db : AlertDb F) : AlertEdit F → Prop
  | .updateGlobalRule ruleId updates _ => isGlobalRule db ruleId = true → UpdateKeepsReceiver db ruleId updates
  | .updateVmRule vm ruleId updates _ => isVmRule db vm ruleId = true → UpdateKeepsReceiver db ruleId updates
  | .updatePreset presetId _ (some rules) _ _ =>
      isPlus = true → PresetKeepsReceivers db presetId (rules.map RuleCreateRequest.body)
  | _ => True

/-- A token that is encrypted with a request is stored for the URL of the request. -/
theorem encryptToken_storedFor {sent webhookUrl : Option String} {token : EncryptedToken}
    (encrypted : encryptToken sent webhookUrl = some token) : token.storedFor = webhookUrl := by
  obtain ⟨plain, _, rfl⟩ := Option.map_eq_some_iff.mp encrypted
  rfl

omit [PythonFloat F] in
theorem atHome_of_rules (home : AtHome db) (fewer : ∀ row ∈ after.rules, row ∈ db.rules) : AtHome after :=
  fun row member => home row (fewer row member)

theorem atHome_createRule (home : AtHome db) (place : RulePlace) (body : AlertRuleBase F) (createdBy now : String) :
    AtHome (createRule db place body createdBy now) := by
  intro row member token stored
  rcases List.mem_append.mp member with old | new
  · exact home row old token stored
  · rw [List.mem_singleton.mp new] at stored ⊢
    exact encryptToken_storedFor stored

theorem atHome_createRules (home : AtHome db) (place : RulePlace) (bodies : List (AlertRuleBase F))
    (createdBy now : String) : AtHome (createRules db place bodies createdBy now) := by
  induction bodies generalizing db with
  | nil => exact home
  | cons body rest ih => exact ih (atHome_createRule home place body createdBy now)

theorem atHome_updateRule (home : AtHome db) {ruleId : Int} {updates : GlobalRuleUpdateRequest F} {now : String}
    (kept : UpdateKeepsReceiver db ruleId updates) (updated : updateRule db ruleId updates now = some after) :
    AtHome after := by
  obtain ⟨row, found, listed, _, patched, changed, rfl⟩ := updateRule_eq updated
  obtain ⟨name, metric, sustainedPolls, _, _, _, rfl⟩ := patchRow_eq changed
  intro other member token stored
  obtain ⟨old, present, shown⟩ := List.mem_map.mp member
  split at shown
  · rw [← shown] at stored ⊢
    dsimp only at stored ⊢
    rcases Option.or_eq_some_iff.mp stored with encrypted | ⟨unsent, before⟩
    · exact encryptToken_storedFor encrypted
    · have silent : Text.truthy updates.webhookToken.join = none := Option.map_eq_none_iff.mp unsent
      rw [kept row found (by rw [before]; rfl) silent]
      exact home row listed token before
  · rw [← shown] at stored ⊢
    exact home old present token stored

omit [PythonFloat F] in
/-- The rule whose token is taken over is stored with it. -/
theorem tokenRule_mem {presetId : Int} {name : String} {metric : AlertMetric} {row : AlertRule String}
    (found : tokenRule db presetId name metric = some row) : row ∈ db.rules :=
  List.mem_reverse.mp (List.mem_of_mem_filter (List.mem_of_find?_eq_some found))

/-- The token is attached to the row that was just created. -/
theorem atHome_recreateRule (home : AtHome db) {tokens : String → AlertMetric → Option EncryptedToken} (presetId : Int)
    {body : AlertRuleBase F} (updatedBy now : String)
    (kept : Text.truthy body.webhookToken = none → ∀ token, tokens body.name body.metric = some token →
      token.storedFor = body.webhookUrl) :
    AtHome (recreateRule tokens presetId updatedBy now db body) := by
  have created := atHome_createRule home (.preset presetId) body updatedBy now
  rcases recreateRule_cases tokens presetId updatedBy now db body with plain | ⟨token, prior, unsent, attached⟩
  · rw [plain]
    exact created
  · rw [attached]
    intro row member other stored
    rcases mem_setToken member with old | ⟨old, listed, named, rfl⟩
    · exact created row old other stored
    · rw [← Option.some.inj stored, kept unsent token prior]
      rcases List.mem_append.mp listed with before | new
      · have fresh : nextRuleId db ∉ db.rules.map AlertRule.id := next_key_unused _
        rw [← named] at fresh
        exact absurd (List.mem_map_of_mem before) fresh
      · rw [List.mem_singleton.mp new]
        rfl

theorem atHome_recreateRules (home : AtHome db) {tokens : String → AlertMetric → Option EncryptedToken} (presetId : Int)
    {bodies : List (AlertRuleBase F)} (updatedBy now : String)
    (kept : ∀ body ∈ bodies, Text.truthy body.webhookToken = none → ∀ token, tokens body.name body.metric = some token →
      token.storedFor = body.webhookUrl) :
    AtHome (recreateRules db tokens presetId bodies updatedBy now) := by
  induction bodies generalizing db with
  | nil => exact home
  | cons body rest ih =>
      apply ih (atHome_recreateRule home presetId updatedBy now (kept body List.mem_cons_self))
      intro other member
      exact kept other (List.mem_cons_of_mem body member)

theorem atHome_edited {edit : AlertEdit F} (home : AtHome db) (kept : EditKeepsReceivers isPlus db edit)
    (accepted : accept isPlus db edit = some after) : AtHome after := by
  cases edited_of_accept accepted with
  | createdGlobal | createdVm => exact atHome_createRule home _ _ _ _
  | updatedGlobal scope updated | updatedVm _ scope updated => exact atHome_updateRule home (kept scope) updated
  | deletedGlobal | deletedVm | presetDeleted =>
      exact atHome_of_rules home fun row member => List.mem_of_mem_filter member
  | presetCreated sent presets =>
      have listed : AtHome { db with presets := presets } := home
      exact atHome_createRules listed _ _ _ _
  | presetRenamed | unassigned => exact home
  | presetReplaced presetId name rules updatedBy now presets =>
      have fewer : AtHome (deleteRules { db with presets := presets }
          fun row => row.scope = .preset && row.presetId = some presetId) :=
        atHome_of_rules home fun row member => List.mem_of_mem_filter member
      apply atHome_recreateRules fewer
      intro body sent silent token prior
      obtain ⟨row, found, stored⟩ := Option.bind_eq_some_iff.mp prior
      have licensed : isPlus = true := by simpa using (Option.ite_none_left_eq_some.mp accepted).1
      rw [kept licensed body sent silent row found]
      exact home row (tokenRule_mem found) token stored
  | assigned made =>
      rw [← Option.some.inj (Option.ite_none_left_eq_some.mp made).2]
      exact home
  | overrides made =>
      rw [← Option.some.inj (Option.ite_none_right_eq_some.mp made).2]
      exact home

theorem atHome_applyEdit {edit : AlertEdit F} (home : AtHome db) (kept : EditKeepsReceivers isPlus db edit) :
    AtHome (applyEdit isPlus db edit) := by
  unfold applyEdit
  cases accepted : accept isPlus db edit with
  | none => exact home
  | some after => exact atHome_edited home kept accepted

end Edits

section Histories
variable (checkNetloc : List Char → Except String Unit) {lower : String → String} {isPlus : Bool}

/-- A receiver of this type at this URL is sent the token. -/
def TakesToken (receiverType url : String) : Prop :=
  receiverType = "gotify" ∨ isGotifyUrl checkNetloc url = false ∧ receiverType ∉ ["slack", "mattermost", "discord"]

/-- The stored token of a rule is only read for its own receiver, or for one that is not sent it. -/
def ReadForReceiver (db : AlertDb F) (ruleId : Int) (receiver receiverType : String) : Prop :=
  ∀ row, db.rules.find? (fun row => row.id = ruleId) = some row → row.webhookToken.isSome →
    TakesToken checkNetloc receiverType receiver → row.webhookUrl = some receiver

/-- A step keeps the receivers of the stored tokens, and a request that reads one is for its receiver. -/
def KeepsReceivers (isPlus : Bool) (state : Alerting F) : AlertingStep F → Prop
  | .edit edit => EditKeepsReceivers isPlus state.db edit
  | .notify index => ∀ notification, state.notifications[index]? = some notification → notification.isPlus = true →
      ∀ webhookUrl, Text.truthy notification.webhookUrl = some webhookUrl →
        ReadForReceiver checkNetloc state.db notification.ruleId webhookUrl
          (Text.orElse notification.webhookReceiverType "custom")
  | .testWebhook _ body => Text.truthy body.webhookToken = none → ∀ ruleId, body.ruleId = some ruleId → ruleId ≠ 0 →
      ReadForReceiver checkNetloc state.db ruleId body.webhookUrl (Text.orElse (some body.webhookReceiverType) "custom")
  | _ => True

/-- A stored token goes to no other URL than the one it was stored for. -/
def Delivery.Confined (delivery : Delivery) : Prop :=
  ∀ token, delivery.stored = some token → delivery.carriesToken = true → token.storedFor = some delivery.receiver

variable {checkNetloc}

/-- A request that carries a token is for a receiver that takes one. -/
theorem takesToken_of_carries {receiver receiverType : String} {supplied : Option String} {stored : Option EncryptedToken}
    (carries : (post checkNetloc receiver supplied stored receiverType).carriesToken = true) :
    TakesToken checkNetloc receiverType receiver := by
  by_cases gotify : receiverType = "gotify"
  · exact .inl gotify
  · unfold post Delivery.carriesToken buildEffectiveUrl authorization at carries
    simp only [gotify, decide_false, Bool.false_and, Bool.false_eq_true, if_false, ne_eq, not_true_eq_false,
      Bool.false_or] at carries
    split at carries
    · cases carries
    · rename_i other
      split at carries
      · cases carries
      · rename_i takes
        exact .inr ⟨by simpa using other, by simpa [and_assoc] using takes⟩

omit [PythonFloat F] in
theorem confined_post {db : AlertDb F} (home : AtHome db) {ruleId : Int} {receiver receiverType : String}
    (read : ReadForReceiver checkNetloc db ruleId receiver receiverType) {supplied : Option String}
    {stored : Option EncryptedToken} (source : ∀ token, stored = some token → getRawWebhookToken db ruleId = some token) :
    (post checkNetloc receiver supplied stored receiverType).Confined := by
  intro token kept carries
  obtain ⟨row, found, held⟩ := Option.bind_eq_some_iff.mp (source token kept)
  rw [home row (List.mem_of_find?_eq_some found) token held]
  exact read row found (by rw [held]; rfl) (takesToken_of_carries carries)

/-- A test reads the token of the rule that it names, and only when it supplies none. -/
theorem confined_testWebhook {state : Alerting F} (home : AtHome state.db) {username : String} {body : TestWebhookRequest}
    (kept : KeepsReceivers checkNetloc isPlus state (.testWebhook username body)) :
    (testWebhook checkNetloc state.db body).Confined := by
  unfold testWebhook
  dsimp only
  cases supplied : Text.truthy body.webhookToken with
  | some plain =>
      intro token absent
      cases absent
  | none =>
      cases named : body.ruleId.filter (· ≠ 0) with
      | none =>
          intro token absent
          cases absent
      | some ruleId =>
          obtain ⟨present, nonzero⟩ := Option.filter_eq_some_iff.mp named
          apply confined_post home (kept supplied ruleId present (by simpa using nonzero))
          intro token stored
          exact stored

theorem confined_sendWebhook {state : Alerting F} (home : AtHome state.db) {index : Nat} {notification : Notification}
    (kept : KeepsReceivers checkNetloc isPlus state (.notify index))
    (waiting : state.notifications[index]? = some notification) {delivery : Delivery}
    (sent : sendWebhook checkNetloc state.db notification = some delivery) : delivery.Confined := by
  obtain ⟨licensed, made⟩ := Option.ite_none_right_eq_some.mp sent
  obtain ⟨webhookUrl, present, rfl⟩ := Option.map_eq_some_iff.mp made
  apply confined_post home (kept notification waiting licensed webhookUrl present)
  intro token stored
  exact stored

/-- All tokens are at home and none was sent elsewhere. -/
structure Guarded (state : Alerting F) : Prop where
  home : AtHome state.db
  confined : ∀ delivery ∈ state.deliveries, delivery.Confined

/-- One step that keeps the receivers keeps the tokens at home. -/
theorem guarded_step (state : Alerting F) (step : AlertingStep F) (guarded : Guarded state)
    (kept : KeepsReceivers checkNetloc isPlus state step) :
    Guarded (alertingStep checkNetloc lower isPlus state step) := by
  cases step with
  | edit edit => exact ⟨atHome_applyEdit guarded.home kept, guarded.confined⟩
  | start nodeId vmsData => exact ⟨guarded.home, guarded.confined⟩
  | nextVm index =>
      unfold alertingStep
      dsimp only
      split
      · exact ⟨guarded.home, guarded.confined⟩
      · exact guarded
  | nextCheck index =>
      unfold alertingStep
      dsimp only
      split
      · refine ⟨?_, guarded.confined⟩
        unfold AtHome
        rw [(tables_processSeverity _ _).1]
        exact guarded.home
      · exact guarded
  | notify index =>
      unfold alertingStep
      dsimp only
      split
      · rename_i notification waiting
        refine ⟨guarded.home, ?_⟩
        intro delivery member
        rcases List.mem_append.mp member with before | sent
        · exact guarded.confined delivery before
        · exact confined_sendWebhook guarded.home kept waiting (Option.mem_toList.mp sent)
      · exact guarded
  | testWebhook username body =>
      refine ⟨guarded.home, ?_⟩
      intro delivery member
      rcases List.mem_append.mp member with before | sent
      · exact guarded.confined delivery before
      · rw [List.mem_singleton.mp sent]
        exact confined_testWebhook guarded.home kept

/-- In a history that keeps the receivers of the stored tokens, every stored token that was sent went to the URL that
it was stored for. -/
theorem tokens_stay (steps : List (AlertingStep F))
    (kept : ∀ visit ∈ visits (alertingStep checkNetloc lower isPlus) {} steps,
      KeepsReceivers checkNetloc isPlus visit.1 visit.2) :
    ∀ state ∈ reached (alertingStep checkNetloc lower isPlus) {} steps, ∀ delivery ∈ state.deliveries,
      delivery.Confined := by
  have start : Guarded ({} : Alerting F) := by
    constructor
    · intro row absent
      cases absent
    · intro delivery absent
      cases absent
  intro state passed
  exact (reached_invariant _ guarded_step steps start kept state passed).confined

end Histories

section Examples
def hookBody : AlertRuleBase Nat :=
  { cpuBody with webhookUrl := some "https://hook.example", webhookToken := some "secret" }

def hookRequest : RuleCreateRequest Nat := ⟨hookBody, hookBody, by decide +kernel⟩

def testAt (webhookUrl : String) (isHttp : Text.startsWith "http://" webhookUrl || Text.startsWith "https://" webhookUrl) :
    TestWebhookRequest :=
  { webhookUrl := webhookUrl, ruleId := some 1, isHttp := isHttp }

/-- A test at the receiver of the rule sends the token there. -/
theorem tokens_stay_test :
    ¬ ∃ state ∈ reached (alertingStep (fun _ => .ok ()) id true) {}
        [.edit (.createGlobalRule hookRequest "admin" "2026-01-01"),
          .testWebhook "bob" (testAt "https://hook.example" (by decide +kernel))],
      ∃ delivery ∈ state.deliveries, ¬ delivery.Confined := by
  rintro ⟨state, passed, delivery, sent, loose⟩
  apply loose
  refine tokens_stay _ ?_ state passed delivery sent
  intro visit member
  rcases List.mem_cons.mp member with first | second
  · rw [first]
    trivial
  · rw [List.mem_singleton.mp second]
    intro _ ruleId named _ row found _ _
    rw [← Option.some.inj named] at found
    have created : newRow 1 .global hookBody "admin" "2026-01-01" = row := Option.some.inj found
    rw [← created]
    rfl

/-- Any user tests a URL of his own with the number of a rule and is sent its token. -/
theorem token_sent_elsewhere :
    ∃ delivery ∈ (run (alertingStep (fun _ => .ok ()) id true) {} [.edit (.createGlobalRule hookRequest "admin" "2026-01-01"),
        .testWebhook "bob" (testAt "https://other.example" (by decide +kernel))]).deliveries,
      delivery = ⟨"https://other.example", some ⟨"secret", some "https://hook.example"⟩, "https://other.example",
        some "Bearer secret"⟩ ∧ ¬ delivery.Confined := by
  have sent : (run (alertingStep (fun _ => .ok ()) id true) {} [.edit (.createGlobalRule hookRequest "admin" "2026-01-01"),
      .testWebhook "bob" (testAt "https://other.example" (by decide +kernel))]).deliveries =
        [⟨"https://other.example", some ⟨"secret", some "https://hook.example"⟩, "https://other.example",
          some "Bearer secret"⟩] := by decide +kernel
  rw [sent]
  refine ⟨_, List.mem_singleton_self _, rfl, ?_⟩
  intro confined
  have same := confined _ rfl (by decide)
  revert same
  decide

end Examples
end
end P3Portal.Alerts
