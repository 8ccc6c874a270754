import P3Portal.Construction.Alerts.RuleService
import P3Portal.Foundation.Precedence

namespace P3Portal.Alerts
open Foundation Precedence

section Layers
variable {F : Type}

/-- A layer writes rules of its own list over those below. -/
theorem layered (holds : EffectiveRule F → Prop) {layer : Effective F → AlertRule F → Effective F}
    {written : AlertRule F → EffectiveRule F}
    (once : ∀ effective rule, layer effective rule = effective ∨
      rule.enabled = true ∧ layer effective rule = effective.set rule.metric (written rule))
    {rules : List (AlertRule F)} (fine : ∀ rule ∈ rules, rule.enabled = true → holds (written rule))
    {effective : Effective F} (below : ∀ entry ∈ effective.entries, holds entry.2) :
    ∀ entry ∈ (rules.foldl layer effective).entries, holds entry.2 := by
  induction rules generalizing effective with
  | nil => exact below
  | cons rule rest ih =>
      apply ih fun later member => fine later (List.mem_cons_of_mem _ member)
      rcases once effective rule with kept | ⟨enabled, wrote⟩
      · rw [kept]
        exact below
      · rw [wrote]
        intro entry member
        rcases (OrderedMap.mem_set _ _ _ _).mp member with new | ⟨_, old⟩
        · rw [new]
          exact fine rule List.mem_cons_self enabled
        · exact below entry old

theorem layerGlobal_once (effective : Effective F) (rule : AlertRule F) : layerGlobal effective rule = effective ∨
    rule.enabled = true ∧ layerGlobal effective rule =
      effective.set rule.metric { toAlertRule := rule, source := .global } := by
  unfold layerGlobal
  split
  · exact .inl rfl
  · rename_i written
    simp only [Bool.or_eq_true, not_or, Bool.not_eq_true, Bool.not_eq_false'] at written
    exact .inr ⟨written.1, rfl⟩

theorem layerPreset_once (overrides : List (ThresholdOverride F)) (effective : Effective F) (rule : AlertRule F) :
    layerPreset overrides effective rule = effective ∨
      rule.enabled = true ∧ layerPreset overrides effective rule =
        effective.set rule.metric (withOverrides overrides rule) := by
  unfold layerPreset
  cases enabled : rule.enabled with
  | false => exact .inl rfl
  | true => exact .inr ⟨rfl, rfl⟩

theorem layerVm_once (effective : Effective F) (rule : AlertRule F) : layerVm effective rule = effective ∨
    rule.enabled = true ∧ layerVm effective rule =
      effective.set rule.metric { toAlertRule := rule, source := .vm } := by
  unfold layerVm
  cases enabled : rule.enabled with
  | false => exact .inl rfl
  | true => exact .inr ⟨rfl, rfl⟩

end Layers

section Sources
variable {F : Type} [PythonFloat F] {db : AlertDb F} {vm : VmKey} {isPlus : Bool}

/-- The rule is a stored enabled rule, or a rule of a preset with an override of the guest. -/
def Stored (db : AlertDb F) (vm : VmKey) (rule : EffectiveRule F) : Prop :=
  ∃ row ∈ db.rules, row.enabled = true ∧
    (rule.toAlertRule = rowToRule row ∨
      row.scope = .preset ∧ ∃ override ∈ listOverrides db vm,
        override.ruleId = row.id ∧ rule.toAlertRule = overridden override (rowToRule row))

/-- The lists of rules show stored rows. -/
theorem mem_listed {selected : AlertRule String → Bool} {rule : AlertRule F}
    (listed : rule ∈ (orderByCreatedAt (db.rules.filter selected)).map rowToRule) :
    ∃ row ∈ db.rules, selected row = true ∧ rowToRule row = rule := by
  obtain ⟨row, member, shown⟩ := List.mem_map.mp listed
  have stored := List.mem_filter.mp ((List.mem_insertionSort _).mp member)
  exact ⟨row, stored.1, stored.2, shown⟩

theorem mem_getVmPreset {rules : List (AlertRule F)} (assigned : getVmPreset db vm = some rules)
    {rule : AlertRule F} (member : rule ∈ rules) :
    ∃ row ∈ db.rules, row.scope = .preset ∧ rowToRule row = rule := by
  obtain ⟨assignment, _, found⟩ := Option.bind_eq_some_iff.mp assigned
  obtain ⟨preset, _, listed⟩ := Option.bind_eq_some_iff.mp found
  rw [← Option.some.inj listed] at member
  obtain ⟨row, stored, selected, shown⟩ := mem_listed member
  simp only [Bool.and_eq_true, decide_eq_true_eq] at selected
  exact ⟨row, stored, selected.1, shown⟩

/-- Every effective rule is stored. -/
theorem getEffectiveRules_stored : ∀ rule ∈ getEffectiveRules db isPlus vm, Stored db vm rule := by
  have plain {row : AlertRule String} (stored : row ∈ db.rules) (enabled : row.enabled = true) (source : AlertScope) :
      Stored db vm { toAlertRule := rowToRule row, source := source } := ⟨row, stored, enabled, .inl rfl⟩
  have global : ∀ entry ∈ ((listGlobalRules db).foldl layerGlobal .empty).entries, Stored db vm entry.2 := by
    apply layered (Stored db vm) layerGlobal_once
    · intro rule listed enabled
      obtain ⟨row, stored, _, rfl⟩ := mem_listed listed
      exact plain stored enabled _
    · intro entry absent
      cases absent
  intro rule member
  obtain ⟨entry, inside, rfl⟩ := List.mem_map.mp member
  revert entry
  unfold mergeLayers
  intro entry inside _
  apply layered (Stored db vm) layerVm_once _ _ entry inside
  · intro rule listed enabled
    obtain ⟨row, stored, _, rfl⟩ := mem_listed listed
    exact plain stored enabled _
  · apply layered (Stored db vm) (layerPreset_once _) _ global
    intro rule listed enabled
    cases assigned : (if isPlus then getVmPreset db vm else none) with
    | none =>
        rw [assigned] at listed
        cases listed
    | some rules =>
        have plus : isPlus = true := by
          cases isPlus with
          | true => rfl
          | false => cases assigned
        rw [assigned] at listed
        rw [if_pos plus] at assigned
        obtain ⟨row, stored, scope, rfl⟩ := mem_getVmPreset assigned listed
        simp only [plus, Option.isSome_some, Bool.and_self, if_true]
        unfold withOverrides
        split
        · exact plain stored enabled _
        · rename_i override found
          have hit := List.find?_some found
          exact ⟨row, stored, enabled, .inr ⟨scope, override,
            List.mem_reverse.mp (List.mem_of_find?_eq_some found), of_decide_eq_true hit, rfl⟩⟩

end Sources

section Layers
variable {F : Type} {db : AlertDb F} {isPlus : Bool} {vm : VmKey} {metric : AlertMetric}

/-- The preset that is assigned to the guest. -/
def assignedPreset (db : AlertDb F) (vm : VmKey) : Option Int := do
  let assignment ← db.assignments.find? fun assignment => assignment.vm = vm
  let preset ← db.presets.find? fun preset => preset.id = assignment.presetId
  return preset.id

/-- The layers rise from the global rules over those of a preset to those of the guest. -/
def rank : AlertScope → Nat
  | .global => 1
  | .preset => 2
  | .vm => 3

/-- A stored rule belongs to one of the layers of the guest. -/
structure Applies (db : AlertDb F) (isPlus : Bool) (vm : VmKey) (row : AlertRule String) : Prop where
  stored : row ∈ db.rules
  preset : row.scope = .preset → isPlus = true ∧ ∃ presetId, assignedPreset db vm = some presetId ∧
    row.presetId = some presetId
  guest : row.scope = .vm → row.nodeId = some vm.nodeId ∧ row.vmid = some vm.vmid

/-- Such a rule is enabled and watches the metric. -/
structure Competes (db : AlertDb F) (isPlus : Bool) (vm : VmKey) (metric : AlertMetric) (row : AlertRule String) :
    Prop where
  applies : Applies db isPlus vm row
  enabled : row.enabled = true
  watches : row.metric = metric

/-- The stored rules of one layer in the order in which the merge reads them. -/
def layerRows (db : AlertDb F) (isPlus : Bool) (vm : VmKey) (scope : AlertScope) : List (AlertRule String) :=
  orderByCreatedAt (db.rules.filter fun row => row.scope = scope && match scope with
    | .global => true
    | .preset => isPlus && (assignedPreset db vm).isSome && row.presetId = assignedPreset db vm
    | .vm => row.nodeId = some vm.nodeId && row.vmid = some vm.vmid)

/-- Each layer holds the stored rules that belong to it. -/
theorem mem_layerRows {scope : AlertScope} {row : AlertRule String} :
    row ∈ layerRows db isPlus vm scope ↔ Applies db isPlus vm row ∧ row.scope = scope := by
  unfold layerRows orderByCreatedAt
  rw [List.mem_insertionSort, List.mem_filter]
  cases scope with
  | global =>
      simp only [Bool.and_true, decide_eq_true_eq]
      constructor
      · intro found
        exact ⟨⟨found.1, by simp [found.2], by simp [found.2]⟩, found.2⟩
      · intro found
        exact ⟨found.1.stored, found.2⟩
  | preset =>
      simp only [Bool.and_eq_true, decide_eq_true_eq, Option.isSome_iff_exists]
      constructor
      · intro found
        obtain ⟨stored, layer, ⟨plus, presetId, assigned⟩, named⟩ := found
        rw [assigned] at named
        exact ⟨⟨stored, fun _ => ⟨plus, presetId, assigned, named⟩, by simp [layer]⟩, layer⟩
      · intro found
        obtain ⟨applies, layer⟩ := found
        obtain ⟨plus, presetId, assigned, named⟩ := applies.preset layer
        exact ⟨applies.stored, layer, ⟨plus, presetId, assigned⟩, named.trans assigned.symm⟩
  | vm =>
      simp only [Bool.and_eq_true, decide_eq_true_eq]
      constructor
      · intro found
        obtain ⟨stored, layer, place⟩ := found
        exact ⟨⟨stored, by simp [layer], fun _ => place⟩, layer⟩
      · intro found
        exact ⟨found.1.stored, found.2, found.1.guest found.2⟩

/-- Among the enabled global rules of a metric the first one counts, and in the layers above the last one. -/
def pick (db : AlertDb F) (isPlus : Bool) (vm : VmKey) (metric : AlertMetric) (scope : AlertScope) :
    Option (AlertRule String) :=
  (if scope = .global then layerRows db isPlus vm scope else (layerRows db isPlus vm scope).reverse).find?
    fun row => row.enabled && row.metric = metric

/-- The highest layer with an enabled rule of the metric decides which stored rule counts. -/
def winningRow (db : AlertDb F) (isPlus : Bool) (vm : VmKey) (metric : AlertMetric) : Option (AlertRule String) :=
  (pick db isPlus vm metric .vm).or ((pick db isPlus vm metric .preset).or (pick db isPlus vm metric .global))

theorem pick_spec {scope : AlertScope} {row : AlertRule String} (picked : pick db isPlus vm metric scope = some row) :
    Competes db isPlus vm metric row ∧ row.scope = scope := by
  unfold pick at picked
  have allowed := List.find?_some picked
  have member := List.mem_of_find?_eq_some picked
  rw [Bool.and_eq_true, decide_eq_true_eq] at allowed
  have listed : row ∈ layerRows db isPlus vm scope := by
    split at member
    · exact member
    · exact List.mem_reverse.mp member
  obtain ⟨applies, layer⟩ := mem_layerRows.mp listed
  exact ⟨⟨applies, allowed.1, allowed.2⟩, layer⟩

/-- A layer without a pick has no enabled rule for the metric. -/
theorem scope_ne_of_pick_none {scope : AlertScope} (none : pick db isPlus vm metric scope = none)
    {row : AlertRule String} (competes : Competes db isPlus vm metric row) : row.scope ≠ scope := by
  intro layer
  have member := mem_layerRows.mpr ⟨competes.applies, layer⟩
  unfold pick at none
  rw [List.find?_eq_none] at none
  apply none row
  · split
    · exact member
    · exact List.mem_reverse.mpr member
  · simp [competes.enabled, competes.watches]

/-- Nothing ranks above the guest's own rules. -/
theorem rank_le_vm (scope : AlertScope) : rank scope ≤ rank .vm := by
  cases scope <;> decide

/-- The winning rule competes, and no other competing rule ranks higher. -/
theorem winningRow_spec {row : AlertRule String} (wins : winningRow db isPlus vm metric = some row) :
    Competes db isPlus vm metric row ∧
      ∀ other, Competes db isPlus vm metric other → rank other.scope ≤ rank row.scope := by
  unfold winningRow at wins
  cases own : pick db isPlus vm metric .vm with
  | some picked =>
      rw [own, Option.some_or, Option.some.injEq] at wins
      rw [wins] at own
      obtain ⟨competes, layer⟩ := pick_spec own
      rw [layer]
      exact ⟨competes, fun other _ => rank_le_vm other.scope⟩
  | none =>
      rw [own, Option.none_or] at wins
      cases preset : pick db isPlus vm metric .preset with
      | some picked =>
          rw [preset, Option.some_or, Option.some.injEq] at wins
          rw [wins] at preset
          obtain ⟨competes, layer⟩ := pick_spec preset
          refine ⟨competes, fun other rival => ?_⟩
          rw [layer]
          cases scope : other.scope with
          | vm => exact absurd scope (scope_ne_of_pick_none own rival)
          | preset => decide
          | global => decide
      | none =>
          rw [preset, Option.none_or] at wins
          obtain ⟨competes, layer⟩ := pick_spec wins
          refine ⟨competes, fun other rival => ?_⟩
          rw [layer]
          cases scope : other.scope with
          | vm => exact absurd scope (scope_ne_of_pick_none own rival)
          | preset => exact absurd scope (scope_ne_of_pick_none preset rival)
          | global => decide

/-- Without a winning rule nothing competes for the metric. -/
theorem not_competes_of_winningRow (absent : winningRow db isPlus vm metric = none) (row : AlertRule String) :
    ¬ Competes db isPlus vm metric row := by
  intro competes
  unfold winningRow at absent
  rw [Option.or_eq_none_iff, Option.or_eq_none_iff] at absent
  obtain ⟨own, preset, global⟩ := absent
  cases scope : row.scope with
  | vm => exact scope_ne_of_pick_none own competes scope
  | preset => exact scope_ne_of_pick_none preset competes scope
  | global => exact scope_ne_of_pick_none global competes scope

end Layers

section Merge
variable {F : Type} [PythonFloat F] {db : AlertDb F} {isPlus : Bool} {vm : VmKey} {metric : AlertMetric}

theorem getVmPreset_eq (db : AlertDb F) (vm : VmKey) :
    getVmPreset db vm = (assignedPreset db vm).map (listPresetRules db) := by
  unfold getVmPreset assignedPreset
  cases db.assignments.find? fun assignment => assignment.vm = vm with
  | none => rfl
  | some assignment => cases found : db.presets.find? fun preset => preset.id = assignment.presetId <;> simp [found]

/-- The layers of the merge are the rows of the layers in the form in which the service hands them out. -/
theorem layerRows_shown (db : AlertDb F) (isPlus : Bool) (vm : VmKey) :
    (layerRows db isPlus vm .global).map rowToRule = listGlobalRules db ∧
      (layerRows db isPlus vm .preset).map rowToRule = (if isPlus then getVmPreset db vm else none).getD [] ∧
      (layerRows db isPlus vm .vm).map rowToRule = listVmRules db vm := by
  refine ⟨?_, ?_, ?_⟩
  · simp [layerRows, listGlobalRules]
  · rw [getVmPreset_eq]
    cases isPlus with
    | false => simp [layerRows, orderByCreatedAt]
    | true =>
        cases assigned : assignedPreset db vm with
        | none => simp [layerRows, orderByCreatedAt, assigned]
        | some presetId => simp [layerRows, listPresetRules, assigned]
  · simp [layerRows, listVmRules, Bool.and_assoc]

/-- What the merge writes for a stored rule. -/
def written (db : AlertDb F) (vm : VmKey) (row : AlertRule String) : EffectiveRule F :=
  if row.scope = .preset then withOverrides (listOverrides db vm) (rowToRule row)
  else { toAlertRule := rowToRule row, source := row.scope }

/-- The merge over the stored rows of the layers. -/
theorem get?_mergeLayers_pick (db : AlertDb F) (isPlus : Bool) (vm : VmKey) (metric : AlertMetric) :
    (mergeLayers db isPlus vm).get? metric =
      ((pick db isPlus vm metric .vm).map fun row => { toAlertRule := rowToRule row, source := .vm }).or
        (((pick db isPlus vm metric .preset).map fun row =>
            withOverrides (if isPlus && (getVmPreset db vm).isSome then listOverrides db vm else []) (rowToRule row)).or
          ((pick db isPlus vm metric .global).map fun row => { toAlertRule := rowToRule row, source := .global })) := by
  have global : layerGlobal (F := F) = fill AlertRule.enabled AlertRule.metric
      fun rule => { toAlertRule := rule, source := .global } := by
    funext effective rule
    unfold layerGlobal fill
    cases rule.enabled <;> cases effective.get? rule.metric <;> rfl
  have preset (overrides : List (ThresholdOverride F)) :
      layerPreset overrides = overwrite AlertRule.enabled AlertRule.metric (withOverrides overrides) := by
    funext effective rule
    unfold layerPreset overwrite
    cases rule.enabled <;> rfl
  have guest : layerVm (F := F) = overwrite AlertRule.enabled AlertRule.metric
      fun rule => { toAlertRule := rule, source := .vm } := by
    funext effective rule
    unfold layerVm overwrite
    cases rule.enabled <;> rfl
  have shown (rows : List (AlertRule String)) :
      ((rows.map rowToRule).find? fun rule : AlertRule F => rule.enabled && rule.metric = metric) =
        (rows.find? fun row => row.enabled && row.metric = metric).map rowToRule := List.find?_map ..
  obtain ⟨globalRows, presetRows, guestRows⟩ := layerRows_shown db isPlus vm
  unfold mergeLayers
  rw [global, guest, get?_foldl_overwrite, preset, get?_foldl_overwrite, get?_foldl_fill, OrderedMap.get?_empty,
    Option.none_or, ← globalRows, ← presetRows, ← guestRows, ← List.map_reverse, ← List.map_reverse, shown, shown,
    shown, Option.map_map, Option.map_map, Option.map_map]
  cases isPlus <;> rfl

/-- The merged rule of a metric is what the merge writes for the winning rule. -/
theorem get?_mergeLayers (db : AlertDb F) (isPlus : Bool) (vm : VmKey) (metric : AlertMetric) :
    (mergeLayers db isPlus vm).get? metric = (winningRow db isPlus vm metric).map (written db vm) := by
  rw [get?_mergeLayers_pick]
  unfold winningRow written
  cases own : pick db isPlus vm metric .vm with
  | some row => simp [(pick_spec own).2]
  | none =>
      cases preset : pick db isPlus vm metric .preset with
      | some row =>
          obtain ⟨competes, layer⟩ := pick_spec preset
          obtain ⟨plus, presetId, assigned, named⟩ := competes.applies.preset layer
          simp [getVmPreset_eq, plus, assigned, layer]
      | none =>
          cases global : pick db isPlus vm metric .global with
          | some row => simp [(pick_spec global).2]
          | none => rfl

/-- The rule that is stored: its thresholds are decoded, and its token is left out on purpose. -/
def storedRule (row : AlertRule String) : AlertRule F :=
  { row with
    warningThreshold := decodeThreshold row.warningThreshold
    criticalThreshold := decodeThreshold row.criticalThreshold
    webhookToken := none }

/-- The readers of a rule take a missing TLS switch for one that is on. -/
def AlertRule.asRead (rule : AlertRule F) : AlertRule F :=
  { rule with webhookVerifySsl := some (rule.webhookVerifySsl.getD true) }

/-- The override of the guest for a rule of its preset; of several the last one counts. -/
def appliedOverride (db : AlertDb F) (vm : VmKey) (row : AlertRule String) : Option (ThresholdOverride F) :=
  if row.scope = .preset then (listOverrides db vm).reverse.find? fun override => override.ruleId = row.id else none

/-- The rule is the stored enabled one of the highest layer that has one, with the thresholds of its override. -/
structure Governs (db : AlertDb F) (isPlus : Bool) (vm : VmKey) (metric : AlertMetric) (row : AlertRule String)
    (rule : EffectiveRule F) : Prop where
  competes : Competes db isPlus vm metric row
  highest : ∀ other, Competes db isPlus vm metric other → rank other.scope ≤ rank row.scope
  source : rule.source = row.scope
  fields : rule.toAlertRule.asRead = { (storedRule row : AlertRule F) with
    warningThreshold := ((appliedOverride db vm row).bind ThresholdOverride.warningThreshold).or
      (decodeThreshold row.warningThreshold)
    criticalThreshold := ((appliedOverride db vm row).bind ThresholdOverride.criticalThreshold).or
      (decodeThreshold row.criticalThreshold) }.asRead
  flag : rule.overrideApplied = (((appliedOverride db vm row).bind ThresholdOverride.warningThreshold).isSome ||
    ((appliedOverride db vm row).bind ThresholdOverride.criticalThreshold).isSome)

omit [PythonFloat F] in
/-- The override of a rule shows in its thresholds and in the flag. -/
theorem withOverrides_eq (overrides : List (ThresholdOverride F)) (rule : AlertRule F) :
    withOverrides overrides rule = (overrides.reverse.find? fun override => override.ruleId = rule.id).elim
      { toAlertRule := rule, source := .preset }
      fun override =>
        { toAlertRule := overridden override rule
          source := .preset
          overrideApplied := override.warningThreshold.isSome || override.criticalThreshold.isSome } := by
  unfold withOverrides
  cases overrides.reverse.find? fun override => override.ruleId = rule.id <;> rfl

/-- What the merge writes has the source, the thresholds and the flag of the rule, and lacks its TLS switch. -/
theorem written_eq (db : AlertDb F) (vm : VmKey) (row : AlertRule String) :
    written db vm row =
      { toAlertRule := { (storedRule row : AlertRule F) with
          warningThreshold := ((appliedOverride db vm row).bind ThresholdOverride.warningThreshold).or
            (decodeThreshold row.warningThreshold)
          criticalThreshold := ((appliedOverride db vm row).bind ThresholdOverride.criticalThreshold).or
            (decodeThreshold row.criticalThreshold)
          webhookVerifySsl := none }
        source := row.scope
        overrideApplied := ((appliedOverride db vm row).bind ThresholdOverride.warningThreshold).isSome ||
          ((appliedOverride db vm row).bind ThresholdOverride.criticalThreshold).isSome } := by
  unfold written appliedOverride
  split
  · rename_i layer
    rw [withOverrides_eq, layer, show (rowToRule (F := F) row).id = row.id from rfl]
    cases (listOverrides db vm).reverse.find? fun override => override.ruleId = row.id with
    | none => rfl
    | some override => rfl
  · rfl

/-- The effective rules of a metric are what the merge writes for the winning rule. -/
theorem getEffectiveRules_metric (db : AlertDb F) (isPlus : Bool) (vm : VmKey) (metric : AlertMetric) :
    (getEffectiveRules db isPlus vm).filter (fun rule => rule.metric = metric) =
      ((winningRow db isPlus vm metric).map (written db vm)).toList := by
  have known : ∀ entry ∈ (mergeLayers db isPlus vm).entries, entry.2.metric = entry.1 := by
    intro entry member
    have found := (mergeLayers db isPlus vm).get?_of_mem member
    rw [get?_mergeLayers] at found
    obtain ⟨row, wins, shown⟩ := Option.map_eq_some_iff.mp found
    rw [← shown, written_eq]
    exact (winningRow_spec wins).1.watches
  rw [← get?_mergeLayers]
  exact OrderedMap.values_filter _ known metric

/-- Each metric has one effective rule, which is the stored one of the highest layer, or none. -/
def MergedAsStored (db : AlertDb F) (isPlus : Bool) (vm : VmKey) (metric : AlertMetric) : Prop :=
  ((getEffectiveRules db isPlus vm).filter (fun rule => rule.metric = metric) = [] ∧
      ∀ row, ¬ Competes db isPlus vm metric row) ∨
    ∃ rule row, (getEffectiveRules db isPlus vm).filter (fun rule => rule.metric = metric) = [rule] ∧
      Governs db isPlus vm metric row rule

/-- The winning rule governs its metric when its TLS switch is on. -/
theorem governs_written {row : AlertRule String} (wins : winningRow db isPlus vm metric = some row)
    (verified : row.webhookVerifySsl ≠ some false) : Governs db isPlus vm metric row (written db vm row) := by
  obtain ⟨competes, highest⟩ := winningRow_spec wins
  have switched : row.webhookVerifySsl.getD true = true := by
    cases switch : row.webhookVerifySsl with
    | none => rfl
    | some on => cases on with
      | true => rfl
      | false => exact absurd switch verified
  rw [written_eq]
  refine ⟨competes, highest, rfl, ?_, rfl⟩
  simp only [AlertRule.asRead, storedRule, switched, Option.getD_none]

/-- A merge that hands out what is stored has met a rule whose TLS switch is on. -/
theorem MergedAsStored.verified (keyed : (db.rules.map AlertRule.id).Nodup)
    (merged : MergedAsStored db isPlus vm metric) {row : AlertRule String}
    (wins : winningRow db isPlus vm metric = some row) : row.webhookVerifySsl ≠ some false := by
  intro off
  unfold MergedAsStored at merged
  rw [getEffectiveRules_metric, wins, Option.map_some, Option.toList_some] at merged
  rcases merged with ⟨absent, -⟩ | ⟨rule, governing, same, governs⟩
  · cases absent
  · have fields := governs.fields
    rw [← List.singleton_inj.mp same, written_eq] at fields
    have keys : row.id = governing.id := by
      simpa [AlertRule.asRead, storedRule] using congrArg AlertRule.id fields
    have unique : row = governing := List.inj_on_of_nodup_map keyed (winningRow_spec wins).1.applies.stored
      governs.competes.applies.stored keys
    have switches := congrArg AlertRule.webhookVerifySsl fields
    rw [← unique] at switches
    simp [AlertRule.asRead, storedRule, off] at switches

/-- For each metric there is one effective rule, which governs it as stored, or there is none and nothing competes,
exactly when the winning rule was not stored with the TLS verification switched off. -/
theorem effective_rule_of_metric_iff (db : AlertDb F) (keyed : (db.rules.map AlertRule.id).Nodup) (isPlus : Bool)
    (vm : VmKey) (metric : AlertMetric) :
    MergedAsStored db isPlus vm metric ↔
      ∀ row ∈ winningRow db isPlus vm metric, row.webhookVerifySsl ≠ some false := by
  constructor
  · intro merged row wins
    exact merged.verified keyed wins
  · intro verified
    unfold MergedAsStored
    rw [getEffectiveRules_metric]
    cases wins : winningRow db isPlus vm metric with
    | none => exact .inl ⟨rfl, not_competes_of_winningRow wins⟩
    | some row => exact .inr ⟨_, row, rfl, governs_written wins (verified row wins)⟩

end Merge

section Examples
/-- A global rule of a receiver whose certificate is not verified. -/
def unverifiedRule : AlertRule String :=
  { id := 1, scope := .global, name := "CPU", metric := .cpuPercent, criticalThreshold := some "90.0",
    webhookUrl := some "https://hook.example", webhookVerifySsl := some false }

/-- A rule of machine 100 that is verified. -/
def verifiedRule : AlertRule String :=
  { id := 2, scope := .vm, vmid := some "100", nodeId := some 1, name := "CPU", metric := .cpuPercent,
    criticalThreshold := some "80.0", webhookUrl := some "https://hook.example", webhookVerifySsl := some true }

/-- The rule of the machine wins and comes out as it is stored, whatever the global rule below says. -/
theorem effective_rule_of_machine :
    winningRow ({ rules := [unverifiedRule, verifiedRule] } : AlertDb Nat) true ⟨"100", 1⟩ .cpuPercent =
        some verifiedRule ∧
      MergedAsStored ({ rules := [unverifiedRule, verifiedRule] } : AlertDb Nat) true ⟨"100", 1⟩ .cpuPercent := by
  have wins : winningRow ({ rules := [unverifiedRule, verifiedRule] } : AlertDb Nat) true ⟨"100", 1⟩ .cpuPercent =
      some verifiedRule := by decide
  refine ⟨wins, (effective_rule_of_metric_iff _ (by decide) _ _ _).mpr ?_⟩
  rw [wins]
  intro row winner
  rw [← Option.some.inj winner]
  decide

/-- The global rule comes out without its switch, so its readers verify the certificate. -/
theorem effective_rule_loses_switch :
    ¬ ∀ (db : AlertDb Nat) (isPlus : Bool) (vm : VmKey) (metric : AlertMetric),
      (db.rules.map AlertRule.id).Nodup → MergedAsStored db isPlus vm metric := by
  intro holds
  have wins : winningRow ({ rules := [unverifiedRule] } : AlertDb Nat) true ⟨"200", 1⟩ .cpuPercent =
      some unverifiedRule := by decide
  exact (holds _ true ⟨"200", 1⟩ .cpuPercent (by decide)).verified (by decide) wins rfl

end Examples
end P3Portal.Alerts
