import Mathlib.Data.List.ReduceOption
import P3Portal.Construction.Proxmox.ObjectWrites
import P3Portal.Foundation.Outcome

namespace P3Portal.Proxmox
open Foundation Http

/-- A retention gives a parameter when it keeps backups by some rule. -/
def BackupRetention.Keeps (retention : BackupRetention) : Prop :=
  retention.keepLast.isSome ∨ retention.keepDaily.isSome ∨ retention.keepWeekly.isSome ∨ retention.keepMonthly.isSome

/-- A text of the body says something. -/
def Says (content : Option String) : Prop := (Text.truthy content).isSome

namespace WriteRequest

/-- The fields of a body that say something, under the names of their parameters. -/
def Fills (request : WriteRequest) (key : String) : Prop :=
  match request with
  | haRule body => key ∈ ["resources", "disable"] ∨ body.type = .nodeAffinity ∧ key ∈ ["nodes", "strict"] ∨
      body.type = .resourceAffinity ∧ key = "affinity" ∨ key = "comment" ∧ Says body.comment
  | haResource body => key = "state" ∨ key = "max_restart" ∧ body.maxRestart.isSome ∨
      key = "max_relocate" ∧ body.maxRelocate.isSome ∨ key = "failback" ∧ body.failback.isSome ∨
      key = "comment" ∧ Says body.comment
  | sdnZone body => key = "mtu" ∧ body.mtu.isSome ∨ key = "nodes" ∧ Says body.nodes ∨
      key = "bridge" ∧ body.type = .vlan ∧ Says body.bridge ∨ key = "dns" ∧ Says body.dns ∨
      key = "dnszone" ∧ Says body.dnszone ∨ key = "ipam" ∧ Says body.ipam
  | sdnVnet body => key ∈ ["zone", "vlanaware"] ∨ key = "tag" ∧ body.tag.isSome ∨ key = "alias" ∧ Says body.aliasText
  | sdnSubnet body => key = "snat" ∨ key = "gateway" ∧ Says body.gateway
  | backupJob body => key ∈ ["schedule", "storage", "mode", "compress", "enabled"] ∨
      key = "comment" ∧ body.comment ≠ "" ∨ key = "mailto" ∧ body.mailto ≠ "" ∨
      body.allVms ∧ (key = "all" ∨ key = "exclude" ∧ body.exclude ≠ "") ∨
      ¬ body.allVms ∧ (body.vmids ≠ "" ∧ key = "vmid" ∨ body.vmids = "" ∧ body.pool ≠ "" ∧ key = "pool") ∨
      key = "prune-backups" ∧ body.retention.Keeps

end WriteRequest

@[simp] theorem isSome_filled (content : Option String) : (filled content).isSome ↔ Says content := by
  simp [filled, Says]

@[simp] theorem says_some (content : String) : Says (some content) ↔ content ≠ "" := by
  simp [Says, Text.truthy, Option.isSome_filter]

/-- The parameter of a retention is there exactly when the retention keeps backups. -/
@[simp] theorem says_toProxmoxParam (retention : BackupRetention) :
    Says retention.toProxmoxParam ↔ retention.Keeps := by
  rcases retention with ⟨_ | last, _ | daily, _ | weekly, _ | monthly⟩
  all_goals simp [BackupRetention.toProxmoxParam, BackupRetention.Keeps, Says, Text.truthy]

namespace WriteRequest

/-- The update sends the parameters of the fields that say something. -/
theorem stores_updateParams (request : WriteRequest) (key : String) :
    request.updateParams.Stores key ↔ request.Fills key := by
  cases request with
  | haRule body =>
      cases type : body.type with
      | nodeAffinity =>
          simp [updateParams, HaRuleWriteRequest.toProxmoxParams, Fills, type]
          grind
      | resourceAffinity =>
          simp [updateParams, HaRuleWriteRequest.toProxmoxParams, Fills, type]
          grind
  | haResource body =>
      simp [updateParams, HaResourceWriteRequest.toProxmoxParams, Fills]
      grind
  | sdnZone body =>
      cases type : body.type with
      | simple =>
          simp [updateParams, SdnZoneWriteRequest.toProxmoxParams, Fills, type]
          grind
      | vlan =>
          simp [updateParams, SdnZoneWriteRequest.toProxmoxParams, Fills, type]
          grind
  | sdnVnet body =>
      simp [updateParams, SdnVnetWriteRequest.toProxmoxParams, Fills]
      grind
  | sdnSubnet body =>
      simp [updateParams, SdnSubnetWriteRequest.toProxmoxParams, Fills]
  | backupJob body =>
      simp only [updateParams, BackupJobCreateRequest.toProxmoxParams, Fills]
      by_cases all : body.allVms = true
      · simp [all]
        grind
      · by_cases chosen : body.vmids = ""
        · simp [all, chosen]
          grind
        · simp [all, chosen]
          grind

/-- Apart from the identity both endpoints send the same parameters. -/
theorem get?_createParams (request : WriteRequest) {key : String} (described : key ∉ request.identity) :
    request.createParams.get? key = request.updateParams.get? key := by
  cases request with
  | haRule body =>
      obtain ⟨other, untyped⟩ : key ≠ "rule" ∧ key ≠ "type" := by simpa [identity] using described
      unfold createParams
      rw [OrderedMap.get?_set, if_neg untyped, OrderedMap.get?_set, if_neg other]
      rfl
  | haResource body =>
      obtain ⟨other, -⟩ : key ≠ "sid" ∧ key ≠ "type" := by simpa [identity] using described
      unfold createParams
      rw [OrderedMap.get?_set, if_neg other]
      rfl
  | sdnZone body =>
      obtain ⟨other, untyped⟩ : key ≠ "zone" ∧ key ≠ "type" := by simpa [identity] using described
      unfold createParams
      rw [OrderedMap.get?_set, if_neg other]
      simp [SdnZoneWriteRequest.toProxmoxParams, updateParams, untyped]
  | sdnVnet body =>
      obtain ⟨other, -⟩ : key ≠ "vnet" ∧ key ≠ "type" := by simpa [identity] using described
      unfold createParams
      rw [OrderedMap.get?_set, if_neg other]
      rfl
  | sdnSubnet body =>
      obtain ⟨other, -, untyped⟩ : key ≠ "subnet" ∧ key ≠ "vnet" ∧ key ≠ "type" := by simpa [identity] using described
      simp [createParams, SdnSubnetWriteRequest.toProxmoxParams, updateParams, untyped, other]
  | backupJob body => rfl

/-- No endpoint names a parameter to remove. -/
theorem not_stores_delete (request : WriteRequest) : ¬ request.updateParams.Stores "delete" := by
  rw [stores_updateParams]
  cases request with
  | haRule body => simp [Fills]
  | haResource body => simp [Fills]
  | sdnZone body => simp [Fills]
  | sdnVnet body => simp [Fills]
  | sdnSubnet body => simp [Fills]
  | backupJob body => simp [Fills]

theorem removedKeys_updateParams (request : WriteRequest) : removedKeys request.updateParams = [] := by
  have absent : request.updateParams.get? "delete" = none := by
    simpa [OrderedMap.Stores] using request.not_stores_delete
  unfold removedKeys
  rw [absent]

theorem updateParams_filter (request : WriteRequest) :
    request.updateParams.filter (fun key _ => key ≠ "delete") = request.updateParams := by
  apply OrderedMap.filter_eq_self
  intro entry member
  rw [decide_eq_true_iff]
  rintro named
  apply request.not_stores_delete
  rw [← named]
  exact (OrderedMap.mem_keys_iff _ _).mp (List.mem_map.mpr ⟨entry, member, rfl⟩)

/-- An accepted update writes the parameters of its fields over the stored ones. -/
theorem update_eq_ok {request : WriteRequest} {stored updated : Params} (updates : request.update stored = .ok updated) :
    updated = stored.put request.updateParams [] := by
  obtain ⟨passed, -, rest⟩ := Outcome.bind_eq_ok.mp updates
  rw [removedKeys_updateParams, updateParams_filter] at rest
  exact (Except.ok.inj rest).symm

theorem create_eq_ok {request : WriteRequest} {created : Params} (creates : request.create = .ok created) :
    created = request.createParams := by
  obtain ⟨passed, -, rest⟩ := Outcome.bind_eq_ok.mp creates
  exact (Except.ok.inj rest).symm

/-- An update leaves the object that the same body creates exactly when every stored parameter belongs to a field
of the body that says something. -/
theorem update_eq_create_iff (request : WriteRequest) (stored : Params) {created updated : Params}
    (creates : request.create = .ok created) (updates : request.update stored = .ok updated) :
    (∀ key, key ∉ request.identity → updated.get? key = created.get? key) ↔
      ∀ key, key ∉ request.identity → stored.Stores key → request.Fills key := by
  have compared : (∀ key, key ∉ request.identity → updated.get? key = created.get? key) ↔
      ∀ key, key ∉ request.identity → (stored.put request.updateParams []).get? key = request.updateParams.get? key := by
    rw [update_eq_ok updates, create_eq_ok creates]
    apply forall₂_congr
    intro key described
    rw [request.get?_createParams described]
  rw [compared, OrderedMap.put_replaces_iff]
  simp only [List.not_mem_nil, false_or, stores_updateParams]

/-- A body without a comment edits a resource that has none. -/
theorem update_eq_create_iff_started :
    (∀ key, key ∉ (haResource ⟨"vm:100", "stopped", none, none, none, none⟩).identity →
        (((OrderedMap.empty : Params).set "sid" (.text "vm:100")).set "state" (.text "started") |>.put
          ((OrderedMap.empty : Params).set "state" (.text "stopped")) []).get? key =
        (((OrderedMap.empty : Params).set "state" (.text "stopped")).set "sid" (.text "vm:100")).get? key) ↔
      ∀ key, key ∉ (haResource ⟨"vm:100", "stopped", none, none, none, none⟩).identity →
        (((OrderedMap.empty : Params).set "sid" (.text "vm:100")).set "state" (.text "started")).Stores key →
        (haResource ⟨"vm:100", "stopped", none, none, none, none⟩).Fills key :=
  update_eq_create_iff (haResource ⟨"vm:100", "stopped", none, none, none, none⟩)
    (((OrderedMap.empty : Params).set "sid" (.text "vm:100")).set "state" (.text "started")) rfl rfl

/-- An administrator clears the comment of a resource and the comment stays. -/
theorem comment_stays :
    ∃ updated created,
      (haResource ⟨"vm:100", "started", none, none, none, none⟩).update
          (((OrderedMap.empty.set "sid" (.text "vm:100")).set "state" (.text "started")).set "comment" (.text "old")) =
        .ok updated ∧
      (haResource ⟨"vm:100", "started", none, none, none, none⟩).create = .ok created ∧
      "comment" ∉ (haResource ⟨"vm:100", "started", none, none, none, none⟩).identity ∧
      updated.get? "comment" = some (.text "old") ∧ created.get? "comment" = none :=
  ⟨_, _, rfl, rfl, by decide, rfl, rfl⟩

end WriteRequest
end P3Portal.Proxmox
