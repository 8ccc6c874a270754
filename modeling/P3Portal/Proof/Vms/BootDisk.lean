import P3Portal.Construction.Vms.Disks

namespace P3Portal.Vms
open Foundation Http
variable {config : VmConfig} {disk : String}

/-- A slot of a bus holds a hard disk. -/
def isHardDisk (config : VmConfig) (slot : String) : Bool := matchesSlotPattern slot && holdsDisk (config.get? slot)

def hardDisks (config : VmConfig) : List String := (config.entries.map Prod.fst).filter (isHardDisk config)

/-- The entries of the boot order. A boot property without an order starts the disk that `bootdisk` names. -/
def bootEntries (config : VmConfig) : List String :=
  (((config.get? "boot").bind bootOrder).getD
    (((config.get? "bootdisk").filter (Text.strip · ≠ "")).map Text.strip).toList)

/-- The guest needs the first hard disk of its boot order, and its only hard disk. -/
def Needed (config : VmConfig) (disk : String) : Prop :=
  (bootEntries config).find? (isHardDisk config) = some disk ∨ hardDisks config = [disk]

/-- No request has a needed disk deleted. -/
def BootDiskKept (config : VmConfig) : Prop :=
  ∀ (request : RemoveDiskRequest) (access : Except HttpException String) (deletion reread : Except ProxmoxError Unit),
    ∀ disk ∈ (removeDisk request access (.ok config) deletion reread).deleted, ¬ Needed config disk

/-- The configuration shows its boot disk: under `bootdisk`, or as the first disk of the boot order, or on the first
slot of a bus. -/
def BootDiskShown (config : VmConfig) : Prop :=
  (∃ named, (config.get? "bootdisk").filter (Text.strip · ≠ "") = some named ∧
      ∀ disk, Needed config disk → disk = Text.strip named) ∨
  ((config.get? "bootdisk").filter (Text.strip · ≠ "") = none ∧
    ((∃ first, (bootEntries config).find? isDiskEntry = some first ∧
        (isHardDisk config first = true ∨
          (∀ entry ∈ bootEntries config, isHardDisk config entry = false) ∧ (hardDisks config).length ≠ 1)) ∨
      (bootEntries config).find? isDiskEntry = none ∧
        ∀ disk, hardDisks config = [disk] → ∃ bus ∈ diskBuses, disk = bus ++ "0"))

theorem mem_hardDisks : disk ∈ hardDisks config ↔ isHardDisk config disk = true := by
  unfold hardDisks
  rw [List.mem_filter, OrderedMap.mem_keys_iff, and_iff_right_iff_imp]
  intro hard
  unfold isHardDisk holdsDisk at hard
  cases found : config.get? disk with
  | none => simp [found, Text.truthy] at hard
  | some value => rfl

/-- A needed disk is a hard disk. -/
theorem Needed.hard (needed : Needed config disk) : isHardDisk config disk = true := by
  rcases needed with first | only
  · exact List.find?_some first
  · rw [← mem_hardDisks, only]
    exact List.mem_singleton_self disk

/-- The digits of the pattern are digits for the boot order as well. -/
theorem isDiskEntry_of_hard (hard : isHardDisk config disk = true) : isDiskEntry disk = true := by
  unfold isHardDisk at hard
  rw [Bool.and_eq_true] at hard
  have slot := hard.1
  unfold matchesSlotPattern onBus at slot
  obtain ⟨bus, member, named⟩ := List.any_eq_true.mp slot
  rw [Bool.and_eq_true, Bool.and_eq_true, List.all_eq_true] at named
  obtain ⟨start, present, digits⟩ := named
  unfold isDiskEntry onBus
  apply List.any_eq_true.mpr
  refine ⟨bus, member, ?_⟩
  rw [Bool.and_eq_true, Bool.and_eq_true, List.all_eq_true]
  refine ⟨start, present, ?_⟩
  intro character inside
  unfold Number.isDigit
  rw [digits character inside, Bool.true_or]

/-- The guards let a hard disk pass unless it counts as the root disk. -/
theorem checkRemoval_eq_ok {request : RemoveDiskRequest} :
    checkRemoval request config = .ok () ↔
      request.confirm = Text.orElse (config.get? "name") (toString request.vmid) ∧
        holdsDisk (config.get? request.disk) = true ∧ isRoot config request.disk = false := by
  unfold checkRemoval
  by_cases confirmed : request.confirm = Text.orElse (config.get? "name") (toString request.vmid)
  · rw [if_neg (not_not_intro confirmed), and_iff_right confirmed]
    cases holdsDisk (config.get? request.disk) with
    | false => simp
    | true => cases isRoot config request.disk <;> simp
  · rw [if_pos confirmed]
    refine iff_of_false ?_ fun passed => confirmed passed.1
    intro passed
    cases passed

/-- The deletion is reached for the requested disk when the guards let it pass. -/
theorem mem_deleted {request : RemoveDiskRequest} {access : Except HttpException String}
    {deletion reread : Except ProxmoxError Unit} :
    disk ∈ (removeDisk request access (.ok config) deletion reread).deleted ↔
      access = .ok "qemu" ∧ checkRemoval request config = .ok () ∧ disk = request.disk := by
  unfold removeDisk
  cases access with
  | error exception => simp
  | ok vmType =>
      by_cases qemu : vmType = "qemu"
      · cases checked : checkRemoval request config <;> simp [qemu, checked]
      · simp [qemu]

/-- Requests leave the needed disks alone exactly when each of them counts as the root disk. -/
theorem bootDiskKept_iff_isRoot :
    BootDiskKept config ↔ ∀ disk, Needed config disk → isRoot config disk = true := by
  constructor
  · intro kept disk needed
    by_contra removable
    rw [Bool.not_eq_true] at removable
    have hard := needed.hard
    unfold isHardDisk at hard
    rw [Bool.and_eq_true] at hard
    refine kept ⟨0, disk, Text.orElse (config.get? "name") (toString (0 : Int)), hard.1⟩ (.ok "qemu") (.ok ()) (.ok ())
      disk ?_ needed
    exact mem_deleted.mpr ⟨rfl, checkRemoval_eq_ok.mpr ⟨rfl, hard.2, removable⟩, rfl⟩
  · intro protected' request access deletion reread disk deleted needed
    obtain ⟨-, passed, same⟩ := mem_deleted.mp deleted
    have removable := (checkRemoval_eq_ok.mp passed).2.2
    have root := protected' disk needed
    rw [same, removable] at root
    cases root

/-- Below a named boot disk nothing else counts as the root disk. -/
theorem isRoot_of_named {named : String}
    (found : (config.get? "bootdisk").filter (Text.strip · ≠ "") = some named) :
    isRoot config disk = true ↔ disk = Text.strip named := by
  unfold isRoot firstBootDisk
  rw [found]
  exact decide_eq_true_iff

/-- Otherwise the first entry of the order that looks like a disk counts. -/
theorem isRoot_of_order (unnamed : (config.get? "bootdisk").filter (Text.strip · ≠ "") = none) :
    isRoot config disk = true ↔ (bootEntries config).find? isDiskEntry = some disk ∨
      (bootEntries config).find? isDiskEntry = none ∧ ∃ bus ∈ diskBuses, disk = bus ++ "0" := by
  have same : firstBootDisk config = (bootEntries config).find? isDiskEntry := by
    unfold firstBootDisk bootEntries
    rw [unnamed]
    cases (config.get? "boot").bind bootOrder <;> rfl
  unfold isRoot
  rw [same]
  cases (bootEntries config).find? isDiskEntry with
  | none => simp
  | some first => simp [eq_comm]

/-- A hard disk that is the first disk of the order is the only needed disk. -/
theorem Needed.eq_first {first : String} (found : (bootEntries config).find? isDiskEntry = some first)
    (hard : isHardDisk config first = true) (needed : Needed config disk) : disk = first := by
  rcases needed with earliest | only
  · obtain ⟨-, before, later, split, others⟩ := List.find?_eq_some_iff_append.mp found
    have none : before.find? (isHardDisk config) = none := by
      rw [List.find?_eq_none]
      intro entry member held
      have absent := others entry member
      rw [isDiskEntry_of_hard held] at absent
      cases absent
    rw [split, List.find?_append, none, Option.none_or, List.find?_cons_of_pos hard] at earliest
    exact (Option.some.inj earliest).symm
  · have member := mem_hardDisks.mpr hard
    rw [only] at member
    exact (List.mem_singleton.mp member).symm

/-- Nothing is needed exactly when the order names no hard disk and there is not exactly one. -/
theorem not_needed_iff : (∀ disk, ¬ Needed config disk) ↔
    (∀ entry ∈ bootEntries config, isHardDisk config entry = false) ∧ (hardDisks config).length ≠ 1 := by
  unfold Needed
  simp only [not_or, forall_and]
  apply and_congr
  · rw [← Option.eq_none_iff_forall_ne_some, List.find?_eq_none]
    simp
  · rw [Ne, List.length_eq_one_iff, not_exists]

/-- The boot disk is kept exactly when the configuration shows it. -/
theorem boot_disk_kept_iff (config : VmConfig) : BootDiskKept config ↔ BootDiskShown config := by
  rw [bootDiskKept_iff_isRoot]
  unfold BootDiskShown
  cases named : (config.get? "bootdisk").filter (Text.strip · ≠ "") with
  | some bootdisk => simp [isRoot_of_named named]
  | none =>
      simp only [isRoot_of_order named, reduceCtorEq, false_and, exists_false, false_or, true_and]
      cases found : (bootEntries config).find? isDiskEntry with
      | some first =>
          simp only [reduceCtorEq, false_and, or_false, Option.some.injEq, exists_eq_left']
          rw [← not_needed_iff]
          constructor
          · intro kept
            cases hard : isHardDisk config first with
            | true => exact .inl rfl
            | false =>
                refine .inr fun disk needed => ?_
                have held := needed.hard
                rw [← kept disk needed, hard] at held
                cases held
          · rintro (hard | none)
            · intro disk needed
              exact (needed.eq_first found hard).symm
            · intro disk needed
              exact absurd needed (none disk)
      | none =>
          simp only [reduceCtorEq, false_or, true_and, false_and, exists_false]
          have unlisted : (bootEntries config).find? (isHardDisk config) = none := by
            rw [List.find?_eq_none] at found ⊢
            intro entry member hard
            exact found entry member (isDiskEntry_of_hard hard)
          unfold Needed
          simp only [unlisted, reduceCtorEq, false_or]

/-- The guest boots from a CD-ROM first. -/
def cdromFirst : VmConfig where
  entries := [("boot", "order=ide2;scsi1"), ("ide2", "local:iso/debian.iso,media=cdrom"),
    ("scsi1", "local-lvm:vm-100-disk-0,size=32G"), ("scsi2", "local-lvm:vm-100-disk-1,size=8G")]
  keysNodup := by decide

/-- The first hard disk of the order is deleted although the guest starts from it. -/
theorem boot_disk_deleted :
    (removeDisk ⟨100, "scsi1", "100", by decide +kernel⟩ (.ok "qemu") (.ok cdromFirst) (.ok ()) (.ok ())).deleted =
      ["scsi1"] ∧ Needed cdromFirst "scsi1" := by
  have first : (bootEntries cdromFirst).find? (isHardDisk cdromFirst) = some "scsi1" := by decide +kernel
  exact ⟨by decide +kernel, .inl first⟩

end P3Portal.Vms
