import P3Portal.Construction.Http.Failure
import P3Portal.Foundation.Interleaving
import P3Portal.Foundation.OrderedMap
import P3Portal.Foundation.PythonNumber
import P3Portal.Foundation.PythonText

namespace P3Portal.Vms
open Foundation Http

/-- A new disk goes to one of these buses. -/
inductive DiskBus where
  | scsi
  | virtio
  | sata
  deriving DecidableEq

def DiskBus.name : DiskBus → String
  | .scsi => "scsi"
  | .virtio => "virtio"
  | .sata => "sata"

/-- `_BUS_MAX` holds the highest valid index of each bus. -/
def DiskBus.max : DiskBus → Nat
  | .scsi => 30
  | .virtio => 15
  | .sata => 5

/-- The keys of a guest configuration name its slots and its settings. -/
abbrev VmConfig := OrderedMap String String

def slotName (bus : DiskBus) (index : Nat) : String := bus.name ++ toString index

/-- A key of the bus holds only digits behind the name of the bus. -/
def slotIndex (bus : DiskBus) (key : String) : Option Nat :=
  if Text.startsWith bus.name key then
    let rest := key.toList.drop bus.name.length
    if rest.all fun character => (Number.digitValue character).isSome then Number.natural rest else none
  else none

def usedIndices (config : VmConfig) (bus : DiskBus) : List Nat :=
  (config.entries.map Prod.fst).filterMap (slotIndex bus)

def nextFreeDiskSlot (config : VmConfig) (bus : DiskBus) : Except HttpException Nat :=
  match (List.range (bus.max + 1)).find? fun index => index ∉ usedIndices config bus with
  | some index => .ok index
  | none => .error ⟨422, "No free " ++ bus.name ++ " slot available"⟩

/-- A refusal of the token is told apart from the other answers of Proxmox. -/
def diskWriteHttpExc : ProxmoxError → HttpException
  | .statusError statusCode =>
      if statusCode = 403 then ⟨403, "Proxmox token lacks the required privileges " ++
        "(VM.Config.Disk + Datastore.Allocate/AllocateSpace)"⟩
      else if statusCode = 401 then ⟨502, "Proxmox authentication failed"⟩
      else ⟨statusCode, "Proxmox API error"⟩
  | .requestError => ⟨502, "Could not reach Proxmox API"⟩

structure DiskAttachRequest where
  sizeGb : Nat
  storage : String
  bus : DiskBus := .scsi
  deriving DecidableEq

/-- The value asks Proxmox for a fresh volume and carries the serial of the disk. -/
def diskValue (body : DiskAttachRequest) (serial : String) : String :=
  body.storage ++ ":" ++ toString body.sizeGb ++ ",serial=" ++ serial

/-- The lookup of the guest, its permission and its stack have been settled as the type of the guest or a
refusal; the request then runs from one call of Proxmox to the next. -/
inductive AttachPhase where
  | arrived (access : Except HttpException String)
  | chosen (slot : String)
  | attached (slot : String)
  | finished (answer : Except HttpException String)
  deriving DecidableEq

structure AttachCall where
  body : DiskAttachRequest
  serial : String
  phase : AttachPhase
  deriving DecidableEq

/-- A call of Proxmox is answered, or it is carried out and its answer lost, or it fails. -/
inductive ProxmoxReply where
  | answered
  | answerLost
  | failed (error : ProxmoxError)
  deriving DecidableEq

/-- Proxmox notes beside the configuration what each assigned slot held before. -/
structure DiskStore where
  config : VmConfig
  assigned : List (String × Option String) := []

/-- Proxmox applies the write of one slot and replaces what the slot held. -/
def DiskStore.put (store : DiskStore) (slot value : String) : DiskStore where
  config := store.config.set slot value
  assigned := store.assigned ++ [(slot, store.config.get? slot)]

/-- One turn of `attach_disk` runs to the end of its next call of Proxmox. -/
def AttachCall.turn (reply : ProxmoxReply) (store : DiskStore) (call : AttachCall) : DiskStore × AttachPhase :=
  match call.phase with
  | .arrived (.error exception) => (store, .finished (.error exception))
  | .arrived (.ok vmType) =>
      if vmType ≠ "qemu" then
        (store, .finished (.error ⟨422, "Disk management is only supported for QEMU VMs"⟩))
      else match reply with
        | .answered =>
            match nextFreeDiskSlot store.config call.body.bus with
            | .ok index => (store, .chosen (slotName call.body.bus index))
            | .error exception => (store, .finished (.error exception))
        | .answerLost => (store, .finished (.error (diskWriteHttpExc .requestError)))
        | .failed error => (store, .finished (.error (diskWriteHttpExc error)))
  | .chosen slot =>
      match reply with
      | .answered => (store.put slot (diskValue call.body call.serial), .attached slot)
      | .answerLost => (store.put slot (diskValue call.body call.serial),
          .finished (.error (diskWriteHttpExc .requestError)))
      | .failed error => (store, .finished (.error (diskWriteHttpExc error)))
  | .attached slot =>
      match reply with
      | .answered => (store, .finished (.ok slot))
      | .answerLost => (store, .finished (.error (diskWriteHttpExc .requestError)))
      | .failed error => (store, .finished (.error (diskWriteHttpExc error)))
  | .finished answer => (store, .finished answer)

def AttachCall.advance (reply : ProxmoxReply) (store : DiskStore) (call : AttachCall) : DiskStore × AttachCall :=
  ((call.turn reply store).1, { call with phase := (call.turn reply store).2 })

abbrev DiskState := Interleaved DiskStore AttachCall

inductive DiskEvent where
  | request (body : DiskAttachRequest) (serial : String) (access : Except HttpException String)
  | advance (index : Nat) (reply : ProxmoxReply)

def diskStep (state : DiskState) : DiskEvent → DiskState
  | .request body serial access => state.spawn { body := body, serial := serial, phase := .arrived access }
  | .advance index reply => state.act (AttachCall.advance reply) index

/-- The buses of `_DISK_BUSES` carry hard disks and drives. -/
def diskBuses : List String := ["scsi", "virtio", "sata", "ide"]

/-- A slot is the name of a bus with characters of one kind behind it. -/
def onBus (allowed : Char → Bool) (slot : String) : Bool :=
  diskBuses.any fun bus => Text.startsWith bus slot &&
    (slot.toList.drop bus.length ≠ [] && (slot.toList.drop bus.length).all allowed)

/-- `_DISK_SLOT_PATTERN` checks the path of the request. -/
def matchesSlotPattern (slot : String) : Bool := onBus (fun character => (Number.digitValue character).isSome) slot

def isDiskEntry (entry : String) : Bool := onBus Number.isDigit entry

/-- The entries of a boot property that gives an order. -/
def bootOrder (boot : String) : Option (List String) :=
  (Text.splitBehind "order=" boot).map fun order =>
    ((Text.partition ',' order).1.toList.splitOn ';').map fun entry => Text.strip (String.ofList entry)

/-- The key `bootdisk` is preferred to the first entry of the boot order that looks like a disk. -/
def firstBootDisk (config : VmConfig) : Option String :=
  match (config.get? "bootdisk").filter (Text.strip · ≠ "") with
  | some bootdisk => some (Text.strip bootdisk)
  | none => ((config.get? "boot").bind bootOrder).bind fun order => order.find? isDiskEntry

/-- An empty drive and a CD-ROM are no disks. -/
def holdsDisk (raw : Option String) : Bool :=
  (Text.truthy raw).any fun value => !(Text.startsWith "none" value || Text.contains ",media=cdrom" value)

/-- Without a boot disk the first slot of each bus is protected. -/
def isRoot (config : VmConfig) (disk : String) : Bool :=
  match firstBootDisk config with
  | some bootDisk => disk = bootDisk
  | none => diskBuses.any fun bus => disk = bus ++ "0"

structure RemoveDiskRequest where
  vmid : Int
  disk : String
  confirm : String
  matchesPattern : matchesSlotPattern disk = true

/-- The guards of `remove_disk` behind the read of the configuration. -/
def checkRemoval (request : RemoveDiskRequest) (config : VmConfig) : Except HttpException Unit :=
  if request.confirm ≠ Text.orElse (config.get? "name") (toString request.vmid) then
    .error ⟨400, "Confirmation does not match the VM name"⟩
  else if !holdsDisk (config.get? request.disk) then .error ⟨404, "Disk " ++ request.disk ++ " not found"⟩
  else if isRoot config request.disk then .error ⟨422, "The root/boot disk cannot be removed"⟩
  else .ok ()

/-- The slots for which `delete_vm_disk` was called, and the answer. -/
structure DiskRemoval where
  deleted : List String
  answer : Except HttpException String

/-- The lookup of the guest, its permission and its stack come first, as the type of the guest or a refusal. Proxmox
is then asked for the configuration, for the deletion and for the configuration that is left. -/
def removeDisk (request : RemoveDiskRequest) (access : Except HttpException String)
    (config : Except ProxmoxError VmConfig) (deletion reread : Except ProxmoxError Unit) : DiskRemoval :=
  match access with
  | .error exception => ⟨[], .error exception⟩
  | .ok vmType =>
      if vmType ≠ "qemu" then ⟨[], .error ⟨422, "Disk management is only supported for QEMU VMs"⟩⟩
      else match config with
        | .error error => ⟨[], .error (diskWriteHttpExc error)⟩
        | .ok config =>
            match checkRemoval request config with
            | .error exception => ⟨[], .error exception⟩
            | .ok () => ⟨[request.disk],
                match deletion.bind fun _ => reread with
                | .error error => .error (diskWriteHttpExc error)
                | .ok _ => .ok request.disk⟩
end P3Portal.Vms
