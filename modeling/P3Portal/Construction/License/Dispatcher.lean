import P3Portal.Foundation.JsonReader
import P3Portal.Foundation.PythonDate
import P3Portal.Foundation.PythonText

namespace P3Portal.License
open Foundation

abbrev Bytes := List UInt8

/-- The functions of the cryptographic libraries. The first two fail on what they cannot decode. -/
structure Primitives where
  aesGcm : (key nonce ciphertext : Bytes) → Option Bytes
  b64decode : String → Option Bytes
  hmacSha256 : (key message : Bytes) → Bytes

def vendorSalt : Bytes :=
  [0x0d, 0x5d, 0x6c, 0xb7, 0x1d, 0x74, 0xd2, 0x46, 0xe8, 0xf3, 0x13, 0x68, 0x48, 0xe7, 0x14, 0x30,
    0x39, 0xb1, 0x85, 0x65, 0xf2, 0x65, 0x1a, 0x6d, 0xfa, 0x8e, 0x1d, 0x1a, 0xe9, 0xc6, 0x5c, 0x02]

def encode (text : String) : Bytes := text.toUTF8.toList

def plusToken : Bytes := encode "P3PLUS_VALID_TOKEN"

def trialDurationDays : Nat := 30

/-- A cached status counts for a minute. -/
def ttlNanoseconds : Nat := 60 * 10 ^ 9

/-- A value in `plus.lic`: null, a text, a text that UTF-8 cannot encode, or a value of another type. -/
inductive Field where
  | null
  | text (value : String)
  | unencodable
  | other (truthy : Bool)
  deriving DecidableEq

namespace Field

def truthy : Field → Bool
  | null => false
  | text value => value ≠ ""
  | unencodable => true
  | other truthy => truthy

/-- A method of texts raises for any other value, and the encoding for what it cannot encode. -/
def asText : Field → Option String
  | text value => some value
  | _ => none

/-- `value or ""`. -/
def orEmpty (field : Field) : Field := if field.truthy then field else text ""

end Field

/-- The fields of `plus.lic`. An absent expiry means an unlimited license. -/
structure PlusLic where
  licenseId : Field
  expiry : Field := .null
  key : Field
  edition : Field := .text "plus_v1"
  contactName : Field := .null
  contactEmail : Field := .null
  mac : Field := .null
  deriving DecidableEq

/-- The bytes of a license file are no JSON, lack a required field or hold a license. -/
inductive FileContent where
  | notJson
  | incomplete
  | license (lic : PlusLic)
  deriving DecidableEq

/-- The fields of a license are handed on as they stand in the file. -/
structure LicenseStatus where
  edition : Field
  valid : Bool
  contactName : Field
  contactEmail : Field
  expiry : Field
  reason : Option String
  trialUsed : Bool := false
  trialActive : Bool := false
  deriving DecidableEq

/-- Old licenses name the edition `basis`. -/
def normalizeEdition (edition : Field) : Field := if edition = .text "basis" then .text "core" else edition

section Key
variable (primitives : Primitives)

/-- The first twelve bytes are the nonce. -/
def aesGcmDecrypt (data key : Bytes) : Option Bytes := primitives.aesGcm key (data.take 12) (data.drop 12)

def deriveCustomerSecret (licenseId : Field) : Option Bytes :=
  licenseId.asText.map fun licenseId => primitives.hmacSha256 vendorSalt (encode licenseId)

/-- The text is joined from texts only. -/
def macPayload (lic : PlusLic) : Option Bytes :=
  ([lic.licenseId, lic.edition, lic.expiry.orEmpty, lic.contactName.orEmpty, lic.contactEmail.orEmpty].mapM
    Field.asText).map fun texts => encode ("|".intercalate texts)

def hexdigest (bytes : Bytes) : String :=
  String.ofList (bytes.flatMap fun byte => [Json.hexDigit (byte.toNat / 16), Json.hexDigit (byte.toNat % 16)])

/-- `compare_digest` raises for a text that is not ASCII and for what is no text. -/
def verifyMac (payload : Bytes) (macHex : Field) (masterKey : Bytes) : Option Bool :=
  (macHex.asText.filter fun text => text.toList.all (·.toNat < 128)).map fun text =>
    hexdigest (primitives.hmacSha256 masterKey payload) = text

/-- The status of a license that is not valid keeps its fields. -/
def invalid (lic : PlusLic) (reason : String) : LicenseStatus :=
  ⟨lic.edition, false, lic.contactName, lic.contactEmail, lic.expiry, some reason, false, false⟩

def decryptMasterKey (lic : PlusLic) : Option Bytes := do
  let secret ← deriveCustomerSecret primitives lic.licenseId
  let key ← lic.key.asText
  let data ← primitives.b64decode key
  aesGcmDecrypt primitives data secret

/-- The checks after the expiry: the key, the token of `plus.enc` and the authentication code. -/
def decryptedStatus (enc : Option Bytes) (lic : PlusLic) : Option LicenseStatus :=
  match decryptMasterKey primitives lic with
  | none => some (invalid lic "decryption_failed")
  | some masterKey =>
      match enc.bind fun data => aesGcmDecrypt primitives data masterKey with
      | none => some (invalid lic "decryption_failed")
      | some token =>
          if token ≠ plusToken then some (invalid lic "decryption_failed")
          else if !lic.mac.truthy then some (invalid lic "tampered")
          else do
            let payload ← macPayload lic
            let genuine ← verifyMac primitives payload lic.mac masterKey
            if genuine then
              some ⟨normalizeEdition lic.edition, true, lic.contactName, lic.contactEmail, lic.expiry, none, false,
                false⟩
            else some (invalid lic "tampered")

/-- `_load_status` behind the parsing of an existing file. An exception leaves no status. -/
def keyStatus (enc : Option Bytes) (today : Date) (lic : PlusLic) : Option LicenseStatus :=
  match lic.expiry with
  | .null => decryptedStatus primitives enc lic
  | .text expiry => match Date.fromIsoformat expiry with
    | none => some { invalid lic "decryption_failed" with edition := .text "core" }
    | some expiryDate =>
        if expiryDate.rank < today.rank then some (invalid lic "expired") else decryptedStatus primitives enc lic
  | .unencodable => some { invalid lic "decryption_failed" with edition := .text "core" }
  | .other _ => none

end Key

/-- The two rows of `portal_config` that record the trial. -/
structure TrialRecord where
  trialUsed : Option String := none
  trialStartedAt : Option String := none
  deriving DecidableEq

/-- The flag is compared without its case. -/
def TrialRecord.used (record : TrialRecord) : Bool := Text.lower (record.trialUsed.getD "") = "true"

/-- `get_trial_flags_sync` answers as for an unused trial when its read fails. -/
def getTrialFlags (readable : Bool) (record : TrialRecord) : Bool × Option String :=
  if readable then (record.used, Text.truthy record.trialStartedAt) else (false, none)

/-- The status of a portal without license and trial. -/
def missingStatus : LicenseStatus := ⟨.text "core", false, .null, .null, .null, some "missing", false, false⟩

/-- `_trial_status`: the trial ends thirty days after its start. The sum raises behind the last date. -/
def trialStatus (flags : Bool × Option String) (today : Date) : Option LicenseStatus :=
  match flags with
  | (true, some startedAt) => match Date.fromIsoformat startedAt with
    | none => some missingStatus
    | some startDate => (Date.addDays trialDurationDays startDate).map fun endDate =>
        if today.rank ≤ endDate.rank then
          ⟨.text "plus_trial", true, .null, .null, .text endDate.isoformat, some "trial", true, true⟩
        else ⟨.text "core", false, .null, .null, .text endDate.isoformat, some "trial_expired", true, false⟩
  | _ => some missingStatus

/-- The files of the license, the trial record, the cached status and the clocks. -/
structure Portal where
  file : Option FileContent := none
  disabled : Option FileContent := none
  enc : Option Bytes := none
  record : TrialRecord := {}
  cache : Option LicenseStatus := none
  cacheLoadedAt : Nat := 0
  now : Nat := 0
  today : Date

/-- The trial counts only when there is no license file. -/
def loadStatus (primitives : Primitives) (readable : Bool) (portal : Portal) : Option LicenseStatus :=
  match portal.file with
  | none => trialStatus (getTrialFlags readable portal.record) portal.today
  | some .notJson | some .incomplete => some ⟨.text "core", false, .null, .null, .null, some "decryption_failed", false, false⟩
  | some (.license lic) => keyStatus primitives portal.enc portal.today lic

/-- The status is evaluated again when none is cached or the cached one is a minute old. -/
def getLicenseStatus (primitives : Primitives) (readable : Bool) (portal : Portal) :
    Portal × Option LicenseStatus :=
  match portal.cache.filter fun _ => portal.now - portal.cacheLoadedAt < ttlNanoseconds with
  | some status => (portal, some status)
  | none => match loadStatus primitives readable portal with
    | none => (portal, none)
    | some status => ({ portal with cache := some status, cacheLoadedAt := portal.now }, some status)

def resetLicenseCache (portal : Portal) : Portal := { portal with cache := none, cacheLoadedAt := 0 }

/-- What happens around a request to start the trial: whether the three reads of the flags and the two writes
succeed, and whether midnight passes between the writes and the last evaluation. -/
structure TrialRequest where
  statusRead : Bool := true
  guardRead : Bool := true
  firstWrite : Bool := true
  secondWrite : Bool := true
  midnight : Bool := false
  finalRead : Bool := true
  deriving DecidableEq

/-- The endpoint answers with the status, refuses with 409 or lets an exception pass. -/
inductive TrialAnswer where
  | started (status : LicenseStatus)
  | refused (detail : String)
  | failed
  deriving DecidableEq

/-- The start date is written before the flag. -/
def markTrialStarted (request : TrialRequest) (portal : Portal) : Portal × Bool :=
  if !request.firstWrite then (portal, false)
  else
    let portal := { portal with record := { portal.record with trialStartedAt := some portal.today.isoformat } }
    if !request.secondWrite then (portal, false)
    else ({ portal with record := { portal.record with trialUsed := some "true" } }, true)

def passMidnight (portal : Portal) : Portal := { portal with today := portal.today.next.getD portal.today }

/-- `POST /api/license/trial/start`. -/
def startTrial (primitives : Primitives) (request : TrialRequest) (portal : Portal) : Portal × TrialAnswer :=
  match getLicenseStatus primitives request.statusRead portal with
  | (portal, none) => (portal, .failed)
  | (portal, some status) =>
      if status.valid && status.edition ≠ .text "plus_trial" then (portal, .refused "valid_license_present")
      else if (getTrialFlags request.guardRead portal.record).1 then (portal, .refused "trial_already_used")
      else match markTrialStarted request portal with
        | (portal, false) => (portal, .failed)
        | (portal, true) =>
            let portal := resetLicenseCache (if request.midnight then passMidnight portal else portal)
            match getLicenseStatus primitives request.finalRead portal with
            | (portal, some status) => (portal, .started status)
            | (portal, none) => (portal, .failed)

/-- `POST /api/license/upload` stores a file with the required fields, whatever they say. -/
def uploadLicense (primitives : Primitives) (readable : Bool) (content : FileContent) (portal : Portal) :
    Portal × Except String (Option LicenseStatus) :=
  match content with
  | .notJson => (portal, .error "License file must be valid JSON")
  | .incomplete => (portal, .error "Invalid license file: missing required fields")
  | .license lic =>
      let (portal, status) := getLicenseStatus primitives readable
        (resetLicenseCache { portal with file := some (.license lic) })
      (portal, .ok status)

/-- `DELETE /api/license/deactivate` renames the file over an older backup. -/
def deactivateLicense (primitives : Primitives) (readable : Bool) (portal : Portal) :
    Portal × Except String (Option LicenseStatus) :=
  match portal.file with
  | none => (portal, .error "No active license file found")
  | some content =>
      let (portal, status) := getLicenseStatus primitives readable
        (resetLicenseCache { portal with file := none, disabled := some content })
      (portal, .ok status)

/-- The requests, a reset of the cache, a change of the files from outside and the passing of time. -/
inductive LicenseEvent where
  | startTrial (request : TrialRequest)
  | upload (readable : Bool) (content : FileContent)
  | deactivate (readable : Bool)
  | status (readable : Bool)
  | resetCache
  | replaceFiles (file disabled : Option FileContent) (enc : Option Bytes)
  | pass (nanoseconds days : Nat)
  deriving DecidableEq

def licenseStep (primitives : Primitives) (portal : Portal) : LicenseEvent → Portal
  | .startTrial request => (startTrial primitives request portal).1
  | .upload readable content => (uploadLicense primitives readable content portal).1
  | .deactivate readable => (deactivateLicense primitives readable portal).1
  | .status readable => (getLicenseStatus primitives readable portal).1
  | .resetCache => resetLicenseCache portal
  | .replaceFiles file disabled enc => { portal with file := file, disabled := disabled, enc := enc }
  | .pass nanoseconds days =>
      { portal with now := portal.now + nanoseconds, today := (Date.addDays days portal.today).getD portal.today }

/-- A gate hook depends on the license and a lifecycle hook does not. -/
inductive HookKind where
  | gate
  | lifecycle
  deriving DecidableEq

/-- An attribute of the class of core defaults, with the stamp of its decorator. -/
structure Member where
  name : String
  isFunction : Bool := true
  plusDispatch : Option HookKind := none
  deriving DecidableEq

/-- A public function without a stamp stops the import. -/
def buildDispatchMethods : List Member → Except String (List (String × HookKind))
  | [] => .ok []
  | member :: rest =>
      if Text.startsWith "_" member.name || !member.isFunction then buildDispatchMethods rest
      else match member.plusDispatch with
        | none => .error ("plus_protocol: CorePlusBehavior." ++ member.name ++ " ist nicht klassifiziert. " ++
            "Jede Plus-Behavior-Methode MUSS mit @gate oder @lifecycle dekoriert " ++
            "sein (PROJ-95 AC-STRUCT-2). Aktueller Stempel: None.")
        | some kind => (buildDispatchMethods rest).map ((member.name, kind) :: ·)

/-- The kind of the generated method with this name. -/
def hookKind (members : List Member) (name : String) : Option HookKind :=
  match buildDispatchMethods members with
  | .ok methods => (methods.find? fun method => method.1 = name).map Prod.snd
  | .error _ => none

/-- A call is answered by the core default or by the registered implementation. -/
inductive Server (Impl : Type) where
  | core
  | plus (impl : Impl)
  deriving DecidableEq

section Resolve
variable {Impl : Type} (primitives : Primitives)

def isPlusEdition (readable : Bool) (portal : Portal) : Portal × Option Bool :=
  ((getLicenseStatus primitives readable portal).1,
    (getLicenseStatus primitives readable portal).2.map LicenseStatus.valid)

/-- The license is read only when an implementation is registered. -/
def resolveGate (readable : Bool) (active : Option Impl) (portal : Portal) : Portal × Option (Server Impl) :=
  match active with
  | none => (portal, some .core)
  | some impl => match isPlusEdition primitives readable portal with
    | (portal, none) => (portal, none)
    | (portal, some valid) => (portal, some (if valid then .plus impl else .core))

def resolveLifecycle (active : Option Impl) : Server Impl :=
  match active with
  | none => .core
  | some impl => .plus impl

/-- One process with its dispatcher. -/
structure Process (Impl : Type) where
  portal : Portal
  active : Option Impl := none

/-- A call of a generated method. An exception leaves no answer. -/
def callHook (members : List Member) (readable : Bool) (name : String) (process : Process Impl) :
    Process Impl × Option (Server Impl) :=
  match hookKind members name with
  | none => (process, none)
  | some .lifecycle => (process, some (resolveLifecycle process.active))
  | some .gate =>
      ({ process with portal := (resolveGate primitives readable process.active process.portal).1 },
        (resolveGate primitives readable process.active process.portal).2)

/-- Calls of hooks, the registration of an implementation and everything that the license meets. -/
inductive HookEvent (Impl : Type) where
  | call (readable : Bool) (name : String)
  | setPlusBehavior (impl : Impl)
  | license (event : LicenseEvent)
  deriving DecidableEq

def hookStep (members : List Member) (process : Process Impl) : HookEvent Impl → Process Impl
  | .call readable name => (callHook primitives members readable name process).1
  | .setPlusBehavior impl => { process with active := some impl }
  | .license event => { process with portal := licenseStep primitives process.portal event }

end Resolve
end P3Portal.License
