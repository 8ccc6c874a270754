import P3Portal.Construction.License.Dispatcher
import P3Portal.Foundation.JoinedFields

namespace P3Portal.License
open Foundation

/-- The signed fields of a license, of which three may be missing. -/
structure SignedFields where
  licenseId : String
  edition : String
  expiry : Option String := none
  contactName : Option String := none
  contactEmail : Option String := none
  deriving DecidableEq

/-- A missing field stands in the file as null. -/
def Field.ofOption : Option String → Field
  | none => .null
  | some value => .text value

namespace SignedFields

/-- The license file with these fields. -/
def file (signed : SignedFields) (key mac : Field) : PlusLic where
  licenseId := .text signed.licenseId
  expiry := Field.ofOption signed.expiry
  key := key
  edition := .text signed.edition
  contactName := Field.ofOption signed.contactName
  contactEmail := Field.ofOption signed.contactEmail
  mac := mac

def texts (signed : SignedFields) : List String :=
  [signed.licenseId, signed.edition, signed.expiry.getD "", signed.contactName.getD "", signed.contactEmail.getD ""]

/-- The signed text of the fields. -/
def payload (signed : SignedFields) : Bytes := encode ("|".intercalate signed.texts)

/-- Two licenses agree when their fields do, where a missing field is like an empty one. -/
structure Agrees (first second : SignedFields) : Prop where
  licenseId : first.licenseId = second.licenseId
  edition : first.edition = second.edition
  expiry : first.expiry.getD "" = second.expiry.getD ""
  contactName : first.contactName.getD "" = second.contactName.getD ""
  contactEmail : first.contactEmail.getD "" = second.contactEmail.getD ""

/-- No field holds the separator. -/
structure Undivided (signed : SignedFields) : Prop where
  licenseId : '|' ∉ signed.licenseId.toList
  edition : '|' ∉ signed.edition.toList
  expiry : '|' ∉ (signed.expiry.getD "").toList
  contactName : '|' ∉ (signed.contactName.getD "").toList
  contactEmail : '|' ∉ (signed.contactEmail.getD "").toList

/-- Another license carries the code of a signed one, whatever the key and the function behind the code are. -/
def StillVerifies (signed other : SignedFields) : Prop :=
  ∀ (primitives : Primitives) (masterKey : Bytes) (key mac : Field) (payload : Bytes),
    macPayload (signed.file key mac) = some payload → verifyMac primitives payload mac masterKey = some true →
      ∃ recut, macPayload (other.file key mac) = some recut ∧ verifyMac primitives recut mac masterKey = some true

/-- The authentication code binds the fields of a license. -/
structure Binds (signed : SignedFields) : Prop where
  payload : ∀ (other : SignedFields) (key mac : Field),
    macPayload (other.file key mac) = macPayload (signed.file key mac) → other.Agrees signed
  file : ∀ other, StillVerifies signed other → other.Agrees signed

section Payloads
variable {signed other : SignedFields} {key mac : Field}

theorem asText_orEmpty (field : Option String) : (Field.ofOption field).orEmpty.asText = some (field.getD "") := by
  cases field with
  | none => rfl
  | some value =>
      by_cases empty : value = ""
      · rw [empty]
        rfl
      · have given : (Field.ofOption (some value)).truthy = true := decide_eq_true empty
        unfold Field.orEmpty
        rw [given]
        rfl

theorem macPayload_file (signed : SignedFields) (key mac : Field) : macPayload (signed.file key mac) = some signed.payload := by
  unfold macPayload file
  simp only [List.mapM_cons, List.mapM_nil, asText_orEmpty]
  rfl

theorem toList_loop (bytes : ByteArray) (i : Nat) (read : List UInt8) :
    ByteArray.toList.loop bytes i read = read.reverse ++ bytes.data.toList.drop i := by
  induction i, read using ByteArray.toList.loop.induct bytes with
  | case1 i read inside ih =>
      rw [ByteArray.toList.loop, if_pos inside, ih]
      have here : i < bytes.data.toList.length := by simpa using inside
      have byte : bytes.get! i = bytes.data.toList[i] := by
        have inside : i < bytes.data.size := inside
        show bytes.data[i]! = _
        rw [getElem!_pos bytes.data i inside]
        rfl
      rw [List.drop_eq_getElem_cons here]
      simp [byte]
  | case2 i read outside =>
      rw [ByteArray.toList.loop, if_neg outside]
      have behind : bytes.data.toList.length ≤ i := by simpa using outside
      simp [List.drop_eq_nil_of_le behind]

theorem encode_inj {first second : String} (same : encode first = encode second) : first = second := by
  unfold encode ByteArray.toList at same
  rw [toList_loop, toList_loop] at same
  have bytes : first.toUTF8 = second.toUTF8 := ByteArray.ext (Array.toList_inj.mp same)
  exact String.toByteArray_inj.mp bytes

theorem agrees_iff : other.Agrees signed ↔ other.texts.map String.toList = signed.texts.map String.toList := by
  have texts : other.Agrees signed ↔ other.texts = signed.texts := by
    simp only [texts, List.cons.injEq, and_true]
    exact ⟨fun same => ⟨same.licenseId, same.edition, same.expiry, same.contactName, same.contactEmail⟩,
      fun ⟨licenseId, edition, expiry, contactName, contactEmail⟩ =>
        ⟨licenseId, edition, expiry, contactName, contactEmail⟩⟩
  rw [texts, List.map_inj_right fun _ _ => String.toList_inj.mp]

theorem undivided_iff : signed.Undivided ↔ ∀ field ∈ signed.texts.map String.toList, '|' ∉ field := by
  simp only [texts, List.map_cons, List.map_nil, List.forall_mem_cons]
  constructor
  · intro clear
    exact ⟨clear.licenseId, clear.edition, clear.expiry, clear.contactName, clear.contactEmail, fun _ absent => by cases absent⟩
  · rintro ⟨licenseId, edition, expiry, contactName, contactEmail, -⟩
    exact ⟨licenseId, edition, expiry, contactName, contactEmail⟩

/-- Two signed texts are equal when the joined characters are. -/
theorem payload_eq_iff : other.payload = signed.payload ↔
    List.intercalate ['|'] (other.texts.map String.toList) = List.intercalate ['|'] (signed.texts.map String.toList) := by
  have characters : ∀ fields : SignedFields,
      ("|".intercalate fields.texts).toList = List.intercalate ['|'] (fields.texts.map String.toList) :=
    fun fields => String.toList_intercalate
  rw [← characters, ← characters, String.toList_inj]
  exact ⟨encode_inj, congrArg encode⟩

end Payloads

section Codes
variable {signed other : SignedFields}

theorem hexDigit_inj : ∀ first < 16, ∀ second < 16, Json.hexDigit first = Json.hexDigit second → first = second := by
  decide

theorem hexDigit_ascii : ∀ value < 16, (Json.hexDigit value).toNat < 128 := by
  decide

theorem hexdigest_inj {first second : Bytes} (same : hexdigest first = hexdigest second) : first = second := by
  have digits := String.ofList_inj.mp same
  clear same
  induction first generalizing second with
  | nil =>
      cases second with
      | nil => rfl
      | cons byte rest => cases digits
  | cons byte rest ih =>
      cases second with
      | nil => cases digits
      | cons other others =>
          simp only [List.flatMap_cons, List.cons_append, List.nil_append, List.cons.injEq] at digits
          obtain ⟨high, low, behind⟩ := digits
          have small := byte.toNat_lt
          have other_small := other.toNat_lt
          have upper := hexDigit_inj _ (by omega) _ (by omega) high
          have lower := hexDigit_inj _ (by omega) _ (by omega) low
          rw [ih behind, UInt8.toNat_inj.mp (show byte.toNat = other.toNat by omega)]

theorem hexdigest_ascii (bytes : Bytes) : (hexdigest bytes).toList.all (·.toNat < 128) = true := by
  rw [hexdigest, String.toList_ofList, List.all_eq_true]
  intro c member
  obtain ⟨byte, -, digit⟩ := List.mem_flatMap.mp member
  have small := byte.toNat_lt
  simp only [List.mem_cons, List.not_mem_nil, or_false] at digit
  rcases digit with rfl | rfl
  · exact decide_eq_true (hexDigit_ascii _ (by omega))
  · exact decide_eq_true (hexDigit_ascii _ (by omega))

theorem verifyMac_hexdigest (primitives : Primitives) (payload : Bytes) (digest : Bytes) (masterKey : Bytes) :
    verifyMac primitives payload (.text (hexdigest digest)) masterKey =
      some (decide (hexdigest (primitives.hmacSha256 masterKey payload) = hexdigest digest)) := by
  unfold verifyMac Field.asText
  rw [Option.filter_some, if_pos (hexdigest_ascii digest)]
  rfl

/-- A recut license verifies with every function behind the code only when it has the signed text. -/
theorem payload_of_stillVerifies (verifies : StillVerifies signed other) : other.payload = signed.payload := by
  let plain : Primitives := ⟨fun _ _ _ => none, fun _ => none, fun _ message => message⟩
  have genuine : verifyMac plain signed.payload (.text (hexdigest signed.payload)) [] = some true := by
    rw [verifyMac_hexdigest]
    exact congrArg some (decide_eq_true rfl)
  obtain ⟨recut, read, verified⟩ := verifies plain [] .null _ signed.payload (macPayload_file signed _ _) genuine
  rw [macPayload_file] at read
  rw [verifyMac_hexdigest] at verified
  rw [Option.some.inj read]
  exact hexdigest_inj (of_decide_eq_true (Option.some.inj verified))

/-- The code binds the fields of a license exactly when none of them holds the separator. -/
theorem binds_iff (signed : SignedFields) : signed.Binds ↔ signed.Undivided := by
  have several : 2 ≤ (signed.texts.map String.toList).length := by simp [texts]
  rw [undivided_iff]
  constructor
  · intro binds
    rw [← Joined.determined_iff several]
    intro others length same
    obtain ⟨licenseId, edition, expiry, contactName, contactEmail, rfl⟩ :
        ∃ a b c d e, others = [a, b, c, d, e] := by
      match others, length with
      | [a, b, c, d, e], _ => exact ⟨a, b, c, d, e, rfl⟩
    let other : SignedFields := ⟨.ofList licenseId, .ofList edition, some (.ofList expiry), some (.ofList contactName),
      some (.ofList contactEmail)⟩
    have fields : other.texts.map String.toList = [licenseId, edition, expiry, contactName, contactEmail] := by
      simp [other, texts]
    rw [← fields] at same ⊢
    have equal := payload_eq_iff.mpr same
    exact agrees_iff.mp (binds.payload other .null .null (by rw [macPayload_file, macPayload_file, equal]))
  · intro clear
    have agrees : ∀ other : SignedFields, other.payload = signed.payload → other.Agrees signed := by
      intro other equal
      exact agrees_iff.mpr (Joined.fields_of_joined clear (by simp [texts]) (payload_eq_iff.mp equal))
    constructor
    · intro other key mac equal
      rw [macPayload_file, macPayload_file] at equal
      exact agrees other (Option.some.inj equal)
    · intro other verifies
      exact agrees other (payload_of_stillVerifies verifies)

end Codes
end SignedFields

section Recut
variable {primitives : Primitives} {enc : Option Bytes} {lic other : PlusLic} {status : LicenseStatus}

/-- A license with the key, the code and the signed text of a valid one is valid. -/
theorem decryptedStatus_recut (valid : decryptedStatus primitives enc lic = some status ∧ status.valid = true)
    (licenseId : other.licenseId = lic.licenseId) (key : other.key = lic.key) (mac : other.mac = lic.mac)
    (payload : macPayload other = macPayload lic) :
    decryptedStatus primitives enc other = some ⟨normalizeEdition other.edition, true, other.contactName,
      other.contactEmail, other.expiry, none, false, false⟩ := by
  have masterKey : decryptMasterKey primitives other = decryptMasterKey primitives lic := by
    unfold decryptMasterKey
    rw [licenseId, key]
  obtain ⟨decrypted, genuine⟩ := valid
  unfold decryptedStatus at decrypted ⊢
  rw [masterKey, mac, payload]
  split at decrypted
  · cases decrypted
    cases genuine
  · split at decrypted
    · cases decrypted
      cases genuine
    · split at decrypted
      · cases decrypted
        cases genuine
      · rename_i right
        rw [if_neg right]
        split at decrypted
        · cases decrypted
          cases genuine
        · rename_i given
          rw [if_neg given]
          simp only [Option.bind_eq_bind, Option.bind_eq_some_iff] at decrypted
          obtain ⟨text, read, answer, verified, same⟩ := decrypted
          rw [read]
          simp only [Option.bind_eq_bind, Option.bind_some, verified]
          split at same
          · rename_i right
            rw [if_pos right]
          · cases same
            cases genuine

/-- A license until the end of a year for a holder whose name starts with the separator. -/
def limitedLicense : SignedFields where
  licenseId := "L-1"
  edition := "plus_v1"
  expiry := some "2025-12-31"
  contactName := some "|ACME"

/-- The same text, cut into an unlimited license for another holder. -/
def unlimitedLicense : SignedFields where
  licenseId := "L-1"
  edition := "plus_v1|2025-12-31"
  contactName := some "ACME"

/-- The limited license becomes an unlimited one of another edition with the same key and the same code. -/
theorem recut_unlimited :
    ¬ limitedLicense.Binds ∧ ∀ primitives enc today key mac status,
      keyStatus primitives enc today (limitedLicense.file key mac) = some status → status.valid = true →
        keyStatus primitives enc today (unlimitedLicense.file key mac) =
          some ⟨.text "plus_v1|2025-12-31", true, .text "ACME", .null, .null, none, false, false⟩ := by
  have same : unlimitedLicense.payload = limitedLicense.payload := by
    rw [SignedFields.payload_eq_iff]
    decide
  have payload : ∀ key mac, macPayload (unlimitedLicense.file key mac) = macPayload (limitedLicense.file key mac) := by
    intro key mac
    rw [SignedFields.macPayload_file, SignedFields.macPayload_file, same]
  refine ⟨fun binds => ?_, fun primitives enc today key mac status loaded valid => ?_⟩
  · have editions := (binds.payload unlimitedLicense .null .null (payload _ _)).edition
    revert editions
    decide
  · have decrypted : decryptedStatus primitives enc (limitedLicense.file key mac) = some status := by
      unfold keyStatus at loaded
      have expiry : (limitedLicense.file key mac).expiry = .text "2025-12-31" := rfl
      rw [expiry] at loaded
      dsimp only at loaded
      split at loaded
      · cases loaded
        cases valid
      · split at loaded
        · cases loaded
          cases valid
        · exact loaded
    exact decryptedStatus_recut ⟨decrypted, valid⟩ rfl rfl rfl (payload key mac)

end Recut
end P3Portal.License
