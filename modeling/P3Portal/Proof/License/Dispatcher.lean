import P3Portal.Construction.License.Dispatcher
import P3Portal.Foundation.Run

namespace P3Portal.License
open Foundation

/-- The status of an active trial that ends thirty days after its start. -/
def ActiveTrial (start : Date) (status : LicenseStatus) : Prop :=
  ∃ endDate, Date.addDays trialDurationDays start = some endDate ∧
    status = ⟨.text "plus_trial", true, .null, .null, .text endDate.isoformat, some "trial", true, true⟩

section Status
variable {primitives : Primitives} {readable : Bool} {portal : Portal} {status : LicenseStatus}

/-- A decrypted license is no trial. -/
theorem decryptedStatus_noTrial {enc : Option Bytes} {lic : PlusLic}
    (found : decryptedStatus primitives enc lic = some status) : status.trialActive = false := by
  unfold decryptedStatus at found
  split at found
  · rw [← Option.some.inj found]
    rfl
  · split at found
    · rw [← Option.some.inj found]
      rfl
    · split at found
      · rw [← Option.some.inj found]
        rfl
      · split at found
        · rw [← Option.some.inj found]
          rfl
        · obtain ⟨payload, -, verified⟩ := Option.bind_eq_some_iff.mp found
          obtain ⟨genuine, -, answer⟩ := Option.bind_eq_some_iff.mp verified
          split at answer
          · rw [← Option.some.inj answer]
          · rw [← Option.some.inj answer]
            rfl

/-- A license file never makes an active trial, also not when it names the edition of the trial. -/
theorem loadStatus_noTrial {content : FileContent} (present : portal.file = some content)
    (found : loadStatus primitives readable portal = some status) : status.trialActive = false := by
  unfold loadStatus at found
  rw [present] at found
  cases content with
  | notJson =>
      rw [← Option.some.inj found]
  | incomplete =>
      rw [← Option.some.inj found]
  | license lic =>
      dsimp only at found
      unfold keyStatus at found
      split at found
      · exact decryptedStatus_noTrial found
      · split at found
        · rw [← Option.some.inj found]
          rfl
        · split at found
          · rw [← Option.some.inj found]
            rfl
          · exact decryptedStatus_noTrial found
      · rw [← Option.some.inj found]
        rfl
      · cases found

/-- An evaluation changes the cached status only. -/
theorem getLicenseStatus_frame (primitives : Primitives) (readable : Bool) (portal : Portal) :
    ∃ cache loadedAt, (getLicenseStatus primitives readable portal).1 =
      { portal with cache := cache, cacheLoadedAt := loadedAt } := by
  unfold getLicenseStatus
  split
  · exact ⟨portal.cache, portal.cacheLoadedAt, rfl⟩
  · split
    · exact ⟨portal.cache, portal.cacheLoadedAt, rfl⟩
    · exact ⟨_, _, rfl⟩

/-- Without a cached status the files and the record are read. -/
theorem getLicenseStatus_reset (primitives : Primitives) (readable : Bool) (portal : Portal) :
    (getLicenseStatus primitives readable (resetLicenseCache portal)).2 = loadStatus primitives readable portal := by
  have same : loadStatus primitives readable (resetLicenseCache portal) = loadStatus primitives readable portal := rfl
  unfold getLicenseStatus
  rw [same]
  split
  · rename_i status cached
    cases cached
  · cases loadStatus primitives readable portal with
    | none => rfl
    | some status => rfl

end Status

section Start
variable {primitives : Primitives} {request : TrialRequest} {portal : Portal} {status : LicenseStatus}

/-- The portal after both writes. -/
def marked (request : TrialRequest) (portal : Portal) : Portal :=
  let portal := { portal with record := ⟨some "true", some portal.today.isoformat⟩ }
  if request.midnight then passMidnight portal else portal

/-- The cache does not matter to the evaluation of the files. -/
theorem loadStatus_marked (cache : Option LicenseStatus) (loadedAt : Nat) :
    loadStatus primitives request.finalRead
        (marked request { portal with cache := cache, cacheLoadedAt := loadedAt }) =
      loadStatus primitives request.finalRead (marked request portal) := by
  unfold marked
  dsimp only
  split
  · rfl
  · rfl

/-- The stored flag of a trial counts. -/
theorem used_true (startedAt : Option String) : TrialRecord.used ⟨some "true", startedAt⟩ = true := by
  show decide (Text.lower "true" = "true") = true
  decide

/-- The mark of a trial changes the record and perhaps the day. -/
theorem marked_fields (request : TrialRequest) (portal : Portal) :
    (marked request portal).file = portal.file ∧
      (marked request portal).record = ⟨some "true", some portal.today.isoformat⟩ ∧
      ((marked request portal).today = portal.today ∨
        portal.today.next = some (marked request portal).today) := by
  unfold marked
  dsimp only
  split
  · refine ⟨rfl, rfl, ?_⟩
    show portal.today.next.getD portal.today = portal.today ∨
      portal.today.next = some (portal.today.next.getD portal.today)
    cases portal.today.next with
    | none => exact .inl rfl
    | some tomorrow => exact .inr rfl
  · exact ⟨rfl, rfl, .inl rfl⟩

/-- A marked trial is used. -/
theorem used_marked (request : TrialRequest) (portal : Portal) : (marked request portal).record.used = true := by
  obtain ⟨-, record, -⟩ := marked_fields request portal
  rw [record]
  exact used_true _

/-- The mark of a trial fails, or it is stored. -/
theorem markTrialStarted_cases (request : TrialRequest) (portal : Portal) :
    (markTrialStarted request portal).2 = false ∨
      markTrialStarted request portal =
        ({ portal with record := ⟨some "true", some portal.today.isoformat⟩ }, true) := by
  unfold markTrialStarted
  split
  · exact .inl rfl
  · dsimp only
    split
    · exact .inl rfl
    · exact .inr rfl

/-- A refusal leaves the record as it is, and so does a failure when the guard read a set flag. A success found the
flag unset, wrote both values and read the status again. -/
def AnswerSpec (primitives : Primitives) (request : TrialRequest) (portal : Portal) : Portal × TrialAnswer → Prop
  | (after, .refused _) => after.record = portal.record
  | (after, .failed) => (getTrialFlags request.guardRead portal.record).1 = true → after.record = portal.record
  | (after, .started status) => (getTrialFlags request.guardRead portal.record).1 = false ∧
      after.record.used = true ∧ loadStatus primitives request.finalRead (marked request portal) = some status

/-- The last evaluation answers from the files and the record as the writes left them. -/
theorem finalStatus_spec {after : Portal} (unset : (getTrialFlags request.guardRead portal.record).1 = false)
    (used : after.record.used = true)
    (same : loadStatus primitives request.finalRead after =
      loadStatus primitives request.finalRead (marked request portal)) :
    AnswerSpec primitives request portal
      (match getLicenseStatus primitives request.finalRead (resetLicenseCache after) with
        | (portal, some status) => (portal, .started status)
        | (portal, none) => (portal, .failed)) := by
  obtain ⟨cache, loadedAt, frame⟩ := getLicenseStatus_frame primitives request.finalRead (resetLicenseCache after)
  have evaluation := getLicenseStatus_reset primitives request.finalRead after
  rw [same] at evaluation
  cases last : getLicenseStatus primitives request.finalRead (resetLicenseCache after) with
  | mk final evaluated =>
      rw [last] at frame evaluation
      dsimp only at frame evaluation
      cases evaluated with
      | none =>
          intro found
          rw [unset] at found
          cases found
      | some status =>
          refine ⟨unset, ?_, evaluation.symm⟩
          rw [frame]
          exact used

/-- The start of a trial answers by its guard, its mark and its last evaluation. -/
theorem startTrial_spec (primitives : Primitives) (request : TrialRequest) (portal : Portal) :
    AnswerSpec primitives request portal (startTrial primitives request portal) := by
  obtain ⟨cache, loadedAt, frame⟩ := getLicenseStatus_frame primitives request.statusRead portal
  unfold startTrial
  cases first : getLicenseStatus primitives request.statusRead portal with
  | mk before evaluated =>
      rw [first] at frame
      dsimp only at frame
      rw [frame]
      cases evaluated with
      | none => exact fun _ => rfl
      | some status =>
          dsimp only
          split
          · exact rfl
          · split
            · exact rfl
            · rename_i unset
              rcases markTrialStarted_cases request { portal with cache := cache, cacheLoadedAt := loadedAt } with
                failed | written
              · cases outcome : markTrialStarted request { portal with cache := cache, cacheLoadedAt := loadedAt } with
                | mk after success =>
                    rw [outcome] at failed
                    dsimp only at failed
                    rw [failed]
                    exact fun found => absurd found unset
              · rw [written]
                exact finalStatus_spec (Bool.eq_false_iff.mpr unset) (used_marked request _)
                  (loadStatus_marked cache loadedAt)

/-- A trial that started was unused before and is used afterwards. -/
theorem startTrial_started {after : Portal} (started : startTrial primitives request portal = (after, .started status)) :
    (getTrialFlags request.guardRead portal.record).1 = false ∧ after.record.used = true ∧
      loadStatus primitives request.finalRead (marked request portal) = some status := by
  have spec := startTrial_spec primitives request portal
  rw [started] at spec
  exact spec

/-- A refused start leaves the record alone. -/
theorem startTrial_refused {after : Portal} {detail : String}
    (refused : startTrial primitives request portal = (after, .refused detail)) :
    after.record = portal.record := by
  have spec := startTrial_spec primitives request portal
  rw [refused] at spec
  exact spec

/-- A written date is not empty. -/
theorem truthy_isoformat (date : Date) : Text.truthy (some date.isoformat) = some date.isoformat := by
  apply (Text.truthy_eq_some _ _).mpr
  refine ⟨rfl, ?_⟩
  intro empty
  have read := Date.fromIsoformat_isoformat date
  rw [empty, show Date.fromIsoformat "" = none by decide] at read
  cases read

/-- A trial that starts today is active today and tomorrow. -/
theorem trialStatus_fresh (start today : Date) (endDate : Date)
    (last : Date.addDays trialDurationDays start = some endDate)
    (soon : today = start ∨ start.next = some today) :
    trialStatus (true, some start.isoformat) today =
      some ⟨.text "plus_trial", true, .null, .null, .text endDate.isoformat, some "trial", true, true⟩ := by
  have covered : today.rank ≤ endDate.rank := by
    rcases soon with same | tomorrow
    · rw [same]
      exact Date.rank_addDays last
    · rw [show trialDurationDays = 29 + 1 from rfl, Date.addDays, tomorrow, Option.bind_some] at last
      exact Date.rank_addDays last
  unfold trialStatus
  simp only [Date.fromIsoformat_isoformat, last, Option.map_some, if_pos covered]

/-- A successful start makes an active trial exactly when no license file exists and the last read succeeds. -/
theorem startTrial_active_iff {after : Portal}
    (started : startTrial primitives request portal = (after, .started status)) :
    ActiveTrial portal.today status ↔ portal.file = none ∧ request.finalRead = true := by
  obtain ⟨-, -, found⟩ := startTrial_started started
  obtain ⟨file, record, soon⟩ := marked_fields request portal
  constructor
  · rintro ⟨endDate, -, active⟩
    cases present : portal.file with
    | some content =>
        rw [present] at file
        have inactive := loadStatus_noTrial file found
        rw [active] at inactive
        cases inactive
    | none =>
        rw [present] at file
        cases read : request.finalRead with
        | true => exact ⟨rfl, rfl⟩
        | false =>
            rw [read] at found
            simp only [loadStatus, file, getTrialFlags, Bool.false_eq_true, if_false, trialStatus] at found
            have inactive := congrArg LicenseStatus.trialActive (Option.some.inj found)
            rw [active] at inactive
            cases inactive
  · rintro ⟨absent, read⟩
    rw [absent] at file
    simp only [loadStatus, file, read, getTrialFlags, if_true, record, used_true, truthy_isoformat] at found
    cases last : Date.addDays trialDurationDays portal.today with
    | none =>
        simp only [trialStatus, Date.fromIsoformat_isoformat, last, Option.map_none] at found
        cases found
    | some endDate =>
        rw [trialStatus_fresh portal.today _ endDate last soon] at found
        exact ⟨endDate, last, (Option.some.inj found).symm⟩

end Start

section Runs
variable {primitives : Primitives} {portal : Portal}

/-- This visit starts the trial successfully. -/
def startsTrial (primitives : Primitives) (visit : Portal × LicenseEvent) : Bool :=
  match visit.2 with
  | .startTrial request => match (startTrial primitives request visit.1).2 with
    | .started _ => true
    | _ => false
  | _ => false

/-- The guard of this visit does not miss a set flag. -/
def FlagSeen (portal : Portal) (event : LicenseEvent) : Prop :=
  ∀ request, event = .startTrial request → portal.record.used = true → request.guardRead = true

/-- A guard that sees the flag knows that the trial is used. -/
theorem FlagSeen.flag {request : TrialRequest} (seen : FlagSeen portal (.startTrial request))
    (used : portal.record.used = true) : (getTrialFlags request.guardRead portal.record).1 = true := by
  rw [getTrialFlags, if_pos (seen request rfl used)]
  exact used

/-- Once the trial was used, no event changes the record. -/
theorem licenseStep_record (used : portal.record.used = true) {event : LicenseEvent} (seen : FlagSeen portal event) :
    (licenseStep primitives portal event).record = portal.record := by
  cases event with
  | startTrial request =>
      have spec := startTrial_spec primitives request portal
      have flag := seen.flag used
      show (startTrial primitives request portal).1.record = portal.record
      cases outcome : startTrial primitives request portal with
      | mk after answer =>
          rw [outcome] at spec
          cases answer with
          | started status =>
              rw [spec.1] at flag
              cases flag
          | refused detail => exact spec
          | failed => exact spec flag
  | upload readable content =>
      cases content with
      | notJson => rfl
      | incomplete => rfl
      | license lic =>
          obtain ⟨cache, loadedAt, frame⟩ := getLicenseStatus_frame primitives readable
            (resetLicenseCache { portal with file := some (.license lic) })
          show (getLicenseStatus primitives readable
            (resetLicenseCache { portal with file := some (.license lic) })).1.record = portal.record
          rw [frame]
          rfl
  | deactivate readable =>
      show (deactivateLicense primitives readable portal).1.record = portal.record
      unfold deactivateLicense
      split
      · rfl
      · rename_i content present
        obtain ⟨cache, loadedAt, frame⟩ := getLicenseStatus_frame primitives readable
          (resetLicenseCache { portal with file := none, disabled := some content })
        show (getLicenseStatus primitives readable
          (resetLicenseCache { portal with file := none, disabled := some content })).1.record = portal.record
        rw [frame]
        rfl
  | status readable =>
      obtain ⟨cache, loadedAt, frame⟩ := getLicenseStatus_frame primitives readable portal
      show (getLicenseStatus primitives readable portal).1.record = portal.record
      rw [frame]
  | resetCache => rfl
  | replaceFiles file disabled enc => rfl
  | pass nanoseconds days => rfl

/-- A successful start leaves the flag set. It met the flag unset when its guard read it. -/
theorem startsTrial_record {event : LicenseEvent} (starts : startsTrial primitives (portal, event) = true)
    (seen : FlagSeen portal event) :
    portal.record.used = false ∧ (licenseStep primitives portal event).record.used = true := by
  cases event with
  | startTrial request =>
      cases outcome : startTrial primitives request portal with
      | mk after answer =>
          cases answer with
          | started status =>
              obtain ⟨unset, used, -⟩ := startTrial_started outcome
              refine ⟨?_, ?_⟩
              · cases flag : portal.record.used with
                | false => rfl
                | true =>
                    rw [seen.flag flag] at unset
                    cases unset
              · show (startTrial primitives request portal).1.record.used = true
                rw [outcome]
                exact used
          | refused detail =>
              simp only [startsTrial, outcome, Bool.false_eq_true] at starts
          | failed =>
              simp only [startsTrial, outcome, Bool.false_eq_true] at starts
  | upload readable content => cases starts
  | deactivate readable => cases starts
  | status readable => cases starts
  | resetCache => cases starts
  | replaceFiles file disabled enc => cases starts
  | pass nanoseconds days => cases starts

/-- Once the trial was used, no later request starts it. -/
theorem startsTrial_never (events : List LicenseEvent) {portal : Portal} (used : portal.record.used = true)
    (seen : ∀ visit ∈ visits (licenseStep primitives) portal events, FlagSeen visit.1 visit.2) :
    (visits (licenseStep primitives) portal events).countP (startsTrial primitives) = 0 := by
  have kept : ∀ before event, before.record.used = true → FlagSeen before event →
      (licenseStep primitives before event).record.used = true := by
    intro before event used seen
    rw [licenseStep_record used seen]
    exact used
  apply List.countP_eq_zero.mpr
  intro visit member starts
  have stillUsed := visits_invariant (licenseStep primitives) kept events used seen visit member
  rw [(startsTrial_record starts (seen visit member)).1] at stillUsed
  cases stillUsed

/-- The record of a used trial is that of the last state. -/
theorem run_record (events : List LicenseEvent) {portal : Portal} (used : portal.record.used = true)
    (seen : ∀ visit ∈ visits (licenseStep primitives) portal events, FlagSeen visit.1 visit.2) :
    (run (licenseStep primitives) portal events).record = portal.record := by
  have kept : ∀ before event, before.record = portal.record → FlagSeen before event →
      (licenseStep primitives before event).record = portal.record := by
    intro before event same seen
    rw [← same] at used
    rw [licenseStep_record used seen, same]
  exact run_invariant (licenseStep primitives) kept events rfl seen

/-- A run starts the trial at most once. -/
theorem startsTrial_once (events : List LicenseEvent) (portal : Portal)
    (seen : ∀ visit ∈ visits (licenseStep primitives) portal events, FlagSeen visit.1 visit.2) :
    (visits (licenseStep primitives) portal events).countP (startsTrial primitives) ≤ 1 := by
  induction events generalizing portal with
  | nil => exact Nat.zero_le 1
  | cons event rest ih =>
      have here := seen (portal, event) List.mem_cons_self
      have later : ∀ visit ∈ visits (licenseStep primitives) (licenseStep primitives portal event) rest,
          FlagSeen visit.1 visit.2 := fun visit member => seen visit (List.mem_cons_of_mem _ member)
      rw [visits, List.countP_cons]
      split
      · rename_i starts
        rw [startsTrial_never rest (startsTrial_record starts here).2 later]
      · exact ih _ later

/-- In every run a successful start makes an active trial exactly when no license file exists and the last read of the
record succeeds, and a refused one leaves the record. Where no guard misses a set flag, the run starts the trial at
most once and keeps the record of a used trial. -/
theorem trial_start_iff (primitives : Primitives) (portal : Portal) (events : List LicenseEvent) :
    (∀ visit ∈ visits (licenseStep primitives) portal events, ∀ request, visit.2 = .startTrial request →
      (∀ after status, startTrial primitives request visit.1 = (after, .started status) →
        (ActiveTrial visit.1.today status ↔ visit.1.file = none ∧ request.finalRead = true)) ∧
      ∀ after detail, startTrial primitives request visit.1 = (after, .refused detail) →
        after.record = visit.1.record) ∧
    ((∀ visit ∈ visits (licenseStep primitives) portal events, FlagSeen visit.1 visit.2) →
      (visits (licenseStep primitives) portal events).countP (startsTrial primitives) ≤ 1 ∧
      (portal.record.used = true →
        (visits (licenseStep primitives) portal events).countP (startsTrial primitives) = 0 ∧
        (run (licenseStep primitives) portal events).record = portal.record)) := by
  refine ⟨?_, ?_⟩
  · intro visit _ request _
    exact ⟨fun after status started => startTrial_active_iff started,
      fun after detail refused => startTrial_refused refused⟩
  · intro seen
    exact ⟨startsTrial_once events portal seen,
      fun used => ⟨startsTrial_never events used seen, run_record events used seen⟩⟩

end Runs

def noPrimitives : Primitives := ⟨fun _ _ _ => none, fun _ => none, fun _ _ => []⟩

/-- A portal without license and trial. -/
def freshPortal : Portal := { today := ⟨2024, 5, 1, by decide, by decide, by decide⟩ }

/-- Its administrator uploads a license that has expired. -/
def expiredPortal : Portal :=
  licenseStep noPrimitives freshPortal
    (.upload true (.license { licenseId := .text "4711", expiry := .text "2024-04-30", key := .text "" }))

/-- The start succeeds beside an expired license. It uses up the trial, but the status stays that of the license. -/
theorem trial_burned :
    (startTrial noPrimitives {} expiredPortal).2 =
      .started ⟨.text "plus_v1", false, .null, .null, .text "2024-04-30", some "expired", false, false⟩ ∧
    ¬ ActiveTrial expiredPortal.today
      ⟨.text "plus_v1", false, .null, .null, .text "2024-04-30", some "expired", false, false⟩ ∧
    expiredPortal.record.used = false ∧ (startTrial noPrimitives {} expiredPortal).1.record.used = true := by
  refine ⟨by decide +kernel, ?_, by decide +kernel, by decide +kernel⟩
  rintro ⟨endDate, -, same⟩
  have valid := congrArg LicenseStatus.valid same
  cases valid

/-- Without the license the same start makes a trial until the end of May. -/
example : (startTrial noPrimitives {} freshPortal).2 =
    .started ⟨.text "plus_trial", true, .null, .null, .text "2024-05-31", some "trial", true, true⟩ := by
  decide +kernel

/-- The key of the license opens `plus.enc`. -/
def Opens (primitives : Primitives) (enc : Option Bytes) (lic : PlusLic) : Prop :=
  ∃ masterKey, decryptMasterKey primitives lic = some masterKey ∧
    (enc.bind fun data => aesGcmDecrypt primitives data masterKey) = some plusToken

/-- The license has no expiry or one that lies not in the past. -/
def InDate (today : Date) (expiry : Field) : Prop :=
  expiry = .null ∨ ∃ text date, expiry = .text text ∧ Date.fromIsoformat text = some date ∧ today.rank ≤ date.rank

/-- The fields can be signed, and the code of the file can be compared. -/
def Comparable (lic : PlusLic) : Prop :=
  (macPayload lic).isSome = true ∧ ∃ text, lic.mac = .text text ∧ text.toList.all (·.toNat < 128) = true

/-- The evaluation raises for an expiry that is no text, for fields or a code of other types in a license that opens
`plus.enc`, and for a trial that ends behind the last date. -/
def EvaluationRaises (primitives : Primitives) (readable : Bool) (portal : Portal) : Prop :=
  match portal.file with
  | none => ∃ startedAt start, getTrialFlags readable portal.record = (true, some startedAt) ∧
      Date.fromIsoformat startedAt = some start ∧ Date.addDays trialDurationDays start = none
  | some (.license lic) => (∃ truthy, lic.expiry = .other truthy) ∨
      (InDate portal.today lic.expiry ∧ Opens primitives portal.enc lic ∧ lic.mac.truthy = true ∧ ¬ Comparable lic)
  | some _ => False

section Raises
variable {primitives : Primitives} {readable : Bool} {portal : Portal}

/-- The comparison raises exactly for a code that is no text of ASCII. -/
theorem verifyMac_eq_none_iff {payload : Bytes} {mac : Field} {masterKey : Bytes} :
    verifyMac primitives payload mac masterKey = none ↔
      ¬ ∃ text, mac = .text text ∧ text.toList.all (·.toNat < 128) = true := by
  rw [verifyMac, Option.map_eq_none_iff, Option.filter_eq_none_iff]
  constructor
  · intro refused found
    obtain ⟨text, same, ascii⟩ := found
    exact refused text (by rw [same]; rfl) ascii
  · intro other text found ascii
    cases mac with
    | text value =>
        exact other ⟨value, rfl, by rw [Option.some.inj found]; exact ascii⟩
    | _ => cases found

/-- The codes can be compared exactly when the comparison does not raise. -/
theorem comparable_iff (primitives : Primitives) {lic : PlusLic} {message : Bytes}
    (payload : macPayload lic = some message) (masterKey : Bytes) : Comparable lic ↔ verifyMac primitives message lic.mac masterKey ≠ none := by
  rw [ne_eq, verifyMac_eq_none_iff, not_not, Comparable, payload]
  exact and_iff_right rfl

/-- The decryption raises exactly for a code that cannot be compared. -/
theorem decryptedStatus_eq_none_iff {enc : Option Bytes} {lic : PlusLic} :
    decryptedStatus primitives enc lic = none ↔
      Opens primitives enc lic ∧ lic.mac.truthy = true ∧ ¬ Comparable lic := by
  unfold decryptedStatus Opens
  cases key : decryptMasterKey primitives lic with
  | none => simp
  | some masterKey =>
      cases token : enc.bind fun data => aesGcmDecrypt primitives data masterKey with
      | none => simp [token]
      | some found =>
          by_cases genuine : found = plusToken
          · by_cases signed : lic.mac.truthy = true
            · cases payload : macPayload lic with
              | none => simp [genuine, signed, token, Comparable, payload]
              | some message =>
                  have comparable := comparable_iff primitives payload masterKey
                  cases verified : verifyMac primitives message lic.mac masterKey with
                  | none => simp [genuine, signed, token, comparable, verified]
                  | some answer => cases answer with
                    | false => simp [genuine, signed, token, comparable, verified]
                    | true => simp [genuine, signed, token, comparable, verified]
            · simp [genuine, signed, token]
          · simp [genuine, token]

/-- The evaluation of a key raises exactly for a wrong expiry or a code that cannot be compared. -/
theorem keyStatus_eq_none_iff {enc : Option Bytes} {today : Date} {lic : PlusLic} :
    keyStatus primitives enc today lic = none ↔ (∃ truthy, lic.expiry = .other truthy) ∨
      (InDate today lic.expiry ∧ Opens primitives enc lic ∧ lic.mac.truthy = true ∧ ¬ Comparable lic) := by
  rw [← decryptedStatus_eq_none_iff]
  unfold keyStatus InDate
  cases lic.expiry with
  | null => simp
  | text expiry =>
      cases read : Date.fromIsoformat expiry with
      | none => simp [read]
      | some date =>
          by_cases past : date.rank < today.rank
          · simp [read, past, Nat.not_le_of_lt past]
          · simp [read, past, Nat.le_of_not_lt past]
  | unencodable => simp
  | other truthy => simp

/-- The evaluation of a trial raises exactly for a start whose end has no date. -/
theorem trialStatus_eq_none_iff {flags : Bool × Option String} {today : Date} :
    trialStatus flags today = none ↔ ∃ startedAt start, flags = (true, some startedAt) ∧
      Date.fromIsoformat startedAt = some start ∧ Date.addDays trialDurationDays start = none := by
  obtain ⟨used, startedAt⟩ := flags
  unfold trialStatus
  cases used with
  | false => simp
  | true => cases startedAt with
    | none => simp
    | some startedAt => cases read : Date.fromIsoformat startedAt with
      | none => simp [read]
      | some start => simp [read]

/-- The evaluation of the files raises exactly where one of its parts does. -/
theorem loadStatus_eq_none_iff :
    loadStatus primitives readable portal = none ↔ EvaluationRaises primitives readable portal := by
  unfold loadStatus EvaluationRaises
  cases portal.file with
  | none => exact trialStatus_eq_none_iff
  | some content => cases content with
    | notJson => simp
    | incomplete => simp
    | license lic => exact keyStatus_eq_none_iff

/-- A status that counts is returned; else the license is evaluated and a new status is kept. -/
theorem getLicenseStatus_cases (primitives : Primitives) (readable : Bool) (portal : Portal) :
    (∃ status, portal.cache = some status ∧ portal.now - portal.cacheLoadedAt < ttlNanoseconds ∧
        getLicenseStatus primitives readable portal = (portal, some status)) ∨
      ((∀ status, portal.cache = some status → ttlNanoseconds ≤ portal.now - portal.cacheLoadedAt) ∧
        ((loadStatus primitives readable portal = none ∧
            getLicenseStatus primitives readable portal = (portal, none)) ∨
          ∃ status, loadStatus primitives readable portal = some status ∧
            getLicenseStatus primitives readable portal =
              ({ portal with cache := some status, cacheLoadedAt := portal.now }, some status))) := by
  unfold getLicenseStatus
  split
  · rename_i status counts
    obtain ⟨cached, young⟩ := Option.filter_eq_some_iff.mp counts
    exact .inl ⟨status, cached, of_decide_eq_true young, rfl⟩
  · rename_i old
    refine .inr ⟨?_, ?_⟩
    · intro status cached
      have expired := Option.filter_eq_none_iff.mp old status cached
      exact Nat.le_of_not_lt fun young => expired (decide_eq_true young)
    · cases loaded : loadStatus primitives readable portal with
      | none => exact .inl ⟨rfl, rfl⟩
      | some status => exact .inr ⟨status, rfl, rfl⟩

end Raises

/-- A start of the trial resets the cached status when it passes both guards and writes both values. -/
def startResets (primitives : Primitives) (request : TrialRequest) (portal : Portal) : Bool :=
  match getLicenseStatus primitives request.statusRead portal with
  | (_, none) => false
  | (portal, some status) => !(status.valid && status.edition ≠ .text "plus_trial") &&
      !(getTrialFlags request.guardRead portal.record).1 && (markTrialStarted request portal).2

/-- Asking for the status takes no time. -/
theorem getLicenseStatus_now (primitives : Primitives) (readable : Bool) (portal : Portal) :
    (getLicenseStatus primitives readable portal).1.now = portal.now := by
  obtain ⟨cache, loadedAt, frame⟩ := getLicenseStatus_frame primitives readable portal
  rw [frame]

/-- The mark of a trial leaves the cache and the clock alone. -/
theorem markTrialStarted_clock (request : TrialRequest) (portal : Portal) :
    (markTrialStarted request portal).1.cache = portal.cache ∧
      (markTrialStarted request portal).1.cacheLoadedAt = portal.cacheLoadedAt ∧
      (markTrialStarted request portal).1.now = portal.now := by
  unfold markTrialStarted
  split
  · exact ⟨rfl, rfl, rfl⟩
  · dsimp only
    split
    · exact ⟨rfl, rfl, rfl⟩
    · exact ⟨rfl, rfl, rfl⟩

/-- A start of the trial keeps the status that it read first, or it ends with an evaluation after a reset. -/
theorem startTrial_portal (primitives : Primitives) (request : TrialRequest) (portal : Portal) :
    (startResets primitives request portal = false ∧
        (startTrial primitives request portal).1.cache =
          (getLicenseStatus primitives request.statusRead portal).1.cache ∧
        (startTrial primitives request portal).1.cacheLoadedAt =
          (getLicenseStatus primitives request.statusRead portal).1.cacheLoadedAt ∧
        (startTrial primitives request portal).1.now = portal.now) ∨
      ∃ after, (startTrial primitives request portal).1 =
        (getLicenseStatus primitives request.finalRead (resetLicenseCache after)).1 := by
  have clock := getLicenseStatus_now primitives request.statusRead portal
  unfold startTrial startResets
  cases first : getLicenseStatus primitives request.statusRead portal with
  | mk before evaluated =>
      rw [first] at clock
      dsimp only at clock
      cases evaluated with
      | none => exact .inl ⟨rfl, rfl, rfl, clock⟩
      | some status =>
          dsimp only
          by_cases licensed : (status.valid && status.edition ≠ .text "plus_trial") = true
          · rw [if_pos licensed, licensed]
            exact .inl ⟨rfl, rfl, rfl, clock⟩
          · rw [if_neg licensed]
            by_cases used : (getTrialFlags request.guardRead before.record).1 = true
            · rw [if_pos used, used]
              exact .inl ⟨by simp, rfl, rfl, clock⟩
            · rw [if_neg used]
              obtain ⟨sameCache, sameLoadedAt, sameNow⟩ := markTrialStarted_clock request before
              cases outcome : markTrialStarted request before with
              | mk after success =>
                  rw [outcome] at sameCache sameLoadedAt sameNow
                  cases success with
                  | false => exact .inl ⟨by simp, sameCache, sameLoadedAt, sameNow.trans clock⟩
                  | true =>
                      refine .inr ⟨if request.midnight then passMidnight after else after, ?_⟩
                      dsimp only
                      split
                      · rename_i last
                        rw [last]
                      · rename_i last
                        rw [last]

section History
variable {Impl : Type} {primitives : Primitives} {members : List Member}

/-- The visit resets the cached status. -/
def resets (primitives : Primitives) (visit : Process Impl × HookEvent Impl) : Bool :=
  match visit.2 with
  | .license .resetCache => true
  | .license (.upload _ (.license _)) => true
  | .license (.deactivate _) => visit.1.portal.file.isSome
  | .license (.startTrial request) => startResets primitives request visit.1.portal
  | _ => false

/-- The state in which the visits begin; no visits begin in the last state. -/
def beginning (visits : List (Process Impl × HookEvent Impl)) (last : Process Impl) : Process Impl :=
  (visits.head?.map Prod.fst).getD last

/-- The license evaluated to the status at the moment, and nothing has reset the cache since then. -/
def EvaluatedAt (primitives : Primitives) (past : List (Process Impl × HookEvent Impl)) (process : Process Impl)
    (status : LicenseStatus) (moment : Nat) : Prop :=
  ∃ before since, past = before ++ since ∧ (∀ visit ∈ since, resets primitives visit = false) ∧
    (∃ readable, loadStatus primitives readable (beginning since process).portal = some status) ∧
    (beginning since process).portal.now = moment

/-- The license evaluated to the status in the last minute and not before the last reset. -/
def Recently (primitives : Primitives) (past : List (Process Impl × HookEvent Impl)) (process : Process Impl)
    (status : LicenseStatus) : Prop :=
  ∃ moment, EvaluatedAt primitives past process status moment ∧ moment ≤ process.portal.now ∧
    process.portal.now - moment < ttlNanoseconds

/-- A cached status was evaluated when its time says. -/
def CacheSound (primitives : Primitives) (past : List (Process Impl × HookEvent Impl)) (process : Process Impl) :
    Prop :=
  ∀ status, process.portal.cache = some status →
    EvaluatedAt primitives past process status process.portal.cacheLoadedAt ∧
      process.portal.cacheLoadedAt ≤ process.portal.now

variable {past : List (Process Impl × HookEvent Impl)} {process next : Process Impl} {event : HookEvent Impl}
  {status : LicenseStatus}

/-- A status that was just loaded was evaluated now. -/
theorem EvaluatedAt.here {readable : Bool} (loaded : loadStatus primitives readable process.portal = some status) :
    EvaluatedAt primitives past process status process.portal.now := by
  refine ⟨past, [], (List.append_nil past).symm, ?_, ⟨readable, loaded⟩, rfl⟩
  intro visit absent
  cases absent

/-- A visit without a reset keeps what was evaluated before it. -/
theorem EvaluatedAt.extend {moment : Nat} (evaluated : EvaluatedAt primitives past process status moment)
    (quiet : resets primitives (process, event) = false) (next : Process Impl) :
    EvaluatedAt primitives (past ++ [(process, event)]) next status moment := by
  obtain ⟨before, since, split, kept, loaded, time⟩ := evaluated
  have same : beginning (since ++ [(process, event)]) next = beginning since process := by
    cases since with
    | nil => rfl
    | cons first rest => rfl
  refine ⟨before, since ++ [(process, event)], ?_, ?_, ?_, ?_⟩
  · rw [split, List.append_assoc]
  · intro visit member
    rcases List.mem_append.mp member with old | new
    · exact kept visit old
    · rw [List.mem_singleton.mp new]
      exact quiet
  · rwa [same]
  · rwa [same]

/-- An empty cache is sound. -/
theorem CacheSound.uncached (empty : process.portal.cache = none) : CacheSound primitives past process := by
  intro status cached
  rw [empty] at cached
  cases cached

/-- A visit that keeps the cached status keeps it sound. -/
theorem CacheSound.keep (sound : CacheSound primitives past process)
    (quiet : resets primitives (process, event) = false) (cache : next.portal.cache = process.portal.cache)
    (loadedAt : next.portal.cacheLoadedAt = process.portal.cacheLoadedAt)
    (later : process.portal.now ≤ next.portal.now) :
    CacheSound primitives (past ++ [(process, event)]) next := by
  intro status cached
  rw [cache] at cached
  obtain ⟨evaluated, before⟩ := sound status cached
  rw [loadedAt]
  exact ⟨evaluated.extend quiet next, before.trans later⟩

/-- A status that was evaluated in the last state is sound. -/
theorem CacheSound.fresh {readable : Bool} (loaded : loadStatus primitives readable process.portal = some status)
    (cache : process.portal.cache = some status) (loadedAt : process.portal.cacheLoadedAt = process.portal.now) :
    CacheSound primitives past process := by
  intro other cached
  rw [cache] at cached
  rw [loadedAt, ← Option.some.inj cached]
  exact ⟨EvaluatedAt.here loaded, Nat.le_refl _⟩

/-- A visit that reads the status first and writes no other one later keeps it sound. -/
theorem CacheSound.read (sound : CacheSound primitives past process) {readable : Bool}
    (quiet : resets primitives (process, event) = false)
    (cache : next.portal.cache = (getLicenseStatus primitives readable process.portal).1.cache)
    (loadedAt : next.portal.cacheLoadedAt = (getLicenseStatus primitives readable process.portal).1.cacheLoadedAt)
    (later : next.portal.now = process.portal.now) :
    CacheSound primitives (past ++ [(process, event)]) next := by
  rcases getLicenseStatus_cases primitives readable process.portal with
    ⟨status, -, -, result⟩ | ⟨-, ⟨-, result⟩ | ⟨status, loaded, result⟩⟩
  · rw [result] at cache loadedAt
    exact sound.keep quiet cache loadedAt later.ge
  · rw [result] at cache loadedAt
    exact sound.keep quiet cache loadedAt later.ge
  · rw [result] at cache loadedAt
    intro other cached
    rw [cache] at cached
    rw [loadedAt, later, ← Option.some.inj cached]
    exact ⟨(EvaluatedAt.here loaded).extend quiet next, Nat.le_refl _⟩

/-- A visit that ends with an evaluation after a reset leaves a sound status. -/
theorem CacheSound.reload {readable : Bool} {portal : Portal}
    (last : process.portal = (getLicenseStatus primitives readable (resetLicenseCache portal)).1) :
    CacheSound primitives past process := by
  rcases getLicenseStatus_cases primitives readable (resetLicenseCache portal) with
    ⟨status, cached, -, -⟩ | ⟨-, ⟨-, result⟩ | ⟨status, loaded, result⟩⟩
  · cases cached
  · rw [result] at last
    exact .uncached (by rw [last]; rfl)
  · rw [result] at last
    have same : loadStatus primitives readable process.portal = some status := by
      rw [last]
      exact loaded
    exact .fresh same (by rw [last]) (by rw [last])

/-- An event of the license keeps the cache sound. -/
theorem CacheSound.license (sound : CacheSound primitives past process) (event : LicenseEvent) :
    CacheSound primitives (past ++ [(process, .license event)])
      (hookStep primitives members process (.license event)) := by
  cases event with
  | startTrial request =>
      rcases startTrial_portal primitives request process.portal with
        ⟨quiet, cache, loadedAt, later⟩ | ⟨after, last⟩
      · exact sound.read quiet cache loadedAt later
      · exact .reload last
  | upload readable content =>
      cases content with
      | notJson => exact sound.keep rfl rfl rfl (Nat.le_refl _)
      | incomplete => exact sound.keep rfl rfl rfl (Nat.le_refl _)
      | license lic => exact .reload rfl
  | deactivate readable =>
      cases present : process.portal.file with
      | none =>
          have same : licenseStep primitives process.portal (.deactivate readable) = process.portal := by
            rw [licenseStep, deactivateLicense, present]
          have quiet : resets primitives (process, (.license (.deactivate readable) : HookEvent Impl)) = false := by
            show process.portal.file.isSome = false
            rw [present]
            rfl
          apply sound.keep quiet
          · exact congrArg Portal.cache same
          · exact congrArg Portal.cacheLoadedAt same
          · exact (congrArg Portal.now same).ge
      | some content =>
          apply CacheSound.reload
          show (deactivateLicense primitives readable process.portal).1 = _
          rw [deactivateLicense, present]
  | status readable => exact sound.read rfl rfl rfl (getLicenseStatus_now primitives readable process.portal)
  | resetCache => exact .uncached rfl
  | replaceFiles file disabled enc => exact sound.keep rfl rfl rfl (Nat.le_refl _)
  | pass nanoseconds days => exact sound.keep rfl rfl rfl (Nat.le_add_right _ _)

/-- A call of a gate hook reads the status only when an implementation is registered. -/
theorem resolveGate_portal (primitives : Primitives) (readable : Bool) (active : Option Impl) (portal : Portal) :
    (resolveGate primitives readable active portal).1 = portal ∨
      (resolveGate primitives readable active portal).1 = (getLicenseStatus primitives readable portal).1 := by
  unfold resolveGate
  split
  · exact .inl rfl
  · split
    · rename_i after unread
      exact .inr (congrArg Prod.fst unread).symm
    · rename_i after valid read
      exact .inr (congrArg Prod.fst read).symm

/-- A call of a hook keeps the cache sound. -/
theorem CacheSound.call (sound : CacheSound primitives past process) (readable : Bool) (name : String) :
    CacheSound primitives (past ++ [(process, .call readable name)])
      (hookStep primitives members process (.call readable name)) := by
  rw [hookStep]
  unfold callHook
  split
  · exact sound.keep rfl rfl rfl (Nat.le_refl _)
  · exact sound.keep rfl rfl rfl (Nat.le_refl _)
  · rcases resolveGate_portal primitives readable process.active process.portal with same | same
    · rw [same]
      exact sound.keep rfl rfl rfl (Nat.le_refl _)
    · rw [same]
      exact sound.read rfl rfl rfl (getLicenseStatus_now primitives readable process.portal)

/-- Every event keeps the cached status sound. -/
theorem CacheSound.step (sound : CacheSound primitives past process) (event : HookEvent Impl) :
    CacheSound primitives (past ++ [(process, event)]) (hookStep primitives members process event) := by
  cases event with
  | call readable name => exact sound.call readable name
  | setPlusBehavior impl => exact sound.keep rfl rfl rfl (Nat.le_refl _)
  | license event => exact sound.license event

/-- A gate hook is answered by the registered implementation when the license evaluated to valid recently, and by the
core default otherwise. -/
def GateLawful (primitives : Primitives) (past : List (Process Impl × HookEvent Impl)) (process : Process Impl) :
    Option (Server Impl) → Prop
  | some (.plus impl) => process.active = some impl ∧
      ∃ status, Recently primitives past process status ∧ status.valid = true
  | some .core => process.active = none ∨
      ∃ status, Recently primitives past process status ∧ status.valid = false
  | none => False

/-- The license has to be evaluated for the call, and the evaluation raises. -/
def Stuck (primitives : Primitives) (readable : Bool) (process : Process Impl) : Prop :=
  process.active.isSome = true ∧
    (∀ status, process.portal.cache = some status →
      ttlNanoseconds ≤ process.portal.now - process.portal.cacheLoadedAt) ∧
    EvaluationRaises primitives readable process.portal

/-- With a sound cache the gate answers by law exactly when the process is not stuck. -/
theorem gateLawful_iff (sound : CacheSound primitives past process) (readable : Bool) :
    GateLawful primitives past process (resolveGate primitives readable process.active process.portal).2 ↔
      ¬ Stuck primitives readable process := by
  unfold resolveGate Stuck
  cases registered : process.active with
  | none => exact iff_of_true (.inl registered) fun stuck => Bool.false_ne_true stuck.1
  | some impl =>
      have lawful : ∀ {status}, Recently primitives past process status →
          GateLawful primitives past process (some (if status.valid then .plus impl else .core)) := by
        intro status recent
        cases valid : status.valid with
        | true => exact ⟨registered, status, recent, valid⟩
        | false => exact .inr ⟨status, recent, valid⟩
      unfold isPlusEdition
      rcases getLicenseStatus_cases primitives readable process.portal with
        ⟨status, cached, young, result⟩ | ⟨old, ⟨raised, result⟩ | ⟨status, loaded, result⟩⟩
      · obtain ⟨evaluated, before⟩ := sound status cached
        rw [result]
        apply iff_of_true (lawful ⟨_, evaluated, before, young⟩)
        intro stuck
        exact Nat.not_le_of_lt young (stuck.2.1 status cached)
      · rw [result]
        exact iff_of_false id fun free => free ⟨rfl, old, loadStatus_eq_none_iff.mp raised⟩
      · have minute : process.portal.now - process.portal.now < ttlNanoseconds := by
          rw [Nat.sub_self]
          decide
        rw [result]
        apply iff_of_true (lawful ⟨_, EvaluatedAt.here loaded, Nat.le_refl _, minute⟩)
        intro stuck
        rw [loadStatus_eq_none_iff.mpr stuck.2.2] at loaded
        cases loaded

/-- The cached status is sound at every visit of a run that starts without one. -/
theorem cacheSound_visits (events : List (HookEvent Impl)) {start : Process Impl} (empty : start.portal.cache = none)
    {before after : List (Process Impl × HookEvent Impl)} {visit : Process Impl × HookEvent Impl}
    (split : visits (hookStep primitives members) start events = before ++ visit :: after) :
    CacheSound primitives before visit.1 := by
  have kept : ∀ past process (event : HookEvent Impl), CacheSound primitives past process → True →
      CacheSound primitives (past ++ [(process, event)]) (hookStep primitives members process event) :=
    fun past process event sound _ => sound.step event
  have first : CacheSound primitives [] start := .uncached empty
  exact visits_history (hookStep primitives members) kept events first (fun _ _ => trivial) split

end History
/-- In every run of a process that starts without a cached status, each call of a gate hook obeys the license of the
last minute exactly when it needs no evaluation that raises, and each call of a lifecycle hook reaches the registered
implementation. -/
theorem plus_served_iff {Impl : Type} (primitives : Primitives) (members : List Member) (process : Process Impl)
    (events : List (HookEvent Impl)) {before after : List (Process Impl × HookEvent Impl)} {caller : Process Impl}
    {readable : Bool} {name : String}
    (split : visits (hookStep primitives members) { process with portal := resetLicenseCache process.portal } events =
      before ++ (caller, .call readable name) :: after) :
    (hookKind members name = some .gate →
      (GateLawful primitives before caller (callHook primitives members readable name caller).2 ↔
        ¬ Stuck primitives readable caller)) ∧
    (hookKind members name = some .lifecycle →
      (callHook primitives members readable name caller).2 = some (resolveLifecycle caller.active)) := by
  refine ⟨?_, ?_⟩
  · intro kind
    rw [callHook, kind]
    exact gateLawful_iff (cacheSound_visits events rfl split) readable
  · intro kind
    rw [callHook, kind]

def gateMember : List Member := [{ name := "can_use_stacks", plusDispatch := some .gate }]

/-- On the day after its start a trial opens the gate. -/
def trialProcess : Process Unit where
  portal := { freshPortal with record := ⟨some "true", some "2024-04-30"⟩ }
  active := some ()

/-- During its trial a process serves the hook by law. -/
theorem plus_served_iff_trial :
    GateLawful noPrimitives [] trialProcess
      (callHook noPrimitives gateMember true "can_use_stacks" trialProcess).2 := by
  have free : ¬ Stuck noPrimitives true trialProcess := by
    intro stuck
    have raised := loadStatus_eq_none_iff.mpr stuck.2.2
    revert raised
    decide +kernel
  exact ((plus_served_iff noPrimitives gateMember trialProcess [.call true "can_use_stacks"] rfl).1
    (by decide)).mpr free

example : (callHook noPrimitives gateMember true "can_use_stacks" trialProcess).2 = some (.plus ()) := by
  decide +kernel

/-- An administrator uploads a license with a number as its expiry. After that a gate hook has no answer at all. -/
theorem gate_unanswered :
    hookKind gateMember "can_use_stacks" = some .gate ∧
      (callHook noPrimitives gateMember true "can_use_stacks"
        (run (hookStep noPrimitives gateMember) ⟨freshPortal, none⟩ [.setPlusBehavior (), .license (.upload true
          (.license { licenseId := .text "4711", expiry := .other true, key := .text "" }))])).2 = none := by
  decide +kernel
end P3Portal.License
