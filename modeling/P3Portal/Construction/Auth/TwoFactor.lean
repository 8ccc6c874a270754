import P3Portal.Construction.Auth.CurrentUser
import P3Portal.Foundation.Interleaving
import P3Portal.Foundation.OrderedMap
import P3Portal.Foundation.PythonNumber

namespace P3Portal.Auth
open Schema Foundation Http

/-- The encryption of the secrets, the check of a TOTP code at a time, two functions on texts and the hash
are parts of the running portal. -/
structure TwoFactorSite where
  encryptSecret : String → String
  decryptSecret : String → Option String
  totpValid : Int → String → String → Bool
  isDigit : String → Bool
  upper : String → String
  sha256 : String → String

section
variable (site : TwoFactorSite)

/-- `str.strip` removes these code points, and `str.replace` the character. -/
def strip (text : String) : String :=
  let blank := fun character : Char => Number.isSpace character || (28 ≤ character.toNat && character.toNat ≤ 31)
  String.ofList ((text.toList.dropWhile blank).rdropWhile blank)

def without (character : Char) (text : String) : String := String.ofList (text.toList.filter (· ≠ character))

/-- An empty secret or code is never valid. -/
def verifyTotp (now : Int) (secret code : String) : Bool :=
  let digits := without ' ' (strip code)
  secret ≠ "" && code ≠ "" && site.isDigit digits && site.totpValid now secret digits

def normalizeRecovery (code : String) : String := without ' ' (without '-' (site.upper (strip code)))

def hashRecovery (code : String) : String := site.sha256 (normalizeRecovery site code)

/-- An absent secret and one that cannot be decrypted are the same. -/
def decrypt (value : Option String) : Option String := (Text.truthy value).bind site.decryptSecret

/-- The unconfirmed secret when the code belongs to it. -/
def confirmedSecret (now : Int) (row : LocalUser) (code : String) : Option String :=
  (decrypt site row.totpPendingSecret).filter fun secret => verifyTotp site now secret code

/-- The code belongs to the active secret. -/
def totpAccepted (now : Int) (row : LocalUser) (code : String) : Bool :=
  (decrypt site row.totpSecret).any fun secret => verifyTotp site now secret code

variable (db : Database) (userId : Int)

/-- The statements of the service change the row of one user. -/
def updateUserRow (change : LocalUser → LocalUser) : Database :=
  { db with localUsers := db.localUsers.map fun row => if row.id = userId then change row else row }

def writePending (secret : String) : Database :=
  updateUserRow db userId fun row => { row with totpPendingSecret := some (site.encryptSecret secret) }

def writeActivation (secret : String) (hashes : List String) : Database :=
  updateUserRow db userId fun row =>
    { row with
      totpSecret := some (site.encryptSecret secret)
      totpPendingSecret := none
      totpEnabled := true
      totpRecoveryCodes := some hashes }

def writeRecoveryCodes (hashes : List String) : Database :=
  updateUserRow db userId fun row => { row with totpRecoveryCodes := some hashes }

/-- `disable` and `admin_reset` remove everything. -/
def disable : Database :=
  updateUserRow db userId fun row =>
    { row with
      totpSecret := none
      totpPendingSecret := none
      totpEnabled := false
      totpRecoveryCodes := none }

/-- The activation when nothing happens between its read and its write. -/
def activate (now : Int) (code : String) (plain : List String) : Option Database :=
  ((getUserById db userId).bind fun row => confirmedSecret site now row code).map fun secret =>
    writeActivation site db userId secret (plain.map (hashRecovery site))

/-- The policy demands a second factor for everybody or for some roles. -/
structure TwoFactorPolicy where
  enforceGlobal : Bool := false
  enforceRoles : List String := []
  deriving DecidableEq

def isRequiredForRole (policy : TwoFactorPolicy) (role : Role) : Bool :=
  policy.enforceGlobal || policy.enforceRoles.contains role.name
end

/-- The requests that use the second factor of one account. -/
inductive FactorRequest where
  | startEnrollment (secret : String)
  | activate (code : String)
  | regenerateRecoveryCodes
  | disable
  | verifySecondFactor (code : String)
  deriving DecidableEq

inductive FactorAnswer where
  | refused
  | done
  | codes (plain : List String)
  | totp
  | recovery
  deriving DecidableEq

/-- A request first reads the row and later writes it in another session. -/
inductive FactorPhase where
  | arrived
  | activating (secret : String)
  | regenerating
  | consuming (rest : List String)
  | finished (answer : FactorAnswer)
  deriving DecidableEq

structure FactorCall where
  request : FactorRequest
  phase : FactorPhase := .arrived
  deriving DecidableEq

/-- The ledger of the issued hashes and of the current set is kept beside the database; no request reads it. -/
structure Vault where
  db : Database
  issued : List String := []
  current : List String := []
  deriving DecidableEq

section
variable (site : TwoFactorSite) (userId : Int)

/-- An absent list of hashes is empty. -/
def storedCodes (row : LocalUser) : List String := row.totpRecoveryCodes.getD []

/-- The first session of a login checks the TOTP code and then looks for the hash. -/
def readSecondFactor (now : Int) (row : LocalUser) (code : String) : FactorPhase :=
  if !row.totpEnabled then .finished .refused
  else if totpAccepted site now row code then .finished .totp
  else if hashRecovery site code ∈ storedCodes row then
    .consuming ((storedCodes row).erase (hashRecovery site code))
  else .finished .refused

/-- The first session of a request; those without a read write at once. -/
def startFactor (now : Int) (vault : Vault) : FactorRequest → Vault × FactorPhase
  | .startEnrollment secret => ({ vault with db := writePending site vault.db userId secret }, .finished .done)
  | .disable => ({ vault with db := disable vault.db userId, current := [] }, .finished .done)
  | .activate code => (vault,
      match (getUserById vault.db userId).bind fun row => confirmedSecret site now row code with
      | some secret => .activating secret
      | none => .finished .refused)
  | .regenerateRecoveryCodes => (vault,
      if (getUserById vault.db userId).any LocalUser.totpEnabled then .regenerating else .finished .refused)
  | .verifySecondFactor code => (vault,
      match getUserById vault.db userId with
      | some row => readSecondFactor site now row code
      | none => .finished .refused)

/-- A set of new codes replaces the stored one. -/
def Vault.issue (vault : Vault) (db : Database) (plain : List String) : Vault where
  db := db
  issued := vault.issued ++ plain.map (hashRecovery site)
  current := plain.map (hashRecovery site)

/-- One turn of a request; new codes are drawn in the turn that stores them. -/
def FactorCall.turn (now : Int) (plain : List String) (vault : Vault) (call : FactorCall) : Vault × FactorPhase :=
  match call.phase with
  | .arrived => startFactor site userId now vault call.request
  | .activating secret =>
      (vault.issue site (writeActivation site vault.db userId secret (plain.map (hashRecovery site))) plain,
        .finished (.codes plain))
  | .regenerating =>
      (vault.issue site (writeRecoveryCodes vault.db userId (plain.map (hashRecovery site))) plain,
        .finished (.codes plain))
  | .consuming rest => ({ vault with db := writeRecoveryCodes vault.db userId rest }, .finished .recovery)
  | .finished answer => (vault, .finished answer)

def FactorCall.advance (now : Int) (plain : List String) (vault : Vault) (call : FactorCall) : Vault × FactorCall :=
  ((call.turn site userId now plain vault).1, { call with phase := (call.turn site userId now plain vault).2 })

abbrev FactorState := Interleaved Vault FactorCall

inductive FactorEvent where
  | request (request : FactorRequest)
  | advance (index : Nat) (now : Int) (plain : List String)
  deriving DecidableEq

def factorStep (state : FactorState) : FactorEvent → FactorState
  | .request request => state.spawn { request := request }
  | .advance index now plain => state.act (FactorCall.advance site userId now plain) index
end

/-- A token that the portal signed expires after a whole second. -/
structure SignedToken where
  claims : Claims
  exp : Int
  deriving DecidableEq

def preAuthTtlMinutes : Int := 5

/-- The library cuts the expiry down to whole seconds. -/
def signPreAuthToken (subject jti : String) (now : Rat) : SignedToken where
  claims := createPreAuthToken subject jti
  exp := (now + preAuthTtlMinutes * 60).floor

/-- The library accepts a token in the whole second of its expiry. -/
def decodeAccessToken (now : Rat) (token : SignedToken) : Option Claims :=
  if now.floor ≤ token.exp then some token.claims else none

def maxChallengeAttempts : Nat := 5

/-- The portal counts the failed attempts of each token in memory. A ledger, which no request reads, lists the
tokens whose attempts were forgotten. -/
structure Challenges where
  attempts : OrderedMap String (Nat × Int) := .empty
  forgotten : List String := []

/-- The recorded attempts of a token. -/
def Challenges.count (challenges : Challenges) (jti : String) : Nat :=
  ((challenges.attempts.get? jti).map Prod.fst).getD 0

/-- The entries that are dropped enter the ledger. -/
def Challenges.keep (challenges : Challenges) (kept : String → Nat × Int → Bool) : Challenges where
  attempts := challenges.attempts.filter kept
  forgotten := challenges.forgotten ++
    (challenges.attempts.filter fun jti entry => !kept jti entry).entries.map Prod.fst

def cleanupChallengeAttempts (challenges : Challenges) (now : Rat) : Challenges :=
  challenges.keep fun _ entry => !decide ((entry.2 : Rat) < now)

def popChallengeAttempts (challenges : Challenges) (jti : String) : Challenges :=
  challenges.keep fun stored _ => stored ≠ jti

def setChallengeAttempts (challenges : Challenges) (jti : String) (attempts : Nat) (exp : Int) : Challenges :=
  { challenges with attempts := challenges.attempts.set jti (attempts, exp) }

/-- A request of the second login step pauses at its two database calls. -/
inductive ChallengePhase where
  | arrived
  | checked (attempts : Nat)
  | verifying (attempts : Nat) (userId : Int)
  | refused (exception : HttpException)
  | failed (exception : HttpException)
  | accepted (method : String)

/-- The body of the request; a text without a valid signature is no token. -/
structure ChallengeCall where
  token : Option SignedToken
  code : String
  phase : ChallengePhase := .arrived

/-- The request counts under the identifier of its token. -/
def ChallengeCall.jti (call : ChallengeCall) : String :=
  ((call.token.map SignedToken.claims).bind Claims.jti).getD ""

def ChallengeCall.username (call : ChallengeCall) : String :=
  ((call.token.map SignedToken.claims).bind Claims.sub).getD ""

def ChallengeCall.exp (call : ChallengeCall) : Int := (call.token.map SignedToken.exp).getD 0

/-- What a request meets when its turn comes: two readings of the clock, the database and the TOTP time. -/
structure Moment where
  decodeAt : Rat := 0
  cleanupAt : Rat := 0
  db : Database := {}
  totpTime : Int := 0

def challengeExpired : HttpException := ⟨401, "2FA-Sitzung abgelaufen"⟩

def authenticationFailed : HttpException := ⟨401, "Authentication failed"⟩

/-- The token and the recorded attempts are checked without a pause. -/
def checkChallenge (moment : Moment) (challenges : Challenges) (call : ChallengeCall) :
    Challenges × ChallengePhase :=
  match call.token.bind (decodeAccessToken moment.decodeAt) with
  | none => (challenges, .refused challengeExpired)
  | some claims =>
      if claims.stage ≠ some "2fa" then (challenges, .refused challengeExpired)
      else if call.username = "" then (challenges, .refused challengeExpired)
      else
        let challenges := cleanupChallengeAttempts challenges moment.cleanupAt
        if maxChallengeAttempts ≤ challenges.count call.jti then (challenges, .refused challengeExpired)
        else (challenges, .checked (challenges.count call.jti))

section
variable (site : TwoFactorSite)

/-- The method that accepts the code, if any does. -/
def verifySecondFactor (moment : Moment) (userId : Int) (code : String) : Option String :=
  match (getUserById moment.db userId).map fun row => readSecondFactor site moment.totpTime row code with
  | some (.finished .totp) => some "totp"
  | some (.consuming _) => some "recovery"
  | _ => none

/-- One turn of a request; a failed code stores the attempts that were read before plus one. -/
def ChallengeCall.turn (moment : Moment) (challenges : Challenges) (call : ChallengeCall) :
    Challenges × ChallengePhase :=
  match call.phase with
  | .arrived => checkChallenge moment challenges call
  | .checked attempts => (challenges,
      match (getUserByUsername moment.db call.username).filter fun user => user.active && user.totpEnabled with
      | none => .refused authenticationFailed
      | some user => .verifying attempts user.id)
  | .verifying attempts userId =>
      match verifySecondFactor site moment userId call.code with
      | none => (setChallengeAttempts challenges call.jti (attempts + 1) call.exp, .failed authenticationFailed)
      | some method => (popChallengeAttempts challenges call.jti, .accepted method)
  | phase => (challenges, phase)

def ChallengeCall.advance (moment : Moment) (challenges : Challenges) (call : ChallengeCall) :
    Challenges × ChallengeCall :=
  ((call.turn site moment challenges).1, { call with phase := (call.turn site moment challenges).2 })

abbrev ChallengeState := Interleaved Challenges ChallengeCall

inductive ChallengeEvent where
  | request (token : Option SignedToken) (code : String)
  | advance (index : Nat) (moment : Moment)

def challengeStep (state : ChallengeState) : ChallengeEvent → ChallengeState
  | .request token code => state.spawn { token := token, code := code }
  | .advance index moment => state.act (ChallengeCall.advance site moment) index
end
end P3Portal.Auth
