import P3Portal.Construction.Alerts.Check
import P3Portal.Foundation.PythonUrl

namespace P3Portal.Alerts
open Foundation

section Receivers
variable (checkNetloc : List Char → Except String Unit)

def hexValue (character : Char) : Option Nat :=
  if '0' ≤ character ∧ character ≤ '9' then some (character.toNat - '0'.toNat)
  else if 'a' ≤ character ∧ character ≤ 'f' then some (character.toNat - 'a'.toNat + 10)
  else if 'A' ≤ character ∧ character ≤ 'F' then some (character.toNat - 'A'.toNat + 10)
  else none

/-- `urllib.parse.unquote` for a name that is compared with an ASCII text; a byte above ASCII matches no letter. -/
def unquoteAscii : List Char → List Char
  | '%' :: high :: low :: rest =>
      match hexValue high, hexValue low with
      | some left, some right => Char.ofNat (16 * left + right) :: unquoteAscii rest
      | _, _ => '%' :: unquoteAscii (high :: low :: rest)
  | '+' :: rest => ' ' :: unquoteAscii rest
  | character :: rest => character :: unquoteAscii rest
  | [] => []

/-- `"token" in parse_qs(query)`: a field without a value does not count. -/
def namesToken (query : List Char) : Bool :=
  (query.splitOn '&').any fun field =>
    match PythonUrl.divide '=' field with
    | (name, some (_ :: _)) => unquoteAscii name = "token".toList
    | _ => false

/-- A URL that `urlparse` refuses is none of Gotify. -/
def isGotifyUrl (url : String) : Bool :=
  match PythonUrl.urlparse checkNetloc url.toList with
  | .error _ => false
  | .ok parsed => Text.endsWith "/message" (Text.rstrip '/' (String.ofList parsed.path)) && namesToken parsed.query

/-- Gotify takes its token in the URL. -/
def buildEffectiveUrl (url : String) (token : Option String) (receiverType : String) : String :=
  if receiverType = "gotify" && url ≠ "" then
    (Text.truthy token).elim url fun token => Text.rstrip '/' url ++ "/message?token=" ++ token
  else url

/-- The `Authorization` header of `adapt_webhook_request`, which ntfy and other receivers get their token in. -/
def authorization (url : String) (token : Option String) (receiverType : String) : Option String :=
  if receiverType = "gotify" || isGotifyUrl checkNetloc url then none
  else if receiverType = "slack" || receiverType = "mattermost" || receiverType = "discord" then none
  else (Text.truthy token).map fun token => "Bearer " ++ token

/-- A posted webhook, with the URL that it was built from and the stored token that was read for it. -/
structure Delivery where
  receiver : String
  stored : Option EncryptedToken
  effectiveUrl : String
  authorization : Option String
  deriving DecidableEq

/-- Both senders build the URL first and adapt the request to it. -/
def post (receiver : String) (supplied : Option String) (stored : Option EncryptedToken) (receiverType : String) :
    Delivery :=
  let token := supplied.or (stored.map EncryptedToken.plain)
  let effectiveUrl := buildEffectiveUrl receiver token receiverType
  ⟨receiver, stored, effectiveUrl, authorization checkNetloc effectiveUrl token receiverType⟩

/-- The receiver gets the token in the URL or in the header. -/
def Delivery.carriesToken (delivery : Delivery) : Bool :=
  delivery.effectiveUrl ≠ delivery.receiver || delivery.authorization.isSome

end Receivers

/-- The body of a test passed the checks of its URL. -/
structure TestWebhookRequest where
  webhookUrl : String
  webhookToken : Option String := none
  webhookReceiverType : String := "custom"
  ruleId : Option Int := none
  isHttp : Text.startsWith "http://" webhookUrl || Text.startsWith "https://" webhookUrl

/-- A notification that waits for its turn, with the rule as it was when its event was recorded. -/
structure Notification where
  ruleId : Int
  webhookUrl : Option String
  webhookReceiverType : Option String
  isPlus : Bool
  deriving DecidableEq

section Senders
variable {F : Type} (checkNetloc : List Char → Except String Unit) (db : AlertDb F)

def getRawWebhookToken (ruleId : Int) : Option EncryptedToken :=
  (db.rules.find? fun row => row.id = ruleId).bind AlertRule.webhookToken

/-- The token of the rule is only read when the form has none. -/
def testWebhook (body : TestWebhookRequest) : Delivery :=
  let supplied := Text.truthy body.webhookToken
  let stored := if supplied.isSome then none else (body.ruleId.filter (· ≠ 0)).bind (getRawWebhookToken db)
  post checkNetloc body.webhookUrl supplied stored (Text.orElse (some body.webhookReceiverType) "custom")

/-- The URL is the one of the recorded rule, and the token is the one that is stored now. -/
def sendWebhook (notification : Notification) : Option Delivery :=
  if notification.isPlus then
    (Text.truthy notification.webhookUrl).map fun webhookUrl =>
      post checkNetloc webhookUrl none (getRawWebhookToken db notification.ruleId)
        (Text.orElse notification.webhookReceiverType "custom")
  else none

end Senders

section Histories
variable {F : Type} [PythonFloat F] (checkNetloc : List Char → Except String Unit) (lower : String → String)
  (isPlus : Bool)

/-- The polls of the nodes run side by side. -/
structure Poll (F : Type) where
  vms : List (Int × VmData F) := []
  checks : List (SeverityCheck F) := []

/-- The portal with its polls in progress, the notifications that wait and the webhooks that were posted. -/
structure Alerting (F : Type) where
  db : AlertDb F := {}
  polls : List (Poll F) := []
  notifications : List Notification := []
  deliveries : List Delivery := []

inductive AlertingStep (F : Type) [PythonFloat F] where
  | edit (edit : AlertEdit F)
  | start (nodeId : Int) (vmsData : List (VmData F))
  | nextVm (poll : Nat)
  | nextCheck (poll : Nat)
  | notify (notification : Nat)
  | testWebhook (username : String) (body : TestWebhookRequest)

/-- Each event that a check records is announced with the rule that the check was made for. -/
def announced (db : AlertDb F) (check : SeverityCheck F) : List Notification :=
  ((processSeverity db check).events.drop db.events.length).map fun _ =>
    ⟨check.key.ruleId, check.webhookUrl, check.webhookReceiverType, isPlus⟩

def alertingStep (state : Alerting F) : AlertingStep F → Alerting F
  | .edit edit => { state with db := applyEdit isPlus state.db edit }
  | .start nodeId vmsData => { state with polls := state.polls ++ [{ vms := vmsData.map fun vmData => (nodeId, vmData) }] }
  | .nextVm index =>
      match state.polls[index]? with
      | some ⟨(nodeId, vmData) :: rest, []⟩ =>
          { state with polls := state.polls.set index ⟨rest, vmChecks lower isPlus state.db nodeId vmData⟩ }
      | _ => state
  | .nextCheck index =>
      match state.polls[index]? with
      | some ⟨vms, check :: rest⟩ =>
          { state with
            db := processSeverity state.db check
            polls := state.polls.set index ⟨vms, rest⟩
            notifications := state.notifications ++ announced isPlus state.db check }
      | _ => state
  | .notify index =>
      match state.notifications[index]? with
      | some notification =>
          { state with
            notifications := state.notifications.eraseIdx index
            deliveries := state.deliveries ++ (sendWebhook checkNetloc state.db notification).toList }
      | none => state
  | .testWebhook _ body => { state with deliveries := state.deliveries ++ [testWebhook checkNetloc state.db body] }

end Histories
end P3Portal.Alerts
