import P3Portal.Foundation.PythonText
import P3Portal.Foundation.PythonUrl

namespace P3Portal.Http
open Foundation IpAddress PythonUrl

/-- Loopback, private, link-local, shared, multicast, translated and unspecified addresses. -/
def blockedNetworkTexts : List String :=
  ["127.0.0.0/8", "10.0.0.0/8", "172.16.0.0/12", "192.168.0.0/16", "169.254.0.0/16", "100.64.0.0/10", "224.0.0.0/4",
    "::1/128", "fc00::/7", "fe80::/10", "ff00::/8", "64:ff9b::/96", "0.0.0.0/8"]

def blockedNetworks : List Network := blockedNetworkTexts.filterMap fun text => ipNetwork text.toList

def addrInNetworks (addr : Version × Nat) (networks : List Network) : Bool :=
  networks.any (·.contains addr) || (ipv4Mapped addr).any fun mapped => networks.any (·.contains mapped)

/-- A text that is no address counts as private. -/
def isPrivateIp (ip : List Char) : Bool :=
  match ipAddress ip with
  | none => true
  | some addr => addrInNetworks addr blockedNetworks

/-- The resolver writes an address in numbers, so that no character of it divides a URL. -/
abbrev AddressText :=
  { text : List Char // ∀ character ∈ text, endsNetloc character = false ∧ character ∉ ['[', ']', '@'] }

/-- A call of `getaddrinfo` returns addresses in some order, fails as a lookup or raises for the name itself. -/
inductive Lookup where
  | answers (addresses : List AddressText)
  | failed
  | raised (message : String)

/-- The first address of the answer counts. -/
def resolveHost : Lookup → Except String (Option AddressText)
  | .answers addresses => .ok addresses.head?
  | .failed => .ok none
  | .raised message => .error message

/-- One pattern is a host name, or a suffix after a star. -/
def matchesPattern (hostname pattern : String) : Bool :=
  let pattern := Text.strip (Text.lower pattern)
  if pattern = "" then false
  else if Text.startsWith "*." pattern then
    let suffix := Text.sliceFrom 1 pattern
    Text.endsWith suffix hostname || hostname = String.ofList (suffix.toList.dropWhile (· = '.'))
  else hostname = pattern

def matchesAllowlist (hostname : List Char) (patterns : List String) : Bool :=
  patterns.any (matchesPattern (Text.lower (String.ofList hostname)))

section
variable (checkNetloc : List Char → Except String Unit)

def validateWebhookUrl (lookup : List Char → Lookup) (url : List Char) (allowHttp : Bool)
    (allowlistPatterns : List String) : Except String Unit := do
  if url = [] then throw "Webhook-URL darf nicht leer sein"
  let parsed ← urlparse checkNetloc url
  if parsed.scheme = "https".toList then pure ()
  else if parsed.scheme = "http".toList then
    if !allowHttp then
      throw "Webhook-URLs müssen HTTPS verwenden. HTTP ist nur mit explizitem allow_http-Flag erlaubt."
  else
    throw ("Ungültiges URL-Schema '" ++ String.ofList parsed.scheme ++ "'. Nur https (und http mit Flag) erlaubt.")
  match parsed.hostname with
  | none => throw "Webhook-URL enthält keinen Hostnamen"
  | some hostname =>
      match ← resolveHost (lookup hostname) with
      | none => throw ("Hostname '" ++ String.ofList hostname ++ "' konnte nicht aufgelöst werden")
      | some resolvedIp =>
          if isPrivateIp resolvedIp.val then
            throw ("Webhook-URL zeigt auf eine private/interne IP (" ++ String.ofList resolvedIp.val ++
              "). Aus Sicherheitsgründen werden interne Netzwerke blockiert.")
          if allowlistPatterns ≠ [] && !matchesAllowlist hostname allowlistPatterns then
            throw ("Hostname '" ++ String.ofList hostname ++ "' ist nicht in der Webhook-Allowlist. " ++
              "Bitte den Hostnamen in System Settings → Sicherheit → Webhook-Allowlist hinzufügen.")

/-- The name is resolved again right before a request; an unsafe name comes with the address, if there is one. -/
def checkDnsRebinding (lookup : List Char → Lookup) (hostname : List Char) : Except String (Bool × List Char) := do
  match ← resolveHost (lookup hostname) with
  | none => return (false, [])
  | some resolvedIp => return (!isPrivateIp resolvedIp.val, resolvedIp.val)

/-- An IPv6 address stands in brackets in a URL. -/
def ipInUrl (resolvedIp : List Char) : List Char :=
  if (ipAddress resolvedIp).any fun addr => addr.1 = .v6 then '[' :: (resolvedIp ++ [']']) else resolvedIp

/-- A missing port and the port 0 are not written. -/
def portPart : Option Nat → List Char
  | none => []
  | some 0 => []
  | some (port + 1) => ':' :: Nat.toDigits 10 (port + 1)

/-- The rewritten URL names the address, and the header keeps the name. -/
def pinUrlToIp (url resolvedIp : List Char) : Except String (List Char × List Char) := do
  let parsed ← urlparse checkNetloc url
  let port ← parsed.port
  let netloc := ipInUrl resolvedIp ++ portPart port
  let hostname := parsed.hostname.getD []
  return ({ parsed with netloc := netloc }.geturl,
    if hostname = [] then netloc else hostname ++ portPart port)

end

/-- A port in a URL is empty or a colon and digits. -/
def IsPort (port : List Char) : Prop := port = [] ∨ ∃ digits, port = ':' :: digits ∧ digits.all isDigit = true

/-- An HTTP client opens a connection for a URL; where the host is a literal address, it connects to this address,
whatever a lookup would answer. -/
structure HttpClient where
  connectsTo : (List Char → Lookup) → List Char → Except String (List Char)
  literal : ∀ (lookup : List Char → Lookup) (scheme : List Char) (address : AddressText) (port rest target : List Char),
    scheme = "http".toList ∨ scheme = "https".toList → (ipAddress address.val).isSome = true → IsPort port →
    AfterNetloc rest →
    connectsTo lookup (scheme ++ ':' :: '/' :: '/' :: (ipInUrl address.val ++ port ++ rest)) = .ok target →
      target = address.val

/-- The server answers with a status, or the client raises. -/
inductive Reply where
  | status (code : Nat)
  | raised (message : String)

/-- What a dispatch meets outside: the answer to each of its lookups, the answers that the client itself would get
while it sends an attempt, and the replies. -/
structure Outside where
  lookup : Nat → List Char → Lookup
  later : Nat → List Char → Lookup
  client : HttpClient
  reply : Nat → Reply

/-- A connection of an attempt, with the name that the server sees. -/
structure Connection where
  attempt : Nat
  address : List Char
  hostHeader : List Char
  sniHostname : List Char
  deriving DecidableEq

/-- The last row of a dispatch in the log of the external API. -/
structure CallbackLog where
  statusCode : Option Nat
  attempt : Nat
  success : Bool
  error : String := ""
  deriving DecidableEq

/-- An attempt is blocked for good, fails or succeeds. -/
inductive Attempt where
  | blocked (message : String)
  | failed (message : String) (connection : Option Connection)
  | succeeded (statusCode : Nat) (connection : Connection)

def retryDelays : List Nat := [5, 25, 125]

section
variable (checkNetloc : List Char → Except String Unit) (outside : Outside) (callbackUrl : List Char)

/-- The request goes out over the connection that the client opens for the pinned URL. -/
def post (attempt : Nat) (hostname pinnedUrl hostHeader : List Char) : Attempt :=
  match outside.client.connectsTo (outside.later attempt) pinnedUrl with
  | .error message => .failed message none
  | .ok target =>
      let connection : Connection := ⟨attempt, target, hostHeader, hostname⟩
      match outside.reply attempt with
      | .raised message => .failed message (some connection)
      | .status code =>
          if 200 ≤ code && code ≤ 299 then .succeeded code connection
          else .failed ("HTTP " ++ toString code) (some connection)

/-- The body of the loop checks the name, pins the URL to the checked address and posts. -/
def attemptOnce (attempt : Nat) : Attempt :=
  match urlparse checkNetloc callbackUrl with
  | .error message => .failed message none
  | .ok parsed =>
      let hostname := parsed.hostname.getD []
      match checkDnsRebinding (outside.lookup attempt) hostname with
      | .error message => .failed message none
      | .ok (false, resolvedIp) => .blocked ("DNS-Rebinding geblockt (" ++
          (if resolvedIp = [] then "unresolvable" else String.ofList resolvedIp) ++ ")")
      | .ok (true, resolvedIp) =>
          match pinUrlToIp checkNetloc callbackUrl resolvedIp with
          | .error message => .failed message none
          | .ok (pinnedUrl, hostHeader) => post outside attempt hostname pinnedUrl hostHeader

/-- A success or a block ends the loop over the delays. -/
def attemptFrom (attempt : Nat) (lastExc : String) : List Nat → List Connection × CallbackLog
  | [] => ([], ⟨none, retryDelays.length + 1, false, lastExc⟩)
  | _ :: delays =>
      match attemptOnce checkNetloc outside callbackUrl attempt with
      | .blocked message => ([], ⟨none, retryDelays.length + 1, false, message⟩)
      | .succeeded statusCode connection => ([connection], ⟨some statusCode, attempt, true, ""⟩)
      | .failed message connection =>
          let (connections, log) := attemptFrom (attempt + 1) message delays
          (connection.toList ++ connections, log)

/-- The first lookup serves the validation; the attempts start at one. -/
def dispatchWebhook (allowlist : List String) : List Connection × CallbackLog :=
  match validateWebhookUrl checkNetloc (outside.lookup 0) callbackUrl false allowlist with
  | .error message => ([], ⟨none, 1, false, message⟩)
  | .ok () => attemptFrom checkNetloc outside callbackUrl 1 "" (0 :: retryDelays)

end

/-- Loopback, link-local, multicast and unspecified addresses; a Proxmox host may have a private one. -/
def setupBlockedNetworkTexts : List String :=
  ["127.0.0.0/8", "169.254.0.0/16", "224.0.0.0/4", "0.0.0.0/8", "::1/128", "fe80::/10", "ff00::/8"]

def setupBlockedNetworks : List Network := setupBlockedNetworkTexts.filterMap fun text => ipNetwork text.toList

/-- A text that is no address counts as unsafe. -/
def isUnsafeSetupTarget (ip : List Char) : Bool :=
  match ipAddress ip with
  | none => true
  | some addr => addrInNetworks addr setupBlockedNetworks
end P3Portal.Http
