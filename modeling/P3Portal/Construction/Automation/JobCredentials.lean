import P3Portal.Construction.Automation.Launch
import P3Portal.Construction.Vms.VmAccess

namespace P3Portal.Automation
open Schema Foundation Nodes Proxmox

/-- The host of the whole portal stands in the stored configuration or in the settings. -/
structure HostConfig where
  configProxmoxHost : Option String := none
  settingsProxmoxHost : String := ""

def HostConfig.host (config : HostConfig) : String :=
  Text.orElse config.configProxmoxHost config.settingsProxmoxHost

/-- A login through Proxmox is verified with the configuration of its time; the portal keeps only the
credentials. -/
structure StoredLogin where
  credentials : ProxmoxCredentials
  config : HostConfig

/-- The client that verifies a login has no base of its own. -/
def StoredLogin.verifiedAt (login : StoredLogin) : String :=
  (ProxmoxClient.create none none).base login.config.host

/-- Reads the token of one role from the row of a node. -/
abbrev TokenColumns := NodeRow → Option (String × String)

variable (databaseText : ParamValue → Option String) (config : HostConfig) (db : Database)

/-- The database compares a value that is no text in its own way or raises, and no member list holds it. -/
def getNodeForParam : ParamValue → Except Unit (Option NodeRow)
  | .text name => .ok (getNodeForProxmoxName db name)
  | value =>
      match databaseText value with
      | none => .error ()
      | some name => .ok (defaultFirst (db.nodes.filter fun row => row.proxmoxNode = name)).head?

/-- A name that no row has still selects the only installation. -/
def tokenNode (value : ParamValue) : Except Unit (Option NodeRow) :=
  (getNodeForParam databaseText db value).map fun found =>
    match found with
    | some row => some row
    | none => if countNodes db = 1 then getDefaultNode db else none

/-- The token and the host come from one row, or there is no token and the host is the configured one. -/
def getNodeTokens (columns : TokenColumns) (value : ParamValue) :
    Except Unit (Option (String × String) × String) :=
  (tokenNode databaseText db value).map fun found =>
    match found with
    | some row => (columns row, row.url)
    | none => (none, config.host)

/-- Admins run playbooks with the admin token. -/
def tokenRole (role : Role) : Role := if role = .admin then .admin else .operator

/-- Without a name the default node answers, and an exception leaves neither a host nor a token. -/
def resolveNodeTokens (name : Option ParamValue) (role : Role) : Option String × Option (String × String) :=
  match name.filter ParamValue.truthy with
  | some value =>
      match getNodeTokens databaseText config db (fun row => Vms.extractToken row (tokenRole role)) value with
      | .error _ => (none, none)
      | .ok (token, hostUrl) => (some hostUrl, token)
  | none =>
      match getDefaultNode db with
      | none => (none, none)
      | some row => (some row.url, Vms.extractToken row (tokenRole role))

/-- A token id is split into the user, the realm and the name when it has both separators. -/
def tokenIdVars (tokenId : String) : List (String × String) :=
  match Text.rsplit '!' tokenId with
  | none => []
  | some (userRealm, tokenName) =>
      match Text.rsplit '@' userRealm with
      | none => []
      | some (user, realm) => [("proxmox_portal_user", user), ("proxmox_portal_realm", realm),
          ("proxmox_portal_token_name", tokenName)]

/-- The variables of a login, or else those of the token. -/
def credentialVars (login : Option ProxmoxCredentials) (token : Option (String × String)) :
    List (String × String) :=
  match login, token with
  | some login, _ => [("api_user", login.username ++ "@" ++ login.realm), ("api_password", login.password)]
  | none, some (tokenId, secret) => tokenIdVars tokenId ++ [("proxmox_portal_token_secret", secret)]
  | none, none => []

/-- `urlparse` finds the host name inside a URL. -/
structure AnsibleSite where
  hostname : String → Option String

def ansibleHostVars (site : AnsibleSite) (host : String) : List (String × String) :=
  [("proxmox_api_host", Text.orElse (site.hostname host) host), ("proxmox_api_base_url", Text.rstrip '/' host)]

/-- The variables of the portal are set over the params. -/
def buildExtravars (site : AnsibleSite) (params : Params) (login : Option ProxmoxCredentials)
    (hostOverride : Option String) (token : Option (String × String)) : Params :=
  (ansibleHostVars site (Text.orElse hostOverride config.host) ++ credentialVars login token).foldl
    (fun extra entry => extra.set entry.1 (.text entry.2)) params

/-- What `run_ansible_job` hands to its runner; a job with neither a login nor a token fails early. -/
def ansibleExtravars (site : AnsibleSite) (params : Params) (role : Role) (login : Option ProxmoxCredentials) :
    Option Params :=
  let resolved := resolveNodeTokens databaseText config db (params.get? "proxmox_node") role
  if login.isNone && resolved.2.isNone then none
  else some (buildExtravars config site params login resolved.1 resolved.2)

/-- The build of a named node asks for its host and its token. -/
def packerNodeTokens (params : Params) : Option String × Option (String × String) :=
  match ((params.get? "proxmox_node").filter ParamValue.truthy).or
      ((params.get? "node").filter ParamValue.truthy) with
  | none => (none, none)
  | some value =>
      match getNodeTokens databaseText config db extractPackerToken value with
      | .error _ => (none, none)
      | .ok (token, hostUrl) => (some hostUrl, token)

/-- What `run_packer_job` hands to its runner beside the rest of its input; a build with neither a login nor a
token fails early. -/
def packerInput (rest : PackerInput) (params : Params) (login : Option ProxmoxCredentials) : Option PackerInput :=
  let resolved := packerNodeTokens databaseText config db params
  let input := { rest with
    params := params
    credentials := login
    proxmoxHostOverride := resolved.1
    configProxmoxHost := config.configProxmoxHost
    settingsProxmoxHost := config.settingsProxmoxHost }
  match login, resolved.2 with
  | some _, _ => some { input with tokenId := "", tokenSecret := "" }
  | none, some token => some { input with tokenId := token.1, tokenSecret := token.2 }
  | none, none => none

end P3Portal.Automation
