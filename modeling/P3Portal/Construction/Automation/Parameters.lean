import P3Portal.Foundation.OrderedMap
import P3Portal.Foundation.Precedence
import P3Portal.Foundation.PythonNumber
import P3Portal.Foundation.PythonText

namespace P3Portal.Automation
open Foundation

/-- A finite float has a truncation; the two other kinds have none. -/
inductive FloatKind where
  | finite (truncated : Int)
  | nan
  | infinite
  deriving DecidableEq

/-- A value of a parsed JSON object. Floats, lists and objects carry the text that `str` shows. -/
inductive ParamValue where
  | null
  | bool (value : Bool)
  | int (value : Int)
  | float (shown : String) (kind : FloatKind)
  | text (value : String)
  | compound (shown : String)
  deriving DecidableEq

/-- `str` and string formatting agree on these values. -/
def ParamValue.str : ParamValue → String
  | .null => "None"
  | .bool true => "True"
  | .bool false => "False"
  | .int value => toString value
  | .float shown _ => shown
  | .text value => value
  | .compound shown => shown

/-- `int` refuses a value with an exception that the caller catches, or overflows on an infinity. -/
inductive IntError where
  | invalid
  | overflow
  deriving DecidableEq

def ParamValue.toInt : ParamValue → Except IntError Int
  | .bool value => .ok (if value then 1 else 0)
  | .int value => .ok value
  | .float _ (.finite truncated) => .ok truncated
  | .float _ .nan => .error .invalid
  | .float _ .infinite => .error .overflow
  | .text value => (Number.intOfText value).elim (.error .invalid) .ok
  | .null | .compound _ => .error .invalid

/-- The keys of a JSON object are unique and keep their order. -/
abbrev Params := OrderedMap String ParamValue

/-- A parameter that a `meta.yaml` declares; an option may lack its value. -/
structure Parameter where
  id : String
  type : String
  required : Bool := false
  min : Option Int := none
  max : Option Int := none
  options : List (Option ParamValue) := []
  deriving DecidableEq

/-- `params.get` does not tell a null value from a missing key. -/
def Params.value (params : Params) (key : String) : Option ParamValue :=
  (params.get? key).filter (· ≠ .null)

/-- An integer parameter is converted and compared with its bounds. -/
def integerErrors (parameter : Parameter) (value : ParamValue) : Except IntError (List String) :=
  match value.toInt with
  | .error .overflow => .error .overflow
  | .error .invalid => .ok ["Parameter '" ++ parameter.id ++ "' must be an integer"]
  | .ok number => .ok (
      (match parameter.min with
        | some least =>
            if number < least then ["Parameter '" ++ parameter.id ++ "' must be >= " ++ toString least] else []
        | none => []) ++
      match parameter.max with
        | some most =>
            if most < number then ["Parameter '" ++ parameter.id ++ "' must be <= " ++ toString most] else []
        | none => [])

/-- A dropdown accepts the texts of its options, and anything when no option has a value. -/
def dropdownErrors (parameter : Parameter) (value : ParamValue) : List String :=
  let valid := parameter.options.filterMap fun option => option.map ParamValue.str
  if valid ≠ [] ∧ value.str ∉ valid then
    ["Parameter '" ++ parameter.id ++ "' must be one of: " ++ ", ".intercalate valid]
  else []

def parameterErrors (parameter : Parameter) (value : Option ParamValue) : Except IntError (List String) :=
  if parameter.required && (value = none || value = some (.text "")) then
    .ok ["Parameter '" ++ parameter.id ++ "' is required"]
  else match value with
    | none => .ok []
    | some value =>
        if parameter.type = "integer" then integerErrors parameter value
        else if parameter.type = "dropdown" then .ok (dropdownErrors parameter value)
        else .ok []

/-- The two validators differ in their reserved names and in the types that they skip. -/
structure ParamRules where
  reserved : List String
  skippedTypes : List String

/-- A reserved key is refused unless a parameter of that name is declared. -/
def reservedErrors (rules : ParamRules) (parameters : List Parameter) (params : Params) : List String :=
  ((params.entries.map Prod.fst).filter fun key =>
    key ∈ rules.reserved && key ∉ parameters.map Parameter.id).map fun key =>
      "Parameter '" ++ key ++ "' ist reserviert und darf nicht gesetzt werden"

/-- The errors of the keys come first, then those of the declared parameters in order. -/
def checkParams (rules : ParamRules) (parameters : List Parameter) (params : Params) :
    Except IntError (List String) :=
  ((parameters.filter fun parameter => parameter.type ∉ rules.skippedTypes).mapM fun parameter =>
      parameterErrors parameter (params.value parameter.id)).map
    fun errors => reservedErrors rules parameters params ++ errors.flatten

/-- Accepted params hold no reserved key that is not declared. -/
theorem checkParams_reserved {rules : ParamRules} {parameters : List Parameter} {params : Params} {key : String}
    (accepted : checkParams rules parameters params = .ok []) (stored : (params.get? key).isSome)
    (reserved : key ∈ rules.reserved) : key ∈ parameters.map Parameter.id := by
  by_contra undeclared
  unfold checkParams at accepted
  cases errors : (parameters.filter fun parameter => parameter.type ∉ rules.skippedTypes).mapM fun parameter =>
      parameterErrors parameter (params.value parameter.id) with
  | error failure =>
      rw [errors] at accepted
      cases accepted
  | ok lists =>
      rw [errors] at accepted
      have clean := (List.append_eq_nil_iff.mp (Except.ok.inj accepted)).1
      have none_left := List.map_eq_nil_iff.mp clean
      have absent := List.filter_eq_nil_iff.mp none_left key ((params.mem_keys_iff key).mpr stored)
      apply absent
      rw [Bool.and_eq_true]
      exact ⟨decide_eq_true reserved, decide_eq_true undeclared⟩

/-- A playbook runs on the portal host or inside the guests. -/
inductive PlaybookTargets where
  | localhost
  | guest
  deriving DecidableEq

/-- The parsed `meta.yaml` of a playbook. -/
structure PlaybookMeta where
  requiredRole : Option String := none
  category : Option String := none
  parameters : List Parameter := []
  targets : PlaybookTargets := .localhost
  become : Bool := false
  deriving DecidableEq

/-- The loaded metas stand under the ids of their playbooks, and the first of an id counts. -/
abbrev Playbooks := List (String × PlaybookMeta)

def getPlaybook (playbooks : Playbooks) (playbookId : String) : Option PlaybookMeta :=
  playbooks.lookup playbookId

/-- The runner on the portal host injects these variables itself. -/
def playbookRules : ParamRules where
  reserved := ["proxmox_api_host", "proxmox_api_base_url", "api_user", "api_password", "proxmox_portal_user",
    "proxmox_portal_realm", "proxmox_portal_token_name", "proxmox_portal_token_secret"]
  skippedTypes := ["vm_access", "ssh_key"]

def validatePlaybookParams (playbooks : Playbooks) (playbookId : String) (params : Params) :
    Except IntError (List String) :=
  match getPlaybook playbooks playbookId with
  | none => .ok ["Playbook '" ++ playbookId ++ "' not found"]
  | some detail => checkParams playbookRules detail.parameters params

/-- These parameters are never stored with the job. -/
def getSensitiveParamIds (playbooks : Playbooks) (playbookId : String) : List String :=
  match getPlaybook playbooks playbookId with
  | none => []
  | some detail =>
      (detail.parameters.filter fun parameter => parameter.type = "ssh_key" || parameter.type = "password").map
        Parameter.id

/-- The parsed `meta.yaml` of a template. -/
structure PackerMeta where
  requiredRole : Option String := none
  parameters : List Parameter := []
  deriving DecidableEq

/-- The templates stand under the names of their directories. -/
abbrev PackerTemplates := List (String × PackerMeta)

/-- Parameters of these names are injected and never shown. -/
def credentialIds : List String := ["proxmox_api_url", "proxmox_api_token_id", "proxmox_api_token_secret"]

def filterCredentials (parameters : List Parameter) : List Parameter :=
  parameters.filter fun parameter => parameter.id ∉ credentialIds

def getPackerTemplate (templates : PackerTemplates) (templateId : String) : Option PackerMeta :=
  (templates.lookup templateId).map fun detail =>
    { detail with parameters := filterCredentials detail.parameters }

/-- The runner injects these variables itself. -/
def packerRules : ParamRules where
  reserved := ["proxmox_api_url", "proxmox_api_user", "proxmox_api_password", "proxmox_api_token_id",
    "proxmox_api_token_secret", "packer_http_ip"]
  skippedTypes := []

def validatePackerParams (templates : PackerTemplates) (templateId : String) (params : Params) :
    Except IntError (List String) :=
  match getPackerTemplate templates templateId with
  | none => .ok ["Template '" ++ templateId ++ "' not found"]
  | some detail => checkParams packerRules detail.parameters params

/-- SSH keys are never stored with the job. -/
def getSensitivePackerParamIds (templates : PackerTemplates) (templateId : String) : List String :=
  match getPackerTemplate templates templateId with
  | none => []
  | some detail => (detail.parameters.filter fun parameter => parameter.type = "ssh_key").map Parameter.id

/-- The login of a Proxmox user, under which a build may run. -/
structure ProxmoxCredentials where
  username : String
  realm : String
  password : String
  deriving DecidableEq

/-- The runner reads its arguments, the stored configuration, the settings and its own environment. -/
structure PackerInput where
  definitionFile : Option String
  params : Params
  tokenId : String
  tokenSecret : String
  credentials : Option ProxmoxCredentials := none
  proxmoxHostOverride : Option String := none
  configProxmoxHost : Option String := none
  settingsProxmoxHost : String := ""
  configPackerHttpIp : Option String := none
  settingsPackerHttpIp : Option String := none
  environ : OrderedMap String String := OrderedMap.empty

/-- The override wins over the stored configuration, which wins over the settings. -/
def PackerInput.proxmoxHost (input : PackerInput) : String :=
  Text.rstrip '/' (Text.orElse input.proxmoxHostOverride
    (Text.orElse input.configProxmoxHost input.settingsProxmoxHost))

def PackerInput.packerHttpIp (input : PackerInput) : Option String :=
  (Text.truthy input.configPackerHttpIp).or (Text.truthy input.settingsPackerHttpIp)

/-- The portal puts these variables on the command line. -/
def PackerInput.portalArguments (input : PackerInput) : List (String × String) :=
  [("proxmox_api_url", input.proxmoxHost ++ "/api2/json")] ++
    (match input.credentials with
      | some login => [("proxmox_api_user", login.username ++ "@" ++ login.realm)]
      | none => [("proxmox_api_token_id", input.tokenId)]) ++
    match input.packerHttpIp with
      | some ip => [("packer_http_ip", ip)]
      | none => []

/-- The portal puts the one secret of the build into the environment. -/
def PackerInput.portalEnvironment (input : PackerInput) : String × String :=
  match input.credentials with
  | some login => ("proxmox_api_password", login.password)
  | none => ("proxmox_api_token_secret", input.tokenSecret)

structure PackerBuild where
  command : List String
  environment : OrderedMap String String

def variableArgument (name value : String) : List String := ["-var", name ++ "=" ++ value]

/-- The params of the user follow the arguments of the portal. -/
def syncRun (input : PackerInput) : Option PackerBuild :=
  input.definitionFile.map fun file =>
    { command := ["packer", "build"] ++
        input.portalArguments.flatMap (fun entry => variableArgument entry.1 entry.2) ++
        input.params.entries.flatMap (fun entry => variableArgument entry.1 entry.2.str) ++ [file]
      environment := input.environ.set ("PKR_VAR_" ++ input.portalEnvironment.1) input.portalEnvironment.2 }

/-- Packer reads each text after `-var`. -/
def variableTexts : List String → List String
  | "-var" :: text :: rest => text :: variableTexts rest
  | _ :: rest => variableTexts rest
  | [] => []

/-- The name of a variable ends before the first equals sign. -/
def splitVariable (text : String) : String × String :=
  (String.ofList (text.toList.takeWhile (· ≠ '=')), String.ofList ((text.toList.dropWhile (· ≠ '=')).drop 1))

/-- The last argument wins, and any argument wins over the environment. -/
def PackerBuild.value (build : PackerBuild) (name : String) : Option String :=
  (Precedence.assigned ((variableTexts build.command).map splitVariable) name).or
    (build.environment.get? ("PKR_VAR_" ++ name))

/-- The value that the portal sets, if it sets one. -/
def PackerInput.portalValue (input : PackerInput) (name : String) : Option String :=
  (Precedence.assigned input.portalArguments name).or (Precedence.single input.portalEnvironment name)
end P3Portal.Automation
