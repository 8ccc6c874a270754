import P3Portal.Construction.Proxmox.FirewallUsage
import P3Portal.Construction.Proxmox.ObjectWrites

namespace P3Portal.Proxmox
open Foundation

/-- The body of a request for a rule before its validation. -/
structure HaRuleBody where
  rule : String
  type : String
  resources : List String
  nodes : List HaRuleNodeInput := []
  strict : Bool := false
  affinity : Option String := none
  comment : Option String := none
  disable : Bool := false

namespace HaRuleBody

/-- A dollar sign also matches before a line feed at the end. -/
def beforeEnd (characters : List Char) : List Char :=
  if characters.getLast? = some '\n' then characters.dropLast else characters

/-- The digits of a resource are those of any decimal system. -/
def matchesSid (sid : String) : Bool :=
  ["vm:", "ct:"].any fun kind =>
    let number := beforeEnd (sid.toList.drop 3)
    Text.startsWith kind sid && !number.isEmpty && number.all fun character => (Number.digitValue character).isSome

def matchesRuleId (rule : String) : Bool :=
  match beforeEnd rule.toList with
  | [] => false
  | first :: rest => first.isAlpha && rest.length ≤ 62 &&
      rest.all fun character => character.isAlphanum || ['-', '_', '.'].contains character

section Validators
variable (repr : String → String)

def validRule (rule : String) : Except String String :=
  if matchesRuleId rule then .ok rule
  else .error ("Invalid HA rule id " ++ repr rule ++ ": must start with a letter and contain " ++
    "only letters, digits, '-', '_' or '.'")

def validType (type : String) : Except String HaRuleType :=
  if type = "node-affinity" then .ok .nodeAffinity
  else if type = "resource-affinity" then .ok .resourceAffinity
  else .error "type must be one of ('node-affinity', 'resource-affinity')"

def validResources (seen : List String) : List String → Except String (List String)
  | [] => .ok []
  | sid :: rest => do
      let sid := Text.strip sid
      if !matchesSid sid then
        throw ("Invalid HA resource sid " ++ repr sid ++ ": expected 'vm:<id>' or 'ct:<id>'")
      if sid ∈ seen then throw ("duplicate resource in rule: " ++ sid)
      return sid :: (← validResources (sid :: seen) rest)

/-- A name is only trimmed. -/
def validNode (input : HaRuleNodeInput) : Except String HaRuleNodeInput :=
  if Text.strip input.node = "" then .error "node must not be empty"
  else if input.priority.any (· < 0) then .error "Input should be greater than or equal to 0"
  else if input.priority.any (1000 < ·) then .error "Input should be less than or equal to 1000"
  else .ok { input with node := Text.strip input.node }

/-- The accepted request, or the message of the first field that is refused. -/
def validate (body : HaRuleBody) : Except String HaRuleWriteRequest := do
  let rule ← validRule repr body.rule
  let type ← validType body.type
  let resources ← validResources repr [] body.resources
  let nodes ← body.nodes.mapM validNode
  let request : HaRuleWriteRequest := {
    rule, type, resources, nodes, strict := body.strict, affinity := body.affinity, comment := body.comment,
    disable := body.disable }
  request.checkTypeFields
  return request

end Validators
end HaRuleBody

/-- A node of a stored rule. -/
structure HaRuleNode where
  node : String
  priority : Option Int := none
  deriving DecidableEq

structure HaRule where
  id : String
  type : Option String := none
  resources : List String := []
  resourcesRaw : Option String := none
  nodes : List HaRuleNode := []
  nodesRaw : Option String := none
  strict : Bool := false
  affinity : Option String := none
  comment : Option String := none
  disable : Bool := false
  digest : Option String := none
  deriving DecidableEq

/-- `_b` of the HA router. -/
def cleanFlag (value : JsonValue) : Bool :=
  if value.blank then false
  else match value with
    | .bool set => set
    | _ => value.toInt.elim value.truthy (· ≠ 0)

def parseRuleNode (text : String) : Option HaRuleNode :=
  let part := Text.strip text
  if part = "" then none
  else if ':' ∈ part.toList then
    let (name, priority) := Text.partition ':' part
    some ⟨Text.strip name, cleanInt (.text priority)⟩
  else some ⟨part, none⟩

def parseRuleNodes (raw : Option String) : List HaRuleNode :=
  match Text.truthy raw with
  | none => []
  | some text => (Text.splitCommas text).filterMap parseRuleNode

def parseResource (part : String) : Option String :=
  let sid := Text.strip part
  Text.truthy (some (if Text.startsWith "service:" sid then String.ofList (sid.toList.drop 8) else sid))

def parseResourcesList (raw : JsonValue) : List String :=
  let items := match raw with
    | .null => []
    | .list items => items.map Shown.str
    | _ => Text.splitCommas raw.str
  items.filterMap parseResource

def parseHaRule (raw : JsonObject) : HaRule where
  id := ((Text.truthy (cleanText (raw.get "rule"))).or (Text.truthy (cleanText (raw.get "id")))).getD ""
  type := cleanText (raw.get "type")
  resources := parseResourcesList (raw.get "resources")
  resourcesRaw :=
    match raw.get "resources" with
    | .list items => some (",".intercalate (parseResourcesList (.list items)))
    | value => cleanText value
  nodes := parseRuleNodes (cleanText (raw.get "nodes"))
  nodesRaw := cleanText (raw.get "nodes")
  strict := cleanFlag (raw.get "strict")
  affinity := cleanText (raw.get "affinity")
  comment := cleanText (raw.get "comment")
  disable := cleanFlag (raw.get "disable")
  digest := cleanText (raw.get "digest")

end P3Portal.Proxmox
