import P3Portal.Construction.Proxmox.HaRules
import P3Portal.Foundation.Outcome
import P3Portal.Foundation.TextFields
import P3Portal.Foundation.UriPath

namespace P3Portal.Proxmox
open Foundation

section Wire

/-- A parameter as a value of the JSON document. -/
def Param.json : Param → JsonValue
  | null => .null
  | number value => .int value
  | text content => .text content

/-- The parameters of a rule as its entry in the list of rules. -/
def wire (params : Params) : JsonObject where
  entries := params.entries.map fun entry => (entry.1, entry.2.json)
  keysNodup := by
    rw [List.map_map]
    exact params.keysNodup

/-- Proxmox stores the parameters under their keys. -/
theorem get_wire (params : Params) (key : String) : (wire params).get key = ((params.get? key).map Param.json).getD .null := by
  have looked : ∀ entries : List (String × Param),
      (entries.map fun entry => (entry.1, entry.2.json)).lookup key = (entries.lookup key).map Param.json := by
    intro entries
    induction entries with
    | nil => rfl
    | cons entry rest ih =>
        rw [List.map_cons, List.lookup_cons, List.lookup_cons, ih]
        cases key == entry.1 <;> rfl
  unfold JsonObject.get JsonObject.getOr OrderedMap.get?
  exact congrArg (fun found => Option.getD found JsonValue.null) (looked params.entries)

/-- A stored text is read back unless it is empty. -/
theorem cleanText_text (content : String) : cleanText (.text content) = Text.truthy (some content) := by
  by_cases empty : content = ""
  · subst empty
    rfl
  · have kept : Text.truthy (some content) = some content := (Text.truthy_eq_some _ _).mpr ⟨rfl, empty⟩
    have filled : (JsonValue.text content).blank = false := by
      unfold JsonValue.blank
      rw [decide_eq_false (by simp), decide_eq_false (by simpa using empty)]
      rfl
    rw [kept, cleanText, filled]
    rfl

/-- A stored flag is read back. -/
theorem cleanFlag_flag (value : Bool) : cleanFlag (flag value).json = value := by
  cases value <;> rfl

variable (request : HaRuleWriteRequest)

/-- The resources are sent as one text. -/
theorem wire_resources : (wire request.toProxmoxParams).get "resources" = .text request.resourcesParam := by
  rw [get_wire]
  unfold HaRuleWriteRequest.toProxmoxParams
  cases request.type <;> simp [Param.json]

/-- The switch is sent as a flag. -/
theorem wire_disable : (wire request.toProxmoxParams).get "disable" = (flag request.disable).json := by
  rw [get_wire]
  unfold HaRuleWriteRequest.toProxmoxParams
  cases request.type <;> simp

/-- The comment is read back unless it is empty. -/
theorem wire_comment : cleanText ((wire request.toProxmoxParams).get "comment") = Text.truthy request.comment := by
  have sent : (wire request.toProxmoxParams).get "comment" = ((filled request.comment).map Param.json).getD .null := by
    rw [get_wire]
    unfold HaRuleWriteRequest.toProxmoxParams
    cases request.type <;> simp
  rw [sent, filled]
  cases kept : Text.truthy request.comment with
  | none => rfl
  | some content =>
      have present := ((Text.truthy_eq_some _ _).mp kept).2
      exact (cleanText_text content).trans ((Text.truthy_eq_some _ _).mpr ⟨rfl, present⟩)

end Wire

section Resources
variable {sid : String}

/-- A resource is a kind and digits, with a line feed behind at most. -/
theorem matchesSid_chars (matched : HaRuleBody.matchesSid sid = true) :
    (Text.startsWith "vm:" sid = true ∨ Text.startsWith "ct:" sid = true) ∧
      ∀ c ∈ sid.toList.drop 3, c = '\n' ∨ (Number.digitValue c).isSome = true := by
  unfold HaRuleBody.matchesSid at matched
  rw [List.any_eq_true] at matched
  obtain ⟨kind, listed, matched⟩ := matched
  rw [Bool.and_eq_true, Bool.and_eq_true, List.all_eq_true] at matched
  obtain ⟨⟨start, -⟩, digits⟩ := matched
  constructor
  · simp only [List.mem_cons, List.not_mem_nil, or_false] at listed
    rcases listed with rfl | rfl
    · exact .inl start
    · exact .inr start
  · intro c member
    unfold HaRuleBody.beforeEnd at digits
    split at digits
    · rename_i ended
      obtain ⟨before, whole⟩ := List.getLast?_eq_some_iff.mp ended
      rw [whole, List.dropLast_concat] at digits
      rw [whole, List.mem_append, List.mem_singleton] at member
      rcases member with inside | rfl
      · exact .inr (digits c inside)
      · exact .inl rfl
    · exact .inr (digits c member)

/-- An accepted resource has no comma and is not taken for a service. -/
theorem matchesSid_plain (matched : HaRuleBody.matchesSid sid = true) :
    ',' ∉ sid.toList ∧ Text.startsWith "service:" sid = false ∧ sid ≠ "" := by
  obtain ⟨start, behind⟩ := matchesSid_chars matched
  have split : ∃ first second rest, sid.toList = first :: second :: ':' :: rest ∧ first ≠ ',' ∧ second ≠ ',' ∧
      first ≠ 's' := by
    rcases start with vm | ct
    · obtain ⟨rest, whole⟩ := (Text.startsWith_iff _ _).mp vm
      exact ⟨'v', 'm', rest, whole, by decide, by decide, by decide⟩
    · obtain ⟨rest, whole⟩ := (Text.startsWith_iff _ _).mp ct
      exact ⟨'c', 't', rest, whole, by decide, by decide, by decide⟩
  obtain ⟨first, second, rest, whole, firstFree, secondFree, noService⟩ := split
  rw [whole] at behind ⊢
  refine ⟨?_, ?_, ?_⟩
  · have later : ',' ∉ rest := by
      intro comma
      rcases behind ',' comma with same | digit
      · revert same
        decide
      · revert digit
        decide
    simp only [List.mem_cons, not_or]
    exact ⟨firstFree.symm, secondFree.symm, by decide, later⟩
  · rw [← Bool.not_eq_true]
    intro service
    obtain ⟨tail, same⟩ := (Text.startsWith_iff _ _).mp service
    rw [whole] at same
    exact noService (List.cons.inj same).1
  · rintro rfl
    cases whole

/-- The joined resources are read back in order. -/
theorem parseResourcesList_joined {resources : List String} (present : resources ≠ [])
    (accepted : ∀ sid ∈ resources, HaRuleBody.matchesSid sid = true ∧ Text.strip sid = sid) :
    parseResourcesList (.text (",".intercalate resources)) = resources := by
  have free : ∀ sid ∈ resources, ',' ∉ sid.toList := fun sid member => (matchesSid_plain (accepted sid member).1).1
  have kept : ∀ sid ∈ resources, parseResource sid = some sid := by
    intro sid member
    obtain ⟨matched, bare⟩ := accepted sid member
    obtain ⟨-, service, filled⟩ := matchesSid_plain matched
    unfold parseResource
    rw [bare]
    dsimp only
    rw [service, if_neg Bool.false_ne_true]
    exact (Text.truthy_eq_some _ _).mpr ⟨rfl, filled⟩
  show (Text.splitCommas (",".intercalate resources)).filterMap parseResource = resources
  rw [Text.splitCommas_intercalate present free, List.filterMap_congr kept, List.filterMap_some]

end Resources

section Nodes
variable {input : HaRuleNodeInput}

/-- The name of a node that separates neither nodes nor a priority. -/
def PlainNode (input : HaRuleNodeInput) : Prop := ',' ∉ input.node.toList ∧ ':' ∉ input.node.toList

/-- The validator leaves a trimmed name and a priority in its bounds. -/
structure ValidNode (input : HaRuleNodeInput) : Prop where
  bare : Text.strip input.node = input.node
  present : input.node ≠ ""
  bounded : ∀ priority ∈ input.priority, 0 ≤ priority ∧ priority ≤ 1000

def nodePart (input : HaRuleNodeInput) : String :=
  input.priority.elim input.node fun priority => input.node ++ ":" ++ toString priority

def HaRuleNodeInput.stored (input : HaRuleNodeInput) : HaRuleNode := ⟨input.node, input.priority⟩

/-- A priority in the bounds is read back from its text. -/
theorem cleanInt_priority {priority : Int} (low : 0 ≤ priority) (high : priority ≤ 1000) :
    cleanInt (.text (toString priority)) = some priority ∧ (∀ c ∈ (toString priority).toList, c.isDigit = true) ∧
      (toString priority).toList ≠ [] := by
  obtain ⟨number, rfl⟩ := Int.eq_ofNat_of_zero_le low
  have chars : (toString (number : Int)).toList = Nat.toDigits 10 number := String.toList_ofList
  have present : (toString (number : Int)).toList ≠ [] := chars ▸ Nat.toDigits_ne_nil
  have small : number < 10 ^ 4300 := by
    have four : 10 ^ 4 ≤ 10 ^ 4300 := Nat.pow_le_pow_right (by decide) (by decide)
    omega
  refine ⟨?_, ?_, present⟩
  · have filled : (JsonValue.text (toString (number : Int))).blank = false := by
      unfold JsonValue.blank
      rw [decide_eq_false (by simp), decide_eq_false]
      · rfl
      · intro same
        rw [JsonValue.text.inj same] at present
        exact present rfl
    have same : toString (number : Int) = toString number := rfl
    rw [cleanInt, filled, if_neg Bool.false_ne_true, JsonValue.toInt, same, Number.intOfText_toString, if_pos small]
  · intro c member
    rw [chars] at member
    exact Nat.isDigit_of_mem_toDigits (by decide) (by decide) member

/-- A node with its priority needs no stripping. -/
theorem strip_joined {before behind : String} (bare : Text.strip before = before) (present : before ≠ "")
    (filled : behind.toList ≠ []) (digits : ∀ c ∈ behind.toList, c.isDigit = true) :
    Text.strip (before ++ ":" ++ behind) = before ++ ":" ++ behind := by
  have occurs : before.toList ≠ [] := fun empty => present (String.toList_eq_nil_iff.mp empty)
  unfold Text.strip
  rw [trim_bare, String.ofList_toList]
  · intro c found
    apply (Text.strip_edges before).1
    obtain ⟨first, rest, whole⟩ := List.exists_cons_of_ne_nil occurs
    rw [bare]
    rw [String.toList_append, String.toList_append, whole] at found
    rw [whole]
    exact found
  · intro c found
    rw [String.toList_append, List.getLast?_append_of_ne_nil _ filled] at found
    exact Text.digit_not_space (digits c (List.mem_of_mem_getLast? found))

/-- A part holds no comma and is read back as the node that it was written from. -/
theorem nodePart_shape (plain : PlainNode input) (valid : ValidNode input) :
    ',' ∉ (nodePart input).toList ∧ parseRuleNode (nodePart input) = some input.stored := by
  unfold nodePart HaRuleNodeInput.stored
  cases given : input.priority with
  | none =>
      refine ⟨plain.1, ?_⟩
      unfold parseRuleNode
      simp only [Option.elim_none, valid.bare, if_neg valid.present, if_neg plain.2]
  | some priority =>
      obtain ⟨low, high⟩ := valid.bounded priority given
      obtain ⟨read, digits, filled⟩ := cleanInt_priority low high
      have chars : (input.node ++ ":" ++ toString priority).toList = input.node.toList ++ ':' :: (toString priority).toList := by
        rw [String.toList_append, String.toList_append, List.append_assoc]
        rfl
      have bare := strip_joined valid.bare valid.present filled digits
      have colon : ':' ∈ (input.node ++ ":" ++ toString priority).toList := by
        rw [chars]
        exact List.mem_append_right _ List.mem_cons_self
      have occurs : input.node ++ ":" ++ toString priority ≠ "" := by
        intro empty
        rw [empty] at colon
        exact List.not_mem_nil colon
      constructor
      · show ',' ∉ (input.node ++ ":" ++ toString priority).toList
        rw [chars, List.mem_append, List.mem_cons, not_or, not_or]
        refine ⟨plain.1, by decide, fun comma => ?_⟩
        have digit := digits ',' comma
        revert digit
        decide
      · show parseRuleNode (input.node ++ ":" ++ toString priority) = _
        unfold parseRuleNode
        simp only [bare, if_neg occurs, if_pos colon, Text.partition_of_split plain.2 chars, String.ofList_toList,
          valid.bare, read]

/-- The joined nodes are read back in order with their priorities. -/
theorem parseRuleNodes_joined {nodes : List HaRuleNodeInput} (present : nodes ≠ [])
    (plain : ∀ input ∈ nodes, PlainNode input) (valid : ∀ input ∈ nodes, ValidNode input) :
    parseRuleNodes (cleanText (.text (",".intercalate (nodes.map nodePart)))) = nodes.map HaRuleNodeInput.stored := by
  have parts : Text.splitCommas (",".intercalate (nodes.map nodePart)) = nodes.map nodePart := by
    apply Text.splitCommas_intercalate (mt List.map_eq_nil_iff.mp present)
    intro part member
    obtain ⟨input, listed, rfl⟩ := List.mem_map.mp member
    exact (nodePart_shape (plain input listed) (valid input listed)).1
  have filled : ",".intercalate (nodes.map nodePart) ≠ "" := by
    intro empty
    have alone : Text.splitCommas "" = [""] := by decide
    rw [empty, alone] at parts
    obtain ⟨input, member⟩ := List.exists_mem_of_ne_nil _ present
    have blank : nodePart input = "" := by
      have listed := List.mem_map_of_mem (f := nodePart) member
      rw [← parts] at listed
      exact List.mem_singleton.mp listed
    have read := (nodePart_shape (plain input member) (valid input member)).2
    have nothing : parseRuleNode "" = none := by decide
    rw [blank, nothing] at read
    cases read
  have read : Text.truthy (cleanText (.text (",".intercalate (nodes.map nodePart)))) =
      some (",".intercalate (nodes.map nodePart)) := by
    rw [cleanText_text, (Text.truthy_eq_some _ _).mpr ⟨rfl, filled⟩]
    exact (Text.truthy_eq_some _ _).mpr ⟨rfl, filled⟩
  unfold parseRuleNodes
  simp only [read, parts]
  have each : ∀ input ∈ nodes, (parseRuleNode ∘ nodePart) input = (some ∘ HaRuleNodeInput.stored) input := by
    intro input member
    rw [Function.comp_apply, Function.comp_apply, (nodePart_shape (plain input member) (valid input member)).2]
  rw [List.filterMap_map, List.filterMap_congr each, List.filterMap_eq_map]

/-- A node that is read has no separator in its name. -/
theorem parseRuleNode_plain {text : String} {node : HaRuleNode} (free : ',' ∉ text.toList)
    (read : parseRuleNode text = some node) : ',' ∉ node.node.toList ∧ ':' ∉ node.node.toList := by
  have bare : ',' ∉ (Text.strip text).toList := fun comma => free (Text.mem_of_mem_strip comma)
  unfold parseRuleNode at read
  dsimp only at read
  split at read
  · cases read
  · split at read
    · have same := Option.some.inj read
      have name : ∀ c ∈ (Text.strip (Text.partition ':' (Text.strip text)).1).toList,
          c ∈ (Text.strip text).toList.takeWhile (· ≠ ':') := by
        intro c member
        have inside := Text.mem_of_mem_strip member
        rw [Text.partition, String.toList_ofList] at inside
        exact inside
      rw [← same]
      constructor
      · exact fun comma => bare ((List.takeWhile_sublist _).subset (name _ comma))
      · intro colon
        have kept : decide (':' ≠ ':') = true := List.mem_takeWhile_imp (p := fun c => decide (c ≠ ':')) (name _ colon)
        exact absurd kept (by decide)
    · rename_i colon
      cases read
      exact ⟨bare, colon⟩

/-- The nodes that are read have no comma and no colon in their names. -/
theorem parseRuleNodes_plain {raw : Option String} :
    ∀ node ∈ parseRuleNodes raw, ',' ∉ node.node.toList ∧ ':' ∉ node.node.toList := by
  intro node member
  unfold parseRuleNodes at member
  split at member
  · exact absurd member List.not_mem_nil
  · rename_i text _
    obtain ⟨part, split, read⟩ := List.mem_filterMap.mp member
    obtain ⟨characters, listed, rfl⟩ := List.mem_map.mp split
    apply parseRuleNode_plain _ read
    rw [String.toList_ofList]
    exact UriPath.not_mem_of_mem_splitOn _ listed

end Nodes

section Accepted
variable {repr : String → String} {body : HaRuleBody} {request : HaRuleWriteRequest}
open HaRuleBody

/-- Accepted resources have the form of ids and no padding. -/
theorem validResources_accepts {seen resources accepted : List String}
    (valid : validResources repr seen resources = .ok accepted) :
    ∀ sid ∈ accepted, matchesSid sid = true ∧ Text.strip sid = sid := by
  induction resources generalizing seen accepted with
  | nil =>
      cases valid
      exact fun sid absent => absurd absent List.not_mem_nil
  | cons sid rest ih =>
      rw [validResources] at valid
      dsimp only at valid
      split at valid
      · cases valid
      · rename_i matched
        split at valid
        · cases valid
        · obtain ⟨later, others, same⟩ := Outcome.bind_eq_ok.mp valid
          cases same
          rw [Bool.not_eq_true', Bool.not_eq_false] at matched
          exact List.forall_mem_cons.mpr ⟨⟨matched, Text.strip_strip sid⟩, ih others⟩

/-- An accepted node is valid. -/
theorem validNode_accepts {input accepted : HaRuleNodeInput} (valid : validNode input = .ok accepted) :
    ValidNode accepted := by
  unfold validNode at valid
  split at valid
  · cases valid
  · rename_i present
    split at valid
    · cases valid
    · rename_i low
      split at valid
      · cases valid
      · rename_i high
        cases valid
        refine ⟨Text.strip_strip _, present, ?_⟩
        intro priority given
        rw [Option.mem_def.mp given] at low high
        simp only [Option.any_some, decide_eq_true_eq] at low high
        omega

/-- All nodes of an accepted list are valid. -/
theorem mapM_accepts {inputs accepted : List HaRuleNodeInput} (valid : inputs.mapM validNode = .ok accepted) :
    ∀ input ∈ accepted, ValidNode input := by
  induction inputs generalizing accepted with
  | nil =>
      cases valid
      exact fun input absent => absurd absent List.not_mem_nil
  | cons input rest ih =>
      rw [List.mapM_cons] at valid
      obtain ⟨first, here, valid⟩ := Outcome.bind_eq_ok.mp valid
      obtain ⟨others, later, same⟩ := Outcome.bind_eq_ok.mp valid
      cases same
      exact List.forall_mem_cons.mpr ⟨validNode_accepts here, ih later⟩

/-- What the validators promise of a request. -/
structure Validated (request : HaRuleWriteRequest) : Prop where
  resources : ∀ sid ∈ request.resources, matchesSid sid = true ∧ Text.strip sid = sid
  nodes : ∀ input ∈ request.nodes, ValidNode input
  fields : request.checkTypeFields = .ok ()

/-- An accepted request is valid in all its parts. -/
theorem validated (accepted : validate repr body = .ok request) : Validated request := by
  unfold validate at accepted
  obtain ⟨rule, -, accepted⟩ := Outcome.bind_eq_ok.mp accepted
  obtain ⟨type, -, accepted⟩ := Outcome.bind_eq_ok.mp accepted
  obtain ⟨resources, sids, accepted⟩ := Outcome.bind_eq_ok.mp accepted
  obtain ⟨nodes, inputs, accepted⟩ := Outcome.bind_eq_ok.mp accepted
  obtain ⟨⟨⟩, fields, same⟩ := Outcome.bind_eq_ok.mp accepted
  cases same
  exact ⟨validResources_accepts sids, mapM_accepts inputs, fields⟩

end Accepted
section RoundTrip
variable {request : HaRuleWriteRequest}

/-- The rule as it is read back from the parameters of a request. -/
def readBack (request : HaRuleWriteRequest) : HaRule := parseHaRule (wire request.toProxmoxParams)

/-- The resources of a valid request are read back. -/
theorem readBack_resources (valid : Validated request) : (readBack request).resources = request.resources := by
  have present : request.resources ≠ [] := by
    intro empty
    have checked := valid.fields
    unfold HaRuleWriteRequest.checkTypeFields at checked
    rw [empty] at checked
    cases type : request.type with
    | nodeAffinity =>
        rw [type] at checked
        dsimp only at checked
        split at checked
        · cases checked
        · split at checked <;> cases checked
    | resourceAffinity =>
        rw [type] at checked
        dsimp only at checked
        split at checked <;> cases checked
  show parseResourcesList ((wire request.toProxmoxParams).get "resources") = _
  rw [wire_resources]
  exact parseResourcesList_joined present valid.resources

/-- The switch of a request is read back. -/
theorem readBack_disable (request : HaRuleWriteRequest) : (readBack request).disable = request.disable := by
  show cleanFlag ((wire request.toProxmoxParams).get "disable") = _
  rw [wire_disable, cleanFlag_flag]

section NodeAffinity
variable (type : request.type = .nodeAffinity)
include type

/-- A rule for nodes sends its nodes and its strictness. -/
theorem wire_nodeAffinity :
    (wire request.toProxmoxParams).get "nodes" = .text request.nodesParam ∧
    (wire request.toProxmoxParams).get "strict" = (flag request.strict).json ∧
    (wire request.toProxmoxParams).get "affinity" = .null := by
  rw [get_wire, get_wire, get_wire]
  unfold HaRuleWriteRequest.toProxmoxParams
  rw [type]
  simp [Param.json]

/-- A valid rule for nodes has nodes. -/
theorem nodeAffinity_present (valid : Validated request) : request.nodes ≠ [] := by
  intro empty
  have checked := valid.fields
  unfold HaRuleWriteRequest.checkTypeFields at checked
  rw [type, empty] at checked
  cases checked

/-- Nodes with plain names are read back as they are stored. -/
theorem readBack_nodes (valid : Validated request) (plain : ∀ input ∈ request.nodes, PlainNode input) :
    (readBack request).nodes = request.nodes.map HaRuleNodeInput.stored := by
  show parseRuleNodes (cleanText ((wire request.toProxmoxParams).get "nodes")) = _
  rw [(wire_nodeAffinity type).1]
  exact parseRuleNodes_joined (nodeAffinity_present type valid) plain valid.nodes

/-- The nodes of an accepted rule come back exactly when their names hold no separator. -/
theorem readBack_nodes_iff (valid : Validated request) :
    (readBack request).nodes = request.nodes.map HaRuleNodeInput.stored ↔ ∀ input ∈ request.nodes, PlainNode input := by
  constructor
  · intro same input member
    have read : ∀ node ∈ (readBack request).nodes, ',' ∉ node.node.toList ∧ ':' ∉ node.node.toList :=
      parseRuleNodes_plain
    exact read input.stored (same ▸ List.mem_map_of_mem member)
  · exact readBack_nodes type valid

end NodeAffinity

/-- A rule for resources sends its affinity. -/
theorem wire_resourceAffinity (type : request.type = .resourceAffinity) :
    (wire request.toProxmoxParams).get "nodes" = .null ∧
    (wire request.toProxmoxParams).get "strict" = .null ∧
    (wire request.toProxmoxParams).get "affinity" = (request.affinity.elim .null .text : Param).json := by
  rw [get_wire, get_wire, get_wire]
  unfold HaRuleWriteRequest.toProxmoxParams
  rw [type]
  simp

/-- The affinity of a valid rule for resources is read back. -/
theorem readBack_affinity (type : request.type = .resourceAffinity) (valid : Validated request) :
    (readBack request).affinity = request.affinity := by
  have checked := valid.fields
  unfold HaRuleWriteRequest.checkTypeFields at checked
  rw [type] at checked
  dsimp only at checked
  split at checked
  · cases checked
  · rename_i known
    show cleanText ((wire request.toProxmoxParams).get "affinity") = _
    rw [(wire_resourceAffinity type).2.2]
    simp only [List.mem_cons, List.not_mem_nil, or_false, not_not] at known
    rcases known with given | given
    · rw [given]
      rfl
    · rw [given]
      rfl

/-- The stored rule is the request. -/
structure SameRule (request : HaRuleWriteRequest) (rule : HaRule) : Prop where
  resources : rule.resources = request.resources
  nodes : rule.nodes = request.nodes.map HaRuleNodeInput.stored
  strict : rule.strict = request.strict
  affinity : rule.affinity = request.affinity
  comment : rule.comment = request.comment
  disable : rule.disable = request.disable

/-- The stored rule is the request as far as its type goes: a rule of node affinity keeps the nodes whose names hold no
separator and the strictness, and a rule of resource affinity keeps the affinity. An empty comment counts as none. -/
structure SameTypedRule (request : HaRuleWriteRequest) (rule : HaRule) : Prop where
  resources : rule.resources = request.resources
  disable : rule.disable = request.disable
  comment : rule.comment = Text.truthy request.comment
  nodeAffinity : request.type = .nodeAffinity → rule.strict = request.strict ∧ rule.affinity = none ∧
    ((∀ input ∈ request.nodes, PlainNode input) → rule.nodes = request.nodes.map HaRuleNodeInput.stored)
  resourceAffinity : request.type = .resourceAffinity → rule.affinity = request.affinity ∧ rule.nodes = [] ∧
    rule.strict = false

/-- An accepted rule comes back from its parameters as far as its type goes. -/
theorem accepted_rule_survives {repr : String → String} {body : HaRuleBody}
    (accepted : body.validate repr = .ok request) : SameTypedRule request (readBack request) := by
  have valid := validated accepted
  constructor
  · exact readBack_resources valid
  · exact readBack_disable request
  · exact wire_comment request
  · intro type
    obtain ⟨-, strict, affinity⟩ := wire_nodeAffinity type
    refine ⟨?_, ?_, readBack_nodes type valid⟩
    · show cleanFlag ((wire request.toProxmoxParams).get "strict") = _
      rw [strict, cleanFlag_flag]
    · show cleanText ((wire request.toProxmoxParams).get "affinity") = _
      rw [affinity]
      rfl
  · intro type
    obtain ⟨nodes, strict, -⟩ := wire_resourceAffinity type
    refine ⟨readBack_affinity type valid, ?_, ?_⟩
    · show parseRuleNodes (cleanText ((wire request.toProxmoxParams).get "nodes")) = _
      rw [nodes]
      rfl
    · show cleanFlag ((wire request.toProxmoxParams).get "strict") = _
      rw [strict]
      rfl

end RoundTrip

section Examples

/-- A rule of node affinity with a priority and a comment. -/
def preferred : HaRuleBody where
  rule := "prefer"
  type := "node-affinity"
  resources := [" vm:100", "ct:101"]
  nodes := [⟨"pve1 ", some 100⟩, ⟨"pve2", none⟩]
  strict := true
  comment := some "db"

def preferredRequest : HaRuleWriteRequest :=
  ⟨"prefer", .nodeAffinity, ["vm:100", "ct:101"], [⟨"pve1", some 100⟩, ⟨"pve2", none⟩], true, none, some "db", false⟩

/-- A rule with a preferred node is read back. -/
theorem preferred_survives : SameTypedRule preferredRequest (readBack preferredRequest) :=
  @accepted_rule_survives preferredRequest id preferred rfl

/-- The body is accepted, and its rule comes back as another one. -/
def Changed (body : HaRuleBody) : Prop := ∃ request, body.validate id = .ok request ∧ ¬ SameRule request (readBack request)

/-- A name with a separator becomes two nodes, an empty comment none, and the fields of the other type are lost. -/
theorem changed_rules : Changed { preferred with nodes := [⟨"pve1,pve2:5", none⟩] } ∧
    Changed { preferred with comment := some "" } ∧ Changed { preferred with affinity := some "positive" } ∧
    Changed { preferred with type := "resource-affinity", affinity := some "positive" } := by
  refine ⟨⟨_, rfl, fun same => ?_⟩, ⟨_, rfl, fun same => ?_⟩, ⟨_, rfl, fun same => ?_⟩, ⟨_, rfl, fun same => ?_⟩⟩
  · have nodes := same.nodes
    revert nodes
    decide +kernel
  · have comment := same.comment
    revert comment
    decide +kernel
  · have affinity := same.affinity
    revert affinity
    decide +kernel
  · have strict := same.strict
    revert strict
    decide +kernel

end Examples
end P3Portal.Proxmox
