import P3Portal.Construction.Automation.Parameters

namespace P3Portal.Automation
open Foundation

/-- The split happens at the first equals sign. -/
theorem splitVariable_of {text : String} {front back : List Char} (cut : text.toList = front ++ '=' :: back)
    (plain : '=' ∉ front) : splitVariable text = (String.ofList front, String.ofList back) := by
  have before : ∀ character ∈ front, (decide (character ≠ '=')) = true := by
    intro character member
    exact decide_eq_true fun same => plain (same ▸ member)
  unfold splitVariable
  rw [cut, List.takeWhile_append_of_pos before, List.dropWhile_append_of_pos before,
    List.takeWhile_cons_of_neg (by decide), List.dropWhile_cons_of_neg (by decide), List.append_nil,
    List.drop_one, List.tail_cons]

/-- A name without an equals sign is read back. -/
theorem splitVariable_plain {name : String} (value : String) (plain : '=' ∉ name.toList) :
    splitVariable (name ++ "=" ++ value) = (name, value) := by
  have cut : (name ++ "=" ++ value).toList = name.toList ++ '=' :: value.toList := by
    simp
  rw [splitVariable_of cut plain]
  simp

/-- A key with an equals sign is cut inside the key. -/
theorem splitVariable_inside {key : String} (value : String) (inside : '=' ∈ key.toList) :
    splitVariable (key ++ "=" ++ value) =
      ((splitVariable key).1, (splitVariable key).2 ++ "=" ++ value) := by
  obtain ⟨front, back, cut, plain⟩ := List.eq_append_cons_of_mem inside
  have longer : (key ++ "=" ++ value).toList = front ++ '=' :: (back ++ '=' :: value.toList) := by
    simp [cut]
  rw [splitVariable_of cut plain, splitVariable_of longer plain]
  apply congrArg
  simp [String.append_assoc]

/-- Each rendered variable yields its text, whatever follows. -/
theorem variableTexts_flatMap {Item : Type} (items : List Item) (name value : Item → String)
    (rest : List String) :
    variableTexts (items.flatMap (fun item => variableArgument (name item) (value item)) ++ rest) =
      items.map (fun item => name item ++ "=" ++ value item) ++ variableTexts rest := by
  induction items with
  | nil => rfl
  | cons item later ih =>
      rw [List.flatMap_cons, List.append_assoc, List.map_cons, List.cons_append, ← ih]
      rfl

theorem variableTexts_singleton (file : String) : variableTexts [file] = [] := by
  unfold variableTexts
  split
  · rename_i absent
    cases absent
  · rename_i rest _ here
    rw [← (List.cons.inj here).2]
    rfl
  · rfl

/-- The params as Packer reads them. -/
def userAssignments (params : Params) : List (String × String) :=
  params.entries.map fun entry => splitVariable (entry.1 ++ "=" ++ entry.2.str)

/-- The portal only sets reserved variables. -/
theorem portalArguments_reserved {input : PackerInput} {entry : String × String}
    (member : entry ∈ input.portalArguments) : entry.1 ∈ packerRules.reserved := by
  obtain (here | here) | here := (List.mem_append.mp member).imp_left List.mem_append.mp
  · rw [List.mem_singleton.mp here]
    simp [packerRules]
  · split at here
    · rw [List.mem_singleton.mp here]
      simp [packerRules]
    · rw [List.mem_singleton.mp here]
      simp [packerRules]
  · split at here
    · rw [List.mem_singleton.mp here]
      simp [packerRules]
    · cases here

theorem reserved_plain : ∀ name ∈ packerRules.reserved, '=' ∉ name.toList := by decide

/-- Packer reads the variables of the portal and then those of the user. -/
theorem syncRun_assignments {input : PackerInput} {build : PackerBuild} (started : syncRun input = some build) :
    (variableTexts build.command).map splitVariable = input.portalArguments ++ userAssignments input.params := by
  obtain ⟨file, stored, same⟩ := Option.map_eq_some_iff.mp started
  rw [← same]
  change (variableTexts (_ ++ [file])).map splitVariable = _
  have read : variableTexts (["packer", "build"] ++
        input.portalArguments.flatMap (fun entry => variableArgument entry.1 entry.2) ++
        input.params.entries.flatMap (fun entry => variableArgument entry.1 entry.2.str) ++ [file]) =
      input.portalArguments.map (fun entry => entry.1 ++ "=" ++ entry.2) ++
        input.params.entries.map (fun entry => entry.1 ++ "=" ++ entry.2.str) := by
    rw [List.append_assoc, List.append_assoc]
    change variableTexts (input.portalArguments.flatMap _ ++ _) = _
    rw [variableTexts_flatMap, variableTexts_flatMap, variableTexts_singleton, List.append_nil]
  rw [read, List.map_append, List.map_map, List.map_map]
  apply congrArg (· ++ userAssignments input.params)
  calc
    input.portalArguments.map (splitVariable ∘ fun entry => entry.1 ++ "=" ++ entry.2) =
        input.portalArguments.map id := by
      apply List.map_congr_left
      intro entry member
      exact splitVariable_plain entry.2 (reserved_plain entry.1 (portalArguments_reserved member))
    _ = input.portalArguments := List.map_id _

/-- The keys of the params whose text before an equals sign names a variable set it behind the check. -/
def smuggled (params : Params) : Precedence.Layer String String :=
  Precedence.assigned ((params.entries.filter fun entry => '=' ∈ entry.1.toList).map fun entry =>
    ((splitVariable entry.1).1, (splitVariable entry.1).2 ++ "=" ++ entry.2.str))

/-- For a name that is no key of the params, Packer reads only what is smuggled in. -/
theorem userAssignments_smuggled {params : Params} {name : String} (absent : params.get? name = none) :
    Precedence.assigned (userAssignments params) name = smuggled params name := by
  have cut : ∀ entry ∈ params.entries, '=' ∉ entry.1.toList →
      (splitVariable (entry.1 ++ "=" ++ entry.2.str)).1 ≠ name := by
    intro entry member plain same
    rw [splitVariable_plain entry.2.str plain] at same
    rw [← same, params.get?_of_mem member] at absent
    cases absent
  unfold smuggled userAssignments
  generalize params.entries = entries at cut
  induction entries with
  | nil => rfl
  | cons entry rest ih =>
      have later := ih fun other member => cut other (List.mem_cons_of_mem _ member)
      rw [List.map_cons, Precedence.assigned_cons, later]
      by_cases inside : '=' ∈ entry.1.toList
      · rw [List.filter_cons_of_pos (by simpa using inside), List.map_cons, Precedence.assigned_cons,
          splitVariable_inside entry.2.str inside]
      · have other := cut entry List.mem_cons_self inside
        rw [List.filter_cons_of_neg (by simpa using inside), if_neg (Ne.symm other), Option.or_none]

/-- Accepted params do not name a reserved variable that the template leaves undeclared. -/
theorem validatePackerParams_absent {templates : PackerTemplates} {templateId name : String} {params : Params}
    {detail : PackerMeta} (known : templates.lookup templateId = some detail)
    (accepted : validatePackerParams templates templateId params = .ok [])
    (reserved : name ∈ packerRules.reserved) (undeclared : name ∉ detail.parameters.map Parameter.id) :
    params.get? name = none := by
  unfold validatePackerParams getPackerTemplate at accepted
  rw [known] at accepted
  cases stored : params.get? name with
  | none => rfl
  | some value =>
      have declared := checkParams_reserved accepted (by rw [stored]; rfl) reserved
      obtain ⟨parameter, member, same⟩ := List.mem_map.mp declared
      exact absurd (List.mem_map.mpr ⟨parameter, (List.mem_filter.mp member).1, same⟩) undeclared

/-- Packer takes a variable from the smuggled keys, then from the portal, then from the environment. -/
theorem syncRun_value {input : PackerInput} {build : PackerBuild} {name : String}
    (started : syncRun input = some build) (absent : input.params.get? name = none) :
    build.value name = (smuggled input.params name).or
      ((input.portalValue name).or (input.environ.get? ("PKR_VAR_" ++ name))) := by
  have environment : build.environment.get? ("PKR_VAR_" ++ name) =
      (Precedence.single input.portalEnvironment name).or (input.environ.get? ("PKR_VAR_" ++ name)) := by
    obtain ⟨file, stored, same⟩ := Option.map_eq_some_iff.mp started
    rw [← same, OrderedMap.get?_set]
    unfold Precedence.single
    by_cases here : name = input.portalEnvironment.1
    · rw [if_pos here, if_pos (by rw [here]), Option.some_or]
    · rw [if_neg here, if_neg (by simpa using here), Option.none_or]
  unfold PackerBuild.value PackerInput.portalValue
  rw [syncRun_assignments started, Precedence.assigned_append, userAssignments_smuggled absent, environment,
    Option.or_assoc, Option.or_assoc]

/-- In an accepted build, a reserved variable that the template leaves undeclared has the value of the
portal, or none when the portal sets none. -/
def BuildConfined (templates : PackerTemplates) (templateId : String) (input : PackerInput) : Prop :=
  ∀ detail build, templates.lookup templateId = some detail →
    validatePackerParams templates templateId input.params = .ok [] → syncRun input = some build →
      ∀ name ∈ packerRules.reserved, name ∉ detail.parameters.map Parameter.id →
        build.value name = input.portalValue name

/-- What is smuggled in repeats the portal, and the environment has no variable that the portal leaves out. -/
def NothingInjected (templates : PackerTemplates) (templateId : String) (input : PackerInput) : Prop :=
  ∀ detail, templates.lookup templateId = some detail →
    validatePackerParams templates templateId input.params = .ok [] → input.definitionFile.isSome →
      ∀ name ∈ packerRules.reserved, name ∉ detail.parameters.map Parameter.id →
        match smuggled input.params name with
        | some text => input.portalValue name = some text
        | none => input.portalValue name = none → input.environ.get? ("PKR_VAR_" ++ name) = none

/-- A build keeps the values of the portal exactly when nothing is injected past the check. -/
theorem packer_build_confined_iff (templates : PackerTemplates) (templateId : String) (input : PackerInput) :
    BuildConfined templates templateId input ↔ NothingInjected templates templateId input := by
  have agree : ∀ name, (smuggled input.params name).or ((input.portalValue name).or
        (input.environ.get? ("PKR_VAR_" ++ name))) = input.portalValue name ↔
      match smuggled input.params name with
      | some text => input.portalValue name = some text
      | none => input.portalValue name = none → input.environ.get? ("PKR_VAR_" ++ name) = none := by
    intro name
    cases smuggled input.params name with
    | some text => simp [eq_comm]
    | none => cases input.portalValue name <;> simp
  constructor
  · intro confined detail known accepted present name reserved undeclared
    have launched : (syncRun input).isSome := by
      unfold syncRun
      rw [Option.isSome_map]
      exact present
    obtain ⟨build, started⟩ := Option.isSome_iff_exists.mp launched
    have absent := validatePackerParams_absent known accepted reserved undeclared
    rw [← agree, ← syncRun_value started absent]
    exact confined detail build known accepted started name reserved undeclared
  · intro clean detail build known accepted started name reserved undeclared
    have absent := validatePackerParams_absent known accepted reserved undeclared
    obtain ⟨file, stored, same⟩ := Option.map_eq_some_iff.mp started
    rw [syncRun_value started absent]
    exact (agree name).mpr (clean detail known accepted (by rw [stored]; rfl) name reserved undeclared)

/-- A confined build sends its secrets to the URL of the portal. -/
theorem BuildConfined.apiUrl {templates : PackerTemplates} {templateId : String} {input : PackerInput}
    {detail : PackerMeta} {build : PackerBuild} (confined : BuildConfined templates templateId input)
    (known : templates.lookup templateId = some detail)
    (accepted : validatePackerParams templates templateId input.params = .ok [])
    (started : syncRun input = some build) (undeclared : "proxmox_api_url" ∉ detail.parameters.map Parameter.id) :
    build.value "proxmox_api_url" = some (input.proxmoxHost ++ "/api2/json") := by
  rw [confined detail build known accepted started _ (by decide) undeclared]
  unfold PackerInput.portalValue PackerInput.portalArguments
  cases input.credentials <;> cases input.packerHttpIp <;> simp [Precedence.assigned_cons]

/-- The key ends in an equals sign and a URL, so the check does not see the reserved name. -/
theorem packer_build_unconfined :
    ¬ BuildConfined [("debian", {})] "debian"
      { definitionFile := some "debian.pkr.hcl"
        params := OrderedMap.empty.set "proxmox_api_url=https://guest.example/?" (.text "")
        tokenId := "id"
        tokenSecret := "secret" } := by
  intro confined
  have kept := confined {} _ rfl (by decide) rfl "proxmox_api_url" (by decide) (by decide)
  revert kept
  decide

end P3Portal.Automation
