import P3Portal.Construction.Automation.Parameters
import P3Portal.Foundation.TextFields

namespace P3Portal.Automation
open Foundation

section Numerals

def isNumeral (characters : List Char) : Bool := characters ≠ [] && characters.all Char.isDigit

/-- The number that plain decimal digits denote. -/
def numeralValue (characters : List Char) : Nat :=
  characters.foldl (fun number c => 10 * number + (c.toNat - 48)) 0

/-- A text denotes an integer when it is a numeral behind at most one sign. -/
def denotedByText : List Char → Option Int
  | '-' :: rest => if isNumeral rest then some (-(numeralValue rest : Int)) else none
  | '+' :: rest => if isNumeral rest then some (numeralValue rest) else none
  | characters => if isNumeral characters then some (numeralValue characters) else none

/-- A float is whole when its text ends in a zero behind the point or has a positive exponent. -/
def isWhole (shown : String) : Bool := Text.endsWith ".0" shown || Text.contains "e+" shown

/-- The integer that a raw JSON value denotes; a truth value denotes none. -/
def ParamValue.denotes : ParamValue → Option Int
  | .int value => some value
  | .float shown (.finite truncated) => if isWhole shown then some truncated else none
  | .text value => denotedByText value.toList
  | _ => none

theorem natural_of_numeral {characters : List Char} (numeral : isNumeral characters = true) {read : Nat}
    (converted : Number.natural characters = some read) : read = numeralValue characters := by
  obtain ⟨present, plain⟩ := Bool.and_eq_true_iff.mp numeral
  unfold Number.natural at converted
  rw [Number.digits_of_numeral (of_decide_eq_true present) (List.all_eq_true.mp plain)] at converted
  obtain ⟨values, kept, same⟩ := Option.map_eq_some_iff.mp converted
  have read_digits := Option.some.inj (Option.filter_eq_some_iff.mp kept).1
  rw [← same, ← read_digits, List.foldl_map]
  rfl

theorem converted_of_numeral {characters : List Char} (numeral : isNumeral characters = true) {read : Int}
    (converted : (do let number ← Number.natural characters; pure (number : Int)) = some read) :
    read = numeralValue characters := by
  obtain ⟨number, found, same⟩ := Option.bind_eq_some_iff.mp converted
  rw [← Option.some.inj same, natural_of_numeral numeral found]

/-- A text that starts with a sign or a digit and ends with a digit has no white space to strip. -/
theorem trimmed {first : Char} {rest : List Char} (plain : Number.isSpace first = false)
    (digits : ∀ c ∈ rest, c.isDigit = true) :
    ((first :: rest).dropWhile Number.isSpace).rdropWhile Number.isSpace = first :: rest := by
  rw [List.dropWhile_cons_of_neg (Bool.eq_false_iff.mp plain), List.rdropWhile_eq_self_iff]
  intro present space
  have ending := List.getLast_mem present
  rcases List.mem_cons.mp ending with here | inside
  · rw [here, plain] at space
    cases space
  · rw [(Number.digit_plain (digits _ inside)).1] at space
    cases space

theorem intOfText_of_denoted {text : String} {number read : Int} (denoted : denotedByText text.toList = some number)
    (converted : Number.intOfText text = some read) : read = number := by
  unfold Number.intOfText at converted
  unfold denotedByText at denoted
  split at denoted
  · rename_i rest known
    split at denoted
    · rename_i numeral
      have plain := List.all_eq_true.mp (Bool.and_eq_true_iff.mp numeral).2
      rw [known, trimmed (by decide) plain] at converted
      obtain ⟨digits, found, same⟩ := Option.map_eq_some_iff.mp converted
      rw [← same, ← Option.some.inj denoted, converted_of_numeral numeral found]
    · cases denoted
  · rename_i rest known
    split at denoted
    · rename_i numeral
      have plain := List.all_eq_true.mp (Bool.and_eq_true_iff.mp numeral).2
      rw [known, trimmed (by decide) plain] at converted
      obtain ⟨digits, found, same⟩ := Option.map_eq_some_iff.mp converted
      rw [← same, ← Option.some.inj denoted, converted_of_numeral numeral found]
    · cases denoted
  · split at denoted
    · rename_i numeral
      obtain ⟨present, every⟩ := Bool.and_eq_true_iff.mp numeral
      have plain := List.all_eq_true.mp every
      obtain ⟨first, rest, known⟩ := List.exists_cons_of_ne_nil (of_decide_eq_true present)
      rw [known] at plain
      obtain ⟨space, -, minus, plus⟩ := Number.digit_plain (plain first List.mem_cons_self)
      rw [known, trimmed space fun c member => plain c (List.mem_cons_of_mem _ member)] at converted
      rw [← Option.some.inj denoted]
      split at converted
      · rename_i same
        exact absurd (List.cons.inj same).1 minus
      · rename_i same
        exact absurd (List.cons.inj same).1 plus
      · obtain ⟨digits, found, same⟩ := Option.map_eq_some_iff.mp converted
        rw [← known] at found
        rw [← same, converted_of_numeral numeral found]
    · cases denoted

/-- The conversion of a value that denotes an integer is that integer. -/
theorem toInt_of_denotes {value : ParamValue} {number read : Int} (denoted : value.denotes = some number)
    (converted : value.toInt = .ok read) : read = number := by
  cases value with
  | null => cases denoted
  | bool value => cases denoted
  | compound shown => cases denoted
  | int value =>
      rw [← Option.some.inj denoted]
      exact (Except.ok.inj converted).symm
  | float shown kind =>
      cases kind with
      | finite truncated =>
          rw [← Except.ok.inj converted]
          have whole : (if isWhole shown then some truncated else none) = some number := denoted
          split at whole
          · exact Option.some.inj whole
          · cases whole
      | nan => cases denoted
      | infinite => cases denoted
  | text value =>
      have converted : (Number.intOfText value).elim (Except.error IntError.invalid) Except.ok = .ok read := converted
      cases found : Number.intOfText value with
      | none =>
          rw [found] at converted
          cases converted
      | some other =>
          rw [found] at converted
          rw [← Except.ok.inj converted]
          exact intOfText_of_denoted denoted found

end Numerals

/-- The number keeps to the bounds of the parameter. -/
def InBounds (parameter : Parameter) (number : Int) : Prop :=
  (∀ least, parameter.min = some least → least ≤ number) ∧ ∀ most, parameter.max = some most → number ≤ most

/-- The value keeps to the declaration of its parameter. -/
structure Honoured (parameter : Parameter) (value : Option ParamValue) : Prop where
  required : parameter.required = true → ∃ present, value = some present ∧ present ≠ .text ""
  integer : parameter.type = "integer" → ∀ present, value = some present →
    ∃ number, present.toInt = .ok number ∧ InBounds parameter number
  dropdown : parameter.type = "dropdown" → ∀ present, value = some present →
    (∃ option, some option ∈ parameter.options) → ∃ option, some option ∈ parameter.options ∧ option.str = present.str

section Verdicts
variable {parameter : Parameter} {value : Option ParamValue}

theorem integerErrors_nil_iff (present : ParamValue) :
    integerErrors parameter present = .ok [] ↔ ∃ number, present.toInt = .ok number ∧ InBounds parameter number := by
  unfold integerErrors InBounds
  cases present.toInt with
  | error failure => cases failure <;> simp
  | ok number =>
      cases parameter.min <;> cases parameter.max <;> simp

theorem dropdownErrors_nil_iff (present : ParamValue) :
    dropdownErrors parameter present = [] ↔ ((∃ option, some option ∈ parameter.options) →
      ∃ option, some option ∈ parameter.options ∧ option.str = present.str) := by
  have listed : ∀ text, text ∈ (parameter.options.filterMap fun option => option.map ParamValue.str) ↔
      ∃ option, some option ∈ parameter.options ∧ option.str = text := by
    intro text
    rw [List.mem_filterMap]
    constructor
    · rintro ⟨option, member, same⟩
      obtain ⟨declared, rfl, shown⟩ := Option.map_eq_some_iff.mp same
      exact ⟨declared, member, shown⟩
    · rintro ⟨declared, member, shown⟩
      exact ⟨some declared, member, congrArg some shown⟩
  have declares : (parameter.options.filterMap fun option => option.map ParamValue.str) ≠ [] ↔
      ∃ option, some option ∈ parameter.options := by
    rw [List.ne_nil_iff_exists_cons]
    constructor
    · rintro ⟨text, rest, same⟩
      have member : text ∈ parameter.options.filterMap fun option => option.map ParamValue.str := by
        rw [same]
        exact List.mem_cons_self
      obtain ⟨option, declared, _⟩ := (listed text).mp member
      exact ⟨option, declared⟩
    · rintro ⟨option, declared⟩
      exact List.exists_cons_of_ne_nil (List.ne_nil_of_mem ((listed option.str).mpr ⟨option, declared, rfl⟩))
  rw [← declares, ← listed]
  unfold dropdownErrors
  dsimp only
  split
  · rename_i refused
    constructor
    · intro impossible
      cases impossible
    · intro honoured
      exact absurd (honoured refused.1) refused.2
  · rename_i accepted
    exact ⟨fun _ some_option => not_not.mp fun missing => accepted ⟨some_option, missing⟩, fun _ => rfl⟩

theorem parameterErrors_nil_iff : parameterErrors parameter value = .ok [] ↔ Honoured parameter value := by
  unfold parameterErrors
  split
  · rename_i missing
    obtain ⟨required, lacks⟩ := Bool.and_eq_true_iff.mp missing
    constructor
    · intro impossible
      cases impossible
    · intro honoured
      obtain ⟨present, same, filled⟩ := honoured.required required
      rw [same] at lacks
      simp [filled] at lacks
  · rename_i filled
    cases value with
    | none =>
        have optional : parameter.required = false := by simpa using filled
        refine ⟨fun _ => ⟨?_, ?_, ?_⟩, fun _ => rfl⟩
        · intro required
          rw [optional] at required
          cases required
        · intro _ present impossible
          cases impossible
        · intro _ present impossible
          cases impossible
    | some given =>
        have required : parameter.required = true → ∃ present, some given = some present ∧ present ≠ .text "" := by
          intro demanded
          refine ⟨given, rfl, ?_⟩
          rintro rfl
          simp [demanded] at filled
        dsimp only
        split
        · rename_i integer
          rw [integerErrors_nil_iff]
          constructor
          · intro number
            refine ⟨required, ?_, ?_⟩
            · rintro _ present ⟨⟩
              exact number
            · intro dropdown
              rw [integer] at dropdown
              exact absurd dropdown (by decide)
          · intro honoured
            exact honoured.integer integer given rfl
        · rename_i other
          split
          · rename_i dropdown
            rw [Except.ok.injEq, dropdownErrors_nil_iff]
            constructor
            · intro chosen
              refine ⟨required, fun integer => absurd integer other, ?_⟩
              rintro _ present ⟨⟩
              exact chosen
            · intro honoured
              exact honoured.dropdown dropdown given rfl
          · rename_i another
            exact ⟨fun _ => ⟨required, fun integer => absurd integer other, fun dropdown => absurd dropdown another⟩,
              fun _ => rfl⟩

theorem mapM_errors_iff {A Failure : Type} (check : A → Except Failure (List String)) (list : List A) :
    (∃ errors, list.mapM check = .ok errors ∧ errors.flatten = []) ↔ ∀ entry ∈ list, check entry = .ok [] := by
  induction list with
  | nil => simp [pure, Except.pure]
  | cons entry rest ih =>
      rw [List.forall_mem_cons, ← ih, List.mapM_cons]
      cases check entry with
      | error failure => simp [bind, Except.bind]
      | ok here =>
          cases rest.mapM check with
          | error failure => simp [bind, Except.bind]
          | ok errors => simp [bind, Except.bind, pure, Except.pure]

/-- A validator accepts exactly the params without reserved keys that keep to the checked declarations. -/
theorem checkParams_accepts_iff (rules : ParamRules) (parameters : List Parameter) (params : Params) :
    checkParams rules parameters params = .ok [] ↔ reservedErrors rules parameters params = [] ∧
      ∀ parameter ∈ parameters, parameter.type ∉ rules.skippedTypes → Honoured parameter (params.value parameter.id) := by
  have every := mapM_errors_iff (fun parameter => parameterErrors parameter (params.value parameter.id))
    (parameters.filter fun parameter => parameter.type ∉ rules.skippedTypes)
  have checked : (∀ parameter ∈ parameters.filter fun parameter => parameter.type ∉ rules.skippedTypes,
      parameterErrors parameter (params.value parameter.id) = .ok []) ↔
      ∀ parameter ∈ parameters, parameter.type ∉ rules.skippedTypes → Honoured parameter (params.value parameter.id) := by
    simp only [List.mem_filter, decide_eq_true_eq, and_imp, parameterErrors_nil_iff]
  rw [← checked, ← every]
  unfold checkParams
  cases (parameters.filter fun parameter => parameter.type ∉ rules.skippedTypes).mapM fun parameter =>
      parameterErrors parameter (params.value parameter.id) with
  | error failure => simp [Except.map]
  | ok errors => simp [Except.map]

end Verdicts

section Raising

/-- An integer parameter holds an infinite float. -/
def Overflows (parameters : List Parameter) (params : Params) : Prop :=
  ∃ parameter ∈ parameters, parameter.type = "integer" ∧
    ∃ shown, params.value parameter.id = some (.float shown .infinite)

theorem toInt_overflow {value : ParamValue} (raised : value.toInt = .error .overflow) :
    ∃ shown, value = .float shown .infinite := by
  cases value with
  | null => cases raised
  | bool value => cases raised
  | int value => cases raised
  | compound shown => cases raised
  | float shown kind =>
      cases kind with
      | finite truncated => cases raised
      | nan => cases raised
      | infinite => exact ⟨shown, rfl⟩
  | text value =>
      have raised : (Number.intOfText value).elim (Except.error IntError.invalid) Except.ok = .error .overflow := raised
      cases found : Number.intOfText value with
      | none =>
          rw [found] at raised
          cases raised
      | some number =>
          rw [found] at raised
          cases raised

theorem parameterErrors_raises {parameter : Parameter} {value : Option ParamValue} {failure : IntError}
    (raised : parameterErrors parameter value = .error failure) :
    parameter.type = "integer" ∧ ∃ shown, value = some (.float shown .infinite) := by
  unfold parameterErrors at raised
  split at raised
  · cases raised
  · cases value with
    | none => cases raised
    | some given =>
        dsimp only at raised
        split at raised
        · rename_i integer
          unfold integerErrors at raised
          split at raised
          · rename_i overflow
            obtain ⟨shown, rfl⟩ := toInt_overflow overflow
            exact ⟨integer, shown, rfl⟩
          · cases raised
          · cases raised
        · split at raised
          · cases raised
          · cases raised

theorem mapM_total {A B Failure : Type} {step : A → Except Failure B} {list : List A}
    (total : ∀ entry ∈ list, ∃ result, step entry = .ok result) : ∃ results, list.mapM step = .ok results := by
  induction list with
  | nil => exact ⟨[], rfl⟩
  | cons entry rest ih =>
      obtain ⟨result, here⟩ := total entry List.mem_cons_self
      obtain ⟨results, others⟩ := ih fun entry member => total entry (List.mem_cons_of_mem _ member)
      refine ⟨result :: results, ?_⟩
      rw [List.mapM_cons, here, others]
      rfl

theorem checkParams_terminates (rules : ParamRules) {parameters : List Parameter} {params : Params}
    (calm : ¬ Overflows parameters params) : ∃ errors, checkParams rules parameters params = .ok errors := by
  have total : ∀ parameter ∈ parameters.filter fun parameter => parameter.type ∉ rules.skippedTypes,
      ∃ errors, parameterErrors parameter (params.value parameter.id) = .ok errors := by
    intro parameter member
    cases ran : parameterErrors parameter (params.value parameter.id) with
    | ok errors => exact ⟨errors, rfl⟩
    | error failure =>
        obtain ⟨integer, infinite⟩ := parameterErrors_raises ran
        exact absurd ⟨parameter, List.mem_of_mem_filter member, integer, infinite⟩ calm
  obtain ⟨errors, ran⟩ := mapM_total total
  unfold checkParams
  rw [ran]
  exact ⟨_, rfl⟩

end Raising

section Validators

/-- The integer that the raw value denotes keeps to the bounds. -/
def RawInBounds (parameter : Parameter) (value : Option ParamValue) : Prop :=
  parameter.type = "integer" → ∀ present number, value = some present → present.denotes = some number →
    InBounds parameter number

theorem Honoured.raw {parameter : Parameter} {value : Option ParamValue} (honoured : Honoured parameter value) :
    RawInBounds parameter value := by
  intro integer present number same denoted
  obtain ⟨read, converted, bounds⟩ := honoured.integer integer present same
  rw [toInt_of_denotes denoted converted] at bounds
  exact bounds

/-- The checked parameters of these rules are honoured. -/
def AllHonoured (rules : ParamRules) (parameters : List Parameter) (params : Params) : Prop :=
  ∀ parameter ∈ parameters, parameter.type ∉ rules.skippedTypes →
    Honoured parameter (params.value parameter.id) ∧ RawInBounds parameter (params.value parameter.id)

theorem honoured_of_accepted {rules : ParamRules} {parameters : List Parameter} {params : Params}
    (accepted : checkParams rules parameters params = .ok []) : AllHonoured rules parameters params := by
  intro parameter member checked
  have honoured := ((checkParams_accepts_iff rules parameters params).mp accepted).2 parameter member checked
  exact ⟨honoured, honoured.raw⟩

/-- The validators raise for infinite floats at most, accept params that keep to the checked declarations only, and differ
in their reserved names and in the types that one of them skips. -/
theorem validators_check (playbooks : Playbooks) (templates : PackerTemplates) (playbookId templateId : String)
    (params : Params) :
    ((∀ detail, getPlaybook playbooks playbookId = some detail → ¬ Overflows detail.parameters params) →
      ∃ errors, validatePlaybookParams playbooks playbookId params = .ok errors) ∧
    ((∀ detail, getPackerTemplate templates templateId = some detail → ¬ Overflows detail.parameters params) →
      ∃ errors, validatePackerParams templates templateId params = .ok errors) ∧
    (validatePlaybookParams playbooks playbookId params = .ok [] →
      ∃ detail, getPlaybook playbooks playbookId = some detail ∧ AllHonoured playbookRules detail.parameters params) ∧
    (validatePackerParams templates templateId params = .ok [] →
      ∃ detail, getPackerTemplate templates templateId = some detail ∧
        AllHonoured packerRules detail.parameters params) ∧
    ∀ playbook template, getPlaybook playbooks playbookId = some playbook →
      getPackerTemplate templates templateId = some template → playbook.parameters = template.parameters →
      reservedErrors playbookRules playbook.parameters params = [] →
      reservedErrors packerRules template.parameters params = [] →
      (validatePackerParams templates templateId params = .ok [] ↔
        validatePlaybookParams playbooks playbookId params = .ok [] ∧
          ∀ parameter ∈ playbook.parameters, parameter.type ∈ playbookRules.skippedTypes →
            Honoured parameter (params.value parameter.id)) := by
  refine ⟨?_, ?_, ?_, ?_, ?_⟩
  · intro calm
    unfold validatePlaybookParams
    cases found : getPlaybook playbooks playbookId with
    | none => exact ⟨_, rfl⟩
    | some detail => exact checkParams_terminates playbookRules (calm detail found)
  · intro calm
    unfold validatePackerParams
    cases found : getPackerTemplate templates templateId with
    | none => exact ⟨_, rfl⟩
    | some detail => exact checkParams_terminates packerRules (calm detail found)
  · intro accepted
    unfold validatePlaybookParams at accepted
    cases found : getPlaybook playbooks playbookId with
    | none =>
        rw [found] at accepted
        cases accepted
    | some detail =>
        rw [found] at accepted
        exact ⟨detail, rfl, honoured_of_accepted accepted⟩
  · intro accepted
    unfold validatePackerParams at accepted
    cases found : getPackerTemplate templates templateId with
    | none =>
        rw [found] at accepted
        cases accepted
    | some detail =>
        rw [found] at accepted
        exact ⟨detail, rfl, honoured_of_accepted accepted⟩
  · intro playbook template found other same first second
    unfold validatePackerParams validatePlaybookParams
    rw [found, other]
    show checkParams packerRules template.parameters params = .ok [] ↔
      checkParams playbookRules playbook.parameters params = .ok [] ∧ _
    rw [checkParams_accepts_iff, checkParams_accepts_iff, first, second, ← same]
    constructor
    · rintro ⟨_, every⟩
      have all := fun parameter member => every parameter member List.not_mem_nil
      exact ⟨⟨rfl, fun parameter member _ => all parameter member⟩, fun parameter member _ => all parameter member⟩
    · rintro ⟨⟨_, checked⟩, skipped⟩
      refine ⟨rfl, fun parameter member _ => ?_⟩
      by_cases exempt : parameter.type ∈ playbookRules.skippedTypes
      · exact skipped parameter member exempt
      · exact checked parameter member exempt

/-- A dropdown that no option offers a value for. -/
def openDropdown : Parameter where
  id := "node"
  type := "dropdown"
  options := [none]

/-- Only one validator refuses this name, and both accept any value of a dropdown without option values. -/
theorem validators_differ :
    validatePlaybookParams [("run", {})] "run" (OrderedMap.empty.set "api_user" (.text "root")) ≠ .ok [] ∧
      validatePackerParams [("build", {})] "build" (OrderedMap.empty.set "api_user" (.text "root")) = .ok [] ∧
      validatePackerParams [("build", { parameters := [openDropdown] })] "build"
        (OrderedMap.empty.set "node" (.text "other")) = .ok [] := by
  decide +kernel

end Validators
end P3Portal.Automation
