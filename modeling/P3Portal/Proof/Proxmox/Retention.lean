import P3Portal.Construction.Proxmox.BackupJobs
import P3Portal.Foundation.TextFields

namespace P3Portal.Proxmox
open Foundation BackupRetention

/-- The retention options of Proxmox. -/
inductive KeepOption where
  | keepAll
  | keepLast
  | keepHourly
  | keepDaily
  | keepWeekly
  | keepMonthly
  | keepYearly
  deriving DecidableEq

namespace KeepOption

def name : KeepOption → String
  | keepAll => "keep-all"
  | keepLast => "keep-last"
  | keepHourly => "keep-hourly"
  | keepDaily => "keep-daily"
  | keepWeekly => "keep-weekly"
  | keepMonthly => "keep-monthly"
  | keepYearly => "keep-yearly"

def named (key : List Char) : Option KeepOption :=
  [keepAll, keepLast, keepHourly, keepDaily, keepWeekly, keepMonthly, keepYearly].find? fun option =>
    option.name.toList = key

end KeepOption

def RetentionField.option : RetentionField → KeepOption
  | keepLast => .keepLast
  | keepDaily => .keepDaily
  | keepWeekly => .keepWeekly
  | keepMonthly => .keepMonthly

/-- The field of a retention with its number. -/
def BackupRetention.get (retention : BackupRetention) : RetentionField → Option Nat
  | .keepLast => retention.keepLast
  | .keepDaily => retention.keepDaily
  | .keepWeekly => retention.keepWeekly
  | .keepMonthly => retention.keepMonthly

section Format

def isBlank (c : Char) : Bool := c = ' '

/-- A part without the spaces around it. -/
def bare (part : String) : List Char := (part.toList.dropWhile isBlank).rdropWhile isBlank

/-- The text before the equality sign of a part, with the spaces before the sign. -/
def keyText (part : String) : List Char := (bare part).takeWhile (· ≠ '=')

/-- The text behind the equality sign of a part, without the spaces behind the sign. -/
def numberText (part : String) : List Char := (((bare part).dropWhile (· ≠ '=')).drop 1).dropWhile isBlank

/-- The option that a part of the parameter sets, and its number: a name, an equality sign and decimal digits, with
spaces anywhere between them. -/
def optionOf (part : String) : Option (KeepOption × Nat) :=
  if numberText part ≠ [] ∧ (numberText part).all Char.isDigit = true then
    (KeepOption.named ((keyText part).rdropWhile isBlank)).map fun option =>
      (option, Nat.ofDigitChars 10 (numberText part) 0)
  else none

/-- The text is a comma separated list of retention options. -/
def ListsOptions (text : String) : Prop := text = "" ∨ ∀ part ∈ Text.splitCommas text, (optionOf part).isSome

/-- The options that a text sets. -/
def options (text : String) : Finset (KeepOption × Nat) := ((Text.splitCommas text).filterMap optionOf).toFinset

/-- The portal knows the option, no space stands before the equality sign, and the number is not too long. -/
def isPlain (part : String) : Bool :=
  (mapping (String.ofList (keyText part))).isSome && (numberText part).length ≤ 4300

/-- Each option of the text is set in a plain part, and no two plain parts set one option to different numbers. -/
def Keepable (text : String) : Prop :=
  (∀ setting ∈ options text, ∃ part ∈ Text.splitCommas text, isPlain part = true ∧ optionOf part = some setting) ∧
  ∀ first ∈ Text.splitCommas text, ∀ second ∈ Text.splitCommas text, isPlain first = true → isPlain second = true →
    ∀ option one other, optionOf first = some (option, one) → optionOf second = some (option, other) → one = other

/-- Python writes and reads these numbers. -/
def Short (retention : BackupRetention) : Prop :=
  ∀ field number, retention.get field = some number → number < 10 ^ 4300

end Format

section Parts

/-- The options of vzdump are found by their names. -/
theorem named_iff {key : List Char} {option : KeepOption} :
    KeepOption.named key = some option ↔ key = option.name.toList := by
  constructor
  · intro found
    unfold KeepOption.named at found
    have test := List.find?_some found
    exact (of_decide_eq_true test).symm
  · rintro rfl
    cases option <;> decide

/-- The fields of the portal are found by their keys. -/
theorem mapping_iff {key : String} {field : RetentionField} : mapping key = some field ↔ key = field.key := by
  constructor
  · intro found
    unfold mapping at found
    have test := List.find?_some found
    exact (of_decide_eq_true test).symm
  · rintro rfl
    cases field <;> decide

/-- The options of a text are those of its parts. -/
theorem mem_options {text : String} {setting : KeepOption × Nat} :
    setting ∈ options text ↔ ∃ part ∈ Text.splitCommas text, optionOf part = some setting := by
  rw [options, List.mem_toFinset, List.mem_filterMap]

theorem blank_space {c : Char} (blank : isBlank c = true) : Text.isSpace c = true ∧ Number.isSpace c = true := by
  rw [of_decide_eq_true blank]
  decide

/-- A field that the portal finds before the equality sign is the option of the part. -/
theorem option_of_mapping {key : List Char} {option : KeepOption} {field : RetentionField}
    (named : KeepOption.named (key.rdropWhile isBlank) = some option)
    (known : mapping (String.ofList key) = some field) : field.option = option := by
  have written : key = field.key.toList := by rw [← mapping_iff.mp known, String.toList_ofList]
  have kept : field.key.toList.rdropWhile isBlank = field.option.name.toList := by
    cases field <;> decide
  rw [written, kept, named_iff] at named
  have same : field.option.name = option.name := String.toList_inj.mp named
  revert same
  cases field <;> cases option <;> decide

/-- A part that sets an option is a text before the sign, the sign, spaces and a numeral. -/
structure PartShape (part : String) (setting : KeepOption × Nat) : Prop where
  whole : ∃ gap, bare part = keyText part ++ '=' :: (gap ++ numberText part) ∧ ∀ c ∈ gap, isBlank c = true
  named : KeepOption.named ((keyText part).rdropWhile isBlank) = some setting.1
  numeral : numberText part ≠ []
  digits : ∀ c ∈ numberText part, c.isDigit = true
  value : Nat.ofDigitChars 10 (numberText part) 0 = setting.2

/-- A part that is read as an option has its name, an equals sign and a number. -/
theorem part_shape {part : String} {setting : KeepOption × Nat} (read : optionOf part = some setting) :
    PartShape part setting := by
  unfold optionOf at read
  split at read
  · rename_i numeral
    obtain ⟨option, named, rfl⟩ := Option.map_eq_some_iff.mp read
    have sign : (bare part).dropWhile (· ≠ '=') ≠ [] := by
      intro none
      apply numeral.1
      rw [numberText, none]
      rfl
    have equal := List.head_dropWhile_not (fun c : Char => decide (c ≠ '=')) sign
    obtain ⟨c, rest, known⟩ := List.exists_cons_of_ne_nil sign
    have head : c = '=' := by
      simp only [known, List.head_cons, decide_eq_false_iff_not, not_not] at equal
      exact equal
    have whole := List.takeWhile_append_dropWhile (p := (· ≠ '=')) (l := bare part)
    have behind : numberText part = rest.dropWhile isBlank := by
      rw [numberText, known]
      rfl
    refine ⟨⟨rest.takeWhile isBlank, ?_, fun c member => List.mem_takeWhile_imp member⟩, named, numeral.1,
      List.all_eq_true.mp numeral.2, rfl⟩
    rw [behind, List.takeWhile_append_dropWhile, ← head, ← known]
    exact whole.symm
  · cases read

/-- The key of a part starts with the name of its option. -/
theorem PartShape.key {part : String} {setting : KeepOption × Nat} (shape : PartShape part setting) :
    ∃ rest, keyText part = 'k' :: rest := by
  obtain ⟨rest, same⟩ := named_iff.mp shape.named ▸ List.rdropWhile_prefix isBlank (keyText part)
  have first : ∃ letters, setting.1.name.toList = 'k' :: letters := by
    cases setting.1 <;> exact ⟨_, rfl⟩
  obtain ⟨letters, known⟩ := first
  rw [known, List.cons_append] at same
  exact ⟨_, same.symm⟩

/-- The portal strips a part to the same text. -/
theorem PartShape.strip {part : String} {setting : KeepOption × Nat} (shape : PartShape part setting) :
    Text.strip part = String.ofList (bare part) := by
  obtain ⟨gap, whole, -⟩ := shape.whole
  obtain ⟨rest, key⟩ := shape.key
  obtain ⟨before, behind, split, padBefore, padBehind⟩ := trim_split isBlank part.toList
  have present : bare part ≠ [] := by
    rw [whole, key]
    exact List.cons_ne_nil _ _
  have first : ∀ c ∈ (bare part).head?, Text.isSpace c = false := by
    intro c found
    rw [whole, key, List.cons_append, List.head?_cons] at found
    rw [← Option.some.inj found]
    decide
  have last : ∀ c ∈ (bare part).getLast?, Text.isSpace c = false := by
    intro c found
    have ends : bare part = (keyText part ++ '=' :: gap) ++ numberText part := by
      rw [whole, List.append_assoc, List.cons_append]
    rw [ends, List.getLast?_append_of_ne_nil _ shape.numeral] at found
    exact Text.digit_not_space (shape.digits c (List.mem_of_mem_getLast? found))
  unfold Text.strip
  rw [split]
  exact congrArg String.ofList (trim_padded (fun c member => (blank_space (padBefore c member)).1)
    (fun c member => (blank_space (padBehind c member)).1) present first last)

/-- What the portal reads of a part that sets an option. -/
theorem readPart_eq {part : String} {setting : KeepOption × Nat} (read : optionOf part = some setting) :
    readPart part =
      if isPlain part = true then (mapping (String.ofList (keyText part))).map fun field => (field, (setting.2 : Int))
      else none := by
  have shape := part_shape read
  obtain ⟨gap, whole, blanks⟩ := shape.whole
  have sign : '=' ∈ bare part := by
    rw [whole]
    exact List.mem_append_right _ List.mem_cons_self
  have free : ∀ c ∈ keyText part, decide (c ≠ '=') = true :=
    fun c member => List.mem_takeWhile_imp (p := fun c => decide (c ≠ '=')) member
  have halves : Text.partition '=' (String.ofList (bare part)) =
      (String.ofList (keyText part), String.ofList ([] ++ gap ++ numberText part ++ [])) := by
    unfold Text.partition
    rw [String.toList_ofList, List.nil_append, List.append_nil, ← keyText, whole,
      List.dropWhile_append_of_pos free, List.dropWhile_cons_of_neg (by decide)]
    rfl
  have number := Number.intOfText_padded (fun c member => (blank_space (blanks c member)).2)
    (fun c member => absurd member List.not_mem_nil) shape.numeral shape.digits
  unfold readPart
  simp only [shape.strip, String.toList_ofList, if_pos sign, halves]
  rw [List.nil_append, number, shape.value, isPlain]
  cases mapping (String.ofList (keyText part)) with
  | none => rfl
  | some field =>
      by_cases short : (numberText part).length ≤ 4300
      · rw [if_pos short, Option.isSome_some, Bool.true_and, if_pos (decide_eq_true short)]
        rfl
      · rw [if_neg short, Option.isSome_some, Bool.true_and, if_neg fun plain => short (of_decide_eq_true plain)]
        rfl

/-- A plain part is read as the option that it sets, and any other part is passed over. -/
theorem readPart_iff {part : String} {setting : KeepOption × Nat} (read : optionOf part = some setting)
    {field : RetentionField} {number : Int} :
    readPart part = some (field, number) ↔ isPlain part = true ∧ field.option = setting.1 ∧ number = setting.2 := by
  have named := (part_shape read).named
  rw [readPart_eq read]
  by_cases plain : isPlain part = true
  · rw [if_pos plain]
    obtain ⟨known, found⟩ := Option.isSome_iff_exists.mp (Bool.and_eq_true_iff.mp plain).1
    have here := option_of_mapping named found
    rw [found, Option.map_some, Option.some.injEq, Prod.mk.injEq]
    constructor
    · rintro ⟨rfl, rfl⟩
      exact ⟨plain, here, rfl⟩
    · rintro ⟨-, same, rfl⟩
      refine ⟨?_, rfl⟩
      rw [← here] at same
      revert same
      cases known <;> cases field <;> decide
  · rw [if_neg plain]
    exact iff_of_false (by simp) fun both => plain both.1

end Parts

section Written

/-- How the portal writes an option. -/
def RetentionField.written (field : RetentionField) (number : Nat) : String := field.key ++ "=" ++ toString number

def retentionFields : List RetentionField := [.keepLast, .keepDaily, .keepWeekly, .keepMonthly]

theorem mem_retentionFields (field : RetentionField) : field ∈ retentionFields := by
  cases field <;> decide

/-- The parts of a written retention. -/
def BackupRetention.parts (retention : BackupRetention) : List String :=
  retentionFields.filterMap fun field => (retention.get field).map field.written

/-- A retention without parts is not sent. -/
theorem toProxmoxParam_eq (retention : BackupRetention) : retention.toProxmoxParam =
    if retention.parts.isEmpty then none else some (",".intercalate retention.parts) := by
  rcases retention with ⟨_ | last, _ | daily, _ | weekly, _ | monthly⟩ <;> rfl

variable {field : RetentionField} {number : Nat} {retention : BackupRetention}

theorem toString_digits (number : Nat) : ∀ c ∈ Nat.toDigits 10 number, c.isDigit = true :=
  fun _ member => Nat.isDigit_of_mem_toDigits (by decide) (by decide) member

/-- A written part is its key, an equals sign and its digits. -/
theorem written_chars : (field.written number).toList = field.key.toList ++ '=' :: Nat.toDigits 10 number := by
  unfold RetentionField.written
  rw [String.toList_append, String.toList_append, List.append_assoc]
  show field.key.toList ++ (['='] ++ (String.ofList (Nat.toDigits 10 number)).toList) = _
  rw [String.toList_ofList]
  rfl

/-- A written part has no padding. -/
theorem bare_written : bare (field.written number) = field.key.toList ++ '=' :: Nat.toDigits 10 number := by
  unfold bare
  rw [written_chars]
  apply trim_bare
  · intro c found
    have start : c = 'k' := by
      revert found
      cases field <;> exact fun found => (Option.some.inj found).symm
    rw [start]
    decide
  · intro c found
    have ends : field.key.toList ++ '=' :: Nat.toDigits 10 number =
        (field.key.toList ++ ['=']) ++ Nat.toDigits 10 number := by rw [List.append_assoc]; rfl
    rw [ends, List.getLast?_append_of_ne_nil _ Nat.toDigits_ne_nil] at found
    have digit := toString_digits number c (List.mem_of_mem_getLast? found)
    exact decide_eq_false fun same => by rw [same] at digit; revert digit; decide

/-- The keys have no equals sign and no comma. -/
theorem key_plain (field : RetentionField) : field.key.toList.all (fun c => decide (c ≠ '=' ∧ c ≠ ',')) = true := by
  cases field <;> decide

/-- A written part shows its key. -/
theorem keyText_written : keyText (field.written number) = field.key.toList := by
  have free : ∀ c ∈ field.key.toList, decide (c ≠ '=') = true := fun c member =>
    decide_eq_true (of_decide_eq_true (List.all_eq_true.mp (key_plain field) c member)).1
  unfold keyText
  rw [bare_written, List.takeWhile_append_of_pos free, List.takeWhile_cons_of_neg (by decide), List.append_nil]

/-- A written part shows its number. -/
theorem numberText_written : numberText (field.written number) = Nat.toDigits 10 number := by
  have free : ∀ c ∈ field.key.toList, decide (c ≠ '=') = true := fun c member =>
    decide_eq_true (of_decide_eq_true (List.all_eq_true.mp (key_plain field) c member)).1
  unfold numberText
  rw [bare_written, List.dropWhile_append_of_pos free, List.dropWhile_cons_of_neg (by decide), List.drop_one,
    List.tail_cons]
  obtain ⟨c, rest, known⟩ := List.exists_cons_of_ne_nil (Nat.toDigits_ne_nil (n := number) (b := 10))
  have digit := toString_digits number c (known ▸ List.mem_cons_self)
  rw [known]
  apply List.dropWhile_cons_of_neg
  intro blank
  rw [of_decide_eq_true blank] at digit
  revert digit
  decide

/-- A written part is read as its option. -/
theorem optionOf_written : optionOf (field.written number) = some (field.option, number) := by
  have kept : field.key.toList.rdropWhile isBlank = field.option.name.toList := by
    cases field <;> decide
  unfold optionOf
  rw [numberText_written, keyText_written, if_pos ⟨Nat.toDigits_ne_nil, List.all_eq_true.mpr (toString_digits number)⟩,
    named_iff.mpr kept, Option.map_some, Nat.ofDigitChars_ten_toDigits]

/-- Python reads a written number back unless it has too many digits. -/
theorem isPlain_written : isPlain (field.written number) = true ↔ number < 10 ^ 4300 := by
  unfold isPlain
  rw [keyText_written, String.ofList_toList, mapping_iff.mpr rfl, numberText_written, Option.isSome_some, Bool.true_and,
    decide_eq_true_eq, Nat.length_toDigits_le_iff (by decide) (by decide)]

/-- The parts of a retention are its stored fields. -/
theorem mem_parts {part : String} :
    part ∈ retention.parts ↔ ∃ field number, retention.get field = some number ∧ part = field.written number := by
  unfold BackupRetention.parts
  rw [List.mem_filterMap]
  constructor
  · rintro ⟨field, -, found⟩
    obtain ⟨number, stored, rfl⟩ := Option.map_eq_some_iff.mp found
    exact ⟨field, number, stored, rfl⟩
  · rintro ⟨field, number, stored, rfl⟩
    exact ⟨field, mem_retentionFields field, by rw [stored]; rfl⟩

/-- The parts of a written retention are read back; a retention without a number is written as no text. -/
theorem mem_splitCommas_written {part : String} : part ∈ Text.splitCommas (retention.toProxmoxParam.getD "") ↔
    part ∈ retention.parts ∨ retention.parts = [] ∧ part = "" := by
  rw [toProxmoxParam_eq]
  cases empty : retention.parts with
  | nil =>
      show part ∈ [""] ↔ _
      simp
  | cons first rest =>
      have free : ∀ part ∈ retention.parts, ',' ∉ part.toList := by
        intro part member comma
        obtain ⟨field, number, -, rfl⟩ := mem_parts.mp member
        rw [written_chars] at comma
        rcases List.mem_append.mp comma with inside | behind
        · exact (of_decide_eq_true (List.all_eq_true.mp (key_plain field) _ inside)).2 rfl
        · rcases List.mem_cons.mp behind with same | digit
          · revert same
            decide
          · have plain := toString_digits number _ digit
            revert plain
            decide
      rw [empty] at free
      show part ∈ Text.splitCommas (",".intercalate (first :: rest)) ↔ _
      rw [Text.splitCommas_intercalate (List.cons_ne_nil _ _) free]
      simp

/-- The written text sets the options of the retention. -/
theorem mem_options_written {setting : KeepOption × Nat} : setting ∈ options (retention.toProxmoxParam.getD "") ↔
    ∃ field, field.option = setting.1 ∧ retention.get field = some setting.2 := by
  rw [mem_options]
  constructor
  · rintro ⟨part, listed, read⟩
    rcases mem_splitCommas_written.mp listed with member | ⟨-, rfl⟩
    · obtain ⟨field, number, stored, rfl⟩ := mem_parts.mp member
      rw [optionOf_written, Option.some.injEq] at read
      exact ⟨field, congrArg Prod.fst read, by rw [stored, ← read]⟩
    · cases read
  · rintro ⟨field, same, stored⟩
    exact ⟨field.written setting.2, mem_splitCommas_written.mpr (.inl (mem_parts.mpr ⟨field, _, stored, rfl⟩)),
      by rw [optionOf_written, same]⟩

end Written

section Read
variable {text : String}

/-- The settings that the portal reads from a text. -/
def rowsOf (text : String) : List (RetentionField × Int) := (Text.splitCommas text).filterMap readPart

/-- The portal reads the plain parts of the fields that it knows. -/
theorem mem_rowsOf (lists : ListsOptions text) {field : RetentionField} {number : Int} :
    (field, number) ∈ rowsOf text ↔ ∃ part ∈ Text.splitCommas text, ∃ setting, optionOf part = some setting ∧
      isPlain part = true ∧ field.option = setting.1 ∧ number = setting.2 := by
  unfold rowsOf
  rw [List.mem_filterMap]
  constructor
  · rintro ⟨part, listed, read⟩
    rcases lists with rfl | every
    · rw [List.mem_singleton.mp listed] at read
      cases read
    · obtain ⟨setting, sets⟩ := Option.isSome_iff_exists.mp (every part listed)
      exact ⟨part, listed, setting, sets, (readPart_iff sets).mp read⟩
  · rintro ⟨part, listed, setting, sets, known⟩
    exact ⟨part, listed, (readPart_iff sets).mpr known⟩

/-- A list of options is read as a retention that holds the last number of each field. -/
theorem fromProxmoxParam_text (lists : ListsOptions text) : ∃ retention,
    fromProxmoxParam (.text text) = some retention ∧ ∀ field,
      retention.get field = ((OrderedMap.empty.assignAll (rowsOf text)).get? field).map Int.toNat := by
  have known : fromProxmoxParam (.text text) = ofFields (OrderedMap.empty.assignAll (rowsOf text)) := by
    unfold fromProxmoxParam
    by_cases empty : text = ""
    · rw [empty]
      rfl
    · rw [if_neg (by simp [JsonValue.truthy, empty])]
      rfl
  have natural : (OrderedMap.empty.assignAll (rowsOf text)).entries.all (fun entry => decide (0 ≤ entry.2)) = true := by
    rw [List.all_eq_true]
    intro entry member
    have stored := OrderedMap.mem_of_get?_assignAll (OrderedMap.get?_of_mem _ member)
    obtain ⟨-, -, setting, -, -, -, number⟩ := (mem_rowsOf lists).mp stored
    rw [number]
    exact decide_eq_true (Int.natCast_nonneg _)
  rw [known, ofFields, if_pos natural]
  refine ⟨_, rfl, fun field => ?_⟩
  cases field <;> rfl

/-- Different fields are different options. -/
theorem option_injective {first second : RetentionField} (same : first.option = second.option) : first = second := by
  revert same
  cases first <;> cases second <;> decide

/-- The options of a list survive the reading and the writing when the portal reads all of them. -/
theorem options_kept_iff (lists : ListsOptions text) :
    (∃ retention, fromProxmoxParam (.text text) = some retention ∧
      options (retention.toProxmoxParam.getD "") = options text) ↔ Keepable text := by
  obtain ⟨retention, read, fields⟩ := fromProxmoxParam_text lists
  have stored : ∀ field number, retention.get field = some number →
      ∃ part ∈ Text.splitCommas text, isPlain part = true ∧ optionOf part = some (field.option, number) := by
    intro field number found
    rw [fields] at found
    obtain ⟨value, here, rfl⟩ := Option.map_eq_some_iff.mp found
    obtain ⟨part, listed, setting, sets, plain, same, rfl⟩ :=
      (mem_rowsOf lists).mp (OrderedMap.mem_of_get?_assignAll here)
    refine ⟨part, listed, plain, ?_⟩
    rw [sets, same, Int.toNat_natCast]
  constructor
  · rintro ⟨other, found, kept⟩
    rw [read, Option.some.injEq] at found
    rw [← found] at kept
    refine ⟨fun setting member => ?_, fun first listed second also plain plainToo option one another sets setsToo => ?_⟩
    · rw [← kept, mem_options_written] at member
      obtain ⟨field, same, here⟩ := member
      obtain ⟨part, listed, plain, sets⟩ := stored field _ here
      exact ⟨part, listed, plain, by rw [sets, same]⟩
    · have here : (option, one) ∈ options text := mem_options.mpr ⟨first, listed, sets⟩
      have there : (option, another) ∈ options text := mem_options.mpr ⟨second, also, setsToo⟩
      rw [← kept, mem_options_written] at here there
      obtain ⟨field, same, number⟩ := here
      obtain ⟨twin, alike, numberToo⟩ := there
      rw [option_injective (same.trans alike.symm), numberToo, Option.some.injEq] at number
      exact number.symm
  · rintro ⟨every, single⟩
    refine ⟨retention, read, ?_⟩
    ext setting
    rw [mem_options_written]
    constructor
    · rintro ⟨field, same, here⟩
      obtain ⟨part, listed, -, sets⟩ := stored field _ here
      exact mem_options.mpr ⟨part, listed, by rw [sets, same]⟩
    · intro member
      obtain ⟨part, listed, plain, sets⟩ := every setting member
      obtain ⟨field, found⟩ := Option.isSome_iff_exists.mp (Bool.and_eq_true_iff.mp plain).1
      have same := option_of_mapping (part_shape sets).named found
      have row : (field, (setting.2 : Int)) ∈ rowsOf text :=
        (mem_rowsOf lists).mpr ⟨part, listed, setting, sets, plain, same, rfl⟩
      have unique : ∀ value, (field, value) ∈ rowsOf text → value = setting.2 := by
        intro value other
        obtain ⟨rival, present, another, setsToo, plainToo, alike, rfl⟩ := (mem_rowsOf lists).mp other
        have equal := single rival present part listed plainToo plain setting.1 another.2 setting.2
          (by rw [setsToo, ← same, alike]) sets
        rw [equal]
      refine ⟨field, same, ?_⟩
      rw [fields, OrderedMap.get?_assignAll_of_unique _ row unique]
      rfl

/-- The value that a read of a written retention finds in the entry of the job. -/
def writtenValue (retention : BackupRetention) : JsonValue := retention.toProxmoxParam.elim .null .text

/-- The written retention is a list of options. -/
theorem lists_written (retention : BackupRetention) : ListsOptions (retention.toProxmoxParam.getD "") := by
  by_cases empty : retention.parts = []
  · left
    rw [toProxmoxParam_eq, empty]
    rfl
  · right
    intro part listed
    rcases mem_splitCommas_written.mp listed with member | ⟨nothing, -⟩
    · obtain ⟨field, number, -, rfl⟩ := mem_parts.mp member
      rw [optionOf_written]
      rfl
    · exact absurd nothing empty

/-- Retentions with the same fields are the same. -/
theorem retention_ext {first second : BackupRetention} (same : ∀ field, first.get field = second.get field) :
    first = second := by
  obtain ⟨last, daily, weekly, monthly⟩ := first
  obtain ⟨last', daily', weekly', monthly'⟩ := second
  have one : last = last' := same .keepLast
  have two : daily = daily' := same .keepDaily
  have three : weekly = weekly' := same .keepWeekly
  have four : monthly = monthly' := same .keepMonthly
  rw [one, two, three, four]

/-- A written retention is read back when its numbers are not too long. -/
theorem written_kept_iff (retention : BackupRetention) :
    fromProxmoxParam (writtenValue retention) = some retention ↔ Short retention := by
  have lists := lists_written retention
  obtain ⟨other, read, fields⟩ := fromProxmoxParam_text lists
  have value : fromProxmoxParam (writtenValue retention) = some other := by
    unfold writtenValue
    cases written : retention.toProxmoxParam with
    | none =>
        rw [written] at read
        exact read
    | some text =>
        rw [written] at read
        exact read
  have row : ∀ field (number : Nat), (field, (number : Int)) ∈ rowsOf (retention.toProxmoxParam.getD "") ↔
      retention.get field = some number ∧ number < 10 ^ 4300 := by
    intro field number
    rw [mem_rowsOf lists]
    constructor
    · rintro ⟨part, listed, setting, sets, plain, same, equal⟩
      rcases mem_splitCommas_written.mp listed with member | ⟨-, rfl⟩
      · obtain ⟨source, count, stored, rfl⟩ := mem_parts.mp member
        rw [optionOf_written, Option.some.injEq] at sets
        rw [← sets] at same equal
        rw [option_injective same, Int.natCast_inj.mp equal]
        exact ⟨stored, isPlain_written.mp plain⟩
      · cases sets
    · rintro ⟨stored, short⟩
      exact ⟨field.written number, mem_splitCommas_written.mpr (.inl (mem_parts.mpr ⟨field, _, stored, rfl⟩)),
        (field.option, number), optionOf_written, isPlain_written.mpr short, rfl, rfl⟩
  have stored : ∀ field (number : Nat), other.get field = some number ↔ retention.get field = some number ∧ number < 10 ^ 4300 := by
    intro field number
    rw [fields, ← row]
    constructor
    · intro found
      obtain ⟨count, here, rfl⟩ := Option.map_eq_some_iff.mp found
      have member := OrderedMap.mem_of_get?_assignAll here
      obtain ⟨-, -, setting, -, -, -, equal⟩ := (mem_rowsOf lists).mp member
      rw [equal] at member ⊢
      exact member
    · intro member
      have unique : ∀ count, (field, count) ∈ rowsOf (retention.toProxmoxParam.getD "") → count = number := by
        intro count listed
        obtain ⟨-, -, setting, -, -, -, equal⟩ := (mem_rowsOf lists).mp listed
        rw [equal] at listed ⊢
        have here := ((row field setting.2).mp listed).1
        rw [((row field number).mp member).1, Option.some.injEq] at here
        rw [here]
      rw [OrderedMap.get?_assignAll_of_unique _ member unique]
      rfl
  rw [value, Option.some.injEq]
  constructor
  · rintro rfl field number found
    exact ((stored field number).mp found).2
  · intro short
    apply retention_ext
    intro field
    ext number
    rw [stored]
    exact ⟨And.left, fun found => ⟨found, short field number found⟩⟩

/-- A retention survives an edit of its job exactly when the portal knows each of its options, reads it from a plain
part and can write its number. -/
theorem retention_survives_iff (lists : ListsOptions text) (retention : BackupRetention) :
    ((∃ other, fromProxmoxParam (.text text) = some other ∧
        options (other.toProxmoxParam.getD "") = options text) ∧
      fromProxmoxParam (writtenValue retention) = some retention) ↔ Keepable text ∧ Short retention := by
  rw [options_kept_iff lists, written_kept_iff]

theorem digit_lt_pow {number length : Nat} (digit : number < 10) (some_digit : 1 ≤ length) : number < 10 ^ length :=
  Nat.lt_of_lt_of_le digit (Nat.le_self_pow (by omega) 10)

/-- A usual retention is kept. -/
theorem usual_keepable : Keepable "keep-daily=7, keep-last=3" := by
  have single : ∀ first ∈ Text.splitCommas "keep-daily=7, keep-last=3", ∀ second ∈ Text.splitCommas
      "keep-daily=7, keep-last=3", (optionOf first).map Prod.fst = (optionOf second).map Prod.fst →
        optionOf first = optionOf second := by decide +kernel
  refine ⟨by decide +kernel, fun first listed second also _ _ option one other sets setsToo => ?_⟩
  have same := single first listed second also (by rw [sets, setsToo]; rfl)
  rw [sets, setsToo, Option.some.injEq] at same
  exact congrArg Prod.snd same

/-- The usual retention of a job survives. -/
theorem usual_survives :
    (∃ other, fromProxmoxParam (.text "keep-daily=7, keep-last=3") = some other ∧
      options (other.toProxmoxParam.getD "") = options "keep-daily=7, keep-last=3") ∧
    fromProxmoxParam (writtenValue { keepLast := some 3 }) = some { keepLast := some 3 } :=
  (retention_survives_iff (.inr (by decide +kernel)) { keepLast := some 3 }).mpr
    ⟨usual_keepable, fun field number stored => by
      have small : number = 3 := by
        revert stored
        cases field <;> simp [BackupRetention.get, eq_comm]
      rw [small]
      exact digit_lt_pow (by decide) (by decide)⟩

/-- A yearly retention is dropped, and the edit leaves a job that keeps the last backup only. -/
theorem yearly_dropped : ListsOptions "keep-last=1,keep-yearly=5" ∧
    ¬ ∃ other, fromProxmoxParam (.text "keep-last=1,keep-yearly=5") = some other ∧
      options (other.toProxmoxParam.getD "") = options "keep-last=1,keep-yearly=5" := by
  refine ⟨.inr (by decide +kernel), ?_⟩
  rintro ⟨other, read, kept⟩
  have known : fromProxmoxParam (.text "keep-last=1,keep-yearly=5") = some { keepLast := some 1 } := by decide +kernel
  rw [known, Option.some.injEq] at read
  rw [← read] at kept
  revert kept
  decide +kernel

end Read
end P3Portal.Proxmox
