import P3Portal.Construction.Audit.SecretMasking
import P3Portal.Foundation.JsonLeaves

namespace P3Portal.Audit
open Foundation Json
variable {C : Type} [Annotated C]

/-- Every keyword of a form field starts with one of these letters. -/
def startsField (character : Char) : Bool := caseless 'p' character || caseless 'k' character

/-- A field ends before the text does. -/
def FieldEnds (text : List C) : Prop := ∀ field ∈ fieldAt text, field.2.dropWhile isValueAt ≠ []

/-- The text is scanned from left to right and each field ends before the text does. -/
inductive Scanned : List C → Prop where
  | nil : Scanned []
  | keep {c : C} {rest : List C} : formFieldAt (c :: rest) = none → FieldEnds (c :: rest) → Scanned rest →
      Scanned (c :: rest)
  | field {c : C} {rest keyword behind : List C} : formFieldAt (c :: rest) = some (keyword, behind) →
      FieldEnds (c :: rest) → Scanned behind → Scanned (c :: rest)

/-- This test goes along with `maskFrom` and looks at the end of each field that it meets. -/
def fieldsEndFrom : Nat → List C → Bool
  | _, [] => true
  | skip + 1, _ :: rest => fieldsEndFrom skip rest
  | 0, c :: rest =>
      (fieldAt (c :: rest)).all (fun field => !(field.2.dropWhile isValueAt).isEmpty) &&
        match formFieldAt (c :: rest) with
        | none => fieldsEndFrom 0 rest
        | some (_, behind) => fieldsEndFrom (rest.length - behind.length) rest

def fieldsEnd (text : List C) : Bool := fieldsEndFrom 0 text

/-- Skipping is masking what comes behind. -/
theorem maskFrom_drop (skip : Nat) (text : List C) : maskFrom skip text = maskForm (text.drop skip) := by
  induction skip generalizing text with
  | zero => rfl
  | succ skip ih =>
      cases text with
      | nil => rfl
      | cons c rest => exact ih rest

/-- A character that starts no field of a form stays. -/
theorem maskForm_keep {c : C} {rest : List C} (free : formFieldAt (c :: rest) = none) :
    maskForm (c :: rest) = c :: maskForm rest := by
  show (match formFieldAt (c :: rest) with
    | none => c :: maskFrom 0 rest
    | some (keyword, behind) =>
        keyword ++ fresh "=<redacted>".toList ++ maskFrom (rest.length - behind.length) rest) = _
  rw [free]
  rfl

/-- The keyword stands at the start of its field. -/
theorem behindKeyword_split {keyword : List Char} {text behind : List C}
    (found : behindKeyword keyword text = some behind) :
    ∃ written, text = written ++ behind ∧ written.length = keyword.length ∧
      ∀ c ∈ written, ∃ wanted ∈ keyword, caseless wanted (char c) = true := by
  induction keyword generalizing text with
  | nil =>
      refine ⟨[], Option.some.inj found, rfl, ?_⟩
      intro c absent
      cases absent
  | cons wanted keyword ih =>
      cases text with
      | nil => cases found
      | cons c rest =>
          have found : (if caseless wanted (char c) then behindKeyword keyword rest else none) = some behind := found
          split at found
          · rename_i same
            obtain ⟨written, split, long, letters⟩ := ih found
            refine ⟨c :: written, congrArg (c :: ·) split, congrArg (· + 1) long, ?_⟩
            intro other member
            rcases List.mem_cons.mp member with here | behind
            · rw [here]
              exact ⟨wanted, List.mem_cons_self, same⟩
            · obtain ⟨wanted, listed, same⟩ := letters other behind
              exact ⟨wanted, List.mem_cons_of_mem _ listed, same⟩
          · cases found

/-- An equals sign that is found stands in the text. -/
theorem behindSign_split {text value : List C} (found : behindSign text = some value) :
    ∃ first sign second, text = first ++ sign :: second ++ value ∧ char sign = '=' := by
  unfold behindSign at found
  split at found
  · cases found
  · rename_i sign behind start
    split at found
    · rename_i same
      refine ⟨text.takeWhile isSpaceAt, sign, behind.takeWhile isSpaceAt, ?_, same⟩
      rw [← Option.some.inj found, List.append_assoc, List.cons_append, List.takeWhile_append_dropWhile, ← start,
        List.takeWhile_append_dropWhile]
    · cases found

/-- A field is a keyword, an equality sign and a value. -/
theorem fieldAt_split {text keyword value : List C} (found : fieldAt text = some (keyword, value)) :
    ∃ wanted first sign second, wanted ∈ formKeywords ∧ text = keyword ++ (first ++ sign :: second) ++ value ∧
      char sign = '=' ∧ keyword.length = wanted.length ∧
      ∀ c ∈ keyword, ∃ letter ∈ wanted, caseless letter (char c) = true := by
  obtain ⟨before, wanted, after, listed, found, earlier⟩ := List.findSome?_eq_some_iff.mp found
  obtain ⟨value', signed, same⟩ := Option.map_eq_some_iff.mp found
  obtain ⟨behind, start, sign⟩ := Option.bind_eq_some_iff.mp signed
  obtain ⟨written, split, long, letters⟩ := behindKeyword_split start
  obtain ⟨first, sign, second, rest, equal⟩ := behindSign_split sign
  obtain ⟨whole, later⟩ := Prod.mk.inj same
  rw [split, ← long, List.take_left] at whole
  rw [← whole, ← later]
  refine ⟨wanted, first, sign, second, ?_, ?_, equal, long, letters⟩
  · rw [listed]
    exact List.mem_append_right _ List.mem_cons_self
  · rw [split, rest]
    exact (List.append_assoc _ _ _).symm

/-- A field that is replaced is a keyword, a part with an equality sign, and what stands behind it. -/
theorem formFieldAt_split {text keyword behind : List C} (found : formFieldAt text = some (keyword, behind)) :
    ∃ value middle, fieldAt text = some (keyword, value) ∧ behind = value.dropWhile isValueAt ∧
      text = keyword ++ middle ++ behind ∧ ∃ sign ∈ middle, char sign = '=' := by
  obtain ⟨field, start, rest⟩ := Option.bind_eq_some_iff.mp found
  split at rest
  · cases rest
  · obtain ⟨same, later⟩ := Prod.mk.inj (Option.some.inj rest)
    obtain ⟨wanted, first, sign, second, listed, split, equal, long, letters⟩ := fieldAt_split start
    refine ⟨field.2, first ++ sign :: second ++ field.2.takeWhile isValueAt, ?_, later.symm, ?_, sign, ?_, equal⟩
    · rw [start, ← same]
    · rw [split, ← same, ← later]
      simp only [List.append_assoc, List.cons_append, List.takeWhile_append_dropWhile]
    · rw [List.append_assoc]
      exact List.mem_append_right _ List.mem_cons_self

/-- A keyword that is found is not empty. -/
theorem keyword_ne_nil {text keyword value : List C} (found : fieldAt text = some (keyword, value)) :
    keyword ≠ [] := by
  obtain ⟨wanted, first, sign, second, listed, split, equal, long, letters⟩ := fieldAt_split found
  have some_letter : ∀ wanted ∈ formKeywords, 0 < wanted.length := by decide
  have positive := some_letter wanted listed
  rw [← long] at positive
  exact List.ne_nil_of_length_pos positive

/-- Skipping looks at what comes behind. -/
theorem fieldsEndFrom_drop (skip : Nat) (text : List C) : fieldsEndFrom skip text = fieldsEnd (text.drop skip) := by
  induction skip generalizing text with
  | zero => rfl
  | succ skip ih =>
      cases text with
      | nil => rfl
      | cons c rest => exact ih rest

/-- Each character is looked at in turn. -/
theorem fieldsEndFrom_cons (c : C) (rest : List C) :
    fieldsEndFrom 0 (c :: rest) =
      ((fieldAt (c :: rest)).all (fun field => !(field.2.dropWhile isValueAt).isEmpty) &&
        (formFieldAt (c :: rest)).elim (fieldsEndFrom 0 rest)
          fun field => fieldsEndFrom (rest.length - field.2.length) rest) := by
  show (_ && match formFieldAt (c :: rest) with
    | none => fieldsEndFrom 0 rest
    | some (_, behind) => fieldsEndFrom (rest.length - behind.length) rest) = _
  cases formFieldAt (c :: rest) with
  | none => rfl
  | some field => rfl

/-- The text behind a field that is replaced is shorter than the text with the field. -/
theorem formFieldAt_behind {c : C} {rest keyword behind : List C}
    (found : formFieldAt (c :: rest) = some (keyword, behind)) :
    rest.drop (rest.length - behind.length) = behind ∧ behind.length ≤ rest.length := by
  obtain ⟨value, middle, start, later, split, signed⟩ := formFieldAt_split found
  obtain ⟨first, letters, known⟩ := List.exists_cons_of_ne_nil (keyword_ne_nil start)
  rw [known] at split
  have tail : rest = letters ++ middle ++ behind := (List.cons.inj split).2
  have long : rest.length = (letters ++ middle).length + behind.length := by
    rw [tail, List.length_append]
  refine ⟨?_, by omega⟩
  rw [long, Nat.add_sub_cancel, tail, List.drop_left]

/-- The text behind a replaced field is masked as a text of its own. -/
theorem maskForm_field {c : C} {rest keyword behind : List C}
    (found : formFieldAt (c :: rest) = some (keyword, behind)) :
    maskForm (c :: rest) = keyword ++ fresh "=<redacted>".toList ++ maskForm behind := by
  show (match formFieldAt (c :: rest) with
    | none => c :: maskFrom 0 rest
    | some (keyword, behind) =>
        keyword ++ fresh "=<redacted>".toList ++ maskFrom (rest.length - behind.length) rest) = _
  rw [found]
  show _ ++ maskFrom (rest.length - behind.length) rest = _
  rw [maskFrom_drop, (formFieldAt_behind found).1]

/-- A text whose fields end is scanned to its end. -/
theorem scanned_of_fieldsEnd {text : List C} (ends : fieldsEnd text = true) : Scanned text := by
  induction size : text.length using Nat.strongRecOn generalizing text with
  | ind length ih =>
      cases text with
      | nil => exact .nil
      | cons c rest =>
          rw [List.length_cons] at size
          have ends : fieldsEndFrom 0 (c :: rest) = true := ends
          rw [fieldsEndFrom_cons, Bool.and_eq_true, Option.all_eq_true] at ends
          have first : FieldEnds (c :: rest) := by
            intro field start
            have left := ends.1 field start
            rwa [Bool.not_eq_true', List.isEmpty_eq_false_iff] at left
          have later := ends.2
          cases found : formFieldAt (c :: rest) with
          | none =>
              rw [found] at later
              exact .keep found first (ih rest.length (by omega) later rfl)
          | some field =>
              obtain ⟨drops, short⟩ := formFieldAt_behind found
              rw [found, Option.elim_some, fieldsEndFrom_drop, drops] at later
              exact .field found first (ih field.2.length (by omega) later rfl)

section Quotes
variable {stop : C}

omit [Annotated C] in
/-- A stop ends a run also with a text behind it. -/
theorem dropWhile_stop {holds : C → Bool} (stops : holds stop = false) (first second : List C) :
    (first ++ stop :: second).dropWhile holds = first.dropWhile holds ++ stop :: second := by
  rw [List.dropWhile_append]
  split
  · rename_i whole
    rw [List.isEmpty_iff.mp whole, List.dropWhile_cons, stops]
    rfl
  · rfl

/-- A quote is no white space. -/
theorem not_space_of_quote (quote : isQuote (char stop) = true) : isSpaceAt stop = false := by
  have code := of_decide_eq_true quote
  unfold isSpaceAt Text.isSpace
  simp [code]

/-- A quote behind a text does not change its keywords. -/
theorem behindKeyword_quote (quote : isQuote (char stop) = true) {keyword : List Char}
    (letters : ∀ wanted ∈ keyword, caseless wanted (Char.ofNat 34) = false) (first second : List C) :
    behindKeyword keyword (first ++ stop :: second) = (behindKeyword keyword first).map (· ++ stop :: second) := by
  induction keyword generalizing first with
  | nil => cases first <;> rfl
  | cons wanted keyword ih =>
      cases first with
      | nil =>
          have same : char stop = Char.ofNat 34 := by
            rw [← of_decide_eq_true quote, Char.ofNat_toNat]
          show (if caseless wanted (char stop) then _ else none) = none
          rw [same, letters wanted List.mem_cons_self]
          rfl
      | cons c rest =>
          have later := ih (fun wanted member => letters wanted (List.mem_cons_of_mem _ member)) rest
          show (if caseless wanted (char c) then _ else none) = (if caseless wanted (char c) then _ else none : Option _).map _
          split
          · exact later
          · rfl

/-- A quote behind a text does not change its equals signs. -/
theorem behindSign_quote (quote : isQuote (char stop) = true) (first second : List C) :
    behindSign (first ++ stop :: second) = (behindSign first).map (· ++ stop :: second) := by
  have stops := not_space_of_quote quote
  unfold behindSign
  rw [dropWhile_stop stops]
  cases first.dropWhile isSpaceAt with
  | nil =>
      have code := of_decide_eq_true quote
      have other : char stop ≠ '=' := by
        intro same
        rw [same] at code
        revert code
        decide
      exact if_neg other
  | cons sign value =>
      show (if char sign = '=' then some ((value ++ stop :: second).dropWhile isSpaceAt) else none) = _
      rw [dropWhile_stop stops]
      split
      · rename_i same
        show _ = (if char sign = '=' then _ else none : Option _).map _
        rw [if_pos same]
        rfl
      · rename_i other
        show _ = (if char sign = '=' then _ else none : Option _).map _
        rw [if_neg other]
        rfl

omit [Annotated C] in
theorem findSome_same {α β : Type} {first second : α → Option β} {entries : List α}
    (same : ∀ entry ∈ entries, first entry = second entry) : entries.findSome? first = entries.findSome? second := by
  induction entries with
  | nil => rfl
  | cons entry rest ih =>
      rw [List.findSome?_cons, List.findSome?_cons, same entry List.mem_cons_self,
        ih fun entry member => same entry (List.mem_cons_of_mem _ member)]

/-- A field that starts before a quote has its keyword and its equality sign before the quote. -/
theorem fieldAt_quote (quote : isQuote (char stop) = true) (first second : List C) :
    fieldAt (first ++ stop :: second) =
      (fieldAt first).map fun field => (field.1, field.2 ++ stop :: second) := by
  have none : (formKeywords.all fun keyword => keyword.all fun wanted => !caseless wanted (Char.ofNat 34)) = true := by
    decide
  have letters : ∀ keyword ∈ formKeywords, ∀ wanted ∈ keyword, caseless wanted (Char.ofNat 34) = false := by
    simpa only [List.all_eq_true, Bool.not_eq_true'] using none
  have each : ∀ keyword ∈ formKeywords, (((behindKeyword keyword (first ++ stop :: second)).bind behindSign).map
      fun value => ((first ++ stop :: second).take keyword.length, value)) =
      (((behindKeyword keyword first).bind behindSign).map fun value => (first.take keyword.length, value)).map
        fun field => (field.1, field.2 ++ stop :: second) := by
    intro keyword listed
    rw [behindKeyword_quote quote (letters keyword listed)]
    cases start : behindKeyword keyword first with
    | none => rfl
    | some behind =>
        obtain ⟨written, split, long, _⟩ := behindKeyword_split start
        show ((behindSign (behind ++ stop :: second)).map _) = ((behindSign behind).map _).map _
        rw [behindSign_quote quote, Option.map_map, Option.map_map]
        have short : keyword.length ≤ first.length := by
          rw [split, List.length_append, long]
          omega
        rw [List.take_append_of_le_length short]
        rfl
  unfold fieldAt
  rw [List.map_findSome?]
  exact findSome_same each

/-- A field that ends before a quote is replaced as if the text ended there. -/
theorem formFieldAt_quote (quote : isQuote (char stop) = true) {first : List C} (ends : FieldEnds first)
    (second : List C) :
    formFieldAt (first ++ stop :: second) =
      (formFieldAt first).map fun field => (field.1, field.2 ++ stop :: second) := by
  unfold formFieldAt
  rw [fieldAt_quote quote]
  cases start : fieldAt first with
  | none => rfl
  | some field =>
      have left : field.2.dropWhile isValueAt ≠ [] := ends field start
      have value : (field.2 ++ stop :: second).dropWhile isValueAt =
          field.2.dropWhile isValueAt ++ stop :: second := by
        rw [List.dropWhile_append, List.isEmpty_eq_false_iff.mpr left]
        rfl
      have span : (field.2 ++ stop :: second).takeWhile isValueAt = field.2.takeWhile isValueAt := by
        rw [List.takeWhile_append, if_neg]
        intro whole
        have parts := congrArg List.length (List.takeWhile_append_dropWhile (p := isValueAt) (l := field.2))
        rw [List.length_append, whole] at parts
        exact left (List.length_eq_zero_iff.mp (by omega))
      show (if ((field.2 ++ stop :: second).takeWhile isValueAt).isEmpty then none
        else some (field.1, (field.2 ++ stop :: second).dropWhile isValueAt)) = Option.map _ (if _ then none else some _)
      rw [span, value]
      split
      · rfl
      · rfl

/-- What is masked before a quote does not depend on what stands behind it. -/
theorem Scanned.quote (quote : isQuote (char stop) = true) {first : List C} (scanned : Scanned first)
    (second : List C) : maskForm (first ++ stop :: second) = maskForm first ++ maskForm (stop :: second) := by
  induction scanned with
  | nil => rfl
  | @keep c rest free ends _ ih =>
      have free' : formFieldAt (c :: (rest ++ stop :: second)) = none := by
        rw [← List.cons_append, formFieldAt_quote quote ends, free]
        rfl
      rw [List.cons_append, maskForm_keep free', maskForm_keep free, ih]
      rfl
  | @field c rest keyword behind found ends _ ih =>
      have found' : formFieldAt (c :: (rest ++ stop :: second)) = some (keyword, behind ++ stop :: second) := by
        rw [← List.cons_append, formFieldAt_quote quote ends, found]
        rfl
      rw [List.cons_append, maskForm_field found', maskForm_field found, ih, List.append_assoc, List.append_assoc,
        List.append_assoc]

end Quotes

section Words

/-- No field begins with a character that starts none. -/
theorem fieldAt_free {c : C} (other : startsField (char c) = false) (rest : List C) : fieldAt (c :: rest) = none := by
  have starts : ∀ keyword ∈ formKeywords, keyword.head? = some 'p' ∨ keyword.head? = some 'k' := by decide
  unfold startsField at other
  rw [Bool.or_eq_false_iff] at other
  apply List.findSome?_eq_none_iff.mpr
  intro keyword listed
  have absent : behindKeyword keyword (c :: rest) = none := by
    cases keyword with
    | nil => rcases starts [] listed with none | none <;> cases none
    | cons wanted keyword =>
        show (if caseless wanted (char c) then _ else none) = none
        rcases starts _ listed with first | first
        · rw [Option.some.inj first, other.1]
          rfl
        · rw [Option.some.inj first, other.2]
          rfl
  rw [absent]
  rfl

/-- No field of a form begins with a character that starts none. -/
theorem formFieldAt_free {c : C} (other : startsField (char c) = false) (rest : List C) :
    formFieldAt (c :: rest) = none := by
  unfold formFieldAt
  rw [fieldAt_free other]
  rfl

/-- Characters that start no field are kept in front. -/
theorem maskForm_free {first : List C} (other : ∀ c ∈ first, startsField (char c) = false) (second : List C) :
    maskForm (first ++ second) = first ++ maskForm second := by
  induction first with
  | nil => rfl
  | cons c rest ih =>
      rw [List.cons_append, maskForm_keep (formFieldAt_free (other c List.mem_cons_self) _),
        ih fun c member => other c (List.mem_cons_of_mem _ member)]
      rfl

end Words

end P3Portal.Audit
