import Mathlib.Algebra.GroupWithZero.Nat
import P3Portal.Foundation.PythonValue

namespace P3Portal.Foundation

namespace Number

theorem digit_bounds {c : Char} (digit : c.isDigit = true) : 48 ≤ c.toNat ∧ c.toNat ≤ 57 := by
  have both : c.val ≥ '0'.val ∧ c.val ≤ '9'.val := by
    simpa only [Char.isDigit, Bool.and_eq_true, decide_eq_true_eq] using digit
  exact both

theorem digitValue_of_digit {c : Char} (digit : c.isDigit = true) : digitValue c = some (c.toNat - 48) := by
  obtain ⟨low, high⟩ := digit_bounds digit
  have first : decimalZeros = 48 :: decimalZeros.tail := rfl
  have found : (48 :: decimalZeros.tail).find?
      (fun start => decide (start ≤ c.toNat) && decide (c.toNat < start + 10)) = some 48 := by
    apply List.find?_cons_of_pos
    rw [Bool.and_eq_true, decide_eq_true_eq, decide_eq_true_eq]
    omega
  unfold digitValue
  rw [first, found]
  rfl

theorem digit_plain {c : Char} (digit : c.isDigit = true) : isSpace c = false ∧ c ≠ '_' ∧ c ≠ '-' ∧ c ≠ '+' := by
  have bounds := digit_bounds digit
  refine ⟨?_, ?_, ?_, ?_⟩
  · simp only [isSpace, Bool.or_eq_false_iff, Bool.and_eq_false_iff, decide_eq_false_iff_not]
    omega
  all_goals
    rintro rfl
    revert bounds
    decide

theorem digits_of_numeral {characters : List Char} (some_digit : characters ≠ [])
    (plain : ∀ c ∈ characters, c.isDigit = true) :
    digits characters = some (characters.map fun c => c.toNat - 48) := by
  induction characters with
  | nil => exact absurd rfl some_digit
  | cons c rest ih =>
      have here := digitValue_of_digit (plain c List.mem_cons_self)
      have others : ∀ c ∈ rest, c.isDigit = true := fun c member => plain c (List.mem_cons_of_mem _ member)
      cases rest with
      | nil =>
          rw [digits, here]
          rfl
      | cons next rest =>
          have other := (digit_plain (others next List.mem_cons_self)).2.1
          have separate : digits (c :: next :: rest) =
              (digitValue c).bind fun digit => (digits (next :: rest)).map (digit :: ·) := by
            rw [digits]
            · intro impossible
              cases impossible
            · intro later same
              exact other (List.cons.inj same).1
          rw [separate, here, ih (List.cons_ne_nil _ _) others]
          rfl

/-- A numeral up to the conversion limit is read as the number that it denotes. -/
theorem natural_of_digits {characters : List Char} (some_digit : characters ≠ [])
    (plain : ∀ c ∈ characters, c.isDigit = true) :
    natural characters = if characters.length ≤ 4300 then some (Nat.ofDigitChars 10 characters 0) else none := by
  unfold natural
  rw [digits_of_numeral some_digit plain, Option.filter_some, List.length_map, Nat.ofDigitChars_eq_foldl]
  split
  · rename_i short
    rw [if_pos (of_decide_eq_true short), Option.map_some, List.foldl_map]
    rfl
  · rename_i long
    rw [if_neg fun short => long (decide_eq_true short)]
    rfl

end Number

section Trim
variable {A : Type} {blank : A → Bool} {text : List A}

/-- Trimming leaves a text alone that starts and ends with something else. -/
theorem trim_bare (first : ∀ c ∈ text.head?, blank c = false) (last : ∀ c ∈ text.getLast?, blank c = false) :
    (text.dropWhile blank).rdropWhile blank = text := by
  have start : text.dropWhile blank = text := by
    cases text with
    | nil => rfl
    | cons c rest => exact List.dropWhile_cons_of_neg (Bool.eq_false_iff.mp (first c rfl))
  rw [start, List.rdropWhile_eq_self_iff]
  intro present
  exact Bool.eq_false_iff.mp (last _ (List.getLast?_eq_some_getLast present))

/-- Trimming takes the padding away. -/
theorem trim_padded {before behind : List A} (padBefore : ∀ c ∈ before, blank c = true)
    (padBehind : ∀ c ∈ behind, blank c = true) (present : text ≠ []) (first : ∀ c ∈ text.head?, blank c = false)
    (last : ∀ c ∈ text.getLast?, blank c = false) :
    ((before ++ text ++ behind).dropWhile blank).rdropWhile blank = text := by
  have start : (text ++ behind).dropWhile blank = text ++ behind := by
    obtain ⟨c, rest, rfl⟩ := List.exists_cons_of_ne_nil present
    exact List.dropWhile_cons_of_neg (Bool.eq_false_iff.mp (first c rfl))
  rw [List.append_assoc, List.dropWhile_append_of_pos padBefore, start, List.rdropWhile, List.reverse_append,
    List.dropWhile_append_of_pos fun c member => padBehind c (List.mem_reverse.mp member), ← List.rdropWhile,
    List.rdropWhile_eq_self_iff]
  intro some_char
  exact Bool.eq_false_iff.mp (last _ (List.getLast?_eq_some_getLast some_char))

/-- What was trimmed away is padding. -/
theorem trim_split (blank : A → Bool) (text : List A) : ∃ before behind,
    text = before ++ (text.dropWhile blank).rdropWhile blank ++ behind ∧ (∀ c ∈ before, blank c = true) ∧
      ∀ c ∈ behind, blank c = true := by
  refine ⟨text.takeWhile blank, (text.dropWhile blank).rtakeWhile blank, ?_, ?_, ?_⟩
  · rw [List.append_assoc, List.rdropWhile_append_rtakeWhile, List.takeWhile_append_dropWhile]
  · intro c member
    exact List.mem_takeWhile_imp member
  · intro c member
    exact List.mem_rtakeWhile_imp member

/-- Trimming a second time changes nothing. -/
theorem trim_trim (blank : A → Bool) (text : List A) :
    (((text.dropWhile blank).rdropWhile blank).dropWhile blank).rdropWhile blank =
      (text.dropWhile blank).rdropWhile blank := by
  apply trim_bare
  · intro c found
    obtain ⟨behind, whole⟩ := List.rdropWhile_prefix blank (text.dropWhile blank)
    have start : (text.dropWhile blank).head? = some c := by
      rw [← whole, List.head?_append, Option.mem_def.mp found]
      rfl
    have first := List.head?_dropWhile_not blank text
    rw [start] at first
    exact first
  · intro c found
    have present : (text.dropWhile blank).rdropWhile blank ≠ [] := by
      intro empty
      rw [empty] at found
      cases found
    have last := List.rdropWhile_last_not blank _ present
    rw [List.getLast?_eq_some_getLast present] at found
    rw [Option.some.inj found] at last
    exact Bool.eq_false_iff.mpr last

end Trim

namespace Text

/-- Code points of ASCII behind the blank are no white space. -/
theorem visible_not_space {c : Char} (low : 33 ≤ c.toNat) (high : c.toNat ≤ 122) : isSpace c = false := by
  simp only [isSpace, List.mem_cons, List.not_mem_nil, or_false, Bool.or_eq_false_iff, Bool.and_eq_false_iff,
    decide_eq_false_iff_not]
  omega

theorem digit_not_space {c : Char} (digit : c.isDigit = true) : isSpace c = false := by
  have bounds := Number.digit_bounds digit
  exact visible_not_space (by omega) (by omega)

theorem alphanum_bounds {c : Char} (word : c.isAlphanum = true) : 48 ≤ c.toNat ∧ c.toNat ≤ 122 := by
  rcases (Bool.or_eq_true _ _).mp word with alpha | digit
  · rcases (Bool.or_eq_true _ _).mp alpha with upper | lower
    · have both : c.val ≥ 'A'.val ∧ c.val ≤ 'Z'.val := of_decide_eq_true upper
      have low : 65 ≤ c.toNat := both.1
      have high : c.toNat ≤ 90 := both.2
      omega
    · obtain ⟨first, last⟩ := (Bool.and_eq_true _ _).mp lower
      have low : 97 ≤ c.toNat := of_decide_eq_true first
      have high : c.toNat ≤ 122 := of_decide_eq_true last
      omega
  · have bounds := Number.digit_bounds digit
    omega

theorem toList_strip (text : String) :
    (strip text).toList = (text.toList.dropWhile isSpace).rdropWhile isSpace := String.toList_ofList

/-- A stripped text starts and ends with something else than white space. -/
theorem strip_edges (text : String) : (∀ c ∈ (strip text).toList.head?, isSpace c = false) ∧
    ∀ c ∈ (strip text).toList.getLast?, isSpace c = false := by
  rw [toList_strip]
  constructor
  · intro c found
    obtain ⟨behind, whole⟩ := List.rdropWhile_prefix isSpace (text.toList.dropWhile isSpace)
    have start : (text.toList.dropWhile isSpace).head? = some c := by
      rw [← whole, List.head?_append, Option.mem_def.mp found]
      rfl
    have first := List.head?_dropWhile_not isSpace text.toList
    rw [start] at first
    exact first
  · intro c found
    have present : (text.toList.dropWhile isSpace).rdropWhile isSpace ≠ [] := by
      intro empty
      rw [empty] at found
      cases found
    have last := List.rdropWhile_last_not isSpace _ present
    rw [List.getLast?_eq_some_getLast present] at found
    rw [Option.some.inj found] at last
    exact Bool.eq_false_iff.mpr last

theorem contains_self (text : String) : contains text text = true := by
  unfold contains
  cases text.toList with
  | nil => rfl
  | cons first rest =>
      rw [behind, if_pos (List.isPrefixOf_iff_prefix.mpr List.prefix_rfl)]
      rfl

theorem mem_of_mem_strip {text : String} {c : Char} (member : c ∈ (strip text).toList) : c ∈ text.toList := by
  rw [toList_strip] at member
  exact (List.dropWhile_sublist _).subset ((List.rdropWhile_prefix _ _).sublist.subset member)

/-- What is not white space is kept. -/
theorem mem_strip_cases {text : String} {c : Char} (member : c ∈ text.toList) :
    isSpace c = true ∨ c ∈ (strip text).toList := by
  obtain ⟨before, behind, split, padBefore, padBehind⟩ := trim_split isSpace text.toList
  rw [split] at member
  rw [toList_strip]
  rcases List.mem_append.mp member with early | late
  · rcases List.mem_append.mp early with pad | kept
    · exact .inl (padBefore c pad)
    · exact .inr kept
  · exact .inl (padBehind c late)

theorem strip_strip (text : String) : strip (strip text) = strip text := by
  obtain ⟨first, last⟩ := strip_edges text
  rw [strip, trim_bare first last, String.ofList_toList]

/-- A joined list of words is only empty when it has no word. -/
theorem intercalate_ne_empty (separator : String) {words : List String} (some_word : words ≠ [])
    (written : ∀ word ∈ words, word ≠ "") : separator.intercalate words ≠ "" := by
  cases words with
  | nil => exact absurd rfl some_word
  | cons word rest =>
      have first := written word List.mem_cons_self
      cases rest with
      | nil => rwa [String.intercalate_singleton]
      | cons next others => simp [first]

/-- Parts without a comma are read back from the joined list. -/
theorem splitCommas_intercalate {parts : List String} (present : parts ≠ []) (free : ∀ part ∈ parts, ',' ∉ part.toList) :
    splitCommas (",".intercalate parts) = parts := by
  unfold splitCommas
  have separate : ∀ part ∈ parts.map String.toList, ',' ∉ part := by
    intro part member
    obtain ⟨text, listed, rfl⟩ := List.mem_map.mp member
    exact free text listed
  have some_part : parts.map String.toList ≠ [] := mt List.map_eq_nil_iff.mp present
  rw [String.toList_intercalate]
  show (([','].intercalate (parts.map String.toList)).splitOn ',').map String.ofList = parts
  rw [List.splitOn_intercalate ',' separate some_part, List.map_map]
  have same : String.ofList ∘ String.toList = id := funext fun text => String.ofList_toList
  rw [same, List.map_id]

end Text

namespace Number

/-- `int` of a numeral with white space around it. -/
theorem intOfText_padded {before characters behind : List Char} (padBefore : ∀ c ∈ before, isSpace c = true)
    (padBehind : ∀ c ∈ behind, isSpace c = true) (some_digit : characters ≠ [])
    (plain : ∀ c ∈ characters, c.isDigit = true) :
    intOfText (String.ofList (before ++ characters ++ behind)) =
      if characters.length ≤ 4300 then some (Nat.ofDigitChars 10 characters 0 : Int) else none := by
  have first : ∀ c ∈ characters.head?, isSpace c = false :=
    fun c found => (digit_plain (plain c (List.mem_of_mem_head? found))).1
  have last : ∀ c ∈ characters.getLast?, isSpace c = false :=
    fun c found => (digit_plain (plain c (List.mem_of_mem_getLast? found))).1
  unfold intOfText
  rw [String.toList_ofList, trim_padded padBefore padBehind some_digit first last]
  split
  · rename_i rest
    exact absurd rfl (digit_plain (plain '-' List.mem_cons_self)).2.2.1
  · rename_i rest
    exact absurd rfl (digit_plain (plain '+' List.mem_cons_self)).2.2.2
  · rw [natural_of_digits some_digit plain]
    split <;> rfl

/-- `int` reads a written number back that is not too long. -/
theorem intOfText_toString (number : Nat) :
    intOfText (toString number) = if number < 10 ^ 4300 then some (number : Int) else none := by
  have digits : ∀ c ∈ Nat.toDigits 10 number, c.isDigit = true :=
    fun c member => Nat.isDigit_of_mem_toDigits (by decide) (by decide) member
  have read := intOfText_padded (fun c member => absurd member List.not_mem_nil)
    (fun c member => absurd member List.not_mem_nil) Nat.toDigits_ne_nil digits
  rw [List.nil_append, List.append_nil, Nat.ofDigitChars_ten_toDigits] at read
  refine Eq.trans read ?_
  simp only [Nat.length_toDigits_le_iff (by decide : 1 < 10) (by decide : 0 < 4300)]

end Number
end P3Portal.Foundation
