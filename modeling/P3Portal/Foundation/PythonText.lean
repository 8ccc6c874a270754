import Mathlib.Data.List.DropRight
import Mathlib.Tactic.Common

namespace P3Portal.Foundation.Text

/-- The suffix of one repeated character is removed, as `str.rstrip` with one character does. -/
def rstrip (character : Char) (text : String) : String :=
  String.ofList (text.toList.rdropWhile (· == character))

/-- `str.rstrip` without an argument removes the white space of ASCII. -/
def rstripSpace (text : String) : String := String.ofList (text.toList.rdropWhile Char.isWhitespace)

/-- An absent or empty text is false in a condition, so the other operand of `or` is taken. -/
def orElse (text : Option String) (fallback : String) : String :=
  match text with
  | some value => if value = "" then fallback else value
  | none => fallback

/-- A condition on an optional text accepts it only when it is present and not empty. -/
def truthy (text : Option String) : Option String := text.filter (· ≠ "")

@[simp] theorem truthy_eq_some (text : Option String) (value : String) :
    truthy text = some value ↔ text = some value ∧ value ≠ "" := by
  cases text <;> simp [truthy, Option.filter_eq_some_iff]

/-- `str.startswith`. -/
def startsWith (start text : String) : Bool := start.toList.isPrefixOf text.toList

theorem startsWith_iff (start text : String) : startsWith start text ↔ ∃ rest, text.toList = start.toList ++ rest := by
  rw [startsWith, List.isPrefixOf_iff_prefix]
  constructor
  · intro ⟨rest, same⟩
    exact ⟨rest, same.symm⟩
  · intro ⟨rest, same⟩
    exact ⟨rest, same.symm⟩

/-- `str.lower` for the letters of ASCII. -/
def lower (text : String) : String := String.ofList (text.toList.map Char.toLower)

/-- `str.partition` splits at the first separator; without one the second part is empty. -/
def partition (separator : Char) (text : String) : String × String :=
  (String.ofList (text.toList.takeWhile (· ≠ separator)),
    String.ofList ((text.toList.dropWhile (· ≠ separator)).drop 1))

theorem partition_of_split {separator : Char} {text : String} {before after : List Char}
    (absent : separator ∉ before) (split : text.toList = before ++ separator :: after) :
    partition separator text = (String.ofList before, String.ofList after) := by
  have passes : ∀ character ∈ before, decide (character ≠ separator) = true := by
    intro character member
    have differs : character ≠ separator := by
      intro same
      exact absent (same ▸ member)
    exact decide_eq_true differs
  unfold partition
  rw [split, List.takeWhile_append_of_pos passes, List.dropWhile_append_of_pos passes]
  simp

/-- A second part that is not empty stands behind the separator. -/
theorem split_of_partition {separator : Char} {text : String} (found : (partition separator text).2 ≠ "") :
    text.toList = (partition separator text).1.toList ++ separator :: (partition separator text).2.toList := by
  have whole := List.takeWhile_append_dropWhile (p := (· ≠ separator)) (l := text.toList)
  unfold partition at found ⊢
  cases tail : text.toList.dropWhile (· ≠ separator) with
  | nil =>
      rw [tail] at found
      exact absurd rfl found
  | cons first rest =>
      have occurs : text.toList.dropWhile (· ≠ separator) ≠ [] := by
        rw [tail]
        exact List.cons_ne_nil first rest
      have stops := List.head_dropWhile_not (· ≠ separator) occurs
      simp only [tail, List.head_cons, decide_eq_false_iff_not, not_not] at stops
      rw [tail, stops] at whole
      rw [String.toList_ofList, String.toList_ofList]
      exact whole.symm

/-- `str.rsplit` with one cut splits at the last separator, and without one there is nothing to unpack. -/
def rsplit (separator : Char) (text : String) : Option (String × String) :=
  match text.toList.reverse.dropWhile (· ≠ separator) with
  | [] => none
  | _ :: before => some (String.ofList before.reverse,
      String.ofList (text.toList.reverse.takeWhile (· ≠ separator)).reverse)

/-- `str.endswith`. -/
def endsWith (ending text : String) : Bool := ending.toList.isSuffixOf text.toList

/-- What stands behind the first occurrence of a marker. -/
def behind (marker : List Char) : List Char → Option (List Char)
  | [] => if marker = [] then some [] else none
  | first :: rest =>
      if marker.isPrefixOf (first :: rest) then some ((first :: rest).drop marker.length) else behind marker rest

/-- `str.split` with one cut at a longer separator gives this as its second part. -/
def splitBehind (separator text : String) : Option String := (behind separator.toList text.toList).map String.ofList

/-- `in` looks for a text in another one. -/
def contains (part text : String) : Bool := (behind part.toList text.toList).isSome

/-- The text from a position on. -/
def sliceFrom (start : Nat) (text : String) : String := String.ofList (text.toList.drop start)

/-- `str.isspace` of one character. -/
def isSpace (character : Char) : Bool :=
  let code := character.toNat
  9 ≤ code && code ≤ 13 || 28 ≤ code && code ≤ 32 || 0x2000 ≤ code && code ≤ 0x200a ||
    code ∈ [0x85, 0xa0, 0x1680, 0x2028, 0x2029, 0x202f, 0x205f, 0x3000]

/-- `str.splitlines` ends a line at these characters. -/
def isLineBreak (character : Char) : Bool :=
  let code := character.toNat
  10 ≤ code && code ≤ 13 || 28 ≤ code && code ≤ 30 || code ∈ [0x85, 0x2028, 0x2029]

/-- The current line is kept reversed; a carriage return and the newline behind it end one line. -/
def splitlinesFrom (current : List Char) : List Char → List String
  | [] => if current = [] then [] else [String.ofList current.reverse]
  | '\r' :: '\n' :: rest => String.ofList current.reverse :: splitlinesFrom [] rest
  | character :: rest =>
      if isLineBreak character then String.ofList current.reverse :: splitlinesFrom [] rest
      else splitlinesFrom (character :: current) rest

/-- `str.splitlines`. -/
def splitlines (text : String) : List String := splitlinesFrom [] text.toList

/-- `str.strip`. -/
def strip (text : String) : String := String.ofList ((text.toList.dropWhile isSpace).rdropWhile isSpace)

/-- A stripped text is empty exactly when the text has white space only. -/
theorem strip_eq_empty (text : String) : strip text = "" ↔ ∀ character ∈ text.toList, isSpace character = true := by
  unfold strip
  rw [← String.toList_inj, String.toList_ofList, String.toList_empty]
  constructor
  · intro blank character member
    have dropped : text.toList.dropWhile isSpace = [] := by
      by_contra occurs
      have space := List.rdropWhile_eq_nil_iff.mp blank _ (List.head_mem occurs)
      rw [List.head_dropWhile_not isSpace occurs] at space
      cases space
    exact List.dropWhile_eq_nil_iff.mp dropped character member
  · intro blank
    rw [List.dropWhile_eq_nil_iff.mpr blank]
    rfl

/-- What is left of a stripped text is not blank. -/
theorem strip_strip_ne_empty {text : String} (present : strip text ≠ "") : strip (strip text) ≠ "" := by
  intro blank
  have spaces := (strip_eq_empty _).mp blank
  unfold strip at spaces present
  rw [String.toList_ofList] at spaces
  have occurs : (text.toList.dropWhile isSpace).rdropWhile isSpace ≠ [] := by
    intro empty
    rw [empty] at present
    exact present rfl
  exact List.rdropWhile_last_not isSpace _ occurs (spaces _ (List.getLast_mem occurs))

/-- `str.replace` of each backslash by a slash. -/
def slashes (text : String) : String :=
  String.ofList (text.toList.map fun character => if character = Char.ofNat 92 then '/' else character)

end P3Portal.Foundation.Text
