import Mathlib.Data.List.Infix
import P3Portal.Foundation.PythonText

namespace P3Portal.Foundation.Text

/-- The text before the first occurrence of a separator and the text behind it. -/
def cut (separator : List Char) : List Char → Option (List Char × List Char)
  | [] => none
  | c :: rest =>
      if separator.isPrefixOf (c :: rest) then some ([], (c :: rest).drop separator.length)
      else (cut separator rest).map fun parts => (c :: parts.1, parts.2)

def splitFuel (separator : List Char) : Nat → List Char → List (List Char)
  | 0, text => [text]
  | fuel + 1, text =>
      match cut separator text with
      | none => [text]
      | some (part, rest) => part :: splitFuel separator fuel rest

/-- `str.split` with a separator that is not empty. -/
def split (separator text : List Char) : List (List Char) := splitFuel separator text.length text

/-- `str.join`. -/
def join (separator : List Char) : List (List Char) → List Char
  | [] => []
  | [part] => part
  | part :: rest => part ++ separator ++ join separator rest

/-- The first separator behind a part is the one that follows it. -/
def Clear (separator part : List Char) : Prop := ¬ separator <:+: part ++ separator.dropLast

instance (separator part : List Char) : Decidable (Clear separator part) :=
  inferInstanceAs (Decidable (¬ separator <:+: part ++ separator.dropLast))

section Cutting
variable {separator : List Char} (present : separator ≠ [])
include present

theorem clear_nil : Clear separator [] := by
  intro inside
  have short := inside.length_le
  have positive := List.length_pos_of_ne_nil present
  rw [List.nil_append, List.length_dropLast] at short
  omega

omit present in
/-- A separator cannot start in a clear part. -/
theorem not_prefix_of_clear {c : Char} {part : List Char} (clear : Clear separator (c :: part)) (rest : List Char) :
    ¬ separator <+: c :: (part ++ separator ++ rest) := by
  intro start
  have whole : separator <+: (c :: part ++ separator.dropLast) ++ (separator.drop (separator.length - 1) ++ rest) := by
    have joined : separator.dropLast ++ separator.drop (separator.length - 1) = separator := by
      rw [List.dropLast_eq_take, List.take_append_drop]
    rw [List.append_assoc, ← List.append_assoc separator.dropLast, joined, ← List.append_assoc]
    exact start
  have short : separator.length ≤ (c :: part ++ separator.dropLast).length := by
    rw [List.length_append, List.length_cons, List.length_dropLast]
    omega
  exact clear (List.prefix_of_prefix_length_le whole (List.prefix_append _ _) short).isInfix

theorem cut_of_clear {part : List Char} (clear : Clear separator part) (rest : List Char) :
    cut separator (part ++ separator ++ rest) = some (part, rest) := by
  induction part with
  | nil =>
      obtain ⟨c, others, known⟩ := List.exists_cons_of_ne_nil present
      have starts : separator.isPrefixOf (separator ++ rest) = true :=
        List.isPrefixOf_iff_prefix.mpr (List.prefix_append _ _)
      have dropped : (separator ++ rest).drop separator.length = rest := List.drop_left
      rw [List.nil_append]
      rw [known] at starts dropped ⊢
      rw [List.cons_append] at starts dropped ⊢
      rw [cut, if_pos starts, dropped]
  | cons c part ih =>
      have later : Clear separator part := by
        intro inside
        exact clear (List.infix_cons inside)
      have other : ¬ separator.isPrefixOf (c :: (part ++ separator ++ rest)) = true := by
        rw [List.isPrefixOf_iff_prefix]
        exact not_prefix_of_clear clear rest
      rw [List.cons_append, List.cons_append, cut, if_neg other, ih later]
      rfl

omit present in
theorem split_of_cut {text part rest : List Char} (found : cut separator text = some (part, rest)) :
    text = part ++ separator ++ rest := by
  induction text generalizing part with
  | nil => cases found
  | cons c text ih =>
      rw [cut] at found
      split at found
      · rename_i start
        obtain ⟨empty, behind⟩ := Prod.mk.inj (Option.some.inj found)
        obtain ⟨others, known⟩ := List.isPrefixOf_iff_prefix.mp start
        rw [← empty, ← behind, ← known, List.drop_left]
        rfl
      · obtain ⟨parts, later, same⟩ := Option.map_eq_some_iff.mp found
        obtain ⟨first, behind⟩ := Prod.mk.inj same
        have later : cut separator text = some (parts.1, rest) := by
          rw [← behind]
          exact later
        rw [← first, ih later]
        rfl

theorem clear_of_cut {text part rest : List Char} (found : cut separator text = some (part, rest)) :
    Clear separator part := by
  induction text generalizing part with
  | nil => cases found
  | cons c text ih =>
      rw [cut] at found
      split at found
      · rw [← (Prod.mk.inj (Option.some.inj found)).1]
        exact clear_nil present
      · rename_i other
        obtain ⟨parts, later, same⟩ := Option.map_eq_some_iff.mp found
        obtain ⟨first, behind⟩ := Prod.mk.inj same
        have later : cut separator text = some (parts.1, rest) := by
          rw [← behind]
          exact later
        rw [← first]
        intro inside
        rcases List.infix_cons_iff.mp inside with start | behind
        · apply other
          rw [List.isPrefixOf_iff_prefix, split_of_cut later]
          have longer : c :: (parts.1 ++ separator.dropLast) <+: c :: (parts.1 ++ separator ++ rest) := by
            rw [List.cons_prefix_cons, List.append_assoc, List.prefix_append_right_inj]
            exact ⟨rfl, (List.dropLast_prefix separator).trans (List.prefix_append _ _)⟩
          exact start.trans longer
        · exact ih later behind

theorem cut_eq_none {text : List Char} : cut separator text = none ↔ ¬ separator <:+: text := by
  induction text with
  | nil => simp [cut, present]
  | cons c text ih =>
      rw [cut, List.infix_cons_iff, ← List.isPrefixOf_iff_prefix]
      split
      · rename_i start
        simp [start]
      · rename_i other
        rw [Option.map_eq_none_iff, ih]
        simp [other]

end Cutting

section Splitting
variable {separator : List Char} (present : separator ≠ [])
include present

theorem splitFuel_enough {fuel more : Nat} {text : List Char} (enough : text.length ≤ fuel) (longer : fuel ≤ more) :
    splitFuel separator more text = splitFuel separator fuel text := by
  induction fuel generalizing more text with
  | zero =>
      have empty := List.length_eq_zero_iff.mp (Nat.le_zero.mp enough)
      rw [empty]
      cases more <;> rfl
  | succ fuel ih =>
      obtain ⟨more, rfl⟩ := Nat.exists_eq_add_of_le longer
      rw [show fuel + 1 + more = fuel + more + 1 by omega, splitFuel, splitFuel]
      cases found : cut separator text with
      | none => rfl
      | some parts =>
          have positive := List.length_pos_of_ne_nil present
          have sizes := congrArg List.length (split_of_cut found)
          rw [List.length_append, List.length_append] at sizes
          show parts.1 :: splitFuel separator (fuel + more) parts.2 = parts.1 :: splitFuel separator fuel parts.2
          rw [ih (by omega) (Nat.le_add_right fuel more)]

theorem split_of_clear {part : List Char} (clear : Clear separator part) (rest : List Char) :
    split separator (part ++ separator ++ rest) = part :: split separator rest := by
  have positive := List.length_pos_of_ne_nil present
  have sizes : (part ++ separator ++ rest).length = part.length + separator.length + rest.length := by
    rw [List.length_append, List.length_append]
  obtain ⟨fuel, known⟩ := Nat.exists_eq_succ_of_ne_zero (show (part ++ separator ++ rest).length ≠ 0 by omega)
  unfold split
  rw [known, splitFuel, cut_of_clear present clear]
  show part :: splitFuel separator fuel rest = part :: splitFuel separator rest.length rest
  rw [splitFuel_enough present (Nat.le_refl rest.length) (show rest.length ≤ fuel by omega)]

theorem split_of_absent {text : List Char} (absent : ¬ separator <:+: text) : split separator text = [text] := by
  unfold split
  cases text.length with
  | zero => rfl
  | succ fuel => rw [splitFuel, (cut_eq_none present).mpr absent]

/-- A text has no separator, or it is cut at the first one. -/
theorem split_cases (text : List Char) :
    (¬ separator <:+: text ∧ split separator text = [text]) ∨
      ∃ part rest, Clear separator part ∧ text = part ++ separator ++ rest ∧
        split separator text = part :: split separator rest := by
  cases found : cut separator text with
  | none =>
      have absent := (cut_eq_none present).mp found
      exact .inl ⟨absent, split_of_absent present absent⟩
  | some parts =>
      have clear := clear_of_cut present found
      have whole := split_of_cut found
      refine .inr ⟨parts.1, parts.2, clear, whole, ?_⟩
      rw [whole]
      exact split_of_clear present clear parts.2

theorem split_ne_nil (text : List Char) : split separator text ≠ [] := by
  rcases split_cases present text with ⟨_, same⟩ | ⟨part, rest, _, _, same⟩
  · rw [same]
    exact List.cons_ne_nil _ _
  · rw [same]
    exact List.cons_ne_nil _ _

omit present in
theorem join_cons (part : List Char) {rest : List (List Char)} (more : rest ≠ []) :
    join separator (part :: rest) = part ++ separator ++ join separator rest := by
  cases rest with
  | nil => exact absurd rfl more
  | cons next rest => rfl

/-- What was split is joined again. -/
theorem join_split (text : List Char) : join separator (split separator text) = text := by
  induction size : text.length using Nat.strongRecOn generalizing text with
  | ind length ih =>
      rcases split_cases present text with ⟨_, same⟩ | ⟨part, rest, _, whole, same⟩
      · rw [same]
        rfl
      · have positive := List.length_pos_of_ne_nil present
        have sizes := congrArg List.length whole
        rw [List.length_append, List.length_append] at sizes
        rw [same, join_cons part (split_ne_nil present rest), ih rest.length (by omega) rest rfl]
        exact whole.symm

/-- Each part but the last is clear. -/
theorem clear_of_split {text part : List Char} (member : part ∈ (split separator text).dropLast) :
    Clear separator part := by
  induction size : text.length using Nat.strongRecOn generalizing text with
  | ind length ih =>
      rcases split_cases present text with ⟨_, same⟩ | ⟨first, rest, clear, whole, same⟩
      · rw [same] at member
        cases member
      · have positive := List.length_pos_of_ne_nil present
        have sizes := congrArg List.length whole
        rw [List.length_append, List.length_append] at sizes
        rw [same, List.dropLast_cons_of_ne_nil (split_ne_nil present rest)] at member
        rcases List.mem_cons.mp member with here | behind
        · rw [here]
          exact clear
        · exact ih rest.length (by omega) behind rfl

/-- Parts that are clear, but for the last one, are split as they were joined. -/
theorem split_join {parts : List (List Char)} (some_part : parts ≠ []) (clear : ∀ part ∈ parts.dropLast, Clear separator part)
    (last : ¬ separator <:+: parts.getLast some_part) : split separator (join separator parts) = parts := by
  induction parts with
  | nil => exact absurd rfl some_part
  | cons part rest ih =>
      cases rest with
      | nil => exact split_of_absent present last
      | cons next rest =>
          have more : next :: rest ≠ [] := List.cons_ne_nil _ _
          rw [List.dropLast_cons_of_ne_nil more] at clear
          rw [List.getLast_cons more] at last
          rw [join_cons part more, split_of_clear present (clear part List.mem_cons_self),
            ih more (fun part member => clear part (List.mem_cons_of_mem _ member)) last]

/-- Clear parts at the front are split off as they were joined. -/
theorem split_front {front rest : List (List Char)} (clear : ∀ part ∈ front, Clear separator part) (more : rest ≠ []) :
    split separator (join separator (front ++ rest)) = front ++ split separator (join separator rest) := by
  induction front with
  | nil => rfl
  | cons part front ih =>
      have goes_on : front ++ rest ≠ [] := List.append_ne_nil_of_right_ne_nil _ more
      rw [List.cons_append, join_cons part goes_on, split_of_clear present (clear part List.mem_cons_self),
        ih fun part member => clear part (List.mem_cons_of_mem _ member)]
      rfl

/-- The first part of a text that starts with a part and a separator does not reach over the part. -/
theorem split_first (part rest : List Char) :
    ∃ first others, split separator (part ++ separator ++ rest) = first :: others ∧ others ≠ [] ∧ first <+: part := by
  rcases split_cases present (part ++ separator ++ rest) with ⟨absent, _⟩ | ⟨first, behind, clear, whole, same⟩
  · exact absurd ⟨part, rest, rfl⟩ absent
  · have starts : first <+: part ++ separator ++ rest := by
      rw [whole, List.append_assoc]
      exact List.prefix_append _ _
    have goes_on : part <+: part ++ separator ++ rest := by
      rw [List.append_assoc]
      exact List.prefix_append _ _
    refine ⟨first, split separator behind, same, split_ne_nil present behind, ?_⟩
    apply List.prefix_of_prefix_length_le starts goes_on
    by_contra longer
    have positive := List.length_pos_of_ne_nil present
    have inside : part ++ separator <+: first ++ separator.dropLast := by
      have early : part ++ separator <+: first ++ separator ++ behind := by
        rw [← whole]
        exact List.prefix_append _ _
      have long : first ++ separator.dropLast <+: first ++ separator ++ behind := by
        rw [List.append_assoc, List.prefix_append_right_inj]
        exact (List.dropLast_prefix separator).trans (List.prefix_append _ _)
      apply List.prefix_of_prefix_length_le early long
      rw [List.length_append, List.length_append, List.length_dropLast]
      omega
    exact clear ((List.suffix_append part separator).isInfix.trans inside.isInfix)

end Splitting

/-- Text mode reads each form of a newline as one newline. -/
def universalNewlines : List Char → List Char
  | '\r' :: '\n' :: rest => '\n' :: universalNewlines rest
  | c :: rest => (if c = '\r' then '\n' else c) :: universalNewlines rest
  | [] => []

/-- `str.splitlines` for a list of characters. -/
def linesOf (text : List Char) : List (List Char) := (splitlinesFrom [] text).map String.toList

/-- A text that stays on one line. -/
def OneLine (text : List Char) : Prop := ∀ c ∈ text, isLineBreak c = false

theorem OneLine.no_return {text : List Char} (one : OneLine text) : '\r' ∉ text := by
  intro member
  have broken := one _ member
  revert broken
  decide

theorem universalNewlines_append {line : List Char} (absent : '\r' ∉ line) (rest : List Char) :
    universalNewlines (line ++ rest) = line ++ universalNewlines rest := by
  induction line with
  | nil => rfl
  | cons c line ih =>
      have other : c ≠ '\r' := fun same => absent (same ▸ List.mem_cons_self)
      have later := ih fun member => absent (List.mem_cons_of_mem _ member)
      rw [List.cons_append, universalNewlines.eq_2 c _ (fun _ same _ => other same), if_neg other, later]
      rfl

/-- Text mode changes nothing in a text without carriage returns. -/
theorem universalNewlines_same {text : List Char} (absent : '\r' ∉ text) : universalNewlines text = text := by
  have same := universalNewlines_append absent []
  rwa [List.append_nil, universalNewlines, List.append_nil] at same

theorem splitlinesFrom_newline {line : List Char} (one : OneLine line) (current rest : List Char) :
    splitlinesFrom current (line ++ '\n' :: rest) =
      String.ofList (current.reverse ++ line) :: splitlinesFrom [] rest := by
  induction line generalizing current with
  | nil =>
      rw [List.append_nil, List.nil_append, splitlinesFrom.eq_3 _ _ _ (fun _ same _ => by cases same)]
      rfl
  | cons c line ih =>
      have plain := one c List.mem_cons_self
      have other : c ≠ '\r' := fun same => one.no_return (same ▸ List.mem_cons_self)
      rw [List.cons_append, splitlinesFrom.eq_3 _ _ _ (fun _ same _ => other same), if_neg (by simp [plain]),
        ih (fun c member => one c (List.mem_cons_of_mem _ member))]
      simp

/-- A line and its newline are split off. -/
theorem linesOf_newline {line : List Char} (one : OneLine line) (rest : List Char) :
    linesOf (line ++ '\n' :: rest) = line :: linesOf rest := by
  unfold linesOf
  rw [splitlinesFrom_newline one, List.map_cons, String.toList_ofList]
  rfl

/-- No line has a line break. -/
theorem splitlinesFrom_one {current : List Char} (one : OneLine current) (text : List Char) :
    ∀ line ∈ splitlinesFrom current text, OneLine line.toList := by
  have nothing : OneLine [] := fun c absent => absurd absent List.not_mem_nil
  have reversed : ∀ {current : List Char}, OneLine current → OneLine (String.ofList current.reverse).toList := by
    intro current one
    rw [String.toList_ofList]
    exact fun c member => one c (List.mem_reverse.mp member)
  fun_induction splitlinesFrom current text with
  | case1 => simp
  | case2 current present => simpa using reversed one
  | case3 current rest ih => exact List.forall_mem_cons.mpr ⟨reversed one, ih nothing⟩
  | case4 current c rest other broken ih => exact List.forall_mem_cons.mpr ⟨reversed one, ih nothing⟩
  | case5 current c rest other plain ih =>
      apply ih
      exact List.forall_mem_cons.mpr ⟨Bool.eq_false_iff.mpr plain, one⟩

theorem linesOf_one (text : List Char) : ∀ line ∈ linesOf text, OneLine line := by
  intro line member
  obtain ⟨found, listed, same⟩ := List.mem_map.mp member
  rw [← same]
  exact splitlinesFrom_one (fun c absent => absurd absent List.not_mem_nil) text found listed
end P3Portal.Foundation.Text
