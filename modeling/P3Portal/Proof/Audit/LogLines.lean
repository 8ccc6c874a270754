import Mathlib.Algebra.GroupWithZero.Nat
import Mathlib.Data.Bool.AllAny
import P3Portal.Construction.Audit.ProxmoxLog

namespace P3Portal.Audit
open Foundation Text

/-- A text of white space is stripped to nothing. -/
theorem stripped_eq_nil {text : List Char} : stripped text = [] ↔ ∀ c ∈ text, isSpace c = true := by
  have known := strip_eq_empty (String.ofList text)
  rw [String.toList_ofList] at known
  rw [← known]
  unfold stripped strip
  rw [String.toList_ofList, ← String.toList_inj, String.toList_ofList, String.toList_empty]

/-- A stripped text is a part of the text. -/
theorem stripped_within (text : List Char) : stripped text <:+: text :=
  (List.rdropWhile_prefix isSpace _).isInfix.trans (List.dropWhile_suffix _).isInfix

/-- A stripped text is no longer than the text. -/
theorem stripped_length (text : List Char) : (stripped text).length ≤ text.length := (stripped_within text).length_le

/-- A text that does not get shorter was stripped before. -/
theorem eq_of_stripped {text : List Char} (long : text.length ≤ (stripped text).length) : stripped text = text :=
  (stripped_within text).eq_of_length_le long

/-- A stripped text has no padding at its end. -/
theorem stripped_last (text : List Char) : (stripped text).rdropWhile isSpace = stripped text :=
  List.rdropWhile_idempotent _ _

/-- A text is stripped when it neither starts nor ends with white space. -/
theorem stripped_eq_self {text : List Char} (first : text.dropWhile isSpace = text)
    (last : text.rdropWhile isSpace = text) : stripped text = text := by
  unfold stripped
  rw [first, last]

/-- A stripped text has no padding at its beginning. -/
theorem stripped_first (text : List Char) : (stripped text).dropWhile isSpace = stripped text := by
  cases start : text.dropWhile isSpace with
  | nil =>
      unfold stripped
      rw [start]
      rfl
  | cons c rest =>
      have occurs : text.dropWhile isSpace ≠ [] := by
        rw [start]
        exact List.cons_ne_nil c rest
      have head := List.head_dropWhile_not isSpace occurs
      cases known : stripped text with
      | nil => rfl
      | cons d others =>
          have begins : d :: others <+: c :: rest := by
            rw [← known, ← start]
            exact List.rdropWhile_prefix isSpace _
          have same := (List.cons_prefix_cons.mp begins).1
          simp only [start, List.head_cons] at head
          rw [List.dropWhile_cons, same, head]
          rfl

/-- The characters of a time and of a status code. -/
def isStampLetter (c : Char) : Bool := c.isDigit || c ∈ ['-', 'T', ':', 'Z']

/-- Digits are letters of a stamp. -/
theorem digits_stamp {number : Nat} : ∀ c ∈ Nat.toDigits 10 number, isStampLetter c = true := by
  intro c member
  unfold isStampLetter
  rw [Nat.isDigit_of_mem_toDigits (by decide) (by decide) member]
  rfl

/-- Padded digits are letters of a stamp. -/
theorem padded_stamp {width number : Nat} : ∀ c ∈ padded width number, isStampLetter c = true := by
  intro c member
  rcases List.mem_append.mp member with zero | digit
  · rw [List.eq_of_mem_replicate zero]
    decide
  · exact digits_stamp c digit

/-- A moment is written with letters of a stamp. -/
theorem moment_stamp (moment : Moment) : ∀ c ∈ moment.text, isStampLetter c = true := by
  unfold Moment.text
  simp only [List.forall_mem_append, List.forall_mem_cons]
  exact ⟨⟨⟨⟨⟨⟨padded_stamp, by decide, padded_stamp⟩, by decide, padded_stamp⟩, by decide, padded_stamp⟩, by decide,
    padded_stamp⟩, by decide, padded_stamp⟩, by decide, by simp⟩

/-- The letters of a stamp are no white space, no line breaks and no part of the separator. -/
theorem stamp_letter {c : Char} (letter : isStampLetter c = true) :
    isSpace c = false ∧ isLineBreak c = false ∧ c ∉ separator := by
  have ascii : c.toNat < 128 := by
    unfold isStampLetter at letter
    rw [Bool.or_eq_true, decide_eq_true_eq] at letter
    rcases letter with digit | sign
    · exact Nat.lt_of_le_of_lt (Char.isDigit_iff_toNat.mp digit).2 (by decide)
    · have signs : ∀ c ∈ ['-', 'T', ':', 'Z'], c.toNat < 128 := List.all_iff_forall_prop.mp (by decide)
      exact signs c sign
  have passes : ∀ code < 128, isStampLetter (Char.ofNat code) = true →
      isSpace (Char.ofNat code) = false ∧ isLineBreak (Char.ofNat code) = false ∧ Char.ofNat code ∉ separator := by
    decide +kernel
  have passed := passes c.toNat ascii
  rw [Char.ofNat_toNat] at passed
  exact passed letter

/-- Each part brings the length of a separator but one. -/
theorem join_length {parts : List (List Char)} (present : parts ≠ []) :
    (join separator parts).length + 3 = (parts.map fun part => part.length + 3).sum := by
  induction parts with
  | nil => exact absurd rfl present
  | cons part rest ih =>
      cases rest with
      | nil => rfl
      | cons next rest =>
          have more : next :: rest ≠ [] := List.cons_ne_nil _ _
          rw [join_cons part more, List.map_cons, List.sum_cons, ← ih more, List.length_append, List.length_append]
          show part.length + 3 + _ + 3 = _
          omega

/-- A further part is joined behind a separator. -/
theorem join_concat (parts : List (List Char)) (last : List Char) :
    join separator (parts ++ [last]) = if parts = [] then last else join separator parts ++ separator ++ last := by
  induction parts with
  | nil => rfl
  | cons part rest ih =>
      have more : rest ++ [last] ≠ [] := List.append_ne_nil_of_right_ne_nil _ (List.cons_ne_nil _ _)
      rw [List.cons_append, join_cons part more, ih, if_neg (List.cons_ne_nil _ _)]
      split
      · rename_i empty
        rw [empty]
        rfl
      · rename_i present
        rw [join_cons part present]
        simp only [List.append_assoc]

/-- A joined character is one of the separator or of a part. -/
theorem mem_join {parts : List (List Char)} {c : Char} (member : c ∈ join separator parts) :
    c ∈ separator ∨ ∃ part ∈ parts, c ∈ part := by
  induction parts with
  | nil => cases member
  | cons part rest ih =>
      cases rest with
      | nil => exact .inr ⟨part, List.mem_cons_self, member⟩
      | cons next rest =>
          rw [join_cons part (List.cons_ne_nil _ _), List.mem_append, List.mem_append] at member
          rcases member with (here | between) | behind
          · exact .inr ⟨part, List.mem_cons_self, here⟩
          · exact .inl between
          · rcases ih behind with sign | ⟨other, listed, inside⟩
            · exact .inl sign
            · exact .inr ⟨other, List.mem_cons_of_mem _ listed, inside⟩

/-- Each part stands in the joined text. -/
theorem part_in_join {parts : List (List Char)} {part : List Char} (member : part ∈ parts) :
    part <:+: join separator parts := by
  induction parts with
  | nil => cases member
  | cons first rest ih =>
      cases rest with
      | nil =>
          rw [List.mem_singleton.mp member]
          exact List.infix_refl _
      | cons next rest =>
          rw [join_cons first (List.cons_ne_nil _ _)]
          rcases List.mem_cons.mp member with here | behind
          · rw [here, List.append_assoc]
            exact (List.prefix_append _ _).isInfix
          · exact (ih behind).trans (List.suffix_append _ _).isInfix

section Reading

/-- A part that reads as a user. -/
def IsUser (part : List Char) : Prop := userMark <+: part

/-- A part that reads as a body. -/
def IsBody (part : List Char) : Prop := ¬ userMark <+: part ∧ bodyMark <+: part

/-- A part that reads as a method and a URL. -/
def IsTarget (method endpoint part : List Char) : Prop :=
  ¬ userMark <+: part ∧ ¬ bodyMark <+: part ∧ part = method ++ ' ' :: endpoint ∧ ' ' ∉ method ∧ method ≠ []

/-- A part of a user sets the user. -/
theorem readPart_user {part : List Char} (entry : AuditEntry) (user : IsUser part) :
    readPart entry part = { entry with user := part.drop userMark.length } :=
  if_pos (List.isPrefixOf_iff_prefix.mpr user)

/-- A part of a body sets the body. -/
theorem readPart_body {part : List Char} (entry : AuditEntry) (body : IsBody part) :
    readPart entry part = { entry with body := some (part.drop bodyMark.length) } := by
  unfold readPart
  rw [if_neg (fun start => body.1 (List.isPrefixOf_iff_prefix.mp start)),
    if_pos (List.isPrefixOf_iff_prefix.mpr body.2)]

/-- A target sets the method and the endpoint. -/
theorem readPart_target {method endpoint part : List Char} (entry : AuditEntry)
    (target : IsTarget method endpoint part) :
    readPart entry part = { entry with method := method, endpoint := endpoint } := by
  obtain ⟨other, another, split, free, present⟩ := target
  have passes : ∀ c ∈ method, decide (c ≠ ' ') = true := by
    intro c member
    exact decide_eq_true fun same => free (same ▸ member)
  have behind : part.dropWhile (· ≠ ' ') = ' ' :: endpoint := by
    rw [split, List.dropWhile_append_of_pos passes]
    rfl
  have before : part.takeWhile (· ≠ ' ') = method := by
    rw [split, List.takeWhile_append_of_pos passes]
    exact List.append_nil method
  unfold readPart
  rw [if_neg (fun start => other (List.isPrefixOf_iff_prefix.mp start)),
    if_neg (fun start => another (List.isPrefixOf_iff_prefix.mp start)), behind, before]
  exact if_neg present

/-- A part is a user, a body, a method and a URL, or changes nothing. -/
theorem readPart_cases (entry : AuditEntry) (part : List Char) :
    IsUser part ∧ readPart entry part = { entry with user := part.drop userMark.length } ∨
      IsBody part ∧ readPart entry part = { entry with body := some (part.drop bodyMark.length) } ∨
        (∃ method endpoint, IsTarget method endpoint part ∧
          readPart entry part = { entry with method := method, endpoint := endpoint }) ∨
          readPart entry part = entry := by
  by_cases user : userMark <+: part
  · exact .inl ⟨user, readPart_user entry user⟩
  · by_cases body : bodyMark <+: part
    · exact .inr (.inl ⟨⟨user, body⟩, readPart_body entry ⟨user, body⟩⟩)
    · cases behind : part.dropWhile (· ≠ ' ') with
      | nil =>
          refine .inr (.inr (.inr ?_))
          unfold readPart
          rw [if_neg (fun start => user (List.isPrefixOf_iff_prefix.mp start)),
            if_neg (fun start => body (List.isPrefixOf_iff_prefix.mp start)), behind]
      | cons space endpoint =>
          have whole := List.takeWhile_append_dropWhile (p := (· ≠ ' ')) (l := part)
          have occurs : part.dropWhile (· ≠ ' ') ≠ [] := by
            rw [behind]
            exact List.cons_ne_nil _ _
          have stops := List.head_dropWhile_not (· ≠ ' ') occurs
          simp only [behind, List.head_cons, decide_eq_false_iff_not, not_not] at stops
          rw [behind, stops] at whole
          have free : ' ' ∉ part.takeWhile (· ≠ ' ') := by
            intro member
            have passed := List.mem_takeWhile_imp member
            simp at passed
          by_cases present : part.takeWhile (· ≠ ' ') = []
          · refine .inr (.inr (.inr ?_))
            unfold readPart
            rw [if_neg (fun start => user (List.isPrefixOf_iff_prefix.mp start)),
              if_neg (fun start => body (List.isPrefixOf_iff_prefix.mp start)), behind]
            exact if_pos present
          · have target : IsTarget (part.takeWhile (· ≠ ' ')) endpoint part := ⟨user, body, whole.symm, free, present⟩
            exact .inr (.inr (.inl ⟨_, endpoint, target, readPart_target entry target⟩))

/-- What a line is read as was there before, or a part of the line says it. -/
theorem read_parts (entry : AuditEntry) (parts : List (List Char)) :
    ((parts.foldl readPart entry).user = entry.user ∨
      ∃ part ∈ parts, IsUser part ∧ (parts.foldl readPart entry).user = part.drop userMark.length) ∧
    ((parts.foldl readPart entry).body = entry.body ∨
      ∃ part ∈ parts, IsBody part ∧ (parts.foldl readPart entry).body = some (part.drop bodyMark.length)) ∧
    (((parts.foldl readPart entry).method = entry.method ∧ (parts.foldl readPart entry).endpoint = entry.endpoint) ∨
      ∃ part ∈ parts, IsTarget (parts.foldl readPart entry).method (parts.foldl readPart entry).endpoint part) := by
  induction parts generalizing entry with
  | nil => exact ⟨.inl rfl, .inl rfl, .inl ⟨rfl, rfl⟩⟩
  | cons part rest ih =>
      obtain ⟨user, body, target⟩ := ih (readPart entry part)
      rw [List.foldl_cons]
      refine ⟨?_, ?_, ?_⟩
      · rcases user with same | ⟨other, listed, kind, found⟩
        · rcases readPart_cases entry part with ⟨kind, read⟩ | ⟨_, read⟩ | ⟨_, _, _, read⟩ | read
          · refine .inr ⟨part, List.mem_cons_self, kind, ?_⟩
            rw [same, read]
          all_goals
            refine .inl ?_
            rw [same, read]
        · exact .inr ⟨other, List.mem_cons_of_mem _ listed, kind, found⟩
      · rcases body with same | ⟨other, listed, kind, found⟩
        · rcases readPart_cases entry part with ⟨_, read⟩ | ⟨kind, read⟩ | ⟨_, _, _, read⟩ | read
          · refine .inl ?_
            rw [same, read]
          · refine .inr ⟨part, List.mem_cons_self, kind, ?_⟩
            rw [same, read]
          all_goals
            refine .inl ?_
            rw [same, read]
        · exact .inr ⟨other, List.mem_cons_of_mem _ listed, kind, found⟩
      · rcases target with ⟨method, endpoint⟩ | ⟨other, listed, kind⟩
        · rw [method, endpoint]
          rcases readPart_cases entry part with ⟨_, read⟩ | ⟨_, read⟩ | ⟨_, _, kind, read⟩ | read
          · refine .inl ?_
            rw [read]
            exact ⟨rfl, rfl⟩
          · refine .inl ?_
            rw [read]
            exact ⟨rfl, rfl⟩
          · refine .inr ⟨part, List.mem_cons_self, ?_⟩
            rw [read]
            exact kind
          · refine .inl ?_
            rw [read]
            exact ⟨rfl, rfl⟩
        · exact .inr ⟨other, List.mem_cons_of_mem _ listed, kind⟩

end Reading
end P3Portal.Audit
