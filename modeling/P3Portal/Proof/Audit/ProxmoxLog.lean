import Mathlib.Algebra.BigOperators.Group.List.Basic
import Mathlib.Data.List.Perm.Basic
import P3Portal.Proof.Audit.LogLines

namespace P3Portal.Audit
open Foundation Text

/-- The method and the URL are told apart by the first space of their part. -/
structure TargetLegible (call : AuditCall) : Prop where
  method_present : call.method ≠ []
  method_first : call.method.dropWhile isSpace = call.method
  method_free : ' ' ∉ call.method
  no_user : ¬ userMark <+: call.method
  no_body : ¬ bodyMark <+: call.method
  path_present : call.path ≠ []
  path_last : call.path.rdropWhile isSpace = call.path
  path_clear : Clear separator (' ' :: call.path)

/-- No field of a legible call breaks its line, hides a separator or loses white space at its ends. -/
structure Legible (call : AuditCall) : Prop where
  lines : ∀ field ∈ [call.token, call.method, call.path, call.user, call.body], OneLine field
  token : stripped call.token = call.token ∧ Clear separator call.token
  user : call.user.rdropWhile isSpace = call.user ∧ Clear separator call.user
  target : call.method = [] ∧ call.path = [] ∨ TargetLegible call
  body : call.body.rdropWhile isSpace = call.body ∧ Clear separator call.body

/-- The separator is not empty. -/
theorem separator_present : separator ≠ [] := by decide

section Clearness

/-- A separator starts with a space. -/
theorem clear_append {mark rest : List Char} (free : ' ' ∉ mark) (clear : Clear separator rest) :
    Clear separator (mark ++ rest) := by
  induction mark with
  | nil => exact clear
  | cons c mark ih =>
      intro inside
      rw [List.cons_append, List.cons_append] at inside
      rcases List.infix_cons_iff.mp inside with start | behind
      · have same : ' ' = c := (List.cons_prefix_cons.mp start).1
        exact free (same ▸ List.mem_cons_self)
      · exact ih (fun member => free (List.mem_cons_of_mem _ member)) behind

/-- A clear text is clear behind a mark. -/
theorem clear_behind {mark rest : List Char} (clear : Clear separator (mark ++ rest)) : Clear separator rest := by
  intro inside
  apply clear
  rw [List.append_assoc]
  exact inside.trans (List.suffix_append _ _).isInfix

/-- A text without blanks has no separator. -/
theorem no_separator {text : List Char} (free : ' ' ∉ text) : ¬ separator <:+: text := by
  intro inside
  exact free (inside.subset (by decide))

/-- A text without blanks is clear. -/
theorem clear_of_free {text : List Char} (free : ' ' ∉ text) : Clear separator text := by
  have cleared := clear_append free (clear_nil separator_present)
  rwa [List.append_nil] at cleared

/-- A stamp has no blanks. -/
theorem stamp_free {text : List Char} (letters : ∀ c ∈ text, isStampLetter c = true) : ' ' ∉ text := by
  intro member
  exact (stamp_letter (letters _ member)).2.2 (by decide)

end Clearness

section Marks

/-- A mark in front does not change the end of a value. -/
theorem rdropWhile_append_self {mark value : List Char} (present : value ≠ [])
    (last : value.rdropWhile isSpace = value) : (mark ++ value).rdropWhile isSpace = mark ++ value := by
  rw [List.rdropWhile_eq_self_iff] at last ⊢
  intro occurs
  rw [List.getLast_append_of_ne_nil occurs present]
  exact last present

/-- A value behind does not change the beginning of a mark. -/
theorem dropWhile_append_self {mark value : List Char} (present : mark ≠ [])
    (first : mark.dropWhile isSpace = mark) : (mark ++ value).dropWhile isSpace = mark ++ value := by
  rw [List.dropWhile_append, first, List.isEmpty_eq_false_iff.mpr present]
  rfl

/-- A mark with a value needs no stripping. -/
theorem stripped_mark {mark value : List Char} (present : mark ≠ []) (first : mark.dropWhile isSpace = mark)
    (content : value ≠ []) (last : value.rdropWhile isSpace = value) : stripped (mark ++ value) = mark ++ value :=
  stripped_eq_self (dropWhile_append_self present first) (rdropWhile_append_self content last)

end Marks

section Legible
variable {call : AuditCall}

/-- A mark without a space stands before the space of a target, or not at its start. -/
theorem not_mark_of_target {mark : List Char} (free : ' ' ∉ mark) (other : ¬ mark <+: call.method) :
    ¬ mark <+: call.target := by
  intro start
  have method : call.method <+: call.target := List.prefix_append _ _
  rcases Nat.lt_or_ge call.method.length mark.length with longer | short
  · have spaced : call.method ++ [' '] <+: call.target := by
      show call.method ++ [' '] <+: call.method ++ ([' '] ++ call.path)
      rw [← List.append_assoc]
      exact List.prefix_append _ _
    have inside : call.method ++ [' '] <+: mark := by
      apply List.prefix_of_prefix_length_le spaced start
      rw [List.length_append]
      exact longer
    exact free (inside.subset (List.mem_append_right _ List.mem_cons_self))
  · exact other (List.prefix_of_prefix_length_le start method short)

/-- The target of a call reads as its method and its path. -/
theorem target_reads (legible : TargetLegible call) : IsTarget call.method call.path call.target :=
  ⟨not_mark_of_target (by decide) legible.no_user, not_mark_of_target (by decide) legible.no_body, rfl,
    legible.method_free, legible.method_present⟩

/-- The target of a call needs no stripping. -/
theorem target_stripped (legible : TargetLegible call) : stripped call.target = call.target := by
  apply stripped_mark legible.method_present legible.method_first (List.cons_ne_nil _ _)
  have path : ([' '] ++ call.path).rdropWhile isSpace = [' '] ++ call.path :=
    rdropWhile_append_self legible.path_present legible.path_last
  exact path

/-- The part of the user has no separator. -/
theorem user_part_clear (legible : Legible call) : Clear separator (userMark ++ call.user) :=
  clear_append (by decide) legible.user.2

/-- The part of the body has no separator. -/
theorem body_part_clear (legible : Legible call) : Clear separator (bodyMark ++ call.body) :=
  clear_append (by decide) legible.body.2

/-- The target of a call has no separator. -/
theorem target_clear (legible : Legible call) : Clear separator call.target := by
  rcases legible.target with ⟨method, path⟩ | target
  · unfold AuditCall.target
    rw [method, path]
    decide
  · exact clear_append target.method_free target.path_clear

/-- The status of a call has no blanks. -/
theorem status_free (call : AuditCall) : ' ' ∉ Nat.toDigits 10 call.status := stamp_free digits_stamp

/-- A legible line is split into the parts that were joined. -/
theorem split_line (legible : Legible call) : split separator (auditLine call) = call.parts := by
  have last : call.parts ≠ [] := List.append_ne_nil_of_right_ne_nil _ (List.cons_ne_nil _ _)
  apply split_join separator_present last
  · intro part member
    unfold AuditCall.parts at member
    rw [List.dropLast_concat] at member
    simp only [List.mem_append, List.mem_cons, List.not_mem_nil, or_false] at member
    rcases member with (((stamp | token) | user) | target) | body
    · rw [stamp]
      exact clear_of_free (stamp_free (moment_stamp call.time))
    · rw [token]
      exact legible.token.2
    · split at user
      · cases user
      · rw [List.mem_singleton.mp user]
        exact user_part_clear legible
    · rw [target]
      exact target_clear legible
    · split at body
      · cases body
      · rw [List.mem_singleton.mp body]
        exact body_part_clear legible
  · have ends : call.parts.getLast last = Nat.toDigits 10 call.status := List.getLast_concat
    rw [ends]
    exact no_separator (status_free call)

/-- What an entry says about the call that wrote it. -/
def AuditEntry.fields (entry : AuditEntry) : List (List Char) :=
  [entry.token, entry.method, entry.endpoint, entry.user, entry.body.getD []]

def AuditCall.fields (call : AuditCall) : List (List Char) :=
  [call.token, call.method, call.path, call.user, call.body]

def AuditCall.userParts (call : AuditCall) : List (List Char) :=
  if call.user = [] then [] else [userMark ++ call.user]

def AuditCall.bodyParts (call : AuditCall) : List (List Char) :=
  if call.body = [] then [] else [bodyMark ++ call.body]

/-- The parts of a line between the token and the status. -/
def AuditCall.middle (call : AuditCall) : List (List Char) := call.userParts ++ [call.target] ++ call.bodyParts

/-- A line begins with its time and its token and ends with its status. -/
theorem parts_middle (call : AuditCall) :
    call.parts = call.time.text :: call.token :: (call.middle ++ [Nat.toDigits 10 call.status]) := by
  unfold AuditCall.parts AuditCall.middle AuditCall.userParts AuditCall.bodyParts
  simp only [List.append_assoc, List.cons_append, List.nil_append]

/-- There is a part between the token and the status. -/
theorem middle_present (call : AuditCall) : call.middle ≠ [] := by
  unfold AuditCall.middle
  exact List.append_ne_nil_of_left_ne_nil (List.append_ne_nil_of_right_ne_nil _ (List.cons_ne_nil _ _)) _

/-- A line with a time, a token and a rest is read from its parts. -/
theorem parseAuditLine_split {line stamp token : List Char} {rest : List (List Char)} (more : rest ≠ [])
    (parts : split separator line = stamp :: token :: rest) :
    ∃ entry : AuditEntry, entry.user = [] ∧ entry.method = [] ∧ entry.endpoint = [] ∧ entry.body = none ∧
      entry.token = stripped token ∧
      parseAuditLine line = some ((rest.dropLast.map stripped).foldl readPart entry) := by
  obtain ⟨third, others, rfl⟩ := List.exists_cons_of_ne_nil more
  refine ⟨⟨stripped stamp, stripped token, [], [], [],
    ((third :: others).map stripped).getLast (List.cons_ne_nil _ _), none⟩, rfl, rfl, rfl, rfl, rfl, ?_⟩
  unfold parseAuditLine
  rw [parts, List.map_dropLast]
  rfl

/-- No part changes the token. -/
theorem foldl_token (entry : AuditEntry) (parts : List (List Char)) :
    (parts.foldl readPart entry).token = entry.token := by
  induction parts generalizing entry with
  | nil => rfl
  | cons part rest ih =>
      rw [List.foldl_cons, ih]
      rcases readPart_cases entry part with ⟨_, read⟩ | ⟨_, read⟩ | ⟨_, _, _, read⟩ | read
      all_goals rw [read]

/-- A part of a body is no part of a user. -/
theorem not_user_of_body {part : List Char} (body : bodyMark <+: part) : ¬ userMark <+: part := by
  intro user
  obtain ⟨first, rfl⟩ := body
  have same : 'u' = 'b' := (List.cons_prefix_cons.mp user).1
  exact absurd same (by decide)

section Writing
variable {call : AuditCall}

/-- The parts of the user are read as the user. -/
theorem read_user (legible : Legible call) (entry : AuditEntry) (empty : entry.user = []) :
    (call.userParts.map stripped).foldl readPart entry = { entry with user := call.user } := by
  unfold AuditCall.userParts
  split
  · rename_i absent
    rw [absent, ← empty]
    rfl
  · rename_i present
    have kept : stripped (userMark ++ call.user) = userMark ++ call.user :=
      stripped_mark (by decide) (by decide) present legible.user.1
    rw [List.map_singleton, kept]
    show readPart entry (userMark ++ call.user) = _
    rw [readPart_user entry (List.prefix_append _ _), List.drop_left]

/-- The target is read as the method and the endpoint. -/
theorem read_target (legible : Legible call) (entry : AuditEntry) (method : entry.method = []) (endpoint : entry.endpoint = []) :
    readPart entry (stripped call.target) = { entry with method := call.method, endpoint := call.path } := by
  rcases legible.target with ⟨no_method, no_path⟩ | target
  · have blank : stripped call.target = [] := by
      unfold AuditCall.target
      rw [no_method, no_path]
      decide
    have unread : readPart entry [] = entry := rfl
    rw [blank, no_method, no_path, unread]
    cases entry
    cases method
    cases endpoint
    rfl
  · rw [target_stripped target]
    exact readPart_target entry (target_reads target)

/-- The parts of the body are read as the body. -/
theorem read_body (legible : Legible call) (entry : AuditEntry) (empty : entry.body = none) :
    ((call.bodyParts.map stripped).foldl readPart entry).fields =
      [entry.token, entry.method, entry.endpoint, entry.user, call.body] := by
  unfold AuditCall.bodyParts
  split
  · rename_i absent
    rw [absent]
    show [_, _, _, _, entry.body.getD []] = _
    rw [empty]
    rfl
  · rename_i present
    have kept : stripped (bodyMark ++ call.body) = bodyMark ++ call.body :=
      stripped_mark (by decide) (by decide) present legible.body.1
    have body : IsBody (bodyMark ++ call.body) := ⟨not_user_of_body (List.prefix_append _ _), List.prefix_append _ _⟩
    rw [List.map_singleton, kept]
    show (readPart entry (bodyMark ++ call.body)).fields = _
    rw [readPart_body entry body, List.drop_left]
    rfl

/-- A legible call is read back. -/
theorem legible_reads (legible : Legible call) :
    (parseAuditLine (auditLine call)).map AuditEntry.fields = some call.fields := by
  have parts := split_line legible
  rw [parts_middle] at parts
  have more : call.middle ++ [Nat.toDigits 10 call.status] ≠ [] :=
    List.append_ne_nil_of_left_ne_nil (middle_present call) _
  obtain ⟨entry, user, method, endpoint, body, token, read⟩ := parseAuditLine_split more parts
  rw [read, List.dropLast_concat]
  unfold AuditCall.middle
  have target := read_target legible { entry with user := call.user } method endpoint
  have last := read_body legible { entry with user := call.user, method := call.method, endpoint := call.path } body
  rw [List.map_append, List.map_append, List.foldl_append, List.foldl_append, read_user legible entry user]
  show some (AuditEntry.fields (List.foldl readPart (readPart _ (stripped call.target)) _)) = _
  rw [target, last]
  show some [entry.token, call.method, call.path, call.user, call.body] = _
  rw [token, legible.token.1]
  rfl

end Writing
end Legible

section Weights

/-- The length of parts with their separators. -/
def weight (parts : List (List Char)) : Nat := (parts.map fun part => part.length + 3).sum

/-- Texts in sequence weigh as much as both. -/
theorem weight_append (first second : List (List Char)) : weight (first ++ second) = weight first + weight second := by
  unfold weight
  rw [List.map_append, List.sum_append]

/-- Stripping makes no text heavier. -/
theorem weight_stripped (parts : List (List Char)) : weight (parts.map stripped) ≤ weight parts := by
  induction parts with
  | nil => exact Nat.le_refl _
  | cons part rest ih =>
      have short := stripped_length part
      show (stripped part).length + 3 + weight (rest.map stripped) ≤ part.length + 3 + weight rest
      omega

/-- Parts that lose nothing when they are stripped were stripped before. -/
theorem kept_of_weight {parts : List (List Char)} (heavy : weight parts ≤ weight (parts.map stripped)) :
    parts.map stripped = parts := by
  induction parts with
  | nil => rfl
  | cons part rest ih =>
      have short := stripped_length part
      have others := weight_stripped rest
      have heavy : part.length + 3 + weight rest ≤ (stripped part).length + 3 + weight (rest.map stripped) := heavy
      rw [List.map_cons, eq_of_stripped (by omega), ih (by omega)]

/-- Texts that are left out make the rest no heavier. -/
theorem weight_sublist {parts others : List (List Char)} (sublist : List.Sublist parts others) :
    weight parts ≤ weight others := by
  induction sublist with
  | slnil => exact Nat.le_refl _
  | cons part _ ih => exact Nat.le_trans ih (Nat.le_add_left _ _)
  | cons_cons part _ ih => exact Nat.add_le_add_left ih _

/-- Different parts of a list do not weigh more than the list. -/
theorem weight_subset {parts others : List (List Char)} (distinct : parts.Nodup) (inside : parts ⊆ others) :
    weight parts ≤ weight others := by
  obtain ⟨same, permuted, sublist⟩ := List.subperm_of_subset distinct inside
  have equal : weight same = weight parts := (permuted.map _).sum_eq
  rw [← equal]
  exact weight_sublist sublist

/-- The last part of a line ends with the status. -/
theorem status_in_last {text status : List Char} (free : ' ' ∉ status) (ends : status <:+ text)
    (present : split separator text ≠ []) : status.length ≤ ((split separator text).getLast present).length := by
  by_contra longer
  have joined := join_split separator_present text
  rw [← List.dropLast_append_getLast present, join_concat] at joined
  split at joined
  · rw [← joined] at ends
    exact longer ends.length_le
  · have last : ' ' :: (split separator text).getLast present <:+ text := by
      refine ⟨join separator (split separator text).dropLast ++ [' ', '|'], Eq.trans ?_ joined⟩
      simp [separator]
    have inside : ' ' :: (split separator text).getLast present <:+ status := by
      apply List.suffix_of_suffix_length_le last ends
      rw [List.length_cons]
      omega
    exact free (inside.subset List.mem_cons_self)

/-- The parts between the token and the last part weigh no more than those that were joined. -/
theorem weight_middle (call : AuditCall) (text : List Char)
    (joined : text = join separator (call.middle ++ [Nat.toDigits 10 call.status])) :
    weight (split separator text).dropLast ≤ weight call.middle := by
  have present := split_ne_nil separator_present text
  have ends : Nat.toDigits 10 call.status <:+ text := by
    rw [joined, join_concat, if_neg (middle_present call)]
    exact List.suffix_append _ _
  have last := status_in_last (status_free call) ends present
  have parts := join_length present
  have others := join_length (List.append_ne_nil_of_left_ne_nil (middle_present call) [Nat.toDigits 10 call.status])
  rw [join_split separator_present, ← List.dropLast_append_getLast present] at parts
  rw [← joined] at others
  have first := weight_append (split separator text).dropLast [(split separator text).getLast present]
  have second := weight_append call.middle [Nat.toDigits 10 call.status]
  unfold weight at *
  simp only [List.map_cons, List.map_nil, List.sum_cons, List.sum_nil] at first second
  omega

end Weights
end P3Portal.Audit
