import Mathlib.Data.Bool.AllAny
import Mathlib.Data.List.Nodup
import P3Portal.Proof.Audit.ProxmoxLog

namespace P3Portal.Audit
open Foundation Text
variable {call : AuditCall}

section Sources

/-- The parts of a line that the fields of its entry were read from. -/
structure Sources (call : AuditCall) (parts users targets bodies : List (List Char)) : Prop where
  user_part : ∀ part ∈ users, part ∈ parts ∧ IsUser (stripped part)
  target_part : ∀ part ∈ targets, part ∈ parts ∧ IsTarget call.method call.path (stripped part)
  body_part : ∀ part ∈ bodies, part ∈ parts ∧ IsBody (stripped part)
  user_same : users.map stripped = call.userParts
  target_same : targets.map stripped = [call.target] ∨ targets = [] ∧ call.method = [] ∧ call.path = []
  body_same : bodies.map stripped = call.bodyParts

/-- A part is its mark and its value. -/
theorem mark_and_rest {mark part value : List Char} (start : mark <+: part) (rest : value = part.drop mark.length) :
    part = mark ++ value := by
  obtain ⟨others, rfl⟩ := start
  rw [rest, List.drop_left]

/-- An entry with the fields of a call was read from such parts. -/
theorem sources_of_fields {parts : List (List Char)} {entry : AuditEntry} (user : entry.user = [])
    (method : entry.method = []) (endpoint : entry.endpoint = []) (body : entry.body = none)
    (same : ((parts.map stripped).foldl readPart entry).fields = call.fields) :
    ∃ users targets bodies, Sources call parts users targets bodies := by
  obtain ⟨users, bodies, targets⟩ := read_parts entry (parts.map stripped)
  unfold AuditEntry.fields AuditCall.fields at same
  injection same with _ same
  injection same with same_method same
  injection same with same_path same
  injection same with same_user same
  injection same with same_body _
  have user_list : ∃ list : List (List Char), (∀ part ∈ list, part ∈ parts ∧ IsUser (stripped part)) ∧
      list.map stripped = call.userParts := by
    unfold AuditCall.userParts
    by_cases absent : call.user = []
    · rw [if_pos absent]
      exact ⟨[], by simp, rfl⟩
    · rw [if_neg absent]
      rcases users with old | ⟨found, listed, kind, value⟩
      · rw [old, user] at same_user
        exact absurd same_user.symm absent
      · obtain ⟨part, member, rfl⟩ := List.mem_map.mp listed
        rw [same_user] at value
        exact ⟨[part], by simpa using ⟨member, kind⟩, by rw [List.map_singleton, ← mark_and_rest kind value]⟩
  have body_list : ∃ list : List (List Char), (∀ part ∈ list, part ∈ parts ∧ IsBody (stripped part)) ∧
      list.map stripped = call.bodyParts := by
    unfold AuditCall.bodyParts
    by_cases absent : call.body = []
    · rw [if_pos absent]
      exact ⟨[], by simp, rfl⟩
    · rw [if_neg absent]
      rcases bodies with old | ⟨found, listed, kind, value⟩
      · rw [old, body] at same_body
        exact absurd same_body.symm absent
      · obtain ⟨part, member, rfl⟩ := List.mem_map.mp listed
        rw [value] at same_body
        exact ⟨[part], by simpa using ⟨member, kind⟩,
          by rw [List.map_singleton, ← mark_and_rest kind.2 same_body.symm]⟩
  have target_list : ∃ list : List (List Char),
      (∀ part ∈ list, part ∈ parts ∧ IsTarget call.method call.path (stripped part)) ∧
        (list.map stripped = [call.target] ∨ list = [] ∧ call.method = [] ∧ call.path = []) := by
    rw [same_method, same_path] at targets
    rcases targets with ⟨old_method, old_path⟩ | ⟨found, listed, kind⟩
    · exact ⟨[], by simp, .inr ⟨rfl, old_method.trans method, old_path.trans endpoint⟩⟩
    · obtain ⟨part, member, rfl⟩ := List.mem_map.mp listed
      refine ⟨[part], by simpa using ⟨member, kind⟩, .inl ?_⟩
      rw [List.map_singleton, kind.2.2.1]
      rfl
  obtain ⟨first, user_part, user_same⟩ := user_list
  obtain ⟨second, target_part, target_same⟩ := target_list
  obtain ⟨third, body_part, body_same⟩ := body_list
  exact ⟨first, second, third, user_part, target_part, body_part, user_same, target_same, body_same⟩

variable {parts users targets bodies : List (List Char)}

/-- A list with one element at most has no duplicates. -/
theorem nodup_of_short {list : List (List Char)} (short : list.length ≤ 1) : list.Nodup := by
  match list, short with
  | [], _ => exact List.nodup_nil
  | [part], _ => exact List.nodup_singleton part

/-- No part is read twice. -/
theorem Sources.nodup (sources : Sources call parts users targets bodies) : (users ++ targets ++ bodies).Nodup := by
  have user_short : users.length ≤ 1 := by
    have size := congrArg List.length sources.user_same
    rw [List.length_map] at size
    rw [size]
    unfold AuditCall.userParts
    split
    · exact Nat.zero_le _
    · exact Nat.le_refl _
  have body_short : bodies.length ≤ 1 := by
    have size := congrArg List.length sources.body_same
    rw [List.length_map] at size
    rw [size]
    unfold AuditCall.bodyParts
    split
    · exact Nat.zero_le _
    · exact Nat.le_refl _
  have target_short : targets.length ≤ 1 := by
    rcases sources.target_same with same | ⟨empty, _⟩
    · have size := congrArg List.length same
      rw [List.length_map] at size
      exact Nat.le_of_eq size
    · rw [empty]
      exact Nat.zero_le _
  rw [List.nodup_append, List.nodup_append]
  refine ⟨⟨nodup_of_short user_short, nodup_of_short target_short, ?_⟩, nodup_of_short body_short, ?_⟩
  · intro first left second right same
    rw [same] at left
    exact (sources.target_part second right).2.1 (sources.user_part second left).2
  · intro first left second right same
    rw [same] at left
    have body := (sources.body_part second right).2
    rcases List.mem_append.mp left with user | target
    · exact body.1 (sources.user_part second user).2
    · exact (sources.target_part second target).2.2.1 body.2

/-- Only parts of the line are read. -/
theorem Sources.subset (sources : Sources call parts users targets bodies) : users ++ targets ++ bodies ⊆ parts := by
  intro part member
  rcases List.mem_append.mp member with front | body
  · rcases List.mem_append.mp front with user | target
    · exact (sources.user_part part user).1
    · exact (sources.target_part part target).1
  · exact (sources.body_part part body).1

end Sources

section Marked

/-- A part behind a mark keeps the mark when the line is split. -/
theorem first_marked {mark : List Char} (free : ' ' ∉ mark) (value rest : List Char) :
    ∃ first others, split separator (mark ++ value ++ separator ++ rest) = first :: others ∧ others ≠ [] ∧
      mark <+: first ∧ first <+: mark ++ value := by
  obtain ⟨first, others, same, more, inside⟩ := split_first separator_present (mark ++ value) rest
  refine ⟨first, others, same, more, ?_, inside⟩
  have joined := join_split separator_present (mark ++ value ++ separator ++ rest)
  rw [same, join_cons first more] at joined
  have start : mark <+: mark ++ value := List.prefix_append _ _
  rcases Nat.lt_or_ge first.length mark.length with shorter | long
  · have spaced : first ++ [' '] <+: mark ++ value ++ separator ++ rest := by
      rw [← joined]
      exact ⟨['|', ' '] ++ join separator others, by simp [separator]⟩
    have marked : mark <+: mark ++ value ++ separator ++ rest := by
      rw [List.append_assoc, List.append_assoc]
      exact List.prefix_append _ _
    have early : first ++ [' '] <+: mark := by
      apply List.prefix_of_prefix_length_le spaced marked
      rw [List.length_append]
      exact shorter
    exact absurd (early.subset (List.mem_append_right _ List.mem_cons_self)) free
  · exact List.prefix_of_prefix_length_le start inside long

/-- A part that starts with one mark is not read as another one. -/
theorem marks_apart {first second part : List Char} (present : first ≠ []) (trimmed : first.dropWhile isSpace = first)
    (long : first.length = second.length) (left : first <+: part) (right : second <+: stripped part) :
    first = second := by
  obtain ⟨rest, rfl⟩ := left
  have inside : stripped (first ++ rest) <+: first ++ rest := by
    have kept : (first ++ rest).dropWhile isSpace = first ++ rest := dropWhile_append_self present trimmed
    unfold stripped
    rw [kept]
    exact List.rdropWhile_prefix isSpace _
  have early := List.prefix_of_prefix_length_le (right.trans inside) (List.prefix_append first rest) (Nat.le_of_eq long.symm)
  exact (early.eq_of_length long.symm).symm

end Marked

section Clear
variable {text : List Char} {users targets bodies : List (List Char)}

/-- The parts between the token and the status weigh as much as their fields. -/
theorem middle_weight (call : AuditCall) :
    weight call.middle = weight call.userParts + (call.target.length + 3) + weight call.bodyParts := by
  unfold AuditCall.middle
  rw [weight_append, weight_append]
  rfl

/-- Without a method and a URL there is little room for parts that no field is read from. -/
theorem no_other_part (sources : Sources call (split separator text).dropLast users targets bodies)
    (joined : text = join separator (call.middle ++ [Nat.toDigits 10 call.status])) {part : List Char}
    (member : part ∈ (split separator text).dropLast) (long : 2 ≤ part.length) : part ∈ users ++ targets ++ bodies := by
  by_contra other
  have distinct : (part :: (users ++ targets ++ bodies)).Nodup := List.nodup_cons.mpr ⟨other, sources.nodup⟩
  have heavy := weight_subset distinct (List.cons_subset.mpr ⟨member, sources.subset⟩)
  have light := weight_middle call text joined
  have split_weight : weight (part :: (users ++ targets ++ bodies)) =
      part.length + 3 + (weight users + weight targets + weight bodies) := by
    rw [← weight_append, ← weight_append]
    rfl
  have user := weight_stripped users
  have body := weight_stripped bodies
  rw [sources.user_same] at user
  rw [sources.body_same] at body
  rw [middle_weight] at light
  rcases sources.target_same with same | ⟨_, method, path⟩
  · have target := weight_stripped targets
    rw [same] at target
    have single : weight [call.target] = call.target.length + 3 := rfl
    omega
  · have blank : call.target.length = 1 := by
      unfold AuditCall.target
      rw [method, path]
      rfl
    omega

/-- The target of a line with a method is a part of the line. -/
theorem target_whole (sources : Sources call (split separator text).dropLast users targets bodies)
    (joined : text = join separator (call.middle ++ [Nat.toDigits 10 call.status]))
    (same : targets.map stripped = [call.target]) :
    call.target ∈ (split separator text).dropLast ∧ stripped call.target = call.target := by
  have heavy := weight_subset sources.nodup sources.subset
  have light := weight_middle call text joined
  rw [weight_append, weight_append] at heavy
  have user := weight_stripped users
  have body := weight_stripped bodies
  rw [sources.user_same] at user
  rw [sources.body_same] at body
  rw [middle_weight] at light
  have single : weight [call.target] = call.target.length + 3 := rfl
  have kept : targets.map stripped = targets := by
    apply kept_of_weight
    rw [same, single]
    omega
  rw [same] at kept
  have member : call.target ∈ targets := by
    rw [← kept]
    exact List.mem_cons_self
  refine ⟨(sources.target_part _ member).1, ?_⟩
  rw [← kept, List.map_singleton] at same
  exact (List.cons.inj same).1

/-- A part that starts with a mark is read as nothing else. -/
theorem mark_kind {mark part : List Char} (present : mark ≠ []) (trimmed : mark.dropWhile isSpace = mark)
    (free : ' ' ∉ mark) (start : mark <+: part) (other : ¬ mark <+: stripped part) {method path : List Char} :
    stripped part ≠ method ++ ' ' :: path := by
  intro same
  obtain ⟨rest, rfl⟩ := start
  have inside : stripped (mark ++ rest) <+: mark ++ rest := by
    have kept : (mark ++ rest).dropWhile isSpace = mark ++ rest := dropWhile_append_self present trimmed
    unfold stripped
    rw [kept]
    exact List.rdropWhile_prefix isSpace _
  rcases Nat.lt_or_ge (stripped (mark ++ rest)).length mark.length with shorter | long
  · have early := List.prefix_of_prefix_length_le inside (List.prefix_append mark rest) (Nat.le_of_lt shorter)
    have spaced : ' ' ∈ stripped (mark ++ rest) := by
      rw [same]
      exact List.mem_append_right _ List.mem_cons_self
    exact free (early.subset spaced)
  · exact other (List.prefix_of_prefix_length_le (List.prefix_append mark rest) inside long)

/-- What is read as a user was written as one. -/
theorem user_source (sources : Sources call (split separator text).dropLast users targets bodies) {part : List Char}
    (member : part ∈ users ++ targets ++ bodies) (start : userMark <+: part) : stripped part ∈ call.userParts := by
  rcases List.mem_append.mp member with front | body
  · rcases List.mem_append.mp front with user | target
    · rw [← sources.user_same]
      exact List.mem_map_of_mem user
    · have kind := (sources.target_part part target).2
      exact absurd kind.2.2.1 (mark_kind (by decide) (by decide) (by decide) start kind.1)
  · have kind := (sources.body_part part body).2
    have same := marks_apart (by decide) (by decide) (by decide) start kind.2
    exact absurd same (by decide)

/-- What is read as a body was written as one. -/
theorem body_source (sources : Sources call (split separator text).dropLast users targets bodies) {part : List Char}
    (member : part ∈ users ++ targets ++ bodies) (start : bodyMark <+: part) : stripped part ∈ call.bodyParts := by
  rcases List.mem_append.mp member with front | body
  · rcases List.mem_append.mp front with user | target
    · have same := marks_apart (by decide) (by decide) (by decide) start (sources.user_part part user).2
      exact absurd same (by decide)
    · have kind := (sources.target_part part target).2
      exact absurd kind.2.2.1 (mark_kind (by decide) (by decide) (by decide) start kind.2.1)
  · rw [← sources.body_same]
    exact List.mem_map_of_mem body

/-- A marked part behind clear ones is a part of the line when a field is read from what starts with its mark. -/
theorem marked_whole (sources : Sources call (split separator text).dropLast users targets bodies)
    (joined : text = join separator (call.middle ++ [Nat.toDigits 10 call.status])) {mark value : List Char}
    (free : ' ' ∉ mark) (long : 2 ≤ mark.length) (front rest : List (List Char))
    (clear : ∀ part ∈ front, Clear separator part) (more : rest ≠ [])
    (line : call.middle ++ [Nat.toDigits 10 call.status] = front ++ (mark ++ value) :: rest)
    (source : ∀ part ∈ users ++ targets ++ bodies, mark <+: part → stripped part = mark ++ value) :
    Clear separator value ∧ stripped (mark ++ value) = mark ++ value := by
  obtain ⟨first, others, parts, later, start, inside⟩ := first_marked free value (join separator rest)
  have whole : split separator text = front ++ first :: others := by
    rw [joined, line, split_front separator_present clear (List.cons_ne_nil _ _), join_cons _ more, parts]
  have member : first ∈ (split separator text).dropLast := by
    rw [whole, List.dropLast_append_of_ne_nil (List.cons_ne_nil _ _), List.dropLast_cons_of_ne_nil later]
    exact List.mem_append_right _ List.mem_cons_self
  have known := source first (no_other_part sources joined member (long.trans start.length_le)) start
  have short := stripped_length first
  rw [known] at short
  have equal := inside.eq_of_length_le short
  rw [equal] at known member
  exact ⟨clear_behind (clear_of_split separator_present member), known⟩

end Clear

section Lines

/-- A value that is kept has no padding at its end. -/
theorem trimmed_end {mark value : List Char} (kept : stripped (mark ++ value) = mark ++ value) (present : value ≠ []) :
    value.rdropWhile isSpace = value := by
  have last := stripped_last (mark ++ value)
  rw [kept, List.rdropWhile_eq_self_iff] at last
  rw [List.rdropWhile_eq_self_iff]
  intro occurs
  have occurs_both : mark ++ value ≠ [] := List.append_ne_nil_of_right_ne_nil _ present
  have stops := last occurs_both
  rwa [List.getLast_append_of_ne_nil occurs_both present] at stops

/-- A text that is kept has no padding at its beginning. -/
theorem trimmed_start {first rest : List Char} (kept : stripped (first ++ rest) = first ++ rest) (present : first ≠ []) :
    first.dropWhile isSpace = first := by
  obtain ⟨c, others, rfl⟩ := List.exists_cons_of_ne_nil present
  have start := stripped_first (c :: others ++ rest)
  rw [kept, List.cons_append, List.dropWhile_cons] at start
  cases space : isSpace c with
  | true =>
      rw [space, if_pos rfl] at start
      have short := (List.dropWhile_suffix (p := isSpace) (l := others ++ rest)).length_le
      rw [start, List.length_cons] at short
      omega
  | false =>
      rw [List.dropWhile_cons, space]
      rfl

/-- A target that is read back is legible. -/
theorem target_legible (kind : IsTarget call.method call.path call.target)
    (kept : stripped call.target = call.target) (clear : Clear separator call.target) : TargetLegible call where
  method_present := kind.2.2.2.2
  method_first := trimmed_start kept kind.2.2.2.2
  method_free := kind.2.2.2.1
  no_user := fun start => kind.1 (start.trans (List.prefix_append _ _))
  no_body := fun start => kind.2.1 (start.trans (List.prefix_append _ _))
  path_present := by
    intro absent
    have last := trimmed_end kept (List.cons_ne_nil ' ' call.path)
    rw [absent] at last
    revert last
    decide
  path_last := by
    by_cases absent : call.path = []
    · rw [absent]
      rfl
    · have split_target : call.target = (call.method ++ [' ']) ++ call.path := by
        unfold AuditCall.target
        simp
      rw [split_target] at kept
      exact trimmed_end kept absent
  path_clear := clear_behind clear

section Fields
variable {text : List Char} {users targets bodies : List (List Char)}
  (sources : Sources call (split separator text).dropLast users targets bodies)
  (joined : text = join separator (call.middle ++ [Nat.toDigits 10 call.status]))
include sources joined

/-- A user that is read back is legible. -/
theorem user_read_back : call.user.rdropWhile isSpace = call.user ∧ Clear separator call.user := by
  by_cases absent : call.user = []
  · rw [absent]
    exact ⟨rfl, clear_nil separator_present⟩
  · have single : call.userParts = [userMark ++ call.user] := if_neg absent
    have line : call.middle ++ [Nat.toDigits 10 call.status] =
        [] ++ (userMark ++ call.user) :: ([call.target] ++ call.bodyParts ++ [Nat.toDigits 10 call.status]) := by
      rw [AuditCall.middle, single]
      simp
    have source : ∀ part ∈ users ++ targets ++ bodies, userMark <+: part → stripped part = userMark ++ call.user := by
      intro part member start
      have found := user_source sources member start
      rw [single] at found
      exact List.mem_singleton.mp found
    obtain ⟨clear, kept⟩ := marked_whole sources joined (by decide) (by decide) [] _ (by simp) (by simp) line source
    exact ⟨trimmed_end kept absent, clear⟩

/-- A target that is read back is legible. -/
theorem target_read_back :
    (call.method = [] ∧ call.path = [] ∨ TargetLegible call) ∧ Clear separator call.target := by
  rcases sources.target_same with found | ⟨_, no_method, no_path⟩
  · obtain ⟨member, kept⟩ := target_whole sources joined found
    have clear := clear_of_split separator_present member
    have present : targets ≠ [] := by
      intro empty
      rw [empty] at found
      cases found
    obtain ⟨part, listed⟩ := List.exists_mem_of_ne_nil targets present
    have kind := (sources.target_part part listed).2
    have same : stripped part ∈ targets.map stripped := List.mem_map_of_mem listed
    rw [found] at same
    rw [List.mem_singleton.mp same] at kind
    exact ⟨.inr (target_legible kind kept clear), clear⟩
  · refine ⟨.inl ⟨no_method, no_path⟩, ?_⟩
    unfold AuditCall.target
    rw [no_method, no_path]
    decide

/-- A body that is read back is legible. -/
theorem body_read_back : call.body.rdropWhile isSpace = call.body ∧ Clear separator call.body := by
  by_cases absent : call.body = []
  · rw [absent]
    exact ⟨rfl, clear_nil separator_present⟩
  · have single : call.bodyParts = [bodyMark ++ call.body] := if_neg absent
    have line : call.middle ++ [Nat.toDigits 10 call.status] =
        (call.userParts ++ [call.target]) ++ (bodyMark ++ call.body) :: [Nat.toDigits 10 call.status] := by
      rw [AuditCall.middle, single]
      simp
    have source : ∀ part ∈ users ++ targets ++ bodies, bodyMark <+: part → stripped part = bodyMark ++ call.body := by
      intro part member start
      have found := body_source sources member start
      rw [single] at found
      exact List.mem_singleton.mp found
    have front : ∀ part ∈ call.userParts ++ [call.target], Clear separator part := by
      intro part member
      rcases List.mem_append.mp member with left | right
      · unfold AuditCall.userParts at left
        split at left
        · cases left
        · rw [List.mem_singleton.mp left]
          exact clear_append (by decide) (user_read_back sources joined).2
      · rw [List.mem_singleton.mp right]
        exact (target_read_back sources joined).2
    obtain ⟨clear, kept⟩ := marked_whole sources joined (by decide) (by decide) _ _ front (by simp) line source
    exact ⟨trimmed_end kept absent, clear⟩

end Fields

/-- A call on one line that is read back is legible. -/
theorem legible_of_reads (lines : ∀ field ∈ [call.token, call.method, call.path, call.user, call.body], OneLine field)
    (reads : (parseAuditLine (auditLine call)).map AuditEntry.fields = some call.fields) : Legible call := by
  have more : call.middle ++ [Nat.toDigits 10 call.status] ≠ [] :=
    List.append_ne_nil_of_left_ne_nil (middle_present call) _
  obtain ⟨text, joined⟩ : ∃ text, text = join separator (call.middle ++ [Nat.toDigits 10 call.status]) := ⟨_, rfl⟩
  have line : auditLine call = call.time.text ++ separator ++ (call.token ++ separator ++ text) := by
    unfold auditLine
    rw [parts_middle, join_cons _ (List.cons_ne_nil _ _), join_cons _ more, joined]
  have stamp := clear_of_free (stamp_free (moment_stamp call.time))
  have parts := split_of_clear separator_present stamp (call.token ++ separator ++ text)
  rw [← line] at parts
  obtain ⟨first, others, behind, later, inside⟩ := split_first separator_present call.token text
  rw [behind] at parts
  obtain ⟨entry, user, method, endpoint, body, token, read⟩ := parseAuditLine_split later parts
  rw [read] at reads
  have same := Option.some.inj reads
  have token_same : stripped first = call.token := by
    rw [← token, ← foldl_token entry (others.dropLast.map stripped)]
    exact (List.cons.inj same).1
  have whole : first = call.token := by
    apply inside.eq_of_length_le
    rw [← token_same]
    exact stripped_length first
  have token_part : call.token ∈ (split separator (auditLine call)).dropLast := by
    rw [parts, whole, List.dropLast_cons_of_ne_nil (List.cons_ne_nil _ _), List.dropLast_cons_of_ne_nil later]
    exact List.mem_cons_of_mem _ List.mem_cons_self
  have token_clear := clear_of_split separator_present token_part
  -- From here on the line is read from the text behind its token.
  rw [split_of_clear separator_present token_clear] at behind
  rw [← (List.cons.inj behind).2] at same
  obtain ⟨users, targets, bodies, sources⟩ := sources_of_fields user method endpoint body same
  rw [whole] at token_same
  exact ⟨lines, ⟨token_same, token_clear⟩, user_read_back sources joined, (target_read_back sources joined).1,
    body_read_back sources joined⟩

end Lines

section Files

/-- The last entries are read back, the newest first, with the fields of their calls. -/
def RoundTrips (calls : List AuditCall) : Prop :=
  ∀ n, 0 < n → (readAuditLines n (auditFile calls)).map AuditEntry.fields =
    (calls.reverse.take n).map AuditCall.fields

/-- The file has one line for each call. -/
theorem auditFile_eq (calls : List AuditCall) : auditFile calls = calls.flatMap fun call => auditLine call ++ ['\n'] := by
  have general : ∀ file : List Char, calls.foldl writeAuditLine file =
      file ++ calls.flatMap fun call => auditLine call ++ ['\n'] := by
    intro file
    induction calls generalizing file with
    | nil => exact (List.append_nil file).symm
    | cons call rest ih =>
        rw [List.foldl_cons, ih, List.flatMap_cons]
        unfold writeAuditLine
        simp only [List.append_assoc]
  exact general []

/-- Texts on one line stay on one line together. -/
theorem one_append {first second : List Char} (left : OneLine first) (right : OneLine second) :
    OneLine (first ++ second) := List.forall_mem_append.mpr ⟨left, right⟩

/-- The parts of a call are on one line when its fields are. -/
theorem parts_one (lines : ∀ field ∈ call.fields, OneLine field) : ∀ part ∈ call.parts, OneLine part := by
  unfold AuditCall.fields at lines
  simp only [List.forall_mem_cons] at lines
  obtain ⟨token, method, path, user, body, _⟩ := lines
  have stamp : OneLine call.time.text := fun c member => (stamp_letter (moment_stamp call.time c member)).2.1
  have status : OneLine (Nat.toDigits 10 call.status) := fun c member => (stamp_letter (digits_stamp c member)).2.1
  have target : OneLine call.target := one_append method (List.forall_mem_cons.mpr ⟨by decide, path⟩)
  have user_sign : ∀ c ∈ userMark, isLineBreak c = false := List.all_iff_forall_prop.mp (by decide)
  have body_sign : ∀ c ∈ bodyMark, isLineBreak c = false := List.all_iff_forall_prop.mp (by decide)
  have user_parts : ∀ part ∈ call.userParts, OneLine part := by
    unfold AuditCall.userParts
    split
    · simp
    · exact List.forall_mem_singleton.mpr (one_append user_sign user)
  have body_parts : ∀ part ∈ call.bodyParts, OneLine part := by
    unfold AuditCall.bodyParts
    split
    · simp
    · exact List.forall_mem_singleton.mpr (one_append body_sign body)
  rw [parts_middle]
  unfold AuditCall.middle
  intro part member
  simp only [List.mem_cons, List.mem_append, List.not_mem_nil, or_false] at member
  rcases member with rfl | rfl | ((inside | rfl) | inside) | rfl
  · exact stamp
  · exact token
  · exact user_parts part inside
  · exact target
  · exact body_parts part inside
  · exact status

/-- The line of a call is one line when its fields are. -/
theorem auditLine_one (lines : ∀ field ∈ call.fields, OneLine field) : OneLine (auditLine call) := by
  have sign : ∀ c ∈ separator, isLineBreak c = false := List.all_iff_forall_prop.mp (by decide)
  intro c member
  rcases mem_join member with between | ⟨part, listed, inside⟩
  · exact sign c between
  · exact parts_one lines part listed c inside

/-- A line has a time, so it is not blank. -/
theorem auditLine_present (call : AuditCall) : stripped (auditLine call) ≠ [] := by
  intro blank
  have dash : '-' ∈ call.time.text := by
    unfold Moment.text
    simp
  have inside : '-' ∈ auditLine call := by
    apply (part_in_join _).subset dash
    rw [parts_middle]
    exact List.mem_cons_self
  have space := stripped_eq_nil.mp blank _ inside
  revert space
  decide

/-- When each call stays on one line, the file has the lines of the calls. -/
theorem linesOf_auditFile {calls : List AuditCall} (one : ∀ call ∈ calls, OneLine (auditLine call)) :
    linesOf (universalNewlines (auditFile calls)) = calls.map auditLine := by
  rw [auditFile_eq]
  induction calls with
  | nil => rfl
  | cons call rest ih =>
      have first := one call List.mem_cons_self
      have ended : '\r' ∉ auditLine call ++ ['\n'] := by
        rw [List.mem_append]
        rintro (inside | newline)
        · exact first.no_return inside
        · revert newline
          decide
      rw [List.flatMap_cons, universalNewlines_append ended, List.append_assoc, List.singleton_append,
        linesOf_newline first, ih fun call member => one call (List.mem_cons_of_mem _ member)]
      rfl

/-- The last lines of the file are read, the newest first. -/
theorem readAuditLines_auditFile {calls : List AuditCall} (one : ∀ call ∈ calls, OneLine (auditLine call)) {n : Nat}
    (positive : 0 < n) :
    readAuditLines n (auditFile calls) = ((calls.reverse.take n).map auditLine).filterMap parseAuditLine := by
  have kept : (calls.map auditLine).filter (stripped · ≠ []) = calls.map auditLine := by
    apply List.filter_eq_self.mpr
    intro line member
    obtain ⟨call, _, rfl⟩ := List.mem_map.mp member
    exact decide_eq_true (auditLine_present call)
  have last : lastLines n (calls.map auditLine) = (calls.map auditLine).drop ((calls.map auditLine).length - n) :=
    if_neg (Nat.ne_of_gt positive)
  unfold readAuditLines
  rw [linesOf_auditFile one, kept, last, ← List.take_reverse, ← List.map_reverse, ← List.map_take]

/-- An entry comes from a line of the file. -/
theorem mem_readAuditLines {n : Nat} {file : List Char} {entry : AuditEntry} (member : entry ∈ readAuditLines n file) :
    ∃ line, OneLine line ∧ parseAuditLine line = some entry := by
  obtain ⟨line, listed, read⟩ := List.mem_filterMap.mp member
  rw [List.mem_reverse] at listed
  have found : line ∈ (linesOf (universalNewlines file)).filter (stripped · ≠ []) := by
    unfold lastLines at listed
    split at listed
    · exact listed
    · exact List.mem_of_mem_drop listed
  exact ⟨line, linesOf_one _ line (List.mem_of_mem_filter found), read⟩

/-- The method is a part of the target. -/
theorem target_front {method endpoint part : List Char} (whole : part = method ++ ' ' :: endpoint) : method <:+: part := by
  rw [whole]
  exact (List.prefix_append _ _).isInfix

/-- The endpoint is a part of the target. -/
theorem target_back {method endpoint part : List Char} (whole : part = method ++ ' ' :: endpoint) :
    endpoint <:+: part := by
  rw [whole]
  exact ((List.suffix_cons _ _).trans (List.suffix_append _ _)).isInfix

/-- What was read from a line stands in the line. -/
theorem fields_within {line : List Char} {entry : AuditEntry} (read : parseAuditLine line = some entry) :
    ∀ field ∈ entry.fields, field <:+: line := by
  have inside : ∀ part ∈ split separator line, stripped part <:+: line := by
    intro part member
    have joined := part_in_join member
    rw [join_split separator_present] at joined
    exact (stripped_within part).trans joined
  match parts : split separator line with
  | [] | [_] | [_, _] =>
      unfold parseAuditLine at read
      rw [parts] at read
      cases read
  | stamp :: token :: third :: rest =>
      rw [parts] at inside
      obtain ⟨first, user, method, endpoint, body, label, same⟩ := parseAuditLine_split (List.cons_ne_nil third rest) parts
      have found : ∀ part ∈ (third :: rest).dropLast.map stripped, part <:+: line := by
        intro part member
        obtain ⟨source, listed, rfl⟩ := List.mem_map.mp member
        exact inside source (List.mem_cons_of_mem _ (List.mem_cons_of_mem _ (List.mem_of_mem_dropLast listed)))
      obtain ⟨users, bodies, targets⟩ := read_parts first ((third :: rest).dropLast.map stripped)
      have empty : ([] : List Char) <:+: line := List.nil_infix
      rw [← Option.some.inj (same.symm.trans read)]
      unfold AuditEntry.fields
      simp only [List.forall_mem_cons]
      refine ⟨?_, ?_, ?_, ?_, ?_, by simp⟩
      · rw [foldl_token, label]
        exact inside token (by simp)
      · rcases targets with ⟨old, _⟩ | ⟨part, listed, _, _, whole, _⟩
        · rw [old, method]
          exact empty
        · exact (target_front whole).trans (found part listed)
      · rcases targets with ⟨_, old⟩ | ⟨part, listed, _, _, whole, _⟩
        · rw [old, endpoint]
          exact empty
        · exact (target_back whole).trans (found part listed)
      · rcases users with old | ⟨part, listed, _, value⟩
        · rw [old, user]
          exact empty
        · rw [value]
          exact (List.drop_suffix _ _).isInfix.trans (found part listed)
      · rcases bodies with old | ⟨part, listed, _, value⟩
        · rw [old, body]
          exact empty
        · rw [value]
          exact (List.drop_suffix _ _).isInfix.trans (found part listed)

/-- Calls whose entries all come back each wrote one line. -/
theorem lines_of_round_trips {calls : List AuditCall} (trips : RoundTrips calls) :
    ∀ call ∈ calls, ∀ field ∈ call.fields, OneLine field := by
  intro call member field listed
  have read := trips (calls.length + 1) (Nat.succ_pos _)
  rw [List.take_of_length_le (by rw [List.length_reverse]; omega)] at read
  have inside : call.fields ∈ calls.reverse.map AuditCall.fields :=
    List.mem_map_of_mem (List.mem_reverse.mpr member)
  rw [← read] at inside
  obtain ⟨entry, found, same⟩ := List.mem_map.mp inside
  obtain ⟨line, one, parsed⟩ := mem_readAuditLines found
  rw [← same] at listed
  exact fun c occurs => one c ((fields_within parsed field listed).subset occurs)

/-- The lines of calls are read back together exactly when each of them is. -/
theorem lines_read_iff (calls : List AuditCall) :
    ((calls.map auditLine).filterMap parseAuditLine).map AuditEntry.fields = calls.map AuditCall.fields ↔
      ∀ call ∈ calls, (parseAuditLine (auditLine call)).map AuditEntry.fields = some call.fields := by
  induction calls with
  | nil => simp
  | cons call rest ih =>
      rw [List.map_cons, List.forall_mem_cons]
      cases read : parseAuditLine (auditLine call) with
      | none =>
          -- A line that is not read leaves too few entries.
          have short := List.length_filterMap_le parseAuditLine (rest.map auditLine)
          rw [List.length_map] at short
          rw [List.filterMap_cons_none read]
          constructor
          · intro same
            have sizes := congrArg List.length same
            rw [List.length_map, List.length_map, List.length_cons] at sizes
            omega
          · intro reads
            cases reads.1
      | some entry =>
          rw [List.filterMap_cons_some read, List.map_cons, List.map_cons, List.cons.injEq, ih, Option.map_some,
            Option.some.injEq]

/-- The log is read back exactly when each call is legible. -/
theorem log_round_trips_iff (calls : List AuditCall) : RoundTrips calls ↔ ∀ call ∈ calls, Legible call := by
  constructor
  · intro trips
    have lines := lines_of_round_trips trips
    have read := trips (calls.length + 1) (Nat.succ_pos _)
    have whole : calls.reverse.take (calls.length + 1) = calls.reverse :=
      List.take_of_length_le (by rw [List.length_reverse]; omega)
    rw [readAuditLines_auditFile (fun call member => auditLine_one (lines call member)) (Nat.succ_pos _), whole] at read
    have each := (lines_read_iff calls.reverse).mp read
    intro call member
    exact legible_of_reads (lines call member) (each call (List.mem_reverse.mpr member))
  · intro legible n positive
    rw [readAuditLines_auditFile (fun call member => auditLine_one (legible call member).lines) positive]
    apply (lines_read_iff _).mpr
    intro call member
    exact legible_reads (legible call (List.mem_reverse.mp (List.mem_of_mem_take member)))

/-- A URL with a separator in it. -/
def forgingCall : AuditCall where
  time := ⟨2026, 1, 2, 3, 4, 5⟩
  token := "p3-read".toList
  method := "GET".toList
  path := "/nodes | user=root@pam".toList
  user := []
  body := []
  status := 200

/-- The URL of a request names a user that made no call. -/
theorem user_forged :
    (readAuditLines 1 (auditFile [forgingCall])).map AuditEntry.user = ["root@pam".toList] ∧
      ¬ RoundTrips [forgingCall] := by
  refine ⟨by decide +kernel, ?_⟩
  intro trips
  have read := trips 1 Nat.one_pos
  revert read
  decide +kernel

end Files
end P3Portal.Audit
