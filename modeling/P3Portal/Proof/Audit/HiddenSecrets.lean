import Mathlib.Data.List.Nodup
import Mathlib.Data.List.Pairwise
import P3Portal.Proof.Audit.MaskedText

namespace P3Portal.Audit
open Foundation Json

section Documents
variable {C : Type} [Annotated C]

mutual

/-- The strings that stand in a document at any depth, without the names of its members. -/
def stringValues : Document C → List (List C)
  | .atom _ => []
  | .literal content => [content]
  | .array items => stringItems items
  | .object members => stringMembers members

def stringItems : List (Document C) → List (List C)
  | [] => []
  | item :: rest => stringValues item ++ stringItems rest

def stringMembers : List (List C × Document C) → List (List C)
  | [] => []
  | (_, value) :: rest => stringValues value ++ stringMembers rest

end

mutual

/-- The strings that stand under a secret key at any depth. -/
def secretValues : Document C → List (List C)
  | .atom _ => []
  | .literal _ => []
  | .array items => secretItems items
  | .object members => secretMembers members

def secretItems : List (Document C) → List (List C)
  | [] => []
  | item :: rest => secretValues item ++ secretItems rest

def secretMembers : List (List C × Document C) → List (List C)
  | [] => []
  | (key, value) :: rest =>
      (if isSecretKey key then stringValues value else secretValues value) ++ secretMembers rest

end

omit [Annotated C] in
theorem mem_stringItems {items : List (Document C)} {value : List C} :
    value ∈ stringItems items ↔ ∃ item ∈ items, value ∈ stringValues item := by
  induction items with
  | nil =>
      show value ∈ [] ↔ _
      simp
  | cons item rest ih =>
      show value ∈ stringValues item ++ stringItems rest ↔ _
      rw [List.mem_append, ih]
      simp

omit [Annotated C] in
theorem mem_stringMembers {members : List (List C × Document C)} {value : List C} :
    value ∈ stringMembers members ↔ ∃ member ∈ members, value ∈ stringValues member.2 := by
  induction members with
  | nil =>
      show value ∈ [] ↔ _
      simp
  | cons member rest ih =>
      show value ∈ stringValues member.2 ++ stringMembers rest ↔ _
      rw [List.mem_append, ih]
      simp

omit [Annotated C] in
/-- The strings of a document are made of its characters. -/
theorem stringValues_chars (document : Document C) :
    ∀ value ∈ stringValues document, ∀ c ∈ value, c ∈ document.chars := by
  induction document using Document.induct with
  | atom text =>
      intro value absent
      cases absent
  | literal content =>
      intro value member c inside
      rw [List.mem_singleton.mp member] at inside
      rwa [Document.chars_literal]
  | array items ih =>
      intro value member c inside
      obtain ⟨item, listed, found⟩ := mem_stringItems.mp member
      rw [Document.chars_array]
      exact List.mem_flatMap.mpr ⟨item, listed, ih item listed value found c inside⟩
  | object members ih =>
      intro value member c inside
      obtain ⟨entry, listed, found⟩ := mem_stringMembers.mp member
      rw [Document.chars_object]
      exact List.mem_flatMap.mpr ⟨entry, listed, List.mem_append_right _ (ih entry listed value found c inside)⟩

theorem publicChars_chars (document : Document C) : ∀ c ∈ publicChars document, c ∈ document.chars := by
  induction document using Document.induct with
  | atom text =>
      intro c member
      rwa [Document.chars_atom]
  | literal content =>
      intro c member
      rwa [Document.chars_literal]
  | array items ih =>
      intro c member
      obtain ⟨item, listed, found⟩ := mem_publicItems.mp member
      rw [Document.chars_array]
      exact List.mem_flatMap.mpr ⟨item, listed, ih item listed c found⟩
  | object members ih =>
      intro c member
      obtain ⟨entry, listed, found⟩ := mem_publicMembers.mp member
      rw [Document.chars_object]
      exact List.mem_flatMap.mpr ⟨entry, listed, List.mem_append.mpr (found.imp_right fun value => ih entry listed c value.2)⟩

theorem mem_secretItems {items : List (Document C)} {value : List C} :
    value ∈ secretItems items ↔ ∃ item ∈ items, value ∈ secretValues item := by
  induction items with
  | nil =>
      show value ∈ [] ↔ _
      simp
  | cons item rest ih =>
      show value ∈ secretValues item ++ secretItems rest ↔ _
      rw [List.mem_append, ih]
      simp

theorem mem_secretMembers {members : List (List C × Document C)} {value : List C} :
    value ∈ secretMembers members ↔ ∃ member ∈ members,
      value ∈ if isSecretKey member.1 then stringValues member.2 else secretValues member.2 := by
  induction members with
  | nil =>
      show value ∈ [] ↔ _
      simp
  | cons member rest ih =>
      show value ∈ (if isSecretKey member.1 then stringValues member.2 else secretValues member.2) ++
        secretMembers rest ↔ _
      rw [List.mem_append, ih]
      simp

/-- A secret is one of the strings of its document. -/
theorem secretValues_strings (document : Document C) :
    ∀ secret ∈ secretValues document, secret ∈ stringValues document := by
  induction document using Document.induct with
  | atom text => exact fun secret member => member
  | literal content =>
      intro secret absent
      cases absent
  | array items ih =>
      intro secret member
      obtain ⟨item, listed, found⟩ := mem_secretItems.mp member
      exact mem_stringItems.mpr ⟨item, listed, ih item listed secret found⟩
  | object members ih =>
      intro secret member
      obtain ⟨entry, listed, found⟩ := mem_secretMembers.mp member
      apply mem_stringMembers.mpr
      split at found
      · exact ⟨entry, listed, found⟩
      · exact ⟨entry, listed, ih entry listed secret found⟩

omit [Annotated C] in
/-- Parts of a list without repetitions have no element in common. -/
theorem same_part {P : Type} {parts : List P} {elements : P → List C} (distinct : (parts.flatMap elements).Nodup)
    {first second : P} (left : first ∈ parts) (right : second ∈ parts) {c : C} (here : c ∈ elements first)
    (there : c ∈ elements second) : first = second := by
  have symmetric : Std.Symm (Function.onFun List.Disjoint elements) := ⟨fun _ _ apart _ left right => apart right left⟩
  by_contra other
  exact (List.nodup_flatMap.mp distinct).2.forall left right other here there

/-- When no character stands twice in a document, no character of a secret is public. -/
theorem secret_not_public (document : Document C) (distinct : document.chars.Nodup) :
    ∀ secret ∈ secretValues document, ∀ c ∈ secret, c ∉ publicChars document := by
  induction document using Document.induct with
  | atom text =>
      intro secret absent
      cases absent
  | literal content =>
      intro secret absent
      cases absent
  | array items ih =>
      intro secret member c inside shown
      rw [Document.chars_array] at distinct
      obtain ⟨item, listed, found⟩ := mem_secretItems.mp member
      obtain ⟨other, known, seen⟩ := mem_publicItems.mp shown
      have hidden := stringValues_chars item secret (secretValues_strings item secret found) c inside
      have same := same_part distinct listed known hidden (publicChars_chars other c seen)
      rw [← same] at seen
      exact ih item listed ((List.nodup_flatMap.mp distinct).1 item listed) secret found c inside seen
  | object members ih =>
      intro secret member c inside shown
      rw [Document.chars_object] at distinct
      obtain ⟨entry, listed, found⟩ := mem_secretMembers.mp member
      obtain ⟨other, known, seen⟩ := mem_publicMembers.mp shown
      have string : secret ∈ stringValues entry.2 := by
        split at found
        · exact found
        · exact secretValues_strings entry.2 secret found
      have hidden := stringValues_chars entry.2 secret string c inside
      have visible : c ∈ other.1 ++ other.2.chars :=
        List.mem_append.mpr (seen.imp_right fun value => publicChars_chars other.2 c value.2)
      have same := same_part distinct listed known (List.mem_append_right _ hidden) visible
      rw [← same] at seen
      obtain ⟨_, values, apart⟩ := List.nodup_append.mp ((List.nodup_flatMap.mp distinct).1 entry listed)
      rcases seen with key | ⟨plain, value⟩
      · exact apart c key c hidden rfl
      · rw [plain, if_neg Bool.false_ne_true] at found
        exact ih entry listed values secret found c inside value

end Documents

section SecretKeys
variable {C : Type} [Annotated C]

/-- The names of secret keys are spelled without an equality sign. -/
theorem secret_key_sign {key : List C} (secret : isSecretKey key = true)
    (closed : LiteralState.plain.read key = .plain) : ∀ c ∈ key, char c ≠ '=' := by
  have names : ∀ name ∈ secretJsonKeys, lowerUnit 61 ∉ name := by decide
  intro c member same
  have decoded := sign_decoded (by decide) (by decide) .plain closed member same
  have joined : 61 ∈ spelled key := mem_joinPairs (by decide) (by decide) decoded
  exact names _ (of_decide_eq_true secret) (List.mem_map_of_mem joined)

/-- A field has an equality sign. -/
theorem formFieldAt_sign {text keyword behind : List C} (found : formFieldAt text = some (keyword, behind)) :
    ∃ c ∈ text, char c = '=' := by
  obtain ⟨value, middle, _, _, split, sign, member, same⟩ := formFieldAt_split found
  refine ⟨sign, ?_, same⟩
  rw [split]
  exact List.mem_append_left _ (List.mem_append_right _ member)

theorem Scanned.unchanged {text : List C} (scanned : Scanned text) (signs : ∀ c ∈ text, char c ≠ '=') :
    maskForm text = text := by
  induction scanned with
  | nil => rfl
  | keep free _ _ ih => rw [maskForm_keep free, ih fun c member => signs c (List.mem_cons_of_mem _ member)]
  | field found _ _ _ =>
      obtain ⟨c, member, same⟩ := formFieldAt_sign found
      exact absurd same (signs c member)

/-- Masking writes nothing that did not stand in the text. -/
theorem Scanned.chars {text : List C} (scanned : Scanned text) : ∀ c ∈ maskForm text, c ∈ text ∨ IsNew c := by
  induction scanned with
  | nil => exact fun c member => .inl member
  | keep free _ _ ih =>
      intro c member
      rw [maskForm_keep free] at member
      rcases List.mem_cons.mp member with here | behind
      · rw [here]
        exact .inl List.mem_cons_self
      · exact (ih c behind).imp_left (List.mem_cons_of_mem _)
  | field found _ _ ih =>
      intro c member
      obtain ⟨value, middle, _, _, split, _⟩ := formFieldAt_split found
      rw [maskForm_field found, List.mem_append, List.mem_append] at member
      rw [split]
      rcases member with (keyword | redacted) | behind
      · exact .inl (List.mem_append_left _ (List.mem_append_left _ keyword))
      · exact .inr (mem_fresh_new redacted)
      · exact (ih c behind).imp_left (List.mem_append_right _)

/-- Secret keys stay secret when the fields of all literals are masked. -/
theorem map_public (document : Document C)
    (literals : ∀ content, .literal content ∈ document.leaves → Scanned content ∧ LiteralState.plain.read content = .plain) :
    ∀ c ∈ publicChars (document.map id maskForm), c ∈ publicChars document ∨ IsNew c := by
  induction document using Document.induct with
  | atom text => exact fun c member => .inl member
  | literal content => exact (literals content List.mem_cons_self).1.chars
  | array items ih =>
      intro c member
      have member : c ∈ publicItems (mapItems id maskForm items) := member
      rw [mapItems_eq] at member
      obtain ⟨masked, listed, found⟩ := mem_publicItems.mp member
      obtain ⟨item, known, same⟩ := List.mem_map.mp listed
      have inside : ∀ content, .literal content ∈ item.leaves →
          Scanned content ∧ LiteralState.plain.read content = .plain := by
        intro content leaf
        apply literals content
        show _ ∈ leavesItems items
        rw [leavesItems_eq]
        exact List.mem_flatMap.mpr ⟨item, known, leaf⟩
      rw [← same] at found
      exact (ih item known inside c found).imp_left fun seen => mem_publicItems.mpr ⟨item, known, seen⟩
  | object members ih =>
      intro c member
      have member : c ∈ publicMembers (mapMembers id maskForm members) := member
      rw [mapMembers_eq] at member
      obtain ⟨masked, listed, found⟩ := mem_publicMembers.mp member
      obtain ⟨entry, known, same⟩ := List.mem_map.mp listed
      have inside : ∀ content, .literal content ∈ .literal entry.1 :: entry.2.leaves →
          Scanned content ∧ LiteralState.plain.read content = .plain := by
        intro content leaf
        apply literals content
        show _ ∈ leavesMembers members
        rw [leavesMembers_eq]
        exact List.mem_flatMap.mpr ⟨entry, known, leaf⟩
      obtain ⟨scanned, closed⟩ := inside entry.1 List.mem_cons_self
      have shown : c ∈ entry.1 ∨ isSecretKey entry.1 = false ∧ c ∈ publicChars entry.2 →
          c ∈ publicChars (.object members) := fun seen => mem_publicMembers.mpr ⟨entry, known, seen⟩
      rw [← same] at found
      rcases found with key | ⟨plain, value⟩
      · exact (scanned.chars c key).imp_left fun seen => shown (.inl seen)
      · have open_key : isSecretKey entry.1 = false := by
          apply Bool.eq_false_iff.mpr
          intro secret
          have kept := scanned.unchanged (secret_key_sign secret closed)
          have plain : isSecretKey (maskForm entry.1) = false := plain
          rw [kept, secret] at plain
          cases plain
        have later := ih entry known (fun content leaf => inside content (List.mem_cons_of_mem _ leaf)) c value
        exact later.imp_left fun seen => shown (.inr ⟨open_key, seen⟩)

end SecretKeys

section Masking
variable {C : Type} [Annotated C]

theorem container_of_secret {tokens : List (Token C)} {document : Document C}
    (parsed : parse (.value []) tokens = some document) {secret : List C} (member : secret ∈ secretValues document) :
    ∃ mark rest, tokens = .mark mark :: rest ∧ (mark = .openObject ∨ mark = .openArray) := by
  have ended : ∀ (value : Document C) (rest : List (Token C)), parse (.done [] value) rest = some document →
      document = value := by
    intro value rest parsed
    cases rest with
    | nil => exact (Option.some.inj parsed).symm
    | cons token rest => cases token <;> cases parsed
  cases tokens with
  | nil => cases parsed
  | cons token rest =>
      obtain ⟨next, step, later⟩ := Option.bind_eq_some_iff.mp parsed
      have step : startValue [] token = some next := step
      cases token with
      | mark mark =>
          refine ⟨mark, rest, rfl, ?_⟩
          cases mark with
          | openObject => exact .inl rfl
          | openArray => exact .inr rfl
          | closeObject => cases step
          | closeArray => cases step
          | colon => cases step
          | comma => cases step
      | literal content =>
          rw [← Option.some.inj step] at later
          rw [ended _ rest later] at member
          cases member
      | atom text =>
          rw [(startValue_atom step).2] at later
          rw [ended _ rest later] at member
          cases member

theorem space_of_blank {c : C} (blank : isBlank (char c) = true) : isSpaceAt c = true := by
  unfold isBlank at blank
  simp only [Bool.or_eq_true, decide_eq_true_eq] at blank
  unfold isSpaceAt Text.isSpace
  rcases blank with ((space | tab) | newline) | carriage
  · simp [space]
  · simp [tab]
  · simp [newline]
  · simp [carriage]

theorem not_space_of_mark {c : C} {mark : Mark} (found : markOf (char c) = some mark) : isSpaceAt c = false := by
  have passes : ∀ code < 128, (!(markOf (Char.ofNat code)).isSome || !Text.isSpace (Char.ofNat code)) = true := by
    decide
  have ascii : (char c).toNat < 128 := by
    apply markOf_ascii
    rw [found]
    rfl
  have passed := @ascii_all (fun character => !(markOf character).isSome || !Text.isSpace character) passes _ ascii
  rw [found] at passed
  exact Bool.not_eq_true' _ ▸ passed

/-- A text whose first token opens a container looks like JSON. -/
theorem looks_of_spells {text : List C} {tokens rest : List (Token C)} {mark : Mark} (spells : Spells text tokens)
    (first : tokens = .mark mark :: rest) (opens : mark = .openObject ∨ mark = .openArray) :
    looksLikeJson text = true := by
  induction spells with
  | nil => cases first
  | @blank c text tokens blank _ ih =>
      have skipped : (c :: text).dropWhile isSpaceAt = text.dropWhile isSpaceAt := by
        rw [List.dropWhile_cons, space_of_blank blank]
        rfl
      unfold looksLikeJson
      rw [skipped]
      exact ih first
  | @mark c found text tokens blank sign _ _ =>
      have same : found = mark := Token.mark.inj (List.cons.inj first).1
      rw [same] at sign
      have spaceless := not_space_of_mark sign
      have stays : (c :: text).dropWhile isSpaceAt = c :: text := by
        rw [List.dropWhile_cons, spaceless]
        rfl
      unfold looksLikeJson
      rw [stays]
      show Option.any _ (markOf (char c)) = true
      rw [sign]
      rcases opens with object | array
      · rw [object]
        rfl
      · rw [array]
        rfl
  | literal _ _ _ _ _ => cases (List.cons.inj first).1
  | atom _ _ _ _ _ => cases (List.cons.inj first).1

/-- A body whose fields end inside of their literals is written from its document. -/
theorem maskSensitiveBody_container (numberText : List Char → List Char) {body : List C} {tokens : List (Token C)}
    {document : Document C} (cut : lex .outside body = some tokens) (parsed : parse (.value []) tokens = some document)
    (literals : ∀ content, .literal content ∈ tokens → Scanned content) {secret : List C}
    (member : secret ∈ secretValues document) :
    maskSensitiveBody numberText body = dumps numberText (maskJsonObj (dicts (document.map id maskForm))) := by
  obtain ⟨mark, rest, first, opens⟩ := container_of_secret parsed member
  have spells := spells_masked (spells_of_lex cut) (parse_atoms parsed) literals
  have head : tokens.map (Token.map id maskForm) = .mark mark :: rest.map (Token.map id maskForm) := by
    rw [first]
    rfl
  have looks : looksLikeJson (maskForm body) = true := looks_of_spells spells head opens
  have present : body.isEmpty = false := by
    cases body with
    | nil =>
        rw [← Option.some.inj cut] at first
        cases first
    | cons c rest => rfl
  unfold maskSensitiveBody loads
  rw [present, looks, readDocument_masked cut parsed literals]
  rfl

/-- Such a body is written because of public characters only. -/
theorem written_public (numberText : List Char → List Char) {body : List C} {tokens : List (Token C)}
    {document : Document C} (cut : lex .outside body = some tokens) (parsed : parse (.value []) tokens = some document)
    (literals : ∀ content, .literal content ∈ tokens → Scanned content) {secret : List C}
    (member : secret ∈ secretValues document) :
    ∀ c ∈ maskSensitiveBody numberText body, WrittenFrom (fun origin => origin ∈ publicChars document ∨ IsNew origin) c := by
  intro c written
  rw [maskSensitiveBody_container numberText cut parsed literals member] at written
  apply (dumps_written numberText _ c written).mono
  intro origin found
  have leaves : ∀ content, .literal content ∈ document.leaves →
      Scanned content ∧ LiteralState.plain.read content = .plain := by
    intro content leaf
    rw [parse_leaves parsed] at leaf
    have token := List.mem_of_mem_filter leaf
    exact ⟨literals content token, (spells_of_lex cut).literal_closed token⟩
  rcases mask_public _ origin found with shown | new
  · exact map_public document leaves origin (dicts_public _ origin shown)
  · exact .inr new

end Masking
end P3Portal.Audit
