import P3Portal.Foundation.JsonSources
import P3Portal.Proof.Audit.HiddenSecrets

namespace P3Portal.Audit
open Foundation Json

section Erasure
variable {C D : Type} [Annotated C] [Annotated D] {erase : C → D}

theorem isSpaceAt_erase (erases : Erases erase) : isSpaceAt ∘ erase = isSpaceAt := by
  funext c
  exact congrArg Text.isSpace (erases.char_same c)

theorem isValueAt_erase (erases : Erases erase) : isValueAt ∘ erase = isValueAt := by
  have space := isSpaceAt_erase erases
  funext c
  show (!(char (erase c) = '&' || (isSpaceAt ∘ erase) c)) = _
  rw [erases.char_same, space]
  rfl

/-- A keyword is found in the erased text as well. -/
theorem behindKeyword_erase (erases : Erases erase) (keyword : List Char) (text : List C) :
    behindKeyword keyword (text.map erase) = (behindKeyword keyword text).map (List.map erase) := by
  induction keyword generalizing text with
  | nil => cases text <;> rfl
  | cons wanted keyword ih =>
      cases text with
      | nil => rfl
      | cons c rest =>
          rw [List.map_cons, behindKeyword, behindKeyword, erases.char_same, ih]
          split
          · rfl
          · rfl

/-- An equals sign is found in the erased text as well. -/
theorem behindSign_erase (erases : Erases erase) (text : List C) :
    behindSign (text.map erase) = (behindSign text).map (List.map erase) := by
  unfold behindSign
  rw [List.dropWhile_map, isSpaceAt_erase erases]
  cases text.dropWhile isSpaceAt with
  | nil => rfl
  | cons sign value =>
      show (if char (erase sign) = '=' then some ((value.map erase).dropWhile isSpaceAt) else none) =
        Option.map (List.map erase) (if char sign = '=' then some (value.dropWhile isSpaceAt) else none)
      rw [List.dropWhile_map, isSpaceAt_erase erases, erases.char_same]
      split
      · rfl
      · rfl

/-- Parts of a text without their notes. -/
def erasedPair (erase : C → D) (pair : List C × List C) : List D × List D := (pair.1.map erase, pair.2.map erase)

/-- A field is found in the erased text as well. -/
theorem fieldAt_erase (erases : Erases erase) (text : List C) :
    fieldAt (text.map erase) = (fieldAt text).map (erasedPair erase) := by
  unfold fieldAt
  rw [List.map_findSome?]
  apply findSome_same
  intro keyword _
  dsimp only [Function.comp_apply]
  rw [behindKeyword_erase erases]
  cases behindKeyword keyword text with
  | none => rfl
  | some behind =>
      show (behindSign (behind.map erase)).map _ = ((behindSign behind).map _).map _
      rw [behindSign_erase erases, Option.map_map, Option.map_map, ← List.map_take]
      rfl

/-- A field of a form is found in the erased text as well. -/
theorem formFieldAt_erase (erases : Erases erase) (text : List C) :
    formFieldAt (text.map erase) = (formFieldAt text).map (erasedPair erase) := by
  unfold formFieldAt
  rw [fieldAt_erase erases]
  cases fieldAt text with
  | none => rfl
  | some field =>
      show (if ((field.2.map erase).takeWhile isValueAt).isEmpty then none
        else some (field.1.map erase, (field.2.map erase).dropWhile isValueAt)) =
        (if (field.2.takeWhile isValueAt).isEmpty then none else some (field.1, field.2.dropWhile isValueAt)).map _
      rw [List.takeWhile_map, List.dropWhile_map, isValueAt_erase erases, List.isEmpty_map]
      split
      · rfl
      · rfl

/-- Masking goes on in the erased text as well. -/
theorem maskFrom_erase (erases : Erases erase) (skip : Nat) (text : List C) :
    maskFrom skip (text.map erase) = (maskFrom skip text).map erase := by
  induction text generalizing skip with
  | nil => cases skip <;> rfl
  | cons c rest ih =>
      cases skip with
      | succ skip => exact ih skip
      | zero =>
          have fields := formFieldAt_erase erases (c :: rest)
          show maskForm (erase c :: rest.map erase) = (maskForm (c :: rest)).map erase
          cases found : formFieldAt (c :: rest) with
          | none =>
              rw [found] at fields
              rw [maskForm_keep fields, maskForm_keep found, List.map_cons]
              exact congrArg _ (ih 0)
          | some field =>
              rw [found] at fields
              have later := ih (rest.length - field.2.length)
              rw [maskFrom_drop, maskFrom_drop, ← List.map_drop, (formFieldAt_behind found).1] at later
              rw [maskForm_field fields, maskForm_field found, later, ← fresh_erase erases, ← List.map_append,
                ← List.map_append]

/-- Fields end in the erased text as well. -/
theorem fieldsEndFrom_erase (erases : Erases erase) (skip : Nat) (text : List C) :
    fieldsEndFrom skip (text.map erase) = fieldsEndFrom skip text := by
  induction text generalizing skip with
  | nil => cases skip <;> rfl
  | cons c rest ih =>
      cases skip with
      | succ skip => exact ih skip
      | zero =>
          have starts := fieldAt_erase erases (c :: rest)
          have fields := formFieldAt_erase erases (c :: rest)
          have ends : (fun field : List C × List C => !((field.2.map erase).dropWhile isValueAt).isEmpty) =
              fun field => !(field.2.dropWhile isValueAt).isEmpty := by
            funext field
            rw [List.dropWhile_map, isValueAt_erase erases, List.isEmpty_map]
          rw [List.map_cons] at starts fields ⊢
          rw [fieldsEndFrom_cons, fieldsEndFrom_cons, starts, fields, Option.all_map]
          congr 1
          · exact congrArg (fun test => (fieldAt (c :: rest)).all test) ends
          · cases formFieldAt (c :: rest) with
            | none => exact ih 0
            | some field =>
                show fieldsEndFrom ((rest.map erase).length - (field.2.map erase).length) (rest.map erase) = _
                rw [List.length_map, List.length_map, ih]
                rfl

/-- A key is secret in the erased text as well. -/
theorem isSecretKey_erase (erases : Erases erase) (key : List C) :
    isSecretKey (key.map erase) = isSecretKey key := by
  unfold isSecretKey
  rw [spelled_erase erases]

/-- A document is masked in the erased text as well. -/
theorem maskJsonObj_erase (erases : Erases erase) (document : Document C) :
    maskJsonObj (document.erased erase) = (maskJsonObj document).erased erase := by
  induction document using Document.induct with
  | atom text => rfl
  | literal content => rfl
  | array items ih =>
      show Document.array (maskItems (mapItems _ _ items)) = .array (mapItems _ _ (maskItems items))
      rw [maskItems_eq, mapItems_eq, mapItems_eq, maskItems_eq, List.map_map, List.map_map]
      congr 1
      exact List.map_congr_left ih
  | object members ih =>
      show Document.object (maskMembers (mapMembers _ _ members)) = .object (mapMembers _ _ (maskMembers members))
      rw [maskMembers_eq, mapMembers_eq, mapMembers_eq, maskMembers_eq, List.map_map, List.map_map]
      congr 1
      apply List.map_congr_left
      intro member listed
      have value : maskedValue (erasedMember erase member) = (maskedValue member).erased erase := by
        unfold maskedValue erasedMember
        rw [isSecretKey_erase erases]
        split
        · rw [← fresh_erase erases]
          rfl
        · exact ih member listed
      exact Prod.ext rfl value

/-- A text looks like a document when its erased text does. -/
theorem looksLikeJson_erase (erases : Erases erase) (text : List C) :
    looksLikeJson (text.map erase) = looksLikeJson text := by
  unfold looksLikeJson
  rw [List.dropWhile_map, isSpaceAt_erase erases]
  cases text.dropWhile isSpaceAt with
  | nil => rfl
  | cons c rest =>
      show Option.any _ (markOf (char (erase c))) = Option.any _ (markOf (char c))
      rw [erases.char_same]

/-- A body is masked in the same way with and without notes. -/
theorem maskSensitiveBody_erase (erases : Erases erase) (numberText : List Char → List Char) (body : List C) :
    maskSensitiveBody numberText (body.map erase) = (maskSensitiveBody numberText body).map erase := by
  have masked : maskForm (body.map erase) = (maskForm body).map erase := maskFrom_erase erases 0 body
  have read : loads ((maskForm body).map erase) = (loads (maskForm body)).map (Document.erased erase) := by
    unfold loads
    rw [readDocument_erase erases, Option.map_map, Option.map_map]
    congr 1
    funext document
    exact dicts_erase erases document
  unfold maskSensitiveBody
  rw [List.isEmpty_map, masked, looksLikeJson_erase erases, read]
  split
  · rfl
  · split
    · cases loads (maskForm body) with
      | none => rfl
      | some data =>
          show dumps numberText (maskJsonObj (data.erased erase)) = (dumps numberText (maskJsonObj data)).map erase
          rw [maskJsonObj_erase erases, dumps_erase numberText erases]
    · rfl

end Erasure

section Numbered

/-- Each character of a body with its place. -/
def numbered (body : List Char) : List Traced := body.zipIdx.map fun entry => (entry.1, [entry.2])

/-- Numbers do not change the characters. -/
theorem numbered_char (body : List Char) : (numbered body).map char = body := by
  unfold numbered
  rw [List.map_map]
  exact List.zipIdx_map_fst 0 body

/-- The run with places writes the text of the run without them. -/
theorem numbered_output (numberText : List Char → List Char) (body : List Char) :
    (maskSensitiveBody numberText (numbered body)).map char = maskSensitiveBody numberText body := by
  rw [← maskSensitiveBody_erase erases_char, numbered_char]

/-- Numbered characters are all different. -/
theorem numbered_nodup (body : List Char) : (numbered body).Nodup := by
  have places : ((numbered body).map Prod.snd).Nodup := by
    unfold numbered
    rw [List.map_map]
    have numbers : (body.zipIdx.map Prod.snd).Nodup := by
      rw [List.zipIdx_map_snd]
      exact List.nodup_range'
    have single := numbers.map (f := fun place => [place]) fun first second same => List.cons.inj same |>.1
    rwa [List.map_map] at single
  exact places.of_map _

/-- Each place belongs to one character. -/
theorem numbered_place {body : List Char} {first second : Traced} (left : first ∈ numbered body)
    (right : second ∈ numbered body) {place : Nat} (here : place ∈ first.2) (there : place ∈ second.2) :
    first = second := by
  obtain ⟨entry, listed, rfl⟩ := List.mem_map.mp left
  obtain ⟨other, known, rfl⟩ := List.mem_map.mp right
  have same : entry.2 = other.2 := (List.mem_singleton.mp here).symm.trans (List.mem_singleton.mp there)
  have letter := List.mem_zipIdx_iff_getElem?.mp listed
  have sign := List.mem_zipIdx_iff_getElem?.mp known
  rw [same] at letter
  have equal := Option.some.inj (letter.symm.trans sign)
  rw [same, equal]

/-- No character of the output comes from a string that stands under a secret key of the body. -/
def SecretsHidden (numberText : List Char → List Char) (body : List Char) : Prop :=
  ∀ document ∈ readDocument (numbered body), ∀ secret ∈ secretValues document, ∀ c ∈ secret,
    ∀ written ∈ maskSensitiveBody numberText (numbered body), ∀ place ∈ c.2, place ∉ written.2

instance (numberText : List Char → List Char) (body : List Char) : Decidable (SecretsHidden numberText body) :=
  inferInstanceAs (Decidable (∀ document ∈ readDocument (numbered body), ∀ secret ∈ secretValues document,
    ∀ c ∈ secret, ∀ written ∈ maskSensitiveBody numberText (numbered body), ∀ place ∈ c.2, place ∉ written.2))

def Token.content? {C : Type} : Token C → Option (List C)
  | .literal content => some content
  | _ => none

/-- The string literals of a text. -/
def literals {C : Type} [Annotated C] (text : List C) : List (List C) :=
  ((lex .outside text).getD []).filterMap Token.content?

/-- The literals of a text are those of its tokens. -/
theorem mem_literals {C : Type} [Annotated C] {text : List C} {tokens : List (Token C)}
    (cut : lex .outside text = some tokens) {content : List C} (member : .literal content ∈ tokens) :
    content ∈ literals text := by
  unfold literals
  rw [cut]
  exact List.mem_filterMap.mpr ⟨_, member, rfl⟩

/-- The literals of the erased text are the erased ones. -/
theorem literals_erase {C D : Type} [Annotated C] [Annotated D] {erase : C → D} (erases : Erases erase)
    (text : List C) : literals (text.map erase) = (literals text).map (List.map erase) := by
  have cut := lex_erase erases .outside text
  unfold literals
  rw [show lex .outside (text.map erase) = _ from cut]
  cases lex .outside text with
  | none => rfl
  | some tokens =>
      show (tokens.map (Token.erased erase)).filterMap Token.content? = (tokens.filterMap Token.content?).map _
      rw [List.filterMap_map, List.map_filterMap]
      congr 1
      funext token
      cases token <;> rfl

/-- Secrets stay out of the output when each form field of a string ends before the string does. -/
theorem secrets_hidden (numberText : List Char → List Char) (body : List Char)
    (ends : ∀ content ∈ literals body, fieldsEnd content = true) : SecretsHidden numberText body := by
  intro document read secret member c inside written output place here there
  obtain ⟨tokens, cut, parsed⟩ := Option.bind_eq_some_iff.mp read
  have scanned : ∀ content, .literal content ∈ tokens → Scanned content := by
    intro content token
    apply scanned_of_fieldsEnd
    have same := literals_erase erases_char (numbered body)
    rw [numbered_char] at same
    have known : fieldsEnd (content.map char) = true := by
      apply ends
      rw [same]
      exact List.mem_map_of_mem (mem_literals cut token)
    have unchanged : fieldsEnd (content.map char) = fieldsEnd content := fieldsEndFrom_erase erases_char 0 content
    rw [← unchanged]
    exact known
  have sublist : List.Sublist document.chars (numbered body) := by
    unfold Document.chars
    rw [parse_leaves parsed]
    show List.Sublist ((tokens.filter Token.isLeaf).flatMap Token.chars) _
    rw [chars_filter]
    exact (spells_of_lex cut).sublist
  have strings := stringValues_chars document secret (secretValues_strings document secret member)
  obtain ⟨sources, character, rfl, origins⟩ := written_public numberText cut parsed scanned member written output
  obtain ⟨origin, listed, caused⟩ := List.mem_flatMap.mp there
  rcases origins origin listed with shown | ⟨letter, new⟩
  · have known := sublist.subset (publicChars_chars document origin shown)
    have same := numbered_place (sublist.subset (strings c inside)) known here caused
    rw [← same] at shown
    exact secret_not_public document ((numbered_nodup body).sublist sublist) secret member c inside shown
  · rw [new] at caused
    cases caused

/-- A document with a secret and a note that ends with a field. -/
theorem secrets_hidden_ending :
    (∀ content ∈ literals "\x7b\"note\": \"password=x y\", \"token\": \"s3cr3t\"\x7d".toList, fieldsEnd content = true) ∧
      SecretsHidden id "\x7b\"note\": \"password=x y\", \"token\": \"s3cr3t\"\x7d".toList :=
  ⟨by decide +kernel, secrets_hidden id _ (by decide +kernel)⟩

/-- A field at the end of one string takes the quote with it, and the token is written as it is. -/
theorem token_written :
    (readDocument "\x7b\"note\": \"password=x\", \"token\": \"s3cr3t\"\x7d".toList).isSome = true ∧
      maskSensitiveBody id "\x7b\"note\": \"password=x\", \"token\": \"s3cr3t\"\x7d".toList =
        "\x7b\"note\": \"password=<redacted> \"token\": \"s3cr3t\"\x7d".toList ∧
      ¬ SecretsHidden id "\x7b\"note\": \"password=x\", \"token\": \"s3cr3t\"\x7d".toList := by
  decide +kernel

end Numbered
end P3Portal.Audit
