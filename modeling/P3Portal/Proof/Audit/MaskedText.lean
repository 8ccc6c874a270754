import Mathlib.Data.Bool.AllAny
import P3Portal.Foundation.JsonSources
import P3Portal.Proof.Audit.FormFields

namespace P3Portal.Audit
open Foundation Json

section
variable {C : Type} [Annotated C]

/-- The marks of a document are characters of ASCII. -/
theorem markOf_ascii {character : Char} (found : (markOf character).isSome = true) : character.toNat < 128 := by
  unfold markOf at found
  split at found
  all_goals first | omega | cases found

/-- The delimiters are characters of ASCII. -/
theorem isDelimiter_ascii {character : Char} (delimiter : isDelimiter character = true) :
    character.toNat < 128 := by
  unfold isDelimiter isBlank isQuote at delimiter
  simp only [Bool.or_eq_true, decide_eq_true_eq] at delimiter
  rcases delimiter with (blank | mark) | quote
  · omega
  · exact markOf_ascii mark
  · omega

/-- No field starts at a blank, a mark or a quote. -/
theorem delimiter_free {character : Char} (delimiter : isDelimiter character = true) :
    startsField character = false := by
  have passes : ∀ code < 128, (!isDelimiter (Char.ofNat code) || !startsField (Char.ofNat code)) = true := by decide
  have passed := @ascii_all (fun character => !isDelimiter character || !startsField character) passes _
    (isDelimiter_ascii delimiter)
  simpa [delimiter] using passed

/-- No field starts with a blank. -/
theorem blank_free {character : Char} (blank : isBlank character = true) : startsField character = false := by
  apply delimiter_free
  unfold isDelimiter
  rw [blank]
  rfl

/-- No field starts with a mark. -/
theorem mark_free {character : Char} {mark : Mark} (found : markOf character = some mark) :
    startsField character = false := by
  apply delimiter_free
  unfold isDelimiter
  rw [found, Bool.or_eq_true, Bool.or_eq_true]
  exact .inl (.inr rfl)

/-- No field starts with a quote. -/
theorem quote_free {character : Char} (quote : isQuote character = true) : startsField character = false := by
  apply delimiter_free
  unfold isDelimiter
  rw [quote, Bool.or_true]

/-- A number is written with digits, signs, points and exponents. -/
def isNumberLetter (character : Char) : Bool := isDigit character || character ∈ ['+', '-', '.', 'e', 'E']

/-- No field starts with a letter of a number. -/
theorem number_letter_free {character : Char} (letter : isNumberLetter character = true) :
    startsField character = false := by
  have ascii : character.toNat < 128 := by
    unfold isNumberLetter isDigit at letter
    simp only [Bool.or_eq_true, Bool.and_eq_true, decide_eq_true_eq] at letter
    rcases letter with digit | sign
    · omega
    · have signs : ∀ sign ∈ ['+', '-', '.', 'e', 'E'], sign.toNat < 128 := List.all_iff_forall_prop.mp (by decide)
      exact signs character sign
  have passes : ∀ code < 128, (!isNumberLetter (Char.ofNat code) || !startsField (Char.ofNat code)) = true := by
    decide +kernel
  have passed := @ascii_all (fun character => !isNumberLetter character || !startsField character) passes _ ascii
  simpa [letter] using passed

/-- Digits are letters of numbers. -/
theorem digits_letters {digits : List Char} (all : digits.all isDigit = true) :
    ∀ letter ∈ digits, isNumberLetter letter = true := by
  intro letter member
  unfold isNumberLetter
  rw [List.all_eq_true.mp all letter member]
  rfl

/-- An exponent has letters of numbers only. -/
theorem exponent_letters {text : List Char} (exponent : isExponent text = true) :
    ∀ letter ∈ text, isNumberLetter letter = true := by
  cases text with
  | nil =>
      intro letter absent
      cases absent
  | cons sign rest =>
      unfold isExponent at exponent
      simp only [Bool.and_eq_true, Bool.or_eq_true, decide_eq_true_eq] at exponent
      obtain ⟨start, digits⟩ := exponent
      have first : isNumberLetter sign = true := by
        rcases start with same | same <;> rw [same] <;> decide
      have behind : ∀ letter ∈ rest, isNumberLetter letter = true := by
        split at digits
        · exact List.forall_mem_cons.mpr ⟨by decide, digits_letters digits.2⟩
        · exact List.forall_mem_cons.mpr ⟨by decide, digits_letters digits.2⟩
        · exact digits_letters digits.2
      exact List.forall_mem_cons.mpr ⟨first, behind⟩

/-- Digits in front of letters of numbers are letters of numbers. -/
theorem digits_then {text : List Char} (behind : ∀ letter ∈ text.dropWhile isDigit, isNumberLetter letter = true) :
    ∀ letter ∈ text, isNumberLetter letter = true := by
  intro letter member
  rw [← List.takeWhile_append_dropWhile (p := isDigit) (l := text)] at member
  rcases List.mem_append.mp member with digit | later
  · exact digits_letters List.all_takeWhile letter digit
  · exact behind letter later

/-- A fraction has letters of numbers only. -/
theorem fraction_letters {text : List Char} (fraction : isFraction text = true) :
    ∀ letter ∈ text, isNumberLetter letter = true := by
  unfold isFraction at fraction
  split at fraction
  · rw [Bool.and_eq_true] at fraction
    exact List.forall_mem_cons.mpr ⟨by decide, digits_then (exponent_letters fraction.2)⟩
  · exact exponent_letters fraction

/-- A number has letters of numbers only. -/
theorem number_letters {text : List Char} (number : isNumber text = true) :
    ∀ letter ∈ text, isNumberLetter letter = true := by
  unfold isNumber at number
  rw [Bool.and_eq_true] at number
  have fraction := digits_then (fraction_letters number.2)
  split at fraction
  · exact List.forall_mem_cons.mpr ⟨by decide, fraction⟩
  · exact fraction

/-- No field starts in a word of JSON. -/
theorem atom_free {text : List C} (atom : isAtom text = true) : ∀ c ∈ text, startsField (char c) = false := by
  intro c member
  unfold isAtom at atom
  rw [Bool.or_eq_true, decide_eq_true_eq] at atom
  have letter : char c ∈ text.map char := List.mem_map_of_mem member
  rcases atom with word | number
  · have none : (words.all fun word => word.all fun letter => !startsField letter) = true := by decide
    have free : ∀ word ∈ words, ∀ letter ∈ word, startsField letter = false := by
      simpa only [List.all_eq_true, Bool.not_eq_true'] using none
    exact free _ word _ letter
  · exact number_letter_free (number_letters number _ letter)

/-- A character behind the marks leaves a literal plain. -/
theorem next_plain {character : Char} (code : 93 ≤ character.toNat) : LiteralState.plain.next character = .plain := by
  unfold LiteralState.next isBackslash isQuote
  rw [decide_eq_false (by omega), decide_eq_false (by omega), decide_eq_false (by omega)]
  rfl

/-- The letters of a keyword are written as they are. -/
theorem keyword_plain {wanted : List Char} (listed : wanted ∈ formKeywords) {letter character : Char}
    (member : letter ∈ wanted) (same : caseless letter character = true) :
    LiteralState.plain.next character = .plain := by
  by_cases small : character.toNat < 93
  · have every : (formKeywords.all fun wanted => wanted.all fun letter => (List.range 93).all fun code =>
        !caseless letter (Char.ofNat code) || decide (LiteralState.plain.next (Char.ofNat code) = .plain)) = true := by
      decide +kernel
    have passes : ∀ wanted ∈ formKeywords, ∀ letter ∈ wanted, ∀ code < 93,
        caseless letter (Char.ofNat code) = true → LiteralState.plain.next (Char.ofNat code) = .plain := by
      intro wanted listed letter member code small same
      simp only [List.all_eq_true, List.mem_range, Bool.or_eq_true, Bool.not_eq_true', decide_eq_true_eq] at every
      exact (every wanted listed letter member code small).resolve_left (ne_false_of_eq_true same)
    have passed := passes wanted listed letter member character.toNat small
    rw [Char.ofNat_toNat] at passed
    exact passed same
  · exact next_plain (Nat.le_of_not_lt small)

/-- Plain characters leave a literal plain. -/
theorem read_plain {content : List C} (plain : ∀ c ∈ content, LiteralState.plain.next (char c) = .plain) :
    LiteralState.plain.read content = .plain := by
  induction content with
  | nil => rfl
  | cons c rest ih =>
      show (LiteralState.plain.next (char c)).read rest = .plain
      rw [plain c List.mem_cons_self]
      exact ih fun c member => plain c (List.mem_cons_of_mem _ member)

/-- The characters of a fresh text are those of the text. -/
theorem mem_fresh {c : C} {text : List Char} (member : c ∈ fresh text) : char c ∈ text := by
  obtain ⟨letter, listed, same⟩ := List.mem_map.mp member
  rw [← same, Annotated.char_write]
  exact listed

/-- The replacement leaves a literal plain. -/
theorem redacted_plain : ∀ c ∈ (fresh "=<redacted>".toList : List C), LiteralState.plain.next (char c) = .plain := by
  intro c member
  have plain : ∀ letter ∈ "=<redacted>".toList, LiteralState.plain.next letter = .plain :=
    List.all_iff_forall_prop.mp (by decide)
  exact plain _ (mem_fresh member)

/-- A field starts between characters of a literal. -/
theorem field_between {state : LiteralState} {c : C} {rest : List C} (closed : state.read (c :: rest) = .plain)
    (found : formFieldAt (c :: rest) ≠ none) : state = .plain := by
  apply plain_of_next (next_of_closed closed)
  have starts : startsField (char c) = true := by
    by_contra other
    exact found (formFieldAt_free (Bool.eq_false_iff.mpr other) rest)
  have passes : ∀ code < 128, (!isEscapeLetter (Char.ofNat code) || !startsField (Char.ofNat code)) = true := by
    decide
  apply Bool.eq_false_iff.mpr
  intro letter
  have passed := @ascii_all (fun character => !isEscapeLetter character || !startsField character) passes _
    (isEscapeLetter_ascii letter)
  simp [letter, starts] at passed

/-- A field ends between characters of a literal. -/
theorem ends_between {state : LiteralState} {c : C} {rest : List C} (closed : state.read (c :: rest) = .plain)
    (ends : isValueAt c = false) : state = .plain := by
  apply plain_of_next (next_of_closed closed)
  unfold isValueAt isSpaceAt at ends
  have passes : ∀ code < 128, (!isEscapeLetter (Char.ofNat code) ||
      !(Char.ofNat code = '&' || Text.isSpace (Char.ofNat code))) = true := by
    decide
  apply Bool.eq_false_iff.mpr
  intro letter
  have passed := @ascii_all (fun character => !isEscapeLetter character ||
    !(character = '&' || Text.isSpace character)) passes _ (isEscapeLetter_ascii letter)
  rw [letter, ends] at passed
  cases passed

/-- A masked literal is a literal. -/
theorem Scanned.closed {content : List C} (scanned : Scanned content) {state : LiteralState}
    (closed : state.read content = .plain) : state.read (maskForm content) = .plain := by
  induction scanned generalizing state with
  | nil => exact closed
  | @keep c rest free _ _ ih =>
      rw [maskForm_keep free]
      exact ih closed
  | @field c rest keyword behind found ends _ ih =>
      have between : state = .plain := by
        apply field_between closed
        rw [found]
        exact Option.some_ne_none _
      obtain ⟨value, middle, start, rfl, split, _⟩ := formFieldAt_split found
      obtain ⟨wanted, _, _, _, listed, _, _, _, letters⟩ := fieldAt_split start
      have plain : ∀ c ∈ keyword, LiteralState.plain.next (char c) = .plain := by
        intro c member
        obtain ⟨letter, inside, same⟩ := letters c member
        exact keyword_plain listed inside same
      have left : value.dropWhile isValueAt ≠ [] := ends _ start
      have last : isValueAt ((value.dropWhile isValueAt).head left) = false := List.head_dropWhile_not isValueAt left
      rw [between, split, LiteralState.read_append] at closed
      have behind_closed : LiteralState.plain.read (value.dropWhile isValueAt) = .plain := by
        rw [← List.cons_head_tail left] at closed ⊢
        rw [ends_between closed last] at closed
        exact closed
      rw [between, maskForm_field found, LiteralState.read_append, LiteralState.read_append, read_plain plain,
        read_plain redacted_plain]
      exact ih behind_closed

section Bodies
variable {body : List C} {tokens : List (Token C)}

/-- A character that starts no field stays. -/
theorem maskForm_cons {c : C} (other : startsField (char c) = false) (rest : List C) :
    maskForm (c :: rest) = c :: maskForm rest := maskForm_keep (formFieldAt_free other rest)

/-- A text that ends a word still ends it when it is masked. -/
theorem ends_word_masked {text : List C} (ends : EndsWord text) : EndsWord (maskForm text) := by
  cases text with
  | nil => exact ends
  | cons c rest =>
      rw [maskForm_cons (delimiter_free (ends c rfl))]
      exact ends

/-- A body whose fields end inside of their literals keeps its tokens. -/
theorem spells_masked (spells : Spells body tokens) (atoms : ∀ text, .atom text ∈ tokens → isAtom text = true)
    (literals : ∀ content, .literal content ∈ tokens → Scanned content) :
    Spells (maskForm body) (tokens.map (Token.map id maskForm)) := by
  induction spells with
  | nil => exact .nil
  | blank blank _ ih =>
      rw [maskForm_cons (blank_free blank)]
      exact .blank blank (ih atoms literals)
  | mark blank found _ ih =>
      rw [maskForm_cons (mark_free found)]
      exact .mark blank found (ih (fun text member => atoms text (List.mem_cons_of_mem _ member))
        fun content member => literals content (List.mem_cons_of_mem _ member))
  | @literal first last content text tokens opens closes closed _ ih =>
      have scanned := literals content List.mem_cons_self
      have later := ih (fun text member => atoms text (List.mem_cons_of_mem _ member))
        fun content member => literals content (List.mem_cons_of_mem _ member)
      show Spells (maskForm (first :: (content ++ last :: text))) _
      rw [maskForm_cons (quote_free opens), scanned.quote closes, maskForm_cons (quote_free closes)]
      exact .literal opens closes (scanned.closed closed) later
  | @atom word text tokens present whole ends _ ih =>
      have later := ih (fun text member => atoms text (List.mem_cons_of_mem _ member))
        fun content member => literals content (List.mem_cons_of_mem _ member)
      rw [maskForm_free (atom_free (atoms word List.mem_cons_self))]
      exact .atom present whole (ends_word_masked ends) later

/-- The words of a text that is read are words of JSON. -/
theorem parse_atoms {state : ParseState C} {document : Document C} (parsed : parse state tokens = some document) :
    ∀ text, .atom text ∈ tokens → isAtom text = true := by
  induction tokens generalizing state with
  | nil =>
      intro text absent
      cases absent
  | cons token rest ih =>
      obtain ⟨next, step, later⟩ := Option.bind_eq_some_iff.mp parsed
      intro text member
      rcases List.mem_cons.mp member with here | behind
      · rw [← here] at step
        cases state with
        | value frames => exact (startValue_atom step).1
        | firstItem frames =>
            have starts : startValue (.array [] :: frames) (.atom text) = some next := step
            exact (startValue_atom starts).1
        | firstKey frames => cases step
        | key frames members => cases step
        | colon frames members name => cases step
        | done frames result => cases step
      · exact ih later text behind

/-- Such a body is read as before, with its literals masked. -/
theorem readDocument_masked {document : Document C} (cut : lex .outside body = some tokens)
    (parsed : parse (.value []) tokens = some document)
    (literals : ∀ content, .literal content ∈ tokens → Scanned content) :
    readDocument (maskForm body) = some (document.map id maskForm) := by
  have spells := spells_masked (spells_of_lex cut) (parse_atoms parsed) literals
  have same : parse (.value []) (tokens.map (Token.map id maskForm)) =
      (parse (.value []) tokens).map (Document.map id maskForm) := parse_map (fun text => rfl) (.value []) tokens
  unfold readDocument
  rw [spells.lex, Option.bind_some]
  exact same.trans (congrArg (Option.map _) parsed)

end Bodies
end

section
variable {C : Type} [Annotated C]

mutual

/-- The characters of a document that stand outside of the values of its secret keys. -/
def publicChars : Document C → List C
  | .atom text => text
  | .literal content => content
  | .array items => publicItems items
  | .object members => publicMembers members

def publicItems : List (Document C) → List C
  | [] => []
  | item :: rest => publicChars item ++ publicItems rest

def publicMembers : List (List C × Document C) → List C
  | [] => []
  | (key, value) :: rest => key ++ (if isSecretKey key then [] else publicChars value) ++ publicMembers rest

end

/-- A character that no other one caused. -/
def IsNew (c : C) : Prop := ∃ letter, c = write [] letter

/-- The characters of a fresh text are new. -/
theorem mem_fresh_new {c : C} {text : List Char} (member : c ∈ fresh text) : IsNew c := by
  obtain ⟨letter, _, same⟩ := List.mem_map.mp member
  exact ⟨letter, same.symm⟩

/-- A public character of a list is one of an item. -/
theorem mem_publicItems {items : List (Document C)} {c : C} :
    c ∈ publicItems items ↔ ∃ item ∈ items, c ∈ publicChars item := by
  induction items with
  | nil =>
      show c ∈ [] ↔ _
      simp
  | cons item rest ih =>
      show c ∈ publicChars item ++ publicItems rest ↔ _
      rw [List.mem_append, ih]
      simp

/-- A public character of an object is one of a key or of the value of a public key. -/
theorem mem_publicMembers {members : List (List C × Document C)} {c : C} :
    c ∈ publicMembers members ↔
      ∃ member ∈ members, c ∈ member.1 ∨ isSecretKey member.1 = false ∧ c ∈ publicChars member.2 := by
  induction members with
  | nil =>
      show c ∈ [] ↔ _
      simp
  | cons member rest ih =>
      show c ∈ member.1 ++ (if isSecretKey member.1 then [] else publicChars member.2) ++ publicMembers rest ↔ _
      rw [List.mem_append, List.mem_append, ih]
      cases secret : isSecretKey member.1 with
      | true => simp [secret]
      | false => simp [secret]

/-- Each item of a list is masked. -/
theorem maskItems_eq (items : List (Document C)) : maskItems items = items.map maskJsonObj := by
  induction items with
  | nil => rfl
  | cons item rest ih => exact congrArg (maskJsonObj item :: ·) ih

/-- What replaces the value of a member. -/
def maskedValue (member : List C × Document C) : Document C :=
  if isSecretKey member.1 then .literal (fresh "<redacted>".toList) else maskJsonObj member.2

/-- Each member of an object keeps its key. -/
theorem maskMembers_eq (members : List (List C × Document C)) :
    maskMembers members = members.map fun member => (member.1, maskedValue member) := by
  induction members with
  | nil => rfl
  | cons member rest ih => exact congrArg ((member.1, maskedValue member) :: ·) ih

/-- What is left of a document when its secret keys are masked is public. -/
theorem mask_public (document : Document C) :
    ∀ c ∈ (maskJsonObj document).chars, c ∈ publicChars document ∨ IsNew c := by
  induction document using Document.induct with
  | atom text =>
      intro c member
      rw [maskJsonObj, Document.chars_atom] at member
      exact .inl member
  | literal content =>
      intro c member
      rw [maskJsonObj, Document.chars_literal] at member
      exact .inl member
  | array items ih =>
      intro c member
      rw [maskJsonObj, Document.chars_array, maskItems_eq, List.flatMap_map] at member
      obtain ⟨item, listed, inside⟩ := List.mem_flatMap.mp member
      exact (ih item listed c inside).imp_left fun found => mem_publicItems.mpr ⟨item, listed, found⟩
  | object members ih =>
      intro c member
      rw [maskJsonObj, Document.chars_object, maskMembers_eq, List.flatMap_map] at member
      obtain ⟨entry, listed, inside⟩ := List.mem_flatMap.mp member
      have public_of : c ∈ entry.1 ∨ isSecretKey entry.1 = false ∧ c ∈ publicChars entry.2 →
          c ∈ publicChars (.object members) := fun found => mem_publicMembers.mpr ⟨entry, listed, found⟩
      rcases List.mem_append.mp inside with key | value
      · exact .inl (public_of (.inl key))
      · unfold maskedValue at value
        split at value
        · rw [Document.chars_literal] at value
          exact .inr (mem_fresh_new value)
        · rename_i other
          have plain := Bool.eq_false_iff.mpr other
          exact (ih entry listed c value).imp_left fun found => public_of (.inr ⟨plain, found⟩)

/-- Keys of the same spelling are secret alike. -/
theorem isSecretKey_spelled {first second : List C} (same : spelled first = spelled second) :
    isSecretKey first = isSecretKey second := by
  unfold isSecretKey
  rw [same]

/-- A member that is added brings its own public characters only. -/
theorem addMember_public {members : List (List C × Document C)} {entry : List C × Document C} {c : C}
    (member : c ∈ publicMembers (addMember members entry)) : c ∈ publicMembers members ∨ c ∈ publicMembers [entry] := by
  unfold addMember at member
  split at member
  · obtain ⟨replaced, listed, found⟩ := mem_publicMembers.mp member
    obtain ⟨stored, known, same⟩ := List.mem_map.mp listed
    split at same
    · rename_i name
      have secret := isSecretKey_spelled name
      rw [← same] at found
      rcases found with key | ⟨plain, value⟩
      · exact .inl (mem_publicMembers.mpr ⟨stored, known, .inl key⟩)
      · exact .inr (mem_publicMembers.mpr ⟨entry, List.mem_cons_self, .inr ⟨secret ▸ plain, value⟩⟩)
    · rw [← same] at found
      exact .inl (mem_publicMembers.mpr ⟨stored, known, found⟩)
  · obtain ⟨stored, listed, found⟩ := mem_publicMembers.mp member
    rcases List.mem_append.mp listed with old | new
    · exact .inl (mem_publicMembers.mpr ⟨stored, old, found⟩)
    · exact .inr (mem_publicMembers.mpr ⟨stored, new, found⟩)

/-- The same holds for all members that are added. -/
theorem addMembers_public {members entries : List (List C × Document C)} {c : C}
    (member : c ∈ publicMembers (entries.foldl addMember members)) :
    c ∈ publicMembers members ∨ c ∈ publicMembers entries := by
  induction entries generalizing members with
  | nil => exact .inl member
  | cons entry rest ih =>
      have whole : ∀ {part : List (List C × Document C)}, part ⊆ entry :: rest → c ∈ publicMembers part →
          c ∈ publicMembers (entry :: rest) := by
        intro part inside found
        obtain ⟨stored, listed, known⟩ := mem_publicMembers.mp found
        exact mem_publicMembers.mpr ⟨stored, inside listed, known⟩
      rcases ih member with added | later
      · rcases addMember_public added with before | new
        · exact .inl before
        · exact .inr (whole (by simp) new)
      · exact .inr (whole (List.subset_cons_self _ _) later)

/-- A dictionary has no other public characters than the object that it is read from. -/
theorem dicts_public (document : Document C) : ∀ c ∈ publicChars (dicts document), c ∈ publicChars document := by
  induction document using Document.induct with
  | atom text => exact fun c member => member
  | literal content => exact fun c member => member
  | array items ih =>
      intro c member
      have member : c ∈ publicItems (dictsItems items) := member
      rw [dictsItems_eq] at member
      obtain ⟨item, listed, found⟩ := mem_publicItems.mp member
      obtain ⟨origin, known, same⟩ := List.mem_map.mp listed
      rw [← same] at found
      exact mem_publicItems.mpr ⟨origin, known, ih origin known c found⟩
  | object members ih =>
      intro c member
      have member : c ∈ publicMembers ((dictsMembers members).foldl addMember []) := member
      rcases addMembers_public member with nothing | found
      · cases nothing
      · rw [dictsMembers_eq] at found
        obtain ⟨entry, listed, found⟩ := mem_publicMembers.mp found
        obtain ⟨origin, known, same⟩ := List.mem_map.mp listed
        rw [← same] at found
        have inside := found.imp_right fun value => And.intro value.1 (ih origin known c value.2)
        exact mem_publicMembers.mpr ⟨origin, known, inside⟩
end
end P3Portal.Audit
