import P3Portal.Construction.Help.Sanitizer
import P3Portal.Foundation.Markup
import P3Portal.Foundation.Outcome
import P3Portal.Foundation.TextFields

namespace P3Portal.Help
open Foundation Regex Markup

section Classes

/-- A symbol runs over itself. -/
theorem spans_symbol (c : Char) (before : Option Char) (rest : List Char) :
    (symbol c).Spans ⟨before, c :: rest⟩ ⟨some c, rest⟩ := ⟨c, rest, rfl, decide_eq_true rfl, rfl⟩

/-- A blank is white space for Python. -/
theorem isSpace_of_isBlank {c : Char} (blank : isBlank c = true) : Text.isSpace c = true := by
  simp only [isBlank, Bool.or_eq_true, decide_eq_true_eq] at blank
  rcases blank with (((rfl | rfl) | rfl) | rfl) | rfl <;> decide

/-- Spaces of a pattern run over any white space. -/
theorem spans_spaces {gap : List Char} (blank : ∀ c ∈ gap, Text.isSpace c = true) (before : Option Char)
    (rest : List Char) : spaces.Spans ⟨before, gap ++ rest⟩ ⟨gap.getLast?.or before, rest⟩ :=
  spans_many blank before rest

/-- Spaces of a pattern run over blanks. -/
theorem spans_blanks {gap : List Char} (blank : Blank gap) (before : Option Char) (rest : List Char) :
    spaces.Spans ⟨before, gap ++ rest⟩ ⟨gap.getLast?.or before, rest⟩ :=
  spans_spaces (fun c member => isSpace_of_isBlank (blank c member)) before rest

/-- A word is found in any case of its letters. -/
theorem spans_letters {word : String} {name : List Char} (same : lowered name = word.toList) (before : Option Char)
    (rest : List Char) : (letters word).Spans ⟨before, name ++ rest⟩ ⟨name.getLast?.or before, rest⟩ := by
  apply spans_word
  rw [← same, lowered, List.map_map]
  clear same
  induction name with
  | nil => exact .nil
  | cons c name ih =>
      refine .cons ?_ ih
      simp [ignoreCase]

/-- A repeated class runs over a word of its characters. -/
theorem spans_plus {accepts : Char → Bool} {c : Char} {word : List Char} (first : accepts c = true)
    (accepted : ∀ d ∈ word, accepts d = true) (before : Option Char) (rest : List Char) :
    (Pattern.plus (.one accepts)).Spans ⟨before, c :: (word ++ rest)⟩ ⟨word.getLast?.or (some c), rest⟩ :=
  ⟨⟨some c, word ++ rest⟩, ⟨c, word ++ rest, rfl, first, rfl⟩, spans_many accepted (some c) rest⟩

end Classes

/-- The word characters of ASCII are its letters, its digits and the underscore. -/
def WordOnAscii (tables : UnicodeTables) : Prop :=
  ∀ c : Char, c.toNat < 128 → tables.isWord c = (c.isAlphanum || c = '_')

section Words
variable {tables : UnicodeTables}

/-- A letter is a character of a word. -/
theorem WordOnAscii.letter (ascii : WordOnAscii tables) {c : Char} (letter : c.isAlpha = true) :
    tables.isWord c = true := by
  have word : c.isAlphanum = true := by
    rw [Char.isAlphanum, letter]
    rfl
  have bounds := Text.alphanum_bounds word
  rw [ascii c (by omega), word]
  rfl

/-- What ends the name of a tag is no character of a word. -/
theorem WordOnAscii.endsName (ascii : WordOnAscii tables) {c : Char} (stops : endsName c = true) :
    tables.isWord c = false := by
  simp only [Markup.endsName, isBlank, Bool.or_eq_true, decide_eq_true_eq] at stops
  rcases stops with (((((rfl | rfl) | rfl) | rfl) | rfl) | rfl) | rfl <;> exact ascii _ (by decide)

/-- What separates attributes is no character of a word. -/
theorem WordOnAscii.separator (ascii : WordOnAscii tables) {c : Char} (separates : isSeparator c = true) :
    tables.isWord c = false := by
  simp only [isSeparator, isBlank, Bool.or_eq_true, decide_eq_true_eq] at separates
  rcases separates with (((((((rfl | rfl) | rfl) | rfl) | rfl) | rfl) | rfl) | rfl) <;> exact ascii _ (by decide)

end Words

section Search
variable {tables : UnicodeTables} {text : List Char}

/-- An inline image with a destination is found. -/
theorem mdImage_found {destination : List Char} (image : InlineImage text destination) (some_text : destination ≠ []) :
    mdImage.search text = true := by
  obtain ⟨before, alt, after, rfl, _⟩ := image
  obtain ⟨c, rest, rfl⟩ := List.exists_cons_of_ne_nil some_text
  exact search_of_spans ⟨_, spans_symbol '!' _ _, _, spans_symbol '[' _ _, _, spans_many (fun _ _ => rfl) _ _, _,
    spans_symbol ']' _ _, _, spans_symbol '(' _ _, _, spans_plus rfl (fun _ _ => rfl) _ _, spans_symbol ')' _ _⟩

/-- A character with a letter in lower case is a letter. -/
theorem isAlpha_of_toLower {c : Char} (letter : c.toLower.isAlpha = true) : c.isAlpha = true := by
  unfold Char.toLower at letter
  split at letter
  · rename_i upper
    have isUpper : c.isUpper = true := decide_eq_true upper
    show (c.isUpper || c.isLower) = true
    rw [isUpper]
    rfl
  · exact letter

/-- A pattern that reads the name of a tag ends with the name. -/
theorem tag_found (ascii : WordOnAscii tables) {tag : Tag} (member : tag ∈ tags text) {word : String}
    (named : lowered tag.name = word.toList) (present : word ≠ "") (alphabetic : word.toList.all Char.isAlpha = true)
    {pattern : Pattern} (reads : ∀ before rest,
      pattern.Spans ⟨before, tag.name ++ rest⟩ ⟨tag.name.getLast?.or before, rest⟩) :
    (Pattern.seq (symbol '<') (.seq spaces (.seq pattern (.boundary tables.isWord)))).search text = true := by
  obtain ⟨before, behind, rfl, read⟩ := exists_of_mem_tags member
  obtain ⟨rest, rfl, stops, _⟩ := tagOf_parts read
  have some_letter : tag.name ≠ [] := by
    intro empty
    rw [empty] at named
    exact present (String.toList_eq_nil_iff.mp named.symm)
  have last := List.getLast?_eq_some_getLast some_letter
  have inWord : (tag.name.getLast some_letter).toLower ∈ word.toList :=
    named ▸ List.mem_map_of_mem (List.getLast_mem some_letter)
  have letter := isAlpha_of_toLower (List.all_eq_true.mp alphabetic _ inWord)
  have other : rest.head?.any tables.isWord = false := by
    cases first : rest.head? with
    | none => rfl
    | some c =>
        rw [first] at stops
        exact ascii.endsName stops
  have ended : (Cursor.mk (tag.name.getLast?.or (some '<')) rest).atBoundary tables.isWord = true := by
    rw [Cursor.atBoundary, other, last, Option.some_or, Option.any_some, ascii.letter letter]
    rfl
  exact search_of_spans ⟨_, spans_symbol '<' _ _, _, @spans_spaces [] (by simp) _ _, _, reads _ _, ended, rfl⟩

/-- The tag of an image is found. -/
theorem htmlImg_found (ascii : WordOnAscii tables) {tag : Tag} (member : tag ∈ tags text)
    (named : lowered tag.name = "img".toList) : (htmlImg tables).search text = true :=
  tag_found ascii member named (by decide) (by decide +kernel) (spans_letters named)

/-- The names of the tags that are not allowed. -/
def forbiddenTags : List String := ["script", "iframe", "object", "embed", "base", "form", "meta", "link"]

/-- A forbidden tag is found. -/
theorem dangerousTags_found (ascii : WordOnAscii tables) {tag : Tag} (member : tag ∈ tags text) {word : String}
    (listed : word ∈ forbiddenTags) (named : lowered tag.name = word.toList) :
    (dangerousTags tables).search text = true := by
  have checked : (forbiddenTags.all fun word => decide (word ≠ "") && word.toList.all Char.isAlpha) = true := by
    decide +kernel
  have both := List.all_eq_true.mp checked word listed
  rw [Bool.and_eq_true, decide_eq_true_eq] at both
  have reads := fun before rest => spans_oneOf (List.mem_map_of_mem listed) (spans_letters named before rest)
  exact tag_found ascii member named both.1 both.2 reads

/-- The name of an event handler: `on` and more letters. -/
def isEvent (name : List Char) : Bool :=
  "on".toList.isPrefixOf (lowered name) && !(name.drop 2).isEmpty && (name.drop 2).all Char.isAlpha

/-- The name of an event begins with two letters and goes on with others. -/
theorem isEvent_parts {name : List Char} (event : isEvent name = true) : ∃ a b c rest, name = a :: b :: c :: rest ∧
    lowered [a, b] = "on".toList ∧ c.isAlpha = true ∧ ∀ d ∈ rest, d.isAlpha = true := by
  simp only [isEvent, Bool.and_eq_true, Bool.not_eq_true'] at event
  obtain ⟨⟨starts, more⟩, alphabetic⟩ := event
  match name with
  | [] => simp at more
  | [a] => simp at more
  | [a, b] => simp at more
  | a :: b :: c :: rest =>
      simp only [List.drop_succ_cons, List.drop_zero, List.all_cons, Bool.and_eq_true, List.all_eq_true] at alphabetic
      have word : "on".toList = ['o', 'n'] := rfl
      rw [word] at starts ⊢
      simp only [lowered, List.map_cons, List.isPrefixOf_cons_cons, Bool.and_eq_true, beq_iff_eq] at starts
      refine ⟨a, b, c, rest, rfl, ?_, alphabetic.1, alphabetic.2⟩
      simp only [lowered, List.map_cons, List.map_nil, ← starts.1, ← starts.2.1]

/-- An event handler with a value is found. -/
theorem onHandler_found (ascii : WordOnAscii tables) {name value : List Char} (spelled : Spelled text name value)
    (event : isEvent name = true) : (onHandler tables).search text = true := by
  obtain ⟨front, separator, gap, more, quote, tail, rfl, separates, blank, _⟩ := spelled
  obtain ⟨a, b, c, rest, rfl, on, letter, alphabetic⟩ := isEvent_parts event
  have first : a.isAlpha = true := by
    apply isAlpha_of_toLower
    rw [(List.cons.inj on).1]
    decide
  rw [List.append_cons]
  have ended : (Cursor.mk (front ++ [separator]).getLast? (a :: b :: c :: rest ++ (gap ++ '=' ::
      (more ++ (quote ++ (value ++ tail)))))).atBoundary tables.isWord = true := by
    rw [Cursor.atBoundary, List.getLast?_concat, Option.any_some, ascii.separator separates, List.cons_append,
      List.head?_cons, Option.any_some, ascii.letter first]
    rfl
  exact search_of_spans ⟨_, ⟨ended, rfl⟩, _, @spans_letters "on" [a, b] on _ _, _,
    spans_plus (ascii.letter letter) (fun d member => ascii.letter (alphabetic d member)) _ _, _,
    spans_blanks blank _ _, spans_symbol '=' _ _⟩

/-- A link attribute that spells its scheme out, with white space around it at most. -/
def PlainLink (name value : List Char) : Prop :=
  (∃ ending ∈ ["href", "src"], ending.toList <:+ lowered name) ∧
    ∃ gap scheme more tail, value = gap ++ (scheme ++ (more ++ ':' :: tail)) ∧
      (∀ c ∈ gap, Text.isSpace c = true) ∧ (∀ c ∈ more, Text.isSpace c = true) ∧
      ∃ word ∈ ["javascript", "data"], lowered scheme = word.toList

/-- An active link in an attribute is found. -/
theorem jsLink_found {name value : List Char} (spelled : Spelled text name value) (plain : PlainLink name value) :
    jsLink.search text = true := by
  obtain ⟨front, separator, gap, more, quote, tail, rfl, _, blank, blanks, kind⟩ := spelled
  obtain ⟨⟨ending, listed, start, ends⟩, inner, scheme, padding, rest, rfl, spaced, padded, word, known, named⟩ := plain
  obtain ⟨early, last, rfl, _, lowerLast⟩ := List.append_eq_map_iff.mp ends
  have quoted : ∀ before behind, (Pattern.optional (.one fun c => c = '\'' || c = '"')).Spans
      ⟨before, quote ++ behind⟩ ⟨quote.getLast?.or before, behind⟩ := by
    intro before behind
    rcases kind with rfl | rfl | rfl
    · exact .inr rfl
    · exact .inl ⟨'"', behind, rfl, by decide, rfl⟩
    · exact .inl ⟨'\'', behind, rfl, by decide, rfl⟩
  have whole : front ++ separator :: (early ++ last ++ (gap ++ '=' :: (more ++ (quote ++
      (inner ++ (scheme ++ (padding ++ ':' :: rest)) ++ tail))))) =
      (front ++ separator :: early) ++ (last ++ (gap ++ '=' :: (more ++ (quote ++
        (inner ++ (scheme ++ (padding ++ ':' :: (rest ++ tail)))))))) := by
    simp only [List.append_assoc, List.cons_append]
  rw [whole]
  exact search_of_spans ⟨_, spans_oneOf (List.mem_map_of_mem listed) (spans_letters lowerLast _ _), _,
    spans_blanks blank _ _, _, spans_symbol '=' _ _, _, spans_blanks blanks _ _, _, quoted _ _, _,
    spans_spaces spaced _ _, _, spans_oneOf (List.mem_map_of_mem known) (spans_letters named _ _), _,
    spans_spaces padded _ _, spans_symbol ':' _ _⟩

end Search

section Accepted
variable {tables : UnicodeTables} {contentBytes : List UInt8} {filename : String} {content : List Char}

/-- No pattern finds anything in a text that is accepted. -/
structure Clean (tables : UnicodeTables) (content : List Char) : Prop where
  no_mdImage : mdImage.search content = false
  no_htmlImg : (htmlImg tables).search content = false
  no_dangerousTags : (dangerousTags tables).search content = false
  no_onHandler : (onHandler tables).search content = false
  no_jsLink : jsLink.search content = false

/-- A text that passes the patterns is clean. -/
theorem clean_of_checked {text : List Char} (accepted : checkPatterns tables text = .ok content) :
    content = text ∧ Clean tables text := by
  unfold checkPatterns at accepted
  split at accepted
  · cases accepted
  rename_i images
  split at accepted
  · cases accepted
  rename_i dangerous
  split at accepted
  · cases accepted
  rename_i handler
  split at accepted
  · cases accepted
  rename_i link
  cases accepted
  obtain ⟨first, second⟩ := Bool.or_eq_false_iff.mp (Bool.eq_false_iff.mpr images)
  exact ⟨rfl, first, second, Bool.eq_false_iff.mpr dangerous, Bool.eq_false_iff.mpr handler,
    Bool.eq_false_iff.mpr link⟩

/-- An accepted upload is clean. -/
theorem clean_of_accepted (accepted : validateAndSanitize tables contentBytes filename = .ok content) :
    Utf8.decode contentBytes = some content ∧ Clean tables content := by
  by_cases empty : contentBytes.length = 0
  · rw [validateAndSanitize, if_pos empty] at accepted
    cases accepted
  by_cases large : contentBytes.length > maxSizeBytes
  · rw [validateAndSanitize, if_neg empty, if_pos large] at accepted
    cases accepted
  by_cases suffix : filename ≠ "" ∧ suffixOf tables filename ∉ allowedExtensions
  · rw [validateAndSanitize, if_neg empty, if_neg large, if_pos suffix] at accepted
    cases accepted
  rw [validateAndSanitize, if_neg empty, if_neg large, if_neg suffix] at accepted
  cases decoded : Utf8.decode contentBytes with
  | none =>
      rw [decoded] at accepted
      cases accepted
  | some text =>
      rw [decoded] at accepted
      obtain ⟨rfl, clean⟩ := clean_of_checked accepted
      exact ⟨rfl, clean⟩

end Accepted

/-- The text shows no image, and it runs and embeds nothing. -/
structure Passive (text : List Char) : Prop where
  no_inline_image : ∀ destination, ¬ InlineImage text destination
  no_reference_image : ¬ ReferenceImage text
  no_image_tag : ∀ tag ∈ tags text, lowered tag.name ≠ "img".toList
  no_forbidden_tag : ∀ tag ∈ tags text, ∀ word ∈ forbiddenTags, lowered tag.name ≠ word.toList
  no_event : ∀ tag ∈ tags text, ∀ entry ∈ tag.attributes, isEvent entry.name = false
  no_active_link : ∀ target, LinkTarget text target → isActive target = false
  no_active_autolink : ∀ target, Autolink text target → isActive target = false
  no_active_definition : ∀ label target, Definition text label target → isActive target = false
  no_active_attribute : ∀ tag ∈ tags text, ∀ entry ∈ tag.attributes, ∀ value, entry.value = some value →
    isActive value = false

/-- The forms that no pattern looks for: an image without a destination or with a reference, an event handler without a
value, a target of Markdown, and an attribute that is no link or does not spell its scheme out. -/
def Overlooked (text : List Char) : Prop :=
  InlineImage text [] ∨ ReferenceImage text ∨
    (∃ tag ∈ tags text, ∃ entry ∈ tag.attributes, isEvent entry.name = true ∧ entry.value = none) ∨
    (∃ target, (LinkTarget text target ∨ Autolink text target ∨ ∃ label, Definition text label target) ∧
      isActive target = true) ∨
    ∃ tag ∈ tags text, ∃ entry ∈ tag.attributes, ∃ value, entry.value = some value ∧ isActive value = true ∧
      ¬ PlainLink entry.name value

/-- A passive text has none of the overlooked forms. -/
theorem not_overlooked_of_passive {text : List Char} (passive : Passive text) : ¬ Overlooked text := by
  intro overlooked
  rcases overlooked with image | image | ⟨tag, member, entry, inside, event, _⟩ | ⟨target, written, active⟩ |
    ⟨tag, member, entry, inside, value, given, active, _⟩
  · exact passive.no_inline_image [] image
  · exact passive.no_reference_image image
  · rw [passive.no_event tag member entry inside] at event
    cases event
  · rcases written with link | autolink | ⟨label, definition⟩
    · rw [passive.no_active_link target link] at active
      cases active
    · rw [passive.no_active_autolink target autolink] at active
      cases active
    · rw [passive.no_active_definition label target definition] at active
      cases active
  · rw [passive.no_active_attribute tag member entry inside value given] at active
    cases active

/-- What the patterns look for is absent, so a clean text is passive unless it has a form that they overlook. -/
theorem passive_of_clean {tables : UnicodeTables} {text : List Char} (ascii : WordOnAscii tables)
    (clean : Clean tables text) (seen : ¬ Overlooked text) : Passive text where
  no_inline_image := by
    intro destination image
    by_cases empty : destination = []
    · exact seen (.inl (empty ▸ image))
    · have found := mdImage_found image empty
      rw [clean.no_mdImage] at found
      cases found
  no_reference_image := fun image => seen (.inr (.inl image))
  no_image_tag := by
    intro tag member named
    have found := htmlImg_found ascii member named
    rw [clean.no_htmlImg] at found
    cases found
  no_forbidden_tag := by
    intro tag member word listed named
    have found := dangerousTags_found ascii member listed named
    rw [clean.no_dangerousTags] at found
    cases found
  no_event := by
    intro tag member entry inside
    by_contra event
    have event := (Bool.not_eq_false _).mp event
    cases given : entry.value with
    | none => exact seen (.inr (.inr (.inl ⟨tag, member, entry, inside, event, given⟩)))
    | some value =>
        have found := onHandler_found ascii (spelled_of_mem member inside given) event
        rw [clean.no_onHandler] at found
        cases found
  no_active_link := by
    intro target link
    by_contra active
    exact seen (.inr (.inr (.inr (.inl ⟨target, .inl link, (Bool.not_eq_false _).mp active⟩))))
  no_active_autolink := by
    intro target autolink
    by_contra active
    exact seen (.inr (.inr (.inr (.inl ⟨target, .inr (.inl autolink), (Bool.not_eq_false _).mp active⟩))))
  no_active_definition := by
    intro label target definition
    by_contra active
    exact seen (.inr (.inr (.inr (.inl ⟨target, .inr (.inr ⟨label, definition⟩), (Bool.not_eq_false _).mp active⟩))))
  no_active_attribute := by
    intro tag member entry inside value given
    by_contra active
    have active := (Bool.not_eq_false _).mp active
    by_cases plain : PlainLink entry.name value
    · have found := jsLink_found (spelled_of_mem member inside given) plain
      rw [clean.no_jsLink] at found
      cases found
    · exact seen (.inr (.inr (.inr (.inr ⟨tag, member, entry, inside, value, given, active, plain⟩))))

/-- An uploaded text that is accepted is passive exactly when it has none of the forms that are overlooked. -/
theorem accepted_passive_iff {tables : UnicodeTables} {contentBytes : List UInt8} {filename : String}
    {content : List Char} (ascii : WordOnAscii tables)
    (accepted : validateAndSanitize tables contentBytes filename = .ok content) :
    Utf8.decode contentBytes = some content ∧ (Passive content ↔ ¬ Overlooked content) := by
  obtain ⟨decoded, clean⟩ := clean_of_accepted accepted
  exact ⟨decoded, not_overlooked_of_passive, passive_of_clean ascii clean⟩

/-- The tables for the characters of ASCII alone. -/
def asciiTables : UnicodeTables := ⟨fun c => c.isAlphanum || c = '_', Text.lower⟩

/-- The tables for ASCII agree with ASCII. -/
theorem asciiTables_word : WordOnAscii asciiTables := fun _ _ => rfl

/-- A short help page with a link of Markdown and one of HTML. -/
def helpPage : List Char := "[Hilfe](https://p3.example/help)\n<a href=\"/help\">Start</a>\n".toList

/-- The help page has a link. -/
theorem helpPage_link : LinkTarget helpPage "https://p3.example/help".toList := by
  refine ⟨[], "Hilfe".toList, "https://p3.example/help)\n<a href=\"/help\">Start</a>\n".toList,
    ")\n<a href=\"/help\">Start</a>\n".toList, by decide +kernel, by decide +kernel,
    ⟨[], blank_nil, .inr ⟨by decide +kernel, ?_⟩⟩, [], [], [], "\n<a href=\"/help\">Start</a>\n".toList,
    by decide +kernel, blank_nil, blank_nil, .inl rfl⟩
  have checked : ("https://p3.example/help".toList.all fun c => !isBlank c) = true := by decide +kernel
  intro c member
  exact (Bool.not_eq_true' _).mp (List.all_eq_true.mp checked c member)

/-- The help page is accepted with its link and its attribute. -/
theorem helpPage_passive_iff : LinkTarget helpPage "https://p3.example/help".toList ∧
    (tags helpPage).head? = some ⟨['a'], [⟨"href".toList, some "/help".toList⟩]⟩ ∧
    (Passive helpPage ↔ ¬ Overlooked helpPage) := by
  have accepted : validateAndSanitize asciiTables (Utf8.encode helpPage) "help.md" = .ok helpPage := by decide +kernel
  exact ⟨helpPage_link, by decide +kernel, (accepted_passive_iff asciiTables_word accepted).2⟩

/-- A link of Markdown to a script is accepted. -/
theorem script_link_accepted :
    validateAndSanitize asciiTables (Utf8.encode "[Click](javascript:alert(1))\n".toList) "help.md" =
      .ok "[Click](javascript:alert(1))\n".toList ∧ ¬ Passive "[Click](javascript:alert(1))\n".toList := by
  refine ⟨by decide +kernel, ?_⟩
  intro passive
  have link : LinkTarget "[Click](javascript:alert(1))\n".toList "javascript:alert(1)".toList := by
    refine ⟨[], "Click".toList, "javascript:alert(1))\n".toList, ")\n".toList, by decide +kernel, by decide +kernel,
      ⟨[], blank_nil, .inr ⟨by decide +kernel, ?_⟩⟩, [], [], [], ['\n'], by decide +kernel, blank_nil, blank_nil, .inl rfl⟩
    have checked : ("javascript:alert(1)".toList.all fun c => !isBlank c) = true := by decide +kernel
    intro c member
    exact (Bool.not_eq_true' _).mp (List.all_eq_true.mp checked c member)
  have active := passive.no_active_link _ link
  revert active
  decide +kernel

end P3Portal.Help
