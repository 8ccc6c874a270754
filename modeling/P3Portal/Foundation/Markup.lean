import P3Portal.Foundation.PythonText

namespace P3Portal.Foundation.Markup

/-- The white space of HTML. -/
def isBlank (c : Char) : Bool := c = ' ' || c = '\t' || c = '\n' || c = '\r' || c = '\x0c'

def Blank (text : List Char) : Prop := ∀ c ∈ text, isBlank c = true

/-- An attribute without an equals sign has no value. -/
structure Attribute where
  name : List Char
  value : Option (List Char)
deriving DecidableEq

/-- Where the reader of the attributes of a tag stands. -/
inductive TagPlace where
  | beforeName
  | name (read : List Char)
  | afterName (name : List Char)
  | beforeValue (name : List Char)
  | quoted (name : List Char) (quote : Char) (read : List Char)
  | bare (name read : List Char)

/-- The attributes up to the bracket that closes the tag. -/
def readAttributes : TagPlace → List Char → Option (List Attribute)
  | _, [] => none
  | .beforeName, c :: rest =>
      if c = '>' then some []
      else if isBlank c || c = '/' then readAttributes .beforeName rest
      else readAttributes (.name [c]) rest
  | .name read, c :: rest =>
      if c = '>' then some [⟨read, none⟩]
      else if c = '/' then (readAttributes .beforeName rest).map (⟨read, none⟩ :: ·)
      else if c = '=' then readAttributes (.beforeValue read) rest
      else if isBlank c then readAttributes (.afterName read) rest
      else readAttributes (.name (read ++ [c])) rest
  | .afterName name, c :: rest =>
      if c = '>' then some [⟨name, none⟩]
      else if c = '/' then (readAttributes .beforeName rest).map (⟨name, none⟩ :: ·)
      else if c = '=' then readAttributes (.beforeValue name) rest
      else if isBlank c then readAttributes (.afterName name) rest
      else (readAttributes (.name [c]) rest).map (⟨name, none⟩ :: ·)
  | .beforeValue name, c :: rest =>
      if c = '>' then some [⟨name, some []⟩]
      else if c = '"' || c = '\'' then readAttributes (.quoted name c []) rest
      else if isBlank c then readAttributes (.beforeValue name) rest
      else readAttributes (.bare name [c]) rest
  | .quoted name quote read, c :: rest =>
      if c = quote then (readAttributes .beforeName rest).map (⟨name, some read⟩ :: ·)
      else readAttributes (.quoted name quote (read ++ [c])) rest
  | .bare name read, c :: rest =>
      if c = '>' then some [⟨name, some read⟩]
      else if isBlank c then (readAttributes .beforeName rest).map (⟨name, some read⟩ :: ·)
      else readAttributes (.bare name (read ++ [c])) rest

/-- A name of an attribute begins behind one of these. -/
def isSeparator (c : Char) : Bool := isBlank c || c = '/' || c = '"' || c = '\''

/-- An attribute with a value, as it is written behind a separator. -/
def Spelled (text name value : List Char) : Prop :=
  ∃ front separator gap more quote tail,
    text = front ++ separator :: (name ++ (gap ++ '=' :: (more ++ (quote ++ (value ++ tail))))) ∧
      isSeparator separator = true ∧ Blank gap ∧ Blank more ∧ (quote = [] ∨ quote = ['"'] ∨ quote = ['\''])

/-- What the reader has read since the separator. -/
def TagPlace.Behind : TagPlace → List Char → Prop
  | .beforeName, done => done = []
  | .name read, done => done = read
  | .afterName called, done => ∃ gap blank, done = called ++ (gap ++ [blank]) ∧ Blank gap ∧ isBlank blank = true
  | .beforeValue called, done => ∃ gap more, done = called ++ (gap ++ '=' :: more) ∧ Blank gap ∧ Blank more
  | .quoted called quote read, done => ∃ gap more, done = called ++ (gap ++ '=' :: (more ++ quote :: read)) ∧
      Blank gap ∧ Blank more ∧ (quote = '"' ∨ quote = '\'')
  | .bare called read, done => ∃ gap more, done = called ++ (gap ++ '=' :: (more ++ read)) ∧ Blank gap ∧ Blank more

theorem blank_append {text : List Char} {c : Char} (blank : Blank text) (here : isBlank c = true) :
    Blank (text ++ [c]) := by
  intro d member
  rcases List.mem_append.mp member with early | last
  · exact blank d early
  · rw [List.mem_singleton.mp last]
    exact here

theorem blank_nil : Blank [] := fun _ member => absurd member List.not_mem_nil

theorem separator_of_blank {c : Char} (blank : isBlank c = true) : isSeparator c = true := by
  rw [isSeparator, blank]
  rfl

structure Tag where
  name : List Char
  attributes : List Attribute
deriving DecidableEq

def endsName (c : Char) : Bool := isBlank c || c = '/' || c = '>'

/-- The tag behind a bracket; its name begins with a letter, and only a tag that is closed has attributes. -/
def tagOf (text : List Char) : Option Tag :=
  if text.head?.any Char.isAlpha then
    some ⟨text.takeWhile (!endsName ·), (readAttributes .beforeName (text.dropWhile (!endsName ·))).getD []⟩
  else none

/-- The tags of a text, looked for at each bracket. -/
def tags : List Char → List Tag
  | [] => []
  | c :: rest => if c = '<' then (tagOf rest).toList ++ tags rest else tags rest

section Reader
variable {whole : List Char}

/-- The reader stands behind a separator and what it has read since. -/
structure Reads (whole : List Char) (place : TagPlace) (rest : List Char) : Prop where
  position : ∃ front separator done, whole = front ++ separator :: (done ++ rest) ∧ isSeparator separator = true ∧
    place.Behind done

/-- A character that separates begins the next attribute. -/
theorem Reads.separate {place : TagPlace} {c : Char} {rest : List Char} (reads : Reads whole place (c :: rest))
    (separates : isSeparator c = true) : Reads whole .beforeName rest := by
  obtain ⟨front, separator, done, split, _, _⟩ := reads.position
  refine ⟨front ++ separator :: done, c, [], ?_, separates, rfl⟩
  rw [split, List.append_assoc]
  rfl

/-- A character is read into the attribute. -/
theorem Reads.advance {place next : TagPlace} {c : Char} {rest : List Char} (reads : Reads whole place (c :: rest))
    (step : ∀ done, place.Behind done → next.Behind (done ++ [c])) : Reads whole next rest := by
  obtain ⟨front, separator, done, split, separates, behind⟩ := reads.position
  refine ⟨front, separator, done ++ [c], ?_, separates, step done behind⟩
  rw [split, List.append_assoc]
  rfl

/-- A name without a value is followed by the next name. -/
theorem Reads.another {name : List Char} {c : Char} {rest : List Char}
    (reads : Reads whole (.afterName name) (c :: rest)) : Reads whole (.name [c]) rest := by
  obtain ⟨front, separator, done, split, separates, gap, blank, rfl, _, last⟩ := reads.position
  refine ⟨front ++ separator :: (name ++ gap), blank, [c], ?_, separator_of_blank last, rfl⟩
  rw [split]
  simp only [List.append_assoc, List.cons_append, List.nil_append]

theorem Reads.spelled_bare {name read rest : List Char} (reads : Reads whole (.bare name read) rest) :
    Spelled whole name read := by
  obtain ⟨front, separator, done, split, separates, gap, more, rfl, blank, blanks⟩ := reads.position
  refine ⟨front, separator, gap, more, [], rest, ?_, separates, blank, blanks, .inl rfl⟩
  rw [split]
  simp only [List.append_assoc, List.cons_append, List.nil_append]

theorem Reads.spelled_empty {name rest : List Char} (reads : Reads whole (.beforeValue name) rest) :
    Spelled whole name [] := by
  obtain ⟨front, separator, done, split, separates, gap, more, rfl, blank, blanks⟩ := reads.position
  refine ⟨front, separator, gap, more, [], rest, ?_, separates, blank, blanks, .inl rfl⟩
  rw [split]
  simp only [List.append_assoc, List.cons_append, List.nil_append]

theorem Reads.spelled_quoted {name read rest : List Char} {quote : Char}
    (reads : Reads whole (.quoted name quote read) rest) :
    Spelled whole name read ∧ isSeparator quote = true := by
  obtain ⟨front, separator, done, split, separates, gap, more, rfl, blank, blanks, kind⟩ := reads.position
  constructor
  · refine ⟨front, separator, gap, more, [quote], rest, ?_, separates, blank, blanks, ?_⟩
    · rw [split]
      simp only [List.append_assoc, List.cons_append, List.nil_append]
    · rcases kind with rfl | rfl
      · exact .inr (.inl rfl)
      · exact .inr (.inr rfl)
  · rcases kind with rfl | rfl <;> decide

/-- All the attributes that have a value are spelled in the text. -/
def AllSpelled (whole : List Char) (attributes : List Attribute) : Prop :=
  ∀ entry ∈ attributes, ∀ value, entry.value = some value → Spelled whole entry.name value

theorem AllSpelled.cons {entry : Attribute} {attributes : List Attribute}
    (first : ∀ value, entry.value = some value → Spelled whole entry.name value)
    (others : AllSpelled whole attributes) : AllSpelled whole (entry :: attributes) := by
  intro other member
  rcases List.mem_cons.mp member with rfl | later
  · exact first
  · exact others other later

theorem AllSpelled.nil : AllSpelled whole [] := fun _ member => absurd member List.not_mem_nil

theorem AllSpelled.of_map {first : Attribute} {found : Option (List Attribute)} {attributes : List Attribute}
    (read : found.map (first :: ·) = some attributes)
    (here : ∀ value, first.value = some value → Spelled whole first.name value)
    (others : ∀ later, found = some later → AllSpelled whole later) : AllSpelled whole attributes := by
  obtain ⟨later, rest, rfl⟩ := Option.map_eq_some_iff.mp read
  exact .cons here (others later rest)

theorem valueless {name : List Char} :
    ∀ value, (Attribute.mk name none).value = some value → Spelled whole (Attribute.mk name none).name value := by
  intro value absent
  cases absent

theorem valued {name read : List Char} (spelled : Spelled whole name read) : ∀ value,
    (Attribute.mk name (some read)).value = some value → Spelled whole (Attribute.mk name (some read)).name value := by
  intro value same
  cases same
  exact spelled

/-- The values that the reader gives are spelled in the text. -/
theorem readAttributes_spelled {place : TagPlace} {rest : List Char} {attributes : List Attribute}
    (reads : Reads whole place rest) (read : readAttributes place rest = some attributes) :
    AllSpelled whole attributes := by
  induction rest generalizing place attributes with
  | nil =>
      rw [readAttributes] at read
      cases read
  | cons c rest ih =>
      cases place with
      | beforeName =>
          rw [readAttributes] at read
          split at read
          · cases read
            exact .nil
          split at read
          · rename_i separates
            refine ih (reads.separate ?_) read
            rw [isSeparator, separates]
            rfl
          · refine ih (reads.advance ?_) read
            intro done behind
            rw [show done = [] from behind]
            rfl
      | name name =>
          rw [readAttributes] at read
          split at read
          · cases read
            exact .cons valueless .nil
          split at read
          · rename_i slash
            refine .of_map read valueless fun later => ih (reads.separate ?_)
            rw [slash]
            decide
          split at read
          · rename_i sign
            refine ih (reads.advance ?_) read
            intro done behind
            exact ⟨[], [], by rw [show done = name from behind, sign]; rfl, blank_nil, blank_nil⟩
          split at read
          · rename_i blank
            refine ih (reads.advance ?_) read
            intro done behind
            exact ⟨[], c, by rw [show done = name from behind]; rfl, blank_nil, blank⟩
          · refine ih (reads.advance ?_) read
            intro done behind
            rw [show done = name from behind]
            rfl
      | afterName name =>
          rw [readAttributes] at read
          split at read
          · cases read
            exact .cons valueless .nil
          split at read
          · rename_i slash
            refine .of_map read valueless fun later => ih (reads.separate ?_)
            rw [slash]
            decide
          split at read
          · rename_i sign
            refine ih (reads.advance ?_) read
            intro done ⟨gap, blank, shape, blanks, last⟩
            exact ⟨gap ++ [blank], [], by rw [shape, sign]; simp, blank_append blanks last, blank_nil⟩
          split at read
          · rename_i here
            refine ih (reads.advance ?_) read
            intro done ⟨gap, blank, shape, blanks, last⟩
            exact ⟨gap ++ [blank], c, by rw [shape]; simp, blank_append blanks last, here⟩
          · exact .of_map read valueless fun later => ih reads.another
      | beforeValue name =>
          rw [readAttributes] at read
          split at read
          · cases read
            exact .cons (valued reads.spelled_empty) .nil
          split at read
          · rename_i quote
            refine ih (reads.advance ?_) read
            intro done ⟨gap, more, shape, blank, blanks⟩
            have kind : c = '"' ∨ c = '\'' := by simpa using quote
            exact ⟨gap, more, by rw [shape]; simp, blank, blanks, kind⟩
          split at read
          · rename_i here
            refine ih (reads.advance ?_) read
            intro done ⟨gap, more, shape, blank, blanks⟩
            exact ⟨gap, more ++ [c], by rw [shape]; simp, blank, blank_append blanks here⟩
          · refine ih (reads.advance ?_) read
            intro done ⟨gap, more, shape, blank, blanks⟩
            exact ⟨gap, more, by rw [shape]; simp, blank, blanks⟩
      | quoted name quote value =>
          rw [readAttributes] at read
          split at read
          · rename_i same
            obtain ⟨spelled, separates⟩ := reads.spelled_quoted
            exact .of_map read (valued spelled) fun later => ih (reads.separate (same ▸ separates))
          · refine ih (reads.advance ?_) read
            intro done ⟨gap, more, shape, blank, blanks, kind⟩
            exact ⟨gap, more, by rw [shape]; simp, blank, blanks, kind⟩
      | bare name value =>
          rw [readAttributes] at read
          split at read
          · cases read
            exact .cons (valued reads.spelled_bare) .nil
          split at read
          · rename_i blank
            exact .of_map read (valued reads.spelled_bare) fun later => ih (reads.separate (separator_of_blank blank))
          · refine ih (reads.advance ?_) read
            intro done ⟨gap, more, shape, blank, blanks⟩
            exact ⟨gap, more, by rw [shape]; simp, blank, blanks⟩

end Reader

/-- The case of letters does not count in HTML. -/
def lowered (text : List Char) : List Char := text.map Char.toLower

section Tags
variable {text : List Char} {tag : Tag}

/-- A tag stands behind a bracket. -/
theorem exists_of_mem_tags (member : tag ∈ tags text) :
    ∃ before behind, text = before ++ '<' :: behind ∧ tagOf behind = some tag := by
  induction text with
  | nil => exact absurd member List.not_mem_nil
  | cons c rest ih =>
      have later : tag ∈ tags rest → ∃ before behind, c :: rest = before ++ '<' :: behind ∧ tagOf behind = some tag := by
        intro found
        obtain ⟨before, behind, split, read⟩ := ih found
        exact ⟨c :: before, behind, by rw [split, List.cons_append], read⟩
      rw [tags] at member
      split at member
      · rename_i bracket
        rcases List.mem_append.mp member with here | found
        · exact ⟨[], rest, by rw [bracket, List.nil_append], Option.mem_toList.mp here⟩
        · exact later found
      · exact later member

/-- The name of a tag goes up to a blank, a slash, a bracket or the end of the text. -/
theorem tagOf_parts {behind : List Char} (read : tagOf behind = some tag) :
    ∃ rest, behind = tag.name ++ rest ∧ (rest.head?.all endsName) = true ∧
      tag.attributes = (readAttributes .beforeName rest).getD [] := by
  unfold tagOf at read
  split at read
  · cases read
    refine ⟨behind.dropWhile (!endsName ·), (List.takeWhile_append_dropWhile).symm, ?_, rfl⟩
    have stops := List.head?_dropWhile_not (!endsName ·) behind
    cases first : (behind.dropWhile (!endsName ·)).head? with
    | none => rfl
    | some c =>
        rw [first] at stops
        simpa using stops
  · cases read

/-- An attribute of a tag that has a value is spelled in the text. -/
theorem spelled_of_mem {entry : Attribute} {value : List Char} (member : tag ∈ tags text)
    (inside : entry ∈ tag.attributes) (given : entry.value = some value) : Spelled text entry.name value := by
  obtain ⟨before, behind, split, read⟩ := exists_of_mem_tags member
  obtain ⟨rest, parts, ended, attributes⟩ := tagOf_parts read
  rw [attributes] at inside
  cases rest with
  | nil => exact absurd inside List.not_mem_nil
  | cons c more =>
      have stop : endsName c = true := ended
      cases found : readAttributes .beforeName (c :: more) with
      | none =>
          rw [found] at inside
          exact absurd inside List.not_mem_nil
      | some entries =>
          rw [found] at inside
          rw [readAttributes] at found
          split at found
          · cases found
            exact absurd inside List.not_mem_nil
          · rename_i open_tag
            have separates : isBlank c = true ∨ c = '/' := by simpa [endsName, open_tag] using stop
            rw [if_pos (by simpa using separates)] at found
            have reads : Reads text .beforeName more := by
              refine ⟨before ++ '<' :: tag.name, c, [], ?_, ?_, rfl⟩
              · rw [split, parts]
                simp only [List.append_assoc, List.cons_append, List.nil_append]
              · rcases separates with blank | slash
                · exact separator_of_blank blank
                · rw [slash]
                  decide
            exact readAttributes_spelled reads found entry inside value given

end Tags

/-- Brackets are balanced, and a backslash takes the meaning of the character behind it. -/
def balanced : Nat → List Char → Bool
  | depth, [] => depth = 0
  | depth, '\\' :: _ :: rest => balanced depth rest
  | depth, '[' :: rest => balanced (depth + 1) rest
  | 0, ']' :: _ => false
  | depth + 1, ']' :: rest => balanced depth rest
  | depth, _ :: rest => balanced depth rest

/-- A destination stands in angle brackets, or it goes up to a blank or to the closing bracket. -/
def Destination (behind target after : List Char) : Prop :=
  ∃ gap, Blank gap ∧
    (behind = gap ++ '<' :: (target ++ '>' :: after) ∧ (∀ c ∈ target, c ≠ '<' ∧ c ≠ '>' ∧ c ≠ '\n') ∨
      behind = gap ++ (target ++ after) ∧ ∀ c ∈ target, isBlank c = false)

/-- A link ends with a round bracket, perhaps behind a title. -/
def LinkEnd (after : List Char) : Prop :=
  ∃ gap title more rest, after = gap ++ (title ++ (more ++ ')' :: rest)) ∧ Blank gap ∧ Blank more ∧
    (title = [] ∨ ∃ pair ∈ [('"', '"'), ('\'', '\''), ('(', ')')], ∃ inner, title = pair.1 :: (inner ++ [pair.2]))

/-- `[label](destination)`. -/
def LinkTarget (text target : List Char) : Prop :=
  ∃ before label behind after, text = before ++ '[' :: (label ++ ']' :: '(' :: behind) ∧ balanced 0 label = true ∧
    Destination behind target after ∧ LinkEnd after

/-- Indentation and the marks of quotes and lists; the number of an item in an ordered list has at most nine digits. -/
def opensBlock : Nat → List Char → Bool
  | digits, [] => digits = 0
  | 0, c :: rest =>
      if c.isDigit then opensBlock 1 rest else [' ', '\t', '>', '-', '*', '+'].contains c && opensBlock 0 rest
  | digits + 1, c :: rest =>
      if c.isDigit then digits < 8 && opensBlock (digits + 2) rest else ['.', ')'].contains c && opensBlock 0 rest

/-- Nothing else stands before a definition in its line. -/
def opensLine (before : List Char) : Bool := opensBlock 0 (before.reverse.takeWhile (· ≠ '\n')).reverse

/-- `[label]: destination` at the beginning of a line. -/
def Definition (text label target : List Char) : Prop :=
  ∃ before behind after, text = before ++ '[' :: (label ++ ']' :: ':' :: behind) ∧ opensLine before = true ∧
    balanced 0 label = true ∧ Destination behind target after

/-- `<scheme:...>`. -/
def Autolink (text target : List Char) : Prop :=
  ∃ before after scheme behind, text = before ++ '<' :: (target ++ '>' :: after) ∧ target = scheme ++ ':' :: behind ∧
    2 ≤ scheme.length ∧ scheme.length ≤ 32 ∧ (scheme.head?.any Char.isAlpha) = true ∧
    (∀ c ∈ scheme, c.isAlphanum = true ∨ c ∈ ['+', '.', '-']) ∧ ∀ c ∈ behind, isBlank c = false ∧ c ≠ '<' ∧ c ≠ '>'

/-- `![alt](destination)`, whatever stands between the round brackets. -/
def InlineImage (text destination : List Char) : Prop :=
  ∃ before alt after, text = before ++ '!' :: '[' :: (alt ++ ']' :: '(' :: (destination ++ ')' :: after)) ∧
    balanced 0 alt = true

/-- Labels are the same up to the case of their letters and the blanks between their words. -/
def normalLabel (label : List Char) : List (List Char) := ((lowered label).splitOnP isBlank).filter (· ≠ [])

/-- The label of an image is behind its text, or it is the text itself. -/
def imageLabel (alt : List Char) : List Char → List Char
  | '[' :: behind =>
      let label := behind.takeWhile (· ≠ ']')
      if label = [] || label.length = behind.length then alt else label
  | _ => alt

/-- `![alt][label]`, `![label][]` or `![label]` with a definition of the label. -/
def ReferenceImage (text : List Char) : Prop :=
  ∃ before alt behind, text = before ++ '!' :: '[' :: (alt ++ ']' :: behind) ∧ balanced 0 alt = true ∧
    ∃ label target, Definition text label target ∧ normalLabel label = normalLabel (imageLabel alt behind)

/-- The named references for a colon and for white space; one of them stands for two characters. -/
def namedReferences : List (List Char × List Char) :=
  [("colon;".toList, [':']), ("Tab;".toList, ['\t']), ("NewLine;".toList, ['\n']), ("nbsp;".toList, ['\u00a0']),
    ("nbsp".toList, ['\u00a0']), ("NonBreakingSpace;".toList, ['\u00a0']), ("ensp;".toList, ['\u2002']),
    ("emsp;".toList, ['\u2003']), ("emsp13;".toList, ['\u2004']), ("emsp14;".toList, ['\u2005']),
    ("numsp;".toList, ['\u2007']), ("puncsp;".toList, ['\u2008']), ("thinsp;".toList, ['\u2009']),
    ("ThinSpace;".toList, ['\u2009']), ("hairsp;".toList, ['\u200a']), ("VeryThinSpace;".toList, ['\u200a']),
    ("MediumSpace;".toList, ['\u205f']), ("ThickSpace;".toList, ['\u205f', '\u200a'])]

def hexValue (c : Char) : Option Nat :=
  if c.isDigit then some (c.toNat - 48)
  else if 'a' ≤ c.toLower ∧ c.toLower ≤ 'f' then some (c.toLower.toNat - 87) else none

/-- A number in a reference with the characters that it takes; the semicolon may be absent. -/
def numericReference (base : Nat) (text : List Char) : Option (Char × Nat) :=
  let digits := text.takeWhile fun c => (hexValue c).any (· < base)
  if digits = [] then none
  else
    let code := digits.foldl (fun value c => value * base + (hexValue c).getD 0) 0
    some (Char.ofNat code, digits.length + if (text.drop digits.length).head? = some ';' then 1 else 0)

/-- What the reference behind an ampersand stands for, with the characters that it takes. -/
def reference : List Char → Option (List Char × Nat)
  | '#' :: 'x' :: rest => (numericReference 16 rest).map fun found => ([found.1], found.2 + 2)
  | '#' :: 'X' :: rest => (numericReference 16 rest).map fun found => ([found.1], found.2 + 2)
  | '#' :: rest => (numericReference 10 rest).map fun found => ([found.1], found.2 + 1)
  | text => namedReferences.findSome? fun entry =>
      if entry.1.isPrefixOf text then some (entry.2, entry.1.length) else none

/-- The characters of a reference that was read are left out. -/
def decodeFrom : Nat → List Char → List Char
  | _, [] => []
  | skipped + 1, _ :: rest => decodeFrom skipped rest
  | 0, c :: rest =>
      match if c = '&' then reference rest else none with
      | some (decoded, length) => decoded ++ decodeFrom length rest
      | none => c :: decodeFrom 0 rest

/-- The target as a browser reads it. -/
def cleaned (target : List Char) : List Char :=
  lowered ((decodeFrom 0 target).filter fun c => !(Text.isSpace c || c.toNat < 32 || 127 ≤ c.toNat && c.toNat < 160))

/-- A target that is run or shown by itself. -/
def isActive (target : List Char) : Bool :=
  ["javascript:".toList, "data:".toList].any fun scheme => scheme.isPrefixOf (cleaned target)

end P3Portal.Foundation.Markup
