import Mathlib.Data.List.Basic
import Mathlib.Tactic.Common

namespace P3Portal.Foundation.Json

def hexDigit (value : Nat) : Char := Char.ofNat (if value < 10 then 48 + value else 87 + value)

/-- A code unit is written with four digits. -/
def unicodeEscape (unit : Nat) : List Char :=
  [Char.ofNat 92, 'u', hexDigit (unit / 4096 % 16), hexDigit (unit / 256 % 16), hexDigit (unit / 16 % 16),
    hexDigit (unit % 16)]

/-- `json.dumps` keeps printable ASCII and writes other characters as code units. -/
def escape (character : Char) : List Char :=
  let code := character.toNat
  let backslash := Char.ofNat 92
  if code = 34 || code = 92 then [backslash, character]
  else if code = 10 then [backslash, 'n']
  else if code = 13 then [backslash, 'r']
  else if code = 9 then [backslash, 't']
  else if code = 8 then [backslash, 'b']
  else if code = 12 then [backslash, 'f']
  else if 32 ≤ code && code < 127 then [character]
  else if code < 0x10000 then unicodeEscape code
  else unicodeEscape (0xd800 + (code - 0x10000) / 1024) ++ unicodeEscape (0xdc00 + (code - 0x10000) % 1024)

def quoted (text : String) : String :=
  String.ofList ([Char.ofNat 34] ++ text.toList.flatMap escape ++ [Char.ofNat 34])

/-- An object of rendered values, in the order of its keys. -/
def object (members : List (String × String)) : String :=
  "\x7b" ++ ", ".intercalate (members.map fun entry => quoted entry.1 ++ ": " ++ entry.2) ++ "\x7d"

/-- A character may carry a note. One that is written because of others inherits their notes. -/
class Annotated (C : Type) where
  char : C → Char
  write : List C → Char → C
  char_write : ∀ sources character, char (write sources character) = character

export Annotated (char write char_write)

instance : Annotated Char := ⟨id, fun _ character => character, fun _ _ => rfl⟩

/-- A character with the places of the text that it comes from. -/
abbrev Traced := Char × List Nat

instance : Annotated Traced := ⟨Prod.fst, fun sources character => (character, sources.flatMap Prod.snd), fun _ _ => rfl⟩

inductive Mark where
  | openObject
  | closeObject
  | openArray
  | closeArray
  | colon
  | comma
  deriving DecidableEq

def markOf (character : Char) : Option Mark :=
  match character.toNat with
  | 123 => some .openObject
  | 125 => some .closeObject
  | 91 => some .openArray
  | 93 => some .closeArray
  | 58 => some .colon
  | 44 => some .comma
  | _ => none

def isBlank (character : Char) : Bool :=
  character.toNat = 32 || character.toNat = 9 || character.toNat = 10 || character.toNat = 13

def isQuote (character : Char) : Bool := character.toNat = 34

def isBackslash (character : Char) : Bool := character.toNat = 92

def hexValue (character : Char) : Option Nat :=
  let code := character.toNat
  if 48 ≤ code && code ≤ 57 then some (code - 48)
  else if 65 ≤ code && code ≤ 70 then some (code - 55)
  else if 97 ≤ code && code ≤ 102 then some (code - 87)
  else none

/-- A backslash and one of these letters stand for one character. -/
def simpleEscape (character : Char) : Option Nat :=
  match character with
  | '"' => some 34
  | '\\' => some 92
  | '/' => some 47
  | 'b' => some 8
  | 'f' => some 12
  | 'n' => some 10
  | 'r' => some 13
  | 't' => some 9
  | _ => none

/-- A string literal is read up to a place between characters or inside of an escape. -/
inductive LiteralState where
  | plain
  | escaped
  | hex (left : Nat)
  | refused
  deriving DecidableEq

def LiteralState.next (state : LiteralState) (character : Char) : LiteralState :=
  match state with
  | .plain =>
      if isBackslash character then .escaped
      else if isQuote character || character.toNat < 32 then .refused
      else .plain
  | .escaped =>
      if character = 'u' then .hex 3
      else if (simpleEscape character).isSome then .plain
      else .refused
  | .hex left =>
      if (hexValue character).isNone then .refused
      else match left with
        | 0 => .plain
        | left + 1 => .hex left
  | .refused => .refused

section Reader
variable {C : Type} [Annotated C]

def LiteralState.read (state : LiteralState) (content : List C) : LiteralState :=
  content.foldl (fun state c => state.next (char c)) state

inductive Token (C : Type) where
  | mark (mark : Mark)
  | literal (content : List C)
  | atom (text : List C)

inductive Mode (C : Type) where
  | outside
  | literal (content : List C) (state : LiteralState)
  | atom (text : List C)

/-- Outside of literals a character is a blank or a mark, or starts a literal or a word. -/
def lexOutside (c : C) : List (Token C) × Mode C :=
  if isBlank (char c) then ([], .outside)
  else match markOf (char c) with
    | some mark => ([.mark mark], .outside)
    | none => if isQuote (char c) then ([], .literal [] .plain) else ([], .atom [c])

def isDelimiter (character : Char) : Bool :=
  isBlank character || (markOf character).isSome || isQuote character

def lexStep (mode : Mode C) (c : C) : List (Token C) × Mode C :=
  match mode with
  | .outside => lexOutside c
  | .literal content state =>
      if state = .plain && isQuote (char c) then ([.literal content], .outside)
      else ([], .literal (content ++ [c]) (state.next (char c)))
  | .atom text =>
      if isDelimiter (char c) then (.atom text :: (lexOutside c).1, (lexOutside c).2)
      else ([], .atom (text ++ [c]))

/-- The text is cut into tokens; a literal must be closed. -/
def lex (mode : Mode C) : List C → Option (List (Token C))
  | [] => match mode with
    | .outside => some []
    | .literal _ _ => none
    | .atom text => some [.atom text]
  | c :: rest => (lex (lexStep mode c).2 rest).map ((lexStep mode c).1 ++ ·)

def isDigit (character : Char) : Bool := 48 ≤ character.toNat && character.toNat ≤ 57

/-- The fraction and the exponent of a number may be absent. -/
def isExponent : List Char → Bool
  | [] => true
  | sign :: rest => (sign = 'e' || sign = 'E') &&
      (let digits := match rest with
        | '+' :: digits => digits
        | '-' :: digits => digits
        | digits => digits
      digits ≠ [] && digits.all isDigit)

def isFraction (text : List Char) : Bool :=
  match text with
  | '.' :: rest => rest.takeWhile isDigit ≠ [] && isExponent (rest.dropWhile isDigit)
  | text => isExponent text

def isNumber (text : List Char) : Bool :=
  let unsigned := match text with
    | '-' :: rest => rest
    | text => text
  let whole := unsigned.takeWhile isDigit
  whole ≠ [] && (whole = ['0'] || whole.head? ≠ some '0') && isFraction (unsigned.dropWhile isDigit)

def words : List (List Char) :=
  ["true".toList, "false".toList, "null".toList, "NaN".toList, "Infinity".toList, "-Infinity".toList]

instance (text : List Char) : Decidable (text ∈ words) := List.instDecidableMemOfLawfulBEq text words

def isAtom (text : List C) : Bool := text.map char ∈ words || isNumber (text.map char)

end Reader

/-- A document as it is written, with the escapes of its literals and with all members of an object. -/
inductive Document (C : Type) where
  | atom (text : List C)
  | literal (content : List C)
  | array (items : List (Document C))
  | object (members : List (List C × Document C))

/-- A container whose end has not been read. -/
inductive Frame (C : Type) where
  | array (items : List (Document C))
  | object (members : List (List C × Document C)) (key : List C)

inductive ParseState (C : Type) where
  | value (frames : List (Frame C))
  | firstItem (frames : List (Frame C))
  | firstKey (frames : List (Frame C))
  | key (frames : List (Frame C)) (members : List (List C × Document C))
  | colon (frames : List (Frame C)) (members : List (List C × Document C)) (key : List C)
  | done (frames : List (Frame C)) (value : Document C)

section Parser
variable {C : Type} [Annotated C]

/-- The first token of a value. -/
def startValue (frames : List (Frame C)) : Token C → Option (ParseState C)
  | .atom text => if isAtom text then some (.done frames (.atom text)) else none
  | .literal content => some (.done frames (.literal content))
  | .mark .openArray => some (.firstItem frames)
  | .mark .openObject => some (.firstKey frames)
  | .mark _ => none

theorem startValue_atom {frames : List (Frame C)} {text : List C} {next : ParseState C}
    (step : startValue frames (.atom text) = some next) : isAtom text = true ∧ next = .done frames (.atom text) := by
  have step : (if isAtom text then some (ParseState.done frames (.atom text)) else none) = some next := step
  split at step
  · rename_i atom
    exact ⟨atom, (Option.some.inj step).symm⟩
  · cases step

/-- A value goes into the container around it, which goes on or ends. -/
def endValue (value : Document C) : List (Frame C) → Mark → Option (ParseState C)
  | .array items :: frames, .comma => some (.value (.array (items ++ [value]) :: frames))
  | .array items :: frames, .closeArray => some (.done frames (.array (items ++ [value])))
  | .object members key :: frames, .comma => some (.key frames (members ++ [(key, value)]))
  | .object members key :: frames, .closeObject => some (.done frames (.object (members ++ [(key, value)])))
  | _, _ => none

def parseStep (state : ParseState C) (token : Token C) : Option (ParseState C) :=
  match state with
  | .value frames => startValue frames token
  | .firstItem frames =>
      match token with
      | .mark .closeArray => some (.done frames (.array []))
      | token => startValue (.array [] :: frames) token
  | .firstKey frames =>
      match token with
      | .mark .closeObject => some (.done frames (.object []))
      | .literal key => some (.colon frames [] key)
      | _ => none
  | .key frames members =>
      match token with
      | .literal key => some (.colon frames members key)
      | _ => none
  | .colon frames members key =>
      match token with
      | .mark .colon => some (.value (.object members key :: frames))
      | _ => none
  | .done frames value =>
      match token with
      | .mark mark => endValue value frames mark
      | _ => none

def parse (state : ParseState C) : List (Token C) → Option (Document C)
  | [] => match state with
    | .done [] value => some value
    | _ => none
  | token :: rest => (parseStep state token).bind fun next => parse next rest

/-- The document that a text spells. -/
def readDocument (text : List C) : Option (Document C) := (lex .outside text).bind (parse (.value []))

end Parser

section Grammar
variable {C : Type} [Annotated C]

theorem LiteralState.read_append (state : LiteralState) (first second : List C) :
    state.read (first ++ second) = (state.read first).read second := List.foldl_append

/-- What is refused stays refused. -/
theorem LiteralState.read_refused (content : List C) : LiteralState.refused.read content = .refused := by
  induction content with
  | nil => rfl
  | cons c rest ih => exact ih

/-- A test that passes for each code of ASCII passes for the characters of ASCII. -/
theorem ascii_all {test : Char → Bool} (passes : ∀ code < 128, test (Char.ofNat code) = true) {character : Char}
    (ascii : character.toNat < 128) : test character = true := by
  have passed := passes character.toNat ascii
  rwa [Char.ofNat_toNat] at passed

/-- The characters that an escape accepts behind its backslash. -/
def isEscapeLetter (character : Char) : Bool :=
  character = 'u' || (simpleEscape character).isSome || (hexValue character).isSome

theorem hexValue_ascii {character : Char} (accepted : (hexValue character).isSome = true) :
    character.toNat < 128 := by
  unfold hexValue at accepted
  simp only [Bool.and_eq_true, decide_eq_true_eq] at accepted
  split at accepted
  · omega
  · split at accepted
    · omega
    · split at accepted
      · omega
      · cases accepted

theorem simpleEscape_ascii {character : Char} (accepted : (simpleEscape character).isSome = true) :
    character.toNat < 128 := by
  unfold simpleEscape at accepted
  split at accepted
  all_goals first | decide | cases accepted

theorem isEscapeLetter_ascii {character : Char} (accepted : isEscapeLetter character = true) :
    character.toNat < 128 := by
  unfold isEscapeLetter at accepted
  rw [Bool.or_eq_true, Bool.or_eq_true, decide_eq_true_eq] at accepted
  rcases accepted with (unicode | simple) | hexadecimal
  · rw [unicode]
    decide
  · exact simpleEscape_ascii simple
  · exact hexValue_ascii hexadecimal

/-- A character that no escape accepts is read between characters only. -/
theorem plain_of_next {state : LiteralState} {character : Char} (accepted : state.next character ≠ .refused)
    (other : isEscapeLetter character = false) : state = .plain := by
  unfold isEscapeLetter at other
  rw [Bool.or_eq_false_iff, Bool.or_eq_false_iff, decide_eq_false_iff_not] at other
  obtain ⟨⟨unicode, simple⟩, hexadecimal⟩ := other
  cases state with
  | plain => rfl
  | refused => cases accepted rfl
  | escaped =>
      apply absurd _ accepted
      show (if character = 'u' then _ else if (simpleEscape character).isSome then _ else _) = _
      rw [if_neg unicode, simple]
      rfl
  | hex left =>
      apply absurd _ accepted
      show (if (hexValue character).isNone then LiteralState.refused else _) = _
      exact if_pos (Option.isSome_eq_false_iff.mp hexadecimal)

/-- A character of a literal that is closed was accepted. -/
theorem next_of_closed {state : LiteralState} {c : C} {rest : List C} (closed : state.read (c :: rest) = .plain) :
    state.next (char c) ≠ .refused := by
  intro refused
  have closed : (state.next (char c)).read rest = .plain := closed
  rw [refused, LiteralState.read_refused] at closed
  cases closed

/-- A word ends where the text ends or a delimiter stands. -/
def EndsWord (text : List C) : Prop := ∀ c ∈ text.head?, isDelimiter (char c) = true

/-- A text spells tokens when it is made of blanks, marks, closed literals and whole words. -/
inductive Spells : List C → List (Token C) → Prop where
  | nil : Spells [] []
  | blank {c : C} {text : List C} {tokens : List (Token C)} : isBlank (char c) = true → Spells text tokens →
      Spells (c :: text) tokens
  | mark {c : C} {mark : Mark} {text : List C} {tokens : List (Token C)} : isBlank (char c) = false →
      markOf (char c) = some mark → Spells text tokens → Spells (c :: text) (.mark mark :: tokens)
  | literal {first last : C} {content text : List C} {tokens : List (Token C)} : isQuote (char first) = true →
      isQuote (char last) = true → LiteralState.plain.read content = .plain → Spells text tokens →
      Spells (first :: content ++ last :: text) (.literal content :: tokens)
  | atom {word text : List C} {tokens : List (Token C)} : word ≠ [] →
      (∀ c ∈ word, isDelimiter (char c) = false) → EndsWord text → Spells text tokens →
      Spells (word ++ text) (.atom word :: tokens)

theorem not_blank_of_quote {character : Char} (quote : isQuote character = true) : isBlank character = false := by
  unfold isQuote isBlank at *
  rw [decide_eq_true_eq] at quote
  rw [quote]
  rfl

theorem not_mark_of_quote {character : Char} (quote : isQuote character = true) : markOf character = none := by
  unfold isQuote at quote
  unfold markOf
  rw [of_decide_eq_true quote]
  rfl

theorem lex_cons (mode : Mode C) (c : C) (rest : List C) :
    lex mode (c :: rest) = (lex (lexStep mode c).2 rest).map ((lexStep mode c).1 ++ ·) := rfl

theorem lexStep_end {c : C} (content : List C) (quote : isQuote (char c) = true) :
    lexStep (.literal content .plain) c = ([.literal content], .outside) := by
  show (if _ then _ else _) = _
  rw [quote]
  rfl

theorem lexStep_inside {c : C} {state : LiteralState} (content : List C)
    (inside : (state = .plain && isQuote (char c)) = false) :
    lexStep (.literal content state) c = ([], .literal (content ++ [c]) (state.next (char c))) := by
  show (if (state = .plain && isQuote (char c)) = true then _ else _) = _
  rw [inside]
  rfl

theorem lexStep_word {c : C} (text : List C) (inside : isDelimiter (char c) = false) :
    lexStep (.atom text) c = ([], .atom (text ++ [c])) := by
  unfold lexStep
  rw [inside]
  rfl

theorem lexStep_delimiter {c : C} (text : List C) (delimiter : isDelimiter (char c) = true) :
    lexStep (.atom text) c = (.atom text :: (lexOutside c).1, (lexOutside c).2) := by
  unfold lexStep
  rw [delimiter]
  rfl

/-- An open quote inside of a literal is refused. -/
theorem not_closed_of_quote {state : LiteralState} {c : C} {rest : List C}
    (ends : (state = .plain && isQuote (char c)) = true) : state.read (c :: rest) = .refused := by
  rw [Bool.and_eq_true, decide_eq_true_eq] at ends
  have next : state.next (char c) = .refused := by
    rw [ends.1]
    unfold LiteralState.next isBackslash
    have code := of_decide_eq_true ends.2
    simp [isQuote, code]
  show (state.next (char c)).read rest = .refused
  rw [next, LiteralState.read_refused]

/-- A literal is read up to its closing quote. -/
theorem lex_literal {content : List C} (before : List C) {state : LiteralState} (closed : state.read content = .plain)
    {last : C} (quote : isQuote (char last) = true) (text : List C) :
    lex (.literal before state) (content ++ last :: text) =
      (lex .outside text).map (.literal (before ++ content) :: ·) := by
  induction content generalizing before state with
  | nil =>
      rw [show state = .plain from closed, List.nil_append, List.append_nil, lex_cons, lexStep_end before quote]
      rfl
  | cons c rest ih =>
      cases inside : (state = .plain && isQuote (char c)) with
      | true =>
          rw [not_closed_of_quote inside] at closed
          cases closed
      | false =>
          have later := ih (before ++ [c]) closed
          rw [List.append_assoc] at later
          rw [List.cons_append, lex_cons, lexStep_inside before inside, later, Option.map_map]
          rfl

/-- A text behind an opening quote closes the literal. -/
theorem literal_of_lex {before text : List C} {state : LiteralState} {tokens : List (Token C)}
    (cut : lex (.literal before state) text = some tokens) :
    ∃ content last rest tail, text = content ++ last :: rest ∧ isQuote (char last) = true ∧
      state.read content = .plain ∧ lex .outside rest = some tail ∧
      tokens = .literal (before ++ content) :: tail := by
  induction text generalizing before state tokens with
  | nil => cases cut
  | cons c rest ih =>
      rw [lex_cons] at cut
      obtain ⟨tail, later, same⟩ := Option.map_eq_some_iff.mp cut
      cases inside : (state = .plain && isQuote (char c)) with
      | true =>
          rw [Bool.and_eq_true, decide_eq_true_eq] at inside
          rw [inside.1, lexStep_end before inside.2] at later same
          refine ⟨[], c, rest, tail, rfl, inside.2, inside.1, later, ?_⟩
          rw [← same, List.append_nil]
          rfl
      | false =>
          rw [lexStep_inside before inside] at later same
          obtain ⟨content, last, rest, tail, split, quote, closed, lexed, found⟩ := ih later
          refine ⟨c :: content, last, rest, tail, ?_, quote, closed, lexed, ?_⟩
          · rw [split]
            rfl
          · rw [← same, found, List.append_assoc]
            rfl

/-- A word is read up to the next delimiter. -/
theorem lex_atom {word : List C} (before : List C) (whole : ∀ c ∈ word, isDelimiter (char c) = false)
    {text : List C} (ends : EndsWord text) :
    lex (.atom before) (word ++ text) = (lex .outside text).map (.atom (before ++ word) :: ·) := by
  induction word generalizing before with
  | nil =>
      rw [List.nil_append, List.append_nil]
      cases text with
      | nil => rfl
      | cons c rest =>
          rw [lex_cons, lex_cons, lexStep_delimiter before (ends c rfl), Option.map_map]
          rfl
  | cons c rest ih =>
      have later := ih (before ++ [c]) fun c member => whole c (List.mem_cons_of_mem _ member)
      rw [List.append_assoc] at later
      rw [List.cons_append, lex_cons, lexStep_word before (whole c List.mem_cons_self), later, Option.map_map]
      rfl

theorem atom_of_lex {before text : List C} {tokens : List (Token C)} (cut : lex (.atom before) text = some tokens) :
    ∃ word rest tail, text = word ++ rest ∧ (∀ c ∈ word, isDelimiter (char c) = false) ∧ EndsWord rest ∧
      lex .outside rest = some tail ∧ tokens = .atom (before ++ word) :: tail := by
  induction text generalizing before tokens with
  | nil =>
      refine ⟨[], [], [], rfl, ?_, ?_, rfl, ?_⟩
      · intro c absent
        cases absent
      · intro c absent
        cases absent
      · rw [List.append_nil]
        exact (Option.some.inj cut).symm
  | cons c rest ih =>
      cases delimiter : isDelimiter (char c) with
      | true =>
          rw [lex_cons, lexStep_delimiter before delimiter] at cut
          obtain ⟨tail, later, same⟩ := Option.map_eq_some_iff.mp cut
          refine ⟨[], c :: rest, (lexOutside c).1 ++ tail, rfl, ?_, ?_, ?_, ?_⟩
          · intro c absent
            cases absent
          · intro head first
            rw [← Option.some.inj first]
            exact delimiter
          · rw [lex_cons]
            exact Option.map_eq_some_iff.mpr ⟨tail, later, rfl⟩
          · rw [← same, List.append_nil]
            rfl
      | false =>
          rw [lex_cons, lexStep_word before delimiter] at cut
          obtain ⟨tail, later, same⟩ := Option.map_eq_some_iff.mp cut
          obtain ⟨word, rest, tail, split, whole, ends, lexed, found⟩ := ih later
          refine ⟨c :: word, rest, tail, ?_, ?_, ends, lexed, ?_⟩
          · rw [split]
            rfl
          · intro other member
            rcases List.mem_cons.mp member with here | inside
            · rw [here]
              exact delimiter
            · exact whole other inside
          · rw [← same, found, List.append_assoc]
            rfl

theorem lexOutside_blank {c : C} (blank : isBlank (char c) = true) : lexOutside c = ([], .outside) := by
  unfold lexOutside
  rw [if_pos blank]

theorem lexOutside_mark {c : C} {mark : Mark} (blank : isBlank (char c) = false)
    (found : markOf (char c) = some mark) : lexOutside c = ([.mark mark], .outside) := by
  unfold lexOutside
  rw [blank, if_neg Bool.false_ne_true, found]

theorem lexOutside_quote {c : C} (quote : isQuote (char c) = true) : lexOutside c = ([], .literal [] .plain) := by
  unfold lexOutside
  rw [not_blank_of_quote quote, if_neg Bool.false_ne_true, not_mark_of_quote quote]
  exact if_pos quote

theorem lexOutside_word {c : C} (word : isDelimiter (char c) = false) : lexOutside c = ([], .atom [c]) := by
  unfold isDelimiter at word
  rw [Bool.or_eq_false_iff, Bool.or_eq_false_iff, Option.isSome_eq_false_iff, Option.isNone_iff_eq_none] at word
  unfold lexOutside
  rw [word.1.1, if_neg Bool.false_ne_true, word.1.2, word.2]
  rfl

/-- The lexer accepts what spells tokens. -/
theorem Spells.lex {text : List C} {tokens : List (Token C)} (spells : Spells text tokens) :
    lex .outside text = some tokens := by
  induction spells with
  | nil => rfl
  | blank blank _ ih =>
      show (Json.lex (lexOutside _).2 _).map ((lexOutside _).1 ++ ·) = _
      rw [lexOutside_blank blank, ih]
      rfl
  | mark blank found _ ih =>
      show (Json.lex (lexOutside _).2 _).map ((lexOutside _).1 ++ ·) = _
      rw [lexOutside_mark blank found, ih]
      rfl
  | literal opens closes closed _ ih =>
      show (Json.lex (lexOutside _).2 _).map ((lexOutside _).1 ++ ·) = _
      rw [lexOutside_quote opens]
      show (Json.lex (.literal [] .plain) (_ ++ _ :: _)).map ([] ++ ·) = _
      rw [lex_literal [] closed closes, ih]
      rfl
  | @atom word text tokens present whole ends _ ih =>
      obtain ⟨c, rest, split⟩ := List.exists_cons_of_ne_nil present
      rw [split] at whole ⊢
      show (Json.lex (lexOutside c).2 (rest ++ text)).map ((lexOutside c).1 ++ ·) = _
      rw [lexOutside_word (whole c List.mem_cons_self),
        lex_atom [c] (fun c member => whole c (List.mem_cons_of_mem _ member)) ends, ih]
      rfl

/-- The lexer accepts nothing else. -/
theorem spells_of_lex {text : List C} {tokens : List (Token C)} (cut : lex .outside text = some tokens) :
    Spells text tokens := by
  induction size : text.length using Nat.strongRecOn generalizing text tokens with
  | ind length ih =>
      cases text with
      | nil =>
          rw [← Option.some.inj cut]
          exact .nil
      | cons c rest =>
          have cut : (lex (lexOutside c).2 rest).map ((lexOutside c).1 ++ ·) = some tokens := cut
          obtain ⟨tail, later, same⟩ := Option.map_eq_some_iff.mp cut
          have shorter : rest.length < length := by
            rw [← size]
            exact Nat.lt_succ_self _
          cases blank : isBlank (char c) with
          | true =>
              rw [lexOutside_blank blank] at later same
              rw [← same]
              exact .blank blank (ih _ shorter later rfl)
          | false =>
              cases found : markOf (char c) with
              | some mark =>
                  rw [lexOutside_mark blank found] at later same
                  rw [← same]
                  exact .mark blank found (ih _ shorter later rfl)
              | none =>
                  cases quote : isQuote (char c) with
                  | true =>
                      rw [lexOutside_quote quote] at later same
                      obtain ⟨content, last, rest, tail, rfl, closes, closed, lexed, found⟩ := literal_of_lex later
                      rw [← same, found]
                      refine .literal quote closes closed (ih rest.length ?_ lexed rfl)
                      rw [List.length_append, List.length_cons] at shorter
                      omega
                  | false =>
                      have word : isDelimiter (char c) = false := by
                        unfold isDelimiter
                        rw [blank, found, quote]
                        rfl
                      rw [lexOutside_word word] at later same
                      obtain ⟨others, rest, tail, rfl, whole, ends, lexed, found⟩ := atom_of_lex later
                      have inside : ∀ other ∈ c :: others, isDelimiter (char other) = false := by
                        intro other member
                        rcases List.mem_cons.mp member with here | behind
                        · rw [here]
                          exact word
                        · exact whole other behind
                      have smaller : rest.length < length := by
                        rw [List.length_append] at shorter
                        omega
                      rw [← same, found]
                      have spells := Spells.atom (List.cons_ne_nil c others) inside ends (ih _ smaller lexed rfl)
                      exact spells

/-- A literal of a text is closed. -/
theorem Spells.literal_closed {text : List C} {tokens : List (Token C)} (spells : Spells text tokens)
    {content : List C} (member : .literal content ∈ tokens) : LiteralState.plain.read content = .plain := by
  induction spells with
  | nil => cases member
  | blank _ _ ih => exact ih member
  | mark _ _ _ ih =>
      rcases List.mem_cons.mp member with here | behind
      · cases here
      · exact ih behind
  | literal _ _ closed _ ih =>
      rcases List.mem_cons.mp member with here | behind
      · cases here
        exact closed
      · exact ih behind
  | atom _ _ _ _ ih =>
      rcases List.mem_cons.mp member with here | behind
      · cases here
      · exact ih behind

end Grammar
end P3Portal.Foundation.Json
